import DiodeClient.Rlp.Stream

/-!
This module proves that the decoder reads back what the encoder writes. `Reads d its a` says
that the reader `d` turns the encoding of the items `its` into `a` and stops right after them;
it is proved for every reader of `Stream.lean` and kept by sequencing, so the round trip of a
whole message struct is assembled from the round trips of its fields. A struct is refused when
its buffer does not start with a list.
-/

namespace Rlp

theorem beBytes_length_le_eight {n : Nat} (h : n < 2 ^ 64) : (beBytes n).length ≤ 8 :=
  beBytes_length_le (by simpa using h)

theorem beBytes_length_pos {n : Nat} (h : 0 < n) : 0 < (beBytes n).length :=
  List.length_pos.mpr (by rw [Ne, beBytes_eq_nil_iff]; omega)

@[simp]
theorem payload_append (s : Stream) (p rest : Bytes) :
    payload s p.length (p ++ rest) = .ok (p, rest) := by
  simp [payload]

theorem readSize_beBytes {size : Nat} (h56 : 56 ≤ size) (s : Stream) (tail : Bytes) :
    readSize s (beBytes size).length (beBytes size ++ tail) = .ok (size, tail) := by
  obtain ⟨b, bs, hb, hb0⟩ := beBytes_head (n := size) (by omega)
  have hv := beValue_beBytes size
  rw [hb] at hv
  simp only [readSize, payload_append]
  simp [hb, hb0, hv, Nat.not_lt.mpr h56, bind, Except.bind, pure, Except.pure]

/-- The header of a string of `size < 2 ^ 64` bytes is read as such. -/
theorem next_head_string (s : Stream) {p : Bytes} (h : p.length < 2 ^ 64) (rest : Bytes) :
    next ⟨head 0x80 0xB7 p.length ++ (p ++ rest), s.inList⟩
      = .ok (.string p, ⟨rest, s.inList⟩) := by
  unfold head
  split
  . have hb := toNat_ofNat_byte (n := 0x80 + p.length) (by omega)
    simp [next, hb, show ¬ 0x80 + p.length < 0x80 by omega,
      show 0x80 + p.length < 0xB8 by omega, Except.map]
  . have h8 := beBytes_length_le_eight h
    have h1 := beBytes_length_pos (n := p.length) (by omega)
    have hb := toNat_ofNat_byte (n := 0xB7 + (beBytes p.length).length) (by omega)
    simp [next, hb, show ¬ 0xB7 + (beBytes p.length).length < 0x80 by omega,
      show ¬ 0xB7 + (beBytes p.length).length < 0xB8 by omega,
      show 0xB7 + (beBytes p.length).length < 0xC0 by omega,
      readSize_beBytes (Nat.not_lt.mp ‹_›), bind, Except.bind, pure, Except.pure]

/-- The header of a list whose content has `size < 2 ^ 64` bytes is read as such. -/
theorem next_head_list (s : Stream) {c : Bytes} (h : c.length < 2 ^ 64) (rest : Bytes) :
    next ⟨head 0xC0 0xF7 c.length ++ (c ++ rest), s.inList⟩
      = .ok (.list c, ⟨rest, s.inList⟩) := by
  unfold head
  split
  . have hb := toNat_ofNat_byte (n := 0xC0 + c.length) (by omega)
    simp [next, hb, show ¬ 0xC0 + c.length < 0x80 by omega,
      show ¬ 0xC0 + c.length < 0xB8 by omega, show ¬ 0xC0 + c.length < 0xC0 by omega,
      show 0xC0 + c.length < 0xF8 by omega, Except.map]
  . have h8 := beBytes_length_le_eight h
    have h1 := beBytes_length_pos (n := c.length) (by omega)
    have hb := toNat_ofNat_byte (n := 0xF7 + (beBytes c.length).length) (by omega)
    simp [next, hb, show ¬ 0xF7 + (beBytes c.length).length < 0x80 by omega,
      show ¬ 0xF7 + (beBytes c.length).length < 0xB8 by omega,
      show ¬ 0xF7 + (beBytes c.length).length < 0xC0 by omega,
      show ¬ 0xF7 + (beBytes c.length).length < 0xF8 by omega,
      readSize_beBytes (Nat.not_lt.mp ‹_›), bind, Except.bind, pure, Except.pure]

/-- What `next` reads an encoded byte string as. -/
def stringKind : Bytes → Kind
  | [x] => if x.toNat < 0x80 then .byte x else .string [x]
  | b => .string b

theorem next_encodeString (inList : Bool) {b : Bytes} (h : b.length < 2 ^ 64) (rest : Bytes) :
    next ⟨encodeString b ++ rest, inList⟩ = .ok (stringKind b, ⟨rest, inList⟩) := by
  match b with
  | [] => simpa using next_head_string ⟨[], inList⟩ h rest
  | [x] =>
    by_cases hx : x.toNat < 0x80
    . simp [encodeString, stringKind, hx, next]
    . simpa [encodeString, stringKind, hx] using next_head_string ⟨[], inList⟩ h rest
  | x :: y :: zs => simpa [encodeString, stringKind] using next_head_string ⟨[], inList⟩ h rest

@[simp]
theorem toBytes_stringKind (b : Bytes) : (stringKind b).toBytes = .ok b := by
  match b with
  | [] => rfl
  | [x] => by_cases hx : x.toNat < 0x80 <;> simp [stringKind, Kind.toBytes, hx]
  | x :: y :: zs => rfl

theorem uint64_ofNat_toNat (n : UInt64) : UInt64.ofNat n.toNat = n :=
  UInt64.toNat.inj (by simp [UInt64.toNat, UInt64.ofNat])

@[simp]
theorem toUint_stringKind (n : UInt64) : (stringKind (beBytes n.toNat)).toUint = .ok n := by
  have hn := n.toNat_lt_size
  change n.toNat < 2 ^ 64 at hn
  rcases Nat.eq_zero_or_pos n.toNat with h0 | hpos
  . obtain rfl : n = 0 := UInt64.toNat.inj (h0.trans rfl)
    rfl
  rcases Nat.lt_or_ge n.toNat 256 with hsmall | hbig
  . have hx := toNat_ofNat_byte hsmall
    rw [beBytes_of_lt hpos hsmall]
    by_cases h128 : n.toNat < 128
    . have hne : UInt8.ofNat n.toNat ≠ 0 := fun h => by
        rw [h] at hx
        simp at hx
        omega
      simp only [stringKind, hx, h128, if_true, Kind.toUint, hne, if_false]
      exact congrArg Except.ok (UInt64.toNat.inj hx)
    . simp [stringKind, hx, h128, Kind.toUint, beValue, uint64_ofNat_toNat]
  . have h2 := two_le_beBytes_length hbig
    have h8 := beBytes_length_le_eight hn
    obtain ⟨b, bs, hb, hb0⟩ := beBytes_head hpos
    have hv := beValue_beBytes n.toNat
    rw [hb] at h2 h8 hv ⊢
    unfold stringKind
    split
    . simp_all
    . have hbs : bs ≠ [] := by rintro rfl; simp at h2
      simp at h8
      simp [Kind.toUint, hb0, hv, uint64_ofNat_toNat, show ¬ 8 < bs.length + 1 by omega, hbs]

theorem length_le_encodeString (b : Bytes) : b.length ≤ (encodeString b).length := by
  unfold encodeString
  split
  . split <;> simp
  . simp

theorem length_le_encodeList (its : List Item) : its.length ≤ (Item.encodeList its).length := by
  induction its with
  | nil => simp
  | cons it its ih =>
    have := List.length_pos.mpr it.encode_ne_nil
    simp only [Item.encodeList_cons, List.length_append, List.length_cons]
    omega

/-- `d` reads the items `its` as `a` and stops right after them, whatever follows them and in
either scope. -/
def Reads (d : Decoder α) (its : List Item) (a : α) : Prop :=
  ∀ rest inList, d ⟨Item.encodeList its ++ rest, inList⟩ = .ok (a, ⟨rest, inList⟩)

namespace Reads

variable {d : Decoder α} {its : List Item} {a : α}

theorem pure (a : α) : Reads (Pure.pure a : Decoder α) [] a :=
  fun _ _ => rfl

theorem cons {f : α → Decoder β} {it : Item} {b : β} (h : Reads d [it] a)
    (h' : Reads (f a) its b) : Reads (d >>= f) (it :: its) b := by
  intro rest inList
  have h₁ := h (Item.encodeList its ++ rest) inList
  simp only [Item.encodeList_cons, Item.encodeList_nil, List.append_nil] at h₁
  simp only [Item.encodeList_cons, List.append_assoc]
  show StateT.bind d f _ = _
  simp [StateT.bind, h₁, h' rest inList, bind, Except.bind]

theorem field (name : String) (h : Reads d its a) : Reads (Rlp.field name d) its a := by
  intro rest inList
  simp [Rlp.field, h rest inList]

theorem readWith {f : Kind → Except DecodeError α} {b : Bytes} (hb : b.length < 2 ^ 64)
    (hf : f (stringKind b) = .ok a) : Reads (Rlp.readWith f) [.bytes b] a := by
  intro rest inList
  simp [Rlp.readWith, next_encodeString inList hb rest, hf, Except.map]

theorem bytes {b : Bytes} (hb : b.length < 2 ^ 64) : Reads Rlp.bytes [.bytes b] b :=
  readWith hb (toBytes_stringKind b)

theorem uint (n : UInt64) : Reads Rlp.uint [uintItem n] n := by
  have hn := n.toNat_lt_size
  change n.toNat < 2 ^ 64 at hn
  exact readWith (Nat.lt_of_le_of_lt (beBytes_length_le_eight hn) (by decide))
    (toUint_stringKind n)

theorem list' (h : d ⟨Item.encodeList its, true⟩ = .ok (a, ⟨[], true⟩))
    (hlen : (Item.encodeList its).length < 2 ^ 64) : Reads (Rlp.list d) [.list its] a := by
  intro rest inList
  simp [Rlp.list, next_head_list ⟨[], inList⟩ hlen rest, within, h]

theorem list (h : Reads d its a) (hlen : (Item.encodeList its).length < 2 ^ 64) :
    Reads (Rlp.list d) [.list its] a :=
  list' (by simpa using h [] true) hlen

theorem elems {enc : α → Item} {xs : List α} (h : ∀ x ∈ xs, Reads d [enc x] x) :
    ∀ (fuel i : Nat), xs.length < fuel →
      Rlp.elems d fuel i ⟨Item.encodeList (xs.map enc), true⟩ = .ok (xs, ⟨[], true⟩) := by
  induction xs with
  | nil =>
    intro fuel i hfuel
    obtain ⟨f, rfl⟩ : ∃ f, fuel = f + 1 := ⟨fuel - 1, by simp at hfuel; omega⟩
    rfl
  | cons x xs ih =>
    intro fuel i hfuel
    obtain ⟨f, rfl⟩ : ∃ f, fuel = f + 1 := ⟨fuel - 1, by simp at hfuel; omega⟩
    have hx := (field s!"[{i}]" (h x (List.mem_cons_self x xs)))
      (Item.encodeList (xs.map enc)) true
    simp only [Item.encodeList_cons, Item.encodeList_nil, List.append_nil] at hx
    have hne : (enc x).encode ++ Item.encodeList (xs.map enc) ≠ [] := by
      simp [Item.encode_ne_nil]
    simp only [Rlp.elems, List.map_cons, Item.encodeList_cons, hne, if_false]
    show StateT.bind _ _ _ = _
    simp [StateT.bind, hx, ih (fun y hy => h y (List.mem_cons_of_mem x hy)) f (i + 1)
      (by simp at hfuel; omega), bind, Except.bind, Pure.pure, Except.pure, StateT.pure]

theorem slice {enc : α → Item} {xs : List α} (h : ∀ x ∈ xs, Reads d [enc x] x)
    (hlen : (Item.encodeList (xs.map enc)).length < 2 ^ 64) :
    Reads (Rlp.slice d) [.list (xs.map enc)] xs := by
  refine list' ?_ hlen
  have := length_le_encodeList (xs.map enc)
  exact elems h _ 0 (by simp at this ⊢; omega)

end Reads

theorem encode_length_le_of_mem {x : Item} {its : List Item} (h : x ∈ its) :
    x.encode.length ≤ (Item.encodeList its).length := by
  induction its with
  | nil => simp at h
  | cons it its ih =>
    simp only [Item.encodeList_cons, List.length_append]
    rcases List.mem_cons.mp h with rfl | h
    . omega
    . have := ih h
      omega

theorem encodeList_length_lt (its : List Item) :
    (Item.encodeList its).length < (Item.list its).encode.length := by
  have := List.length_pos.mpr (head_ne_nil 0xC0 0xF7 (Item.encodeList its).length)
  simp only [Item.encode_list, List.length_append]
  omega

theorem stringKind_cases (b : Bytes) :
    (∃ x, stringKind b = .byte x) ∨ stringKind b = .string b := by
  match b with
  | [] => exact .inr rfl
  | [x] => by_cases hx : x.toNat < 0x80 <;> simp [stringKind, hx]
  | x :: y :: zs => exact .inr rfl

/-- `decodeInterface` reads every item back, given a budget above its encoding's length. -/
theorem Reads.item : ∀ (fuel : Nat) (it : Item), it.encode.length < fuel →
    it.encode.length < 2 ^ 64 → Reads (Rlp.item fuel) [it] it := by
  intro fuel
  induction fuel with
  | zero => intro it h; omega
  | succ f ih =>
    intro it hf h64 rest inList
    cases it with
    | bytes b =>
      have hb : b.length < 2 ^ 64 := Nat.lt_of_le_of_lt (length_le_encodeString b) (by simpa using h64)
      have hk := next_encodeString inList hb rest
      have hkb := toBytes_stringKind b
      simp only [Item.encodeList_cons, Item.encodeList_nil, List.append_nil, Item.encode_bytes]
      rcases stringKind_cases b with ⟨x, hx⟩ | hs
      . rw [hx] at hk hkb
        simp [Rlp.item, hk, hkb, Except.map]
      . rw [hs] at hk hkb
        simp [Rlp.item, hk, hkb, Except.map]
    | list its =>
      have hlt := encodeList_length_lt its
      have hc : (Item.encodeList its).length < 2 ^ 64 := by omega
      have hel : ∀ x ∈ its, Reads (Rlp.item f) [x] x := fun x hx =>
        ih x (by have := encode_length_le_of_mem hx; omega)
          (by have := encode_length_le_of_mem hx; omega)
      have hloop := @Reads.elems Item (Rlp.item f) id its hel ((Item.encodeList its).length + 1) 0
        (by have := length_le_encodeList its; omega)
      simp only [List.map_id] at hloop
      simp only [Item.encodeList_cons, Item.encodeList_nil, List.append_nil, Item.encode_list,
        List.append_assoc]
      simp [Rlp.item, next_head_list ⟨[], inList⟩ hc rest, within, hloop, Except.map]

theorem Reads.iface {it : Item} (h : it.encode.length < 2 ^ 64) : Reads Rlp.iface [it] it := by
  intro rest inList
  have := Reads.item ((it.encode ++ rest).length + 1) it (by simp; omega) h rest inList
  simpa [Rlp.iface] using this

theorem decode_of_reads {d : Decoder α} {it : Item} {a : α} (h : Reads d [it] a) (rest : Bytes) :
    decode d (it.encode ++ rest) = .ok a := by
  have := h rest false
  simp only [Item.encodeList_cons, Item.encodeList_nil, List.append_nil] at this
  simp [decode, StateT.run', this]

/-- A buffer that starts with a byte below 0x80 starts with no list. -/
theorem next_ne_list_of_byte {b : UInt8} (hb : b.toNat < 0x80) (rest : Bytes) (inList : Bool) :
    ∀ c s, next ⟨b :: rest, inList⟩ ≠ .ok (.list c, s) := by
  simp [next, hb]

/-- A struct is refused when the buffer does not start with a list, with an error that does not
depend on the struct's fields. -/
theorem decode_list_of_not_list {buffer : Bytes} (h : ∀ c s, next ⟨buffer, false⟩ ≠ .ok (.list c, s))
    (d : Decoder α) :
    decode (list d) buffer =
      .error (match next ⟨buffer, false⟩ with
        | .ok _ => ⟨.expectedList, []⟩
        | .error e => e) := by
  simp only [decode, StateT.run', list]
  rcases hn : next ⟨buffer, false⟩ with e | ⟨k, s⟩
  . rfl
  . cases k with
    | list c => exact absurd hn (h c s)
    | _ => rfl

/-! Sizes and parts of encodings. -/

theorem head_length_le (smalltag largetag : Nat) {size : Nat} (h : size < 2 ^ 64) :
    (head smalltag largetag size).length ≤ 9 := by
  have := beBytes_length_le_eight h
  unfold head
  split <;> simp; omega

theorem encodeString_length_le {b : Bytes} (h : b.length < 2 ^ 64) :
    (encodeString b).length ≤ b.length + 9 := by
  unfold encodeString
  split
  . split <;> simp [head]
  . have := head_length_le 0x80 0xB7 h
    simp; omega

theorem beBytes_toNat_length_lt (n : UInt64) : (beBytes n.toNat).length < 2 ^ 64 := by
  have := beBytes_length_le_eight n.toNat_lt_size
  omega

theorem uintItem_length_le (n : UInt64) : (uintItem n).encode.length ≤ 9 := by
  have hn : n.toNat < 2 ^ 64 := n.toNat_lt_size
  have h8 := beBytes_length_le_eight hn
  have : (encodeString (beBytes n.toNat)).length ≤ (beBytes n.toNat).length + 1 := by
    unfold encodeString
    split
    . split <;> simp_all [head]
    . simp [head, show (beBytes n.toNat).length < 56 by omega]
  simp only [uintItem, Item.encode_bytes]
  omega

theorem Item.encode_list_length_le {its : List Item} (h : (Item.encodeList its).length < 2 ^ 64) :
    (Item.list its).encode.length ≤ (Item.encodeList its).length + 9 := by
  have := head_length_le 0xC0 0xF7 h
  simp; omega

theorem infix_encodeString (b : Bytes) : b <:+: encodeString b := by
  unfold encodeString
  split
  . split
    . exact List.infix_refl _
    . exact List.suffix_append _ _ |>.isInfix
  . exact List.suffix_append _ _ |>.isInfix

theorem Item.encode_infix_encodeList {it : Item} {its : List Item} (h : it ∈ its) :
    it.encode <:+: Item.encodeList its := by
  induction its with
  | nil => simp at h
  | cons x its ih =>
    rcases List.mem_cons.mp h with rfl | h
    . exact (List.prefix_append _ _).isInfix
    . exact (ih h).trans (List.suffix_append _ _).isInfix

theorem encodeList_infix_encode (its : List Item) : Item.encodeList its <:+: (Item.list its).encode := by
  simpa using (List.suffix_append _ _).isInfix

theorem Item.encode_infix_of_mem {it : Item} {its : List Item} (h : it ∈ its) :
    it.encode <:+: (Item.list its).encode :=
  (Item.encode_infix_encodeList h).trans (encodeList_infix_encode its)

theorem infix_encode_of_mem_bytes {b : Bytes} {its : List Item} (h : .bytes b ∈ its) :
    b <:+: (Item.list its).encode :=
  (infix_encodeString b).trans (by simpa using Item.encode_infix_of_mem h)

end Rlp
