import DiodeClient.Rlp.Lemmas
import DiodeClient.Go.Lemmas

/-!
This module proves the converse of `Lemmas.lean`: the decoder accepts nothing but what the
encoder writes. `next` reads a header only in its shortest form, and `Stream.Bytes` and
`Stream.Uint` refuse every other spelling of a value, so whatever a reader accepts is the
encoding of items. `Accepts d R` states this of a reader `d`, with `R` relating the value it
returns to the items it read; it is proved for the readers of `Stream.lean` and kept by the
combinators, so that every struct decoder inherits it. Together with `Reads`, the readers of
byte strings, integers and `interface{}` values are exact inverses of the encoder.
-/

namespace Rlp

open Go

theorem payload_ok {s : Stream} {n : Nat} {bs p rest : Bytes}
    (h : payload s n bs = .ok (p, rest)) : bs = p ++ rest ∧ p.length = n := by
  unfold payload at h
  split at h
  · cases h
    exact ⟨(List.take_append_drop n bs).symm, List.length_take_of_le ‹_›⟩
  · cases h

theorem beValue_lt (bs : Bytes) : beValue bs < 256 ^ bs.length := by
  induction bs using List.reverseRecOn with
  | nil => decide
  | append_singleton bs b ih =>
    rw [beValue_append_single, List.length_append, List.length_singleton, Nat.pow_succ]
    have := b.toNat_lt
    omega

/-- Big-endian bytes without a leading zero are the shortest bytes of their value. -/
theorem beBytes_beValue {bs : Bytes} (h : bs.head? ≠ some 0) : beBytes (beValue bs) = bs := by
  induction bs using List.reverseRecOn with
  | nil => rfl
  | append_singleton bs b ih =>
    have hbs : beBytes (beValue bs) = bs := by
      rcases bs with _ | ⟨x, bs⟩
      · rfl
      · exact ih (by simpa using h)
    have hpos : 0 < beValue bs * 256 + b.toNat := by
      rcases bs with _ | ⟨x, bs⟩
      · have : b ≠ 0 := by simpa using h
        have : b.toNat ≠ 0 := fun h0 => this (UInt8.ext h0)
        omega
      · have : beValue (x :: bs) ≠ 0 := fun h0 => by simp [h0] at hbs
        omega
    have := b.toNat_lt
    rw [beValue_append_single, beBytes_pos hpos,
      show (beValue bs * 256 + b.toNat) / 256 = beValue bs by omega,
      show (beValue bs * 256 + b.toNat) % 256 = b.toNat by omega, ofNat_toNat_byte, hbs]

/-- `readSize` accepts a size only in its shortest big-endian form, and only from 56 on. -/
theorem readSize_ok {s : Stream} {k size : Nat} {bs rest : Bytes}
    (h : readSize s k bs = .ok (size, rest)) :
    bs = beBytes size ++ rest ∧ (beBytes size).length = k ∧ 56 ≤ size := by
  simp only [readSize, bind_eq_ok] at h
  obtain ⟨⟨sizeBytes, bs'⟩, hp, h⟩ := h
  obtain ⟨rfl, rfl⟩ := payload_ok hp
  by_cases h0 : 2 ≤ sizeBytes.length ∧ sizeBytes.head? = some 0
  · simp only [h0, if_true] at h
    cases h
  by_cases h56 : beValue sizeBytes < 56
  · simp only [h0, h56, if_true, if_false] at h
    cases h
  simp only [h0, h56, if_false] at h
  cases h
  have hhead : sizeBytes.head? ≠ some 0 := by
    rcases sizeBytes with _ | ⟨x, _ | ⟨y, t⟩⟩
    · simp
    · rintro ⟨⟩
      exact h56 (by decide)
    · simpa using h0
  rw [beBytes_beValue hhead]
  exact ⟨rfl, rfl, by omega⟩

theorem head_of_lt {smalltag largetag size : Nat} (h : size < 56) :
    head smalltag largetag size = [UInt8.ofNat (smalltag + size)] :=
  if_pos h

theorem head_of_ge {smalltag largetag size : Nat} (h : 56 ≤ size) :
    head smalltag largetag size = UInt8.ofNat (largetag + (beBytes size).length) :: beBytes size :=
  if_neg (Nat.not_lt.mpr h)

/-- The bytes `next` reads a value from: its header in the shortest form, then its payload. -/
def Kind.encode : Kind → Bytes
  | .byte b => [b]
  | .string p => head 0x80 0xB7 p.length ++ p
  | .list c => head 0xC0 0xF7 c.length ++ c

/-- What `next` guarantees of a value besides its header: a byte read as itself is below 0x80,
and a payload is shorter than 2 ^ 64 bytes, the most a size of eight bytes can count. -/
def Kind.Valid : Kind → Prop
  | .byte b => b.toNat < 0x80
  | .string p => p.length < 2 ^ 64
  | .list c => c.length < 2 ^ 64

theorem lt_of_beBytes_length_le {n : Nat} (h : (beBytes n).length ≤ 8) : n < 2 ^ 64 :=
  calc n = beValue (beBytes n) := (beValue_beBytes n).symm
    _ < 256 ^ (beBytes n).length := beValue_lt _
    _ ≤ 256 ^ 8 := Nat.pow_le_pow_right (by decide) h
    _ = 2 ^ 64 := by norm_num

/-- A header in the short form: the tag byte alone, counting the payload. -/
theorem head_short {b : UInt8} {smalltag largetag : Nat} {p rest : Bytes} (h₁ : smalltag ≤ b.toNat)
    (h₂ : b.toNat - smalltag < 56) (hlen : p.length = b.toNat - smalltag) :
    b :: (p ++ rest) = head smalltag largetag p.length ++ p ++ rest := by
  rw [head_of_lt (hlen ▸ h₂), hlen, show smalltag + (b.toNat - smalltag) = b.toNat by omega,
    ofNat_toNat_byte]
  rfl

/-- A header in the long form: the tag byte counts the bytes of the size, which follow it. -/
theorem head_long {b : UInt8} {smalltag largetag : Nat} {p rest : Bytes} (h₁ : largetag ≤ b.toNat)
    (hk : (beBytes p.length).length = b.toNat - largetag) (h56 : 56 ≤ p.length) :
    b :: (beBytes p.length ++ (p ++ rest)) = head smalltag largetag p.length ++ p ++ rest := by
  rw [head_of_ge h56, hk, show largetag + (b.toNat - largetag) = b.toNat by omega, ofNat_toNat_byte]
  simp

/-- `next` reads a value only behind its shortest header. -/
theorem next_sound {s s' : Stream} {k : Kind} (h : next s = .ok (k, s')) :
    s.input = k.encode ++ s'.input ∧ s'.inList = s.inList ∧ k.Valid := by
  obtain ⟨_ | ⟨b, bs⟩, inList⟩ := s
  · cases h
  have hb := b.toNat_lt
  simp only [next] at h
  split_ifs at h with h1 h2 h3 h4
  · cases h
    exact ⟨rfl, rfl, h1⟩
  · rcases hp : payload ⟨b :: bs, inList⟩ (b.toNat - 0x80) bs with e | ⟨p, rest⟩ <;>
      rw [hp] at h <;> cases h
    obtain ⟨rfl, hlen⟩ := payload_ok hp
    exact ⟨head_short (by omega) (by omega) hlen, rfl, show p.length < 2 ^ 64 by omega⟩
  · obtain ⟨⟨size, bs₁⟩, hs, h⟩ := bind_eq_ok.mp h
    obtain ⟨⟨p, rest⟩, hp, h⟩ := bind_eq_ok.mp h
    cases h
    obtain ⟨rfl, hk, h56⟩ := readSize_ok hs
    obtain ⟨rfl, rfl⟩ := payload_ok hp
    exact ⟨head_long (by omega) hk h56, rfl,
      show p.length < 2 ^ 64 from lt_of_beBytes_length_le (by omega)⟩
  · rcases hp : payload ⟨b :: bs, inList⟩ (b.toNat - 0xC0) bs with e | ⟨c, rest⟩ <;>
      rw [hp] at h <;> cases h
    obtain ⟨rfl, hlen⟩ := payload_ok hp
    exact ⟨head_short (by omega) (by omega) hlen, rfl, show c.length < 2 ^ 64 by omega⟩
  · obtain ⟨⟨size, bs₁⟩, hs, h⟩ := bind_eq_ok.mp h
    obtain ⟨⟨c, rest⟩, hp, h⟩ := bind_eq_ok.mp h
    cases h
    obtain ⟨rfl, hk, h56⟩ := readSize_ok hs
    obtain ⟨rfl, rfl⟩ := payload_ok hp
    exact ⟨head_long (by omega) hk h56, rfl,
      show c.length < 2 ^ 64 from lt_of_beBytes_length_le (by omega)⟩

/-- `Stream.Bytes` accepts a byte string only in the encoding the encoder writes for it. -/
theorem encode_of_toBytes {k : Kind} {p : Bytes} (hk : k.Valid)
    (h : k.toBytes = .ok p) : k.encode = encodeString p := by
  match k, h with
  | .byte b, h =>
    cases h
    simp [Kind.encode, encodeString, show b.toNat < 0x80 from hk]
  | .string [], h => cases h; rfl
  | .string [x], h =>
    simp only [Kind.toBytes] at h
    split_ifs at h with hx
    cases h
    simp [Kind.encode, encodeString, hx]
  | .string (_ :: _ :: _), h => cases h; rfl
  | .list _, h => cases h

/-- `Stream.Uint` accepts an integer only in the encoding the encoder writes for it: no leading
zero, no single byte behind a header, and zero as the empty string. -/
theorem encode_of_toUint {k : Kind} {n : UInt64} (hk : k.Valid)
    (h : k.toUint = .ok n) : k.encode = (uintItem n).encode := by
  cases k with
  | byte b =>
    simp only [Kind.toUint] at h
    split_ifs at h with h0
    cases h
    have hb : b.toNat < 0x80 := hk
    have hpos : 0 < b.toNat := Nat.pos_of_ne_zero fun h' => h0 (UInt8.ext h')
    show [b] = encodeString (beBytes b.toNat)
    rw [beBytes_of_lt hpos (by omega), ofNat_toNat_byte]
    simp [encodeString, hb]
  | string p =>
    simp only [Kind.toUint] at h
    split_ifs at h with h8 h0 h1
    cases h
    have hv : beValue p < 2 ^ 64 :=
      Nat.lt_of_lt_of_le (beValue_lt p) (by simpa using Nat.pow_le_pow_right (by decide) (Nat.not_lt.mp h8))
    have hhead : p.head? ≠ some 0 := by
      rcases p with _ | ⟨x, _ | ⟨y, q⟩⟩
      · simp
      · rintro ⟨⟩
        exact h1 ⟨rfl, by decide⟩
      · simpa using h0
    have hbytes : (Kind.string p).toBytes = .ok p := by
      rcases p with _ | ⟨x, _ | ⟨y, q⟩⟩
      · rfl
      · have : ¬ x.toNat < 0x80 := fun hx => h1 ⟨rfl, by simpa [beValue] using hx⟩
        simp [Kind.toBytes, this]
      · rfl
    have hv' : (Kind.string p).Valid := show p.length < 2 ^ 64 by omega
    rw [encode_of_toBytes hv' hbytes]
    simp [uintItem, UInt64.toNat_ofNat_of_lt hv, beBytes_beValue hhead]
  | list c => cases h

/-- `d` accepts nothing but encodings: whenever it returns `a`, what it read is the encoding of
items `its` with `R a its`, it stops right after them, and it leaves the stream at its level. -/
def Accepts (d : Decoder α) (R : α → List Item → Prop) : Prop :=
  ∀ s a s', d s = .ok (a, s') →
    s'.inList = s.inList ∧ ∃ its, R a its ∧ s.input = Item.encodeList its ++ s'.input

theorem decoder_bind_ok {d : Decoder α} {f : α → Decoder β} {s s'' : Stream} {b : β} :
    (d >>= f) s = .ok (b, s'') ↔ ∃ a s', d s = .ok (a, s') ∧ f a s' = .ok (b, s'') := by
  show StateT.bind d f s = _ ↔ _
  simp only [StateT.bind]
  rcases d s with e | ⟨a, s'⟩ <;> simp [bind, Except.bind, and_assoc]

theorem flatten_of_forall₂_singleton {its : List Item} {parts : List (List Item)}
    (h : List.Forall₂ (fun it l => l = [it]) its parts) : parts.flatten = its := by
  induction h with
  | nil => rfl
  | cons h _ ih => simp [h, ih]

namespace Accepts

variable {d : Decoder α} {R : α → List Item → Prop}

theorem mono {R' : α → List Item → Prop} (h : Accepts d R) (hR : ∀ a its, R a its → R' a its) :
    Accepts d R' := fun s a s' hd =>
  let ⟨hl, its, hr, hs⟩ := h s a s' hd
  ⟨hl, its, hR a its hr, hs⟩

theorem any (h : Accepts d R) : Accepts d fun _ _ => True :=
  h.mono fun _ _ _ => trivial

theorem readWith {f : Kind → Except DecodeError α}
    (hf : ∀ k a, k.Valid → f k = .ok a →
      ∃ its, R a its ∧ k.encode = Item.encodeList its) :
    Accepts (Rlp.readWith f) R := by
  intro s a s' h
  simp only [Rlp.readWith] at h
  split at h
  · rename_i k s₁ hn
    obtain ⟨hs, hl, hk⟩ := next_sound hn
    rcases hfk : f k with e | a' <;> rw [hfk] at h <;> cases h
    obtain ⟨its, hr, he⟩ := hf k _ hk hfk
    exact ⟨hl, its, hr, by rw [hs, he]⟩
  · cases h

theorem bytes : Accepts Rlp.bytes fun b its => its = [.bytes b] :=
  readWith fun _ _ hk h => ⟨_, rfl, by simpa using encode_of_toBytes hk h⟩

theorem uint : Accepts Rlp.uint fun n its => its = [uintItem n] :=
  readWith fun _ _ hk h => ⟨_, rfl, by simpa using encode_of_toUint hk h⟩

/-- `pure a` reads no item and returns `a`. -/
theorem ret (a : α) : Accepts (Pure.pure a : Decoder α) fun b its => b = a ∧ its = [] := by
  intro s b s' hd
  cases hd
  exact ⟨rfl, [], ⟨rfl, rfl⟩, rfl⟩

theorem pure (a : α) : Accepts (Pure.pure a : Decoder α) fun _ its => its = [] :=
  (ret a).mono fun _ _ h => h.2

theorem bind {f : α → Decoder β} {S : α → β → List Item → Prop} (hd : Accepts d R)
    (hf : ∀ a, Accepts (f a) (S a)) :
    Accepts (d >>= f) fun b its => ∃ a its₁ its₂, R a its₁ ∧ S a b its₂ ∧ its = its₁ ++ its₂ := by
  intro s b s'' h
  obtain ⟨a, s', ha, hb⟩ := decoder_bind_ok.mp h
  obtain ⟨l₁, its₁, r₁, h₁⟩ := hd _ _ _ ha
  obtain ⟨l₂, its₂, r₂, h₂⟩ := hf a _ _ _ hb
  exact ⟨l₂.trans l₁, its₁ ++ its₂, ⟨a, its₁, its₂, r₁, r₂, rfl⟩, by simp [h₁, h₂]⟩

/-- A sequence of readers that each accept only encodings accepts only encodings. -/
theorem seq {f : α → Decoder β} {S : α → β → List Item → Prop} (hd : Accepts d R)
    (hf : ∀ a, Accepts (f a) (S a)) : Accepts (d >>= f) fun _ _ => True :=
  (hd.bind hf).any

theorem field (name : String) (h : Accepts d R) : Accepts (Rlp.field name d) R := by
  intro s a s' hd
  simp only [Rlp.field] at hd
  split at hd
  · rename_i hr
    cases hd
    exact h _ _ _ hr
  · cases hd

/-- The content of a list that `within` accepts is the encoding of what its reader returns. -/
theorem within (h : Accepts d R) {c : Bytes} {after s' : Stream} {a : α}
    (hd : Rlp.within d c after = .ok (a, s')) : (∃ its, R a its ∧ c = Item.encodeList its) ∧ s' = after := by
  simp only [Rlp.within] at hd
  split at hd
  · rename_i a' inner hin
    split_ifs at hd with hempty
    cases hd
    obtain ⟨-, its, hr, hc⟩ := h _ _ _ hin
    exact ⟨⟨its, hr, by simpa [hempty] using hc⟩, rfl⟩
  · cases hd

theorem list (h : Accepts d R) : Accepts (Rlp.list d)
    fun a its => ∃ c, R a c ∧ (Item.encodeList c).length < 2 ^ 64 ∧ its = [.list c] := by
  intro s a s' hd
  simp only [Rlp.list] at hd
  split at hd
  · rename_i c s₁ hn
    obtain ⟨hs, hl, hc⟩ := next_sound hn
    obtain ⟨⟨its, hr, rfl⟩, rfl⟩ := within h hd
    exact ⟨hl, _, ⟨its, hr, hc, rfl⟩, by simp [hs, Kind.encode]⟩
  · cases hd
  · cases hd

theorem elems (h : Accepts d R) : ∀ fuel i, Accepts (Rlp.elems d fuel i)
    fun as its => ∃ parts, List.Forall₂ R as parts ∧ its = parts.flatten := by
  intro fuel
  induction fuel with
  | zero =>
    intro i s a s' hd
    cases hd
    exact ⟨rfl, [], ⟨[], .nil, rfl⟩, rfl⟩
  | succ fuel ih =>
    intro i s as s' hd
    simp only [Rlp.elems] at hd
    split_ifs at hd
    · cases hd
      exact ⟨rfl, [], ⟨[], .nil, rfl⟩, by simp [*]⟩
    · obtain ⟨a, s₁, ha, hd⟩ := decoder_bind_ok.mp hd
      obtain ⟨as', s₂, has, hd⟩ := decoder_bind_ok.mp hd
      cases hd
      obtain ⟨l₁, its₁, r₁, h₁⟩ := field _ h _ _ _ ha
      obtain ⟨l₂, _, ⟨parts, r₂, rfl⟩, h₂⟩ := ih (i + 1) _ _ _ has
      exact ⟨l₂.trans l₁, _, ⟨its₁ :: parts, .cons r₁ r₂, rfl⟩, by simp [h₁, h₂]⟩

theorem slice (h : Accepts d R) : Accepts (Rlp.slice d)
    fun as its => ∃ parts, List.Forall₂ R as parts ∧ its = [.list parts.flatten] :=
  (list fun s => elems h _ 0 s).mono fun _ _ ⟨_, ⟨parts, hr, hc⟩, _, he⟩ => ⟨parts, hr, hc ▸ he⟩

theorem item : ∀ fuel, Accepts (Rlp.item fuel) fun it its => its = [it]
  | 0 => fun _ _ _ hd => by cases hd
  | fuel + 1 => by
    intro s it s' hd
    simp only [Rlp.item] at hd
    split at hd
    · rename_i c s₁ hn
      obtain ⟨hs, hl, -⟩ := next_sound hn
      rcases hw : Rlp.within (fun t => Rlp.elems (Rlp.item fuel) (t.input.length + 1) 0 t) c s₁
        with e | ⟨its, s₂⟩ <;> rw [hw] at hd <;> cases hd
      obtain ⟨⟨_, ⟨parts, hr, rfl⟩, rfl⟩, rfl⟩ := within (fun s => elems (item fuel) _ 0 s) hw
      exact ⟨hl, _, rfl, by simp [hs, Kind.encode, flatten_of_forall₂_singleton hr]⟩
    · rename_i k s₁ _ hn
      obtain ⟨hs, hl, hk⟩ := next_sound hn
      rcases hb : k.toBytes with e | b <;> rw [hb] at hd <;> cases hd
      exact ⟨hl, _, rfl, by simp [hs, encode_of_toBytes hk hb]⟩
    · cases hd

theorem iface : Accepts Rlp.iface fun it its => its = [it] :=
  fun s => item _ s

theorem ifaces : Accepts Rlp.ifaces fun its its' => its' = [.list its] :=
  (slice iface).mono fun _ _ ⟨_, hr, he⟩ => by rw [he, flatten_of_forall₂_singleton hr]

end Accepts

theorem decode_ok_iff {d : Decoder α} {buffer : Bytes} {a : α} :
    decode d buffer = .ok a ↔ ∃ s', d ⟨buffer, false⟩ = .ok (a, s') := by
  simp only [decode, StateT.run']
  rcases d ⟨buffer, false⟩ with e | ⟨a', s'⟩ <;> simp [Functor.map, Except.map]

/-- A reader that accepts nothing but the encoding of the item `enc a` when it returns `a`, and
reads that encoding back as `a`, is the exact inverse of the encoder at `a`. -/
theorem ok_iff_of_accepts {d : Decoder α} {enc : α → Item} {a : α}
    (hd : Accepts d fun a its => its = [enc a]) (hr : Reads d [enc a] a) {s s' : Stream} :
    d s = .ok (a, s') ↔ s.input = (enc a).encode ++ s'.input ∧ s'.inList = s.inList := by
  refine ⟨fun h => ?_, ?_⟩
  · obtain ⟨hl, _, rfl, hs⟩ := hd _ _ _ h
    simpa [hl] using hs
  obtain ⟨input, inList⟩ := s
  obtain ⟨rest, _⟩ := s'
  rintro ⟨rfl, rfl⟩
  simpa using hr rest _

/-- `Stream.Uint` reads `n` from exactly one spelling, the one the encoder writes. -/
theorem uint_ok_iff {s s' : Stream} {n : UInt64} :
    uint s = .ok (n, s') ↔ s.input = (uintItem n).encode ++ s'.input ∧ s'.inList = s.inList :=
  ok_iff_of_accepts Accepts.uint (Reads.uint n)

/-- `decodeInterface` reads `it` from exactly one spelling, the one the encoder writes. -/
theorem iface_ok_iff {s s' : Stream} {it : Item} (h : it.encode.length < 2 ^ 64) :
    iface s = .ok (it, s') ↔ s.input = it.encode ++ s'.input ∧ s'.inList = s.inList :=
  @ok_iff_of_accepts _ iface id it Accepts.iface (Reads.iface h) s s'

/-- Decoding a buffer into an `interface{}` gives `it` exactly when the buffer starts with the
encoding of `it`: the decoder is the inverse of the encoder, and accepts no other spelling. -/
theorem decode_iface_ok_iff {buffer : Bytes} {it : Item} (h : it.encode.length < 2 ^ 64) :
    decode iface buffer = .ok it ↔ ∃ rest, buffer = it.encode ++ rest := by
  rw [decode_ok_iff]
  constructor
  · rintro ⟨s', hs'⟩
    exact ⟨s'.input, ((iface_ok_iff h).mp hs').1⟩
  · rintro ⟨rest, rfl⟩
    exact ⟨⟨rest, false⟩, (iface_ok_iff h).mpr ⟨rfl, rfl⟩⟩

theorem decode_iface_ok_iff_nested :
    (Item.list [.bytes (ascii "ok"), .list []]).encode.length < 2 ^ 64 ∧
      (decode iface [0xC4, 0x82, 0x6F, 0x6B, 0xC0, 0x01] = .ok (.list [.bytes (ascii "ok"), .list []]) ↔
        ∃ rest, [0xC4, 0x82, 0x6F, 0x6B, 0xC0, 0x01] =
          (Item.list [.bytes (ascii "ok"), .list []]).encode ++ rest) :=
  have h : (Item.list [.bytes (ascii "ok"), .list []]).encode.length < 2 ^ 64 := by decide
  ⟨h, decode_iface_ok_iff h⟩

end Rlp
