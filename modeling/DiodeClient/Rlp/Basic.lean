import Mathlib

/-!
This module contains the values of the recursive length prefix format the edge protocol writes
its envelopes in, and their encoder. The rlp package itself is not part of the sources, so the
encoder follows the spec's "length-prefixed, nested binary envelope": an item is a byte string
or a list of items, each written behind a header that gives its kind and its length.
-/

/-- A Go byte slice, or the bytes of a Go string. -/
abbrev Bytes := List UInt8

/-- Go's `[]byte(s)` for the ASCII string literals of the sources. -/
def ascii (s : String) : Bytes :=
  s.toList.map Char.toUInt8

namespace Rlp

theorem toNat_ofNat_byte {n : Nat} (h : n < 256) : (UInt8.ofNat n).toNat = n :=
  UInt8.toNat_ofNat_of_lt h

theorem ofNat_toNat_byte (c : UInt8) : UInt8.ofNat c.toNat = c :=
  UInt8.ext (toNat_ofNat_byte c.toNat_lt)

/-- The big-endian bytes of `n` without leading zeros, at most `fuel` of them. -/
def beBytesAux : Nat → Nat → Bytes
  | 0, _ => []
  | fuel + 1, n => if n = 0 then [] else beBytesAux fuel (n / 256) ++ [UInt8.ofNat (n % 256)]

/-- The big-endian bytes of `n` without leading zeros (`putint`), none for zero. -/
def beBytes (n : Nat) : Bytes :=
  beBytesAux n n

/-- The number big-endian bytes stand for, as `readUint` assembles it. -/
def beValue (bs : Bytes) : Nat :=
  bs.foldl (fun acc b => acc * 256 + b.toNat) 0

theorem beBytesAux_fuel {f g n : Nat} (hf : n ≤ f) (hg : n ≤ g) :
    beBytesAux f n = beBytesAux g n := by
  induction f generalizing g n with
  | zero => cases g <;> simp_all [beBytesAux]
  | succ f ih =>
    cases g with
    | zero => simp_all [beBytesAux]
    | succ g =>
      simp only [beBytesAux]
      split
      . rfl
      . rw [ih (g := g) (by omega) (by omega)]

@[simp]
theorem beBytes_zero : beBytes 0 = [] := rfl

theorem beBytes_pos {n : Nat} (h : 0 < n) :
    beBytes n = beBytes (n / 256) ++ [UInt8.ofNat (n % 256)] := by
  obtain ⟨m, rfl⟩ : ∃ m, n = m + 1 := ⟨n - 1, by omega⟩
  simp only [beBytes, beBytesAux, Nat.add_one_ne_zero, if_false]
  rw [beBytesAux_fuel (g := (m + 1) / 256) (by omega) (by omega)]

@[simp]
theorem beValue_nil : beValue [] = 0 := rfl

theorem beValue_append_single (bs : Bytes) (b : UInt8) :
    beValue (bs ++ [b]) = beValue bs * 256 + b.toNat := by
  simp [beValue, List.foldl_append]

theorem beValue_beBytes (n : Nat) : beValue (beBytes n) = n := by
  induction n using Nat.strong_induction_on with
  | _ n ih =>
    rcases Nat.eq_zero_or_pos n with rfl | h
    . rfl
    . rw [beBytes_pos h, beValue_append_single, ih _ (Nat.div_lt_self h (by omega)),
        UInt8.toNat_ofNat_of_lt (by change n % 256 < 256; omega)]
      omega

theorem beBytes_eq_nil_iff {n : Nat} : beBytes n = [] ↔ n = 0 := by
  rcases Nat.eq_zero_or_pos n with rfl | h
  . simp
  . simp [beBytes_pos h, Nat.pos_iff_ne_zero.mp h]

theorem beBytes_of_lt {n : Nat} (h0 : 0 < n) (h : n < 256) : beBytes n = [UInt8.ofNat n] := by
  rw [beBytes_pos h0, Nat.div_eq_of_lt h, Nat.mod_eq_of_lt h, beBytes_zero, List.nil_append]

theorem beBytes_head {n : Nat} (h : 0 < n) : ∃ b bs, beBytes n = b :: bs ∧ b ≠ 0 := by
  induction n using Nat.strong_induction_on with
  | _ n ih =>
    rcases Nat.lt_or_ge n 256 with hn | hn
    . refine ⟨_, [], beBytes_of_lt h hn, fun h' => ?_⟩
      have := congrArg UInt8.toNat h'
      rw [UInt8.toNat_ofNat_of_lt (by change n < 256; omega)] at this
      simp at this
      omega
    . obtain ⟨b, bs, hb, hb0⟩ := ih (n / 256) (Nat.div_lt_self h (by omega)) (by omega)
      exact ⟨b, bs ++ [UInt8.ofNat (n % 256)], by rw [beBytes_pos h, hb]; rfl, hb0⟩

theorem beBytes_length_le {n k : Nat} (h : n < 256 ^ k) : (beBytes n).length ≤ k := by
  induction k generalizing n with
  | zero => simp_all
  | succ k ih =>
    rcases Nat.eq_zero_or_pos n with rfl | hn
    . simp
    . rw [beBytes_pos hn, List.length_append, List.length_singleton]
      have := ih (n := n / 256) (by rw [Nat.pow_succ] at h; omega)
      omega

theorem two_le_beBytes_length {n : Nat} (h : 256 ≤ n) : 2 ≤ (beBytes n).length := by
  rw [beBytes_pos (by omega), List.length_append, List.length_singleton]
  have : beBytes (n / 256) ≠ [] := by rw [Ne, beBytes_eq_nil_iff]; omega
  have := List.length_pos.mpr this
  omega

/-- A value of the format: a byte string or a list of values, the `[]byte` and `[]interface{}`
a Go `interface{}` decodes to. -/
inductive Item where
  | bytes (b : Bytes)
  | list (items : List Item)

/-- `puthead`: the tag byte, followed by the size's big-endian bytes when it is 56 or more. -/
def head (smalltag largetag size : Nat) : Bytes :=
  if size < 56 then [UInt8.ofNat (smalltag + size)]
  else UInt8.ofNat (largetag + (beBytes size).length) :: beBytes size

/-- The encoding of a byte string; a single byte below 0x80 is its own encoding. -/
def encodeString (b : Bytes) : Bytes :=
  match b with
  | [x] => if x.toNat < 0x80 then [x] else head 0x80 0xB7 1 ++ [x]
  | _ => head 0x80 0xB7 b.length ++ b

mutual

/-- `rlp.EncodeToBytes` of an item. -/
def Item.encode : Item → Bytes
  | .bytes b => encodeString b
  | .list items => head 0xC0 0xF7 (Item.encodeList items).length ++ Item.encodeList items

/-- The concatenated encodings of a list's elements, the payload of its encoding. -/
def Item.encodeList : List Item → Bytes
  | [] => []
  | it :: its => it.encode ++ Item.encodeList its

end

/-- The item a `uint64` is written as: its big-endian bytes, none for zero. -/
def uintItem (n : UInt64) : Item :=
  .bytes (beBytes n.toNat)

@[simp]
theorem Item.encode_bytes (b : Bytes) : (Item.bytes b).encode = encodeString b := by
  simp [Item.encode]

@[simp]
theorem Item.encode_list (its : List Item) :
    (Item.list its).encode = head 0xC0 0xF7 (Item.encodeList its).length ++ Item.encodeList its := by
  simp [Item.encode]

@[simp]
theorem Item.encodeList_nil : Item.encodeList [] = [] := by
  simp [Item.encodeList]

@[simp]
theorem Item.encodeList_cons (it : Item) (its : List Item) :
    Item.encodeList (it :: its) = it.encode ++ Item.encodeList its := by
  simp [Item.encodeList]

@[simp]
theorem Item.encodeList_append (its its' : List Item) :
    Item.encodeList (its ++ its') = Item.encodeList its ++ Item.encodeList its' := by
  induction its with
  | nil => rfl
  | cons it its ih => simp [ih]

theorem head_ne_nil (smalltag largetag size : Nat) : head smalltag largetag size ≠ [] := by
  unfold head
  split <;> simp

theorem encodeString_ne_nil (b : Bytes) : encodeString b ≠ [] := by
  unfold encodeString
  split
  . split <;> simp
  . simp [head_ne_nil]

theorem Item.encode_ne_nil (it : Item) : it.encode ≠ [] := by
  cases it with
  | bytes b => simpa using encodeString_ne_nil b
  | list its => simp [head_ne_nil]

end Rlp
