import DiodeClient.Util.Hex
import DiodeClient.Go.Lemmas

/-!
This module proves what the hex helpers compute. `DecodeString` reads back every string
`EncodeToString` writes, and what it accepts is exactly `0x`, or `0X`, or nothing, followed by
an even number of hex digits, so that writing the result out again gives the lower-cased
digits. It slices its input before checking its length, and panics on strings shorter than
the prefix. `Decode` reads back what `EncodeToString` writes into a long enough `dst`, but does
not lower-case, so the two disagree on the prefix `0X`: `IsHexNumber` accepts only that prefix,
and `Decode` refuses every string it accepts.
-/

namespace Rpc

open Go

theorem toNat_asciiToLower (c : UInt8) :
    (asciiToLower c).toNat = if 0x41 ≤ c.toNat ∧ c.toNat ≤ 0x5A then c.toNat + 0x20 else c.toNat := by
  unfold asciiToLower
  split_ifs with h
  . exact Rlp.toNat_ofNat_byte (by omega)
  . rfl

theorem toNat_hexDigit {v : Nat} (h : v < 16) :
    (hexDigit v).toNat = if v < 10 then 0x30 + v else 0x61 + v - 10 := by
  unfold hexDigit
  split_ifs <;> exact Rlp.toNat_ofNat_byte (by omega)

theorem fromHexChar_hexDigit {v : Nat} (h : v < 16) : fromHexChar (hexDigit v) = some v := by
  have hd := toNat_hexDigit h
  unfold fromHexChar
  split_ifs at hd ⊢ <;> (try simp only [Option.some.injEq]) <;> omega

/-- A hex digit of either case stands for a value below sixteen, whose digit is the lower-cased
one. -/
theorem hexDigit_of_fromHexChar {c : UInt8} {x : Nat} (h : fromHexChar c = some x) :
    x < 16 ∧ hexDigit x = asciiToLower c := by
  have hl := toNat_asciiToLower c
  unfold fromHexChar at h
  split_ifs at h <;> cases h <;>
    refine ⟨by omega, UInt8.ext ?_⟩ <;> rw [toNat_hexDigit (by omega), hl] <;> split_ifs <;> omega

theorem asciiToLower_asciiToLower (c : UInt8) : asciiToLower (asciiToLower c) = asciiToLower c := by
  rw [UInt8.ext_iff, toNat_asciiToLower, toNat_asciiToLower]
  split_ifs <;> omega

/-- Bytes outside ASCII, and the letters `i` and `k`, are no hex digits. -/
theorem fromHexChar_eq_none {c : UInt8} (h : 0x80 ≤ c.toNat ∨ c = 0x69 ∨ c = 0x6B) :
    fromHexChar c = none := by
  have h' : 0x80 ≤ c.toNat ∨ c.toNat = 0x69 ∨ c.toNat = 0x6B := by
    rcases h with h | rfl | rfl
    . exact .inl h
    . exact .inr (.inl rfl)
    . exact .inr (.inr rfl)
  unfold fromHexChar
  split_ifs <;> first | rfl | omega

@[simp]
theorem hexEncodeToString_nil : hexEncodeToString [] = [] := rfl

@[simp]
theorem hexEncodeToString_cons (b : UInt8) (bs : Bytes) :
    hexEncodeToString (b :: bs) =
      hexDigit (b.toNat / 16) :: hexDigit (b.toNat % 16) :: hexEncodeToString bs := rfl

theorem hexDecode_cons_cons {a b : UInt8} {x y : Nat} (ha : fromHexChar a = some x)
    (hb : fromHexChar b = some y) (rest : Bytes) :
    hexDecode (a :: b :: rest) =
      (UInt8.ofNat (x * 16 + y) :: (hexDecode rest).1, (hexDecode rest).2) := by
  simp [hexDecode, ha, hb]

theorem hexDecode_hexEncodeToString (bs : Bytes) : hexDecode (hexEncodeToString bs) = (bs, none) := by
  induction bs with
  | nil => rfl
  | cons b bs ih =>
    have hb : b.toNat < 256 := b.toNat_lt_size
    rw [hexEncodeToString_cons, hexDecode_cons_cons (fromHexChar_hexDigit (by omega))
      (fromHexChar_hexDigit (by omega)), ih,
      show b.toNat / 16 * 16 + b.toNat % 16 = b.toNat by omega, Rlp.ofNat_toNat_byte]

theorem hexDecode_cons_cons_ok {a b : UInt8} {rest : Bytes}
    (h : (hexDecode (a :: b :: rest)).2 = none) :
    ∃ x y, fromHexChar a = some x ∧ fromHexChar b = some y ∧ (hexDecode rest).2 = none := by
  cases ha : fromHexChar a <;> cases hb : fromHexChar b <;> simp_all [hexDecode]

/-- What `hex.Decode` accepts is written back as its lower-cased digits. -/
theorem hexEncodeToString_hexDecode : ∀ {src : Bytes}, (hexDecode src).2 = none →
    hexEncodeToString (hexDecode src).1 = src.map asciiToLower
  | a :: b :: rest, h => by
    obtain ⟨x, y, ha, hb, h⟩ := hexDecode_cons_cons_ok h
    obtain ⟨hx, hdx⟩ := hexDigit_of_fromHexChar ha
    obtain ⟨hy, hdy⟩ := hexDigit_of_fromHexChar hb
    rw [hexDecode_cons_cons ha hb, hexEncodeToString_cons, Rlp.toNat_ofNat_byte (by omega),
      show (x * 16 + y) / 16 = x by omega, show (x * 16 + y) % 16 = y by omega, hdx, hdy,
      hexEncodeToString_hexDecode h]
    rfl
  | [_], h => by simp [hexDecode] at h
  | [], _ => rfl

/-- What `hex.Decode` accepts is made of hex digits only. -/
theorem isSome_fromHexChar_of_hexDecode : ∀ {src : Bytes}, (hexDecode src).2 = none →
    ∀ c ∈ src, (fromHexChar c).isSome
  | a :: b :: rest, h, c, hc => by
    obtain ⟨x, y, ha, hb, h⟩ := hexDecode_cons_cons_ok h
    simp only [List.mem_cons] at hc
    rcases hc with rfl | rfl | hc
    . simp [ha]
    . simp [hb]
    . exact isSome_fromHexChar_of_hexDecode h c hc
  | [_], h, _, _ => by simp [hexDecode] at h
  | [], _, _, hc => by simp at hc

theorem toLower_of_ascii (lower : ToLowerRune) {s : Bytes} (h : ∀ c ∈ s, c.toNat < 0x80) :
    toLower lower s = s.map asciiToLower := by
  rw [toLower, if_pos (by simpa using h)]

theorem toLower_of_nonAscii (lower : ToLowerRune) {s : Bytes} (h : ∃ b ∈ s, 0x80 ≤ b.toNat) :
    ∃ c ∈ toLower lower s, 0x80 ≤ c.toNat ∨ c = 0x69 ∨ c = 0x6B := by
  have : ¬ s.all (·.toNat < 0x80) := by
    obtain ⟨b, hb, hb80⟩ := h
    simpa using ⟨b, hb, hb80⟩
  simpa [toLower, this] using mapRunes_nonAscii lower s.length s le_rfl h

/-- `DecodeString` strips a prefix of its lower-cased input exactly when the input starts with
`0x` or `0X`. -/
theorem prefixBytes_eq_map_asciiToLower (p : Bytes) :
    prefixBytes = p.map asciiToLower ↔ p = ascii "0x" ∨ p = ascii "0X" := by
  match p with
  | [] | [_] | _ :: _ :: _ :: _ => simp [prefixBytes, ascii]
  | [a, b] =>
    have ha := toNat_asciiToLower a
    have hb := toNat_asciiToLower b
    have h₀ : '0'.toUInt8.toNat = 0x30 := rfl
    have hx : 'x'.toUInt8.toNat = 0x78 := rfl
    have hX : 'X'.toUInt8.toNat = 0x58 := rfl
    simp only [prefixBytes, ascii, String.toList, List.map_cons, List.map_nil, List.cons.injEq,
      and_true, UInt8.ext_iff, ha, hb, h₀, hx, hX]
    split_ifs <;> omega

theorem mem_hexEncodeToString {bs : Bytes} {c : UInt8} (h : c ∈ hexEncodeToString bs) :
    ∃ v < 16, c = hexDigit v := by
  induction bs with
  | nil => simp at h
  | cons b bs ih =>
    have hb : b.toNat < 256 := b.toNat_lt_size
    simp only [hexEncodeToString_cons, List.mem_cons] at h
    rcases h with rfl | rfl | h
    . exact ⟨_, by omega, rfl⟩
    . exact ⟨_, by omega, rfl⟩
    . exact ih h

/-- What `EncodeToString` writes is ASCII and already lower case. -/
theorem mem_encodeToString {bs : Bytes} {c : UInt8} (h : c ∈ encodeToString bs) :
    c.toNat < 0x80 ∧ asciiToLower c = c := by
  rw [UInt8.ext_iff, toNat_asciiToLower]
  rcases List.mem_append.mp h with h | h
  . have : c = 0x30 ∨ c = 0x78 := by simpa [ascii] using h
    rcases this with rfl | rfl <;> decide
  . obtain ⟨v, hv, rfl⟩ := mem_hexEncodeToString h
    rw [toNat_hexDigit hv]
    split_ifs <;> omega

theorem encodeToString_eq (bs : Bytes) :
    encodeToString bs = 0x30 :: 0x78 :: hexEncodeToString bs :=
  rfl

theorem ascii_upperPrefix : ascii "0X" = [0x30, 0x58] :=
  rfl

theorem toLower_encodeToString (lower : ToLowerRune) (bs : Bytes) :
    toLower lower (encodeToString bs) = encodeToString bs := by
  rw [toLower_of_ascii lower fun c hc => (mem_encodeToString hc).1]
  exact (List.map_congr_left fun c hc => (mem_encodeToString hc).2).trans (List.map_id _)

theorem toLower_upperPrefix (lower : ToLowerRune) (bs : Bytes) :
    toLower lower (ascii "0X" ++ hexEncodeToString bs) = encodeToString bs := by
  have hhex : ∀ c ∈ hexEncodeToString bs, c ∈ encodeToString bs := fun c hc =>
    List.mem_append_right _ hc
  rw [toLower_of_ascii lower, List.map_append,
    List.map_congr_left fun c hc => (mem_encodeToString (hhex c hc)).2, List.map_id']
  . rfl
  . intro c hc
    rcases List.mem_append.mp hc with hc | hc
    . rw [ascii_upperPrefix] at hc
      simp only [List.mem_cons, List.mem_singleton, List.not_mem_nil, or_false] at hc
      rcases hc with rfl | rfl <;> decide
    . exact (mem_encodeToString (hhex c hc)).1

/-- `DecodeString` reads a string through its lower-cased bytes only. -/
theorem decodeString_of_toLower_eq {lower : ToLowerRune} {s t : Bytes}
    (h : toLower lower s = toLower lower t) : decodeString lower s = decodeString lower t := by
  simp only [decodeString, h]

theorem decodeString_encodeToString (lower : ToLowerRune) (bs : Bytes) :
    decodeString lower (encodeToString bs) = .ok (bs, none) := by
  simp only [decodeString, toLower_encodeToString]
  simp [encodeToString, prefixLength, prefixBytes, ascii, hexDecode_hexEncodeToString]

/-- `IsHexNumber` accepts exactly the strings that start with `0X`. -/
theorem isHexNumber_iff (s : Bytes) : isHexNumber s = true ↔ ∃ rest, s = ascii "0X" ++ rest := by
  constructor
  · intro h
    simp only [isHexNumber, upperPrefixLength, upperPrefixBytes] at h
    split_ifs at h
    exact ⟨s.drop 2, by rw [of_decide_eq_true h, List.take_append_drop]⟩
  · rintro ⟨rest, rfl⟩
    simp [isHexNumber, upperPrefixLength, upperPrefixBytes, ascii_upperPrefix]

/-- `Decode` reads back every string `EncodeToString` writes into a `dst` long enough for it,
and panics on a shorter one. -/
theorem decode_encodeToString (dst spare bs : Bytes) :
    decode dst (encodeToString bs) spare =
      if dst.length < bs.length then .error .indexOutOfRange
      else .ok (bs ++ dst.drop bs.length, bs.length, none) := by
  simp (disch := omega) [decode, hexDecodeInto, encodeToString_eq, prefixLength, if_neg,
    show prefixBytes = [0x30, 0x78] from rfl, hexDecode_hexEncodeToString]

/-- `Decode` does not lower-case: it refuses every string with the prefix `0X` at its `X`,
writing nothing. -/
theorem decode_upperPrefix (dst spare rest : Bytes) :
    decode dst (ascii "0X" ++ rest) spare = .ok (dst, 0, some (.invalidByte 0x58)) := by
  have h0 : fromHexChar 0x30 = some 0 := rfl
  have hX : fromHexChar 0x58 = none := rfl
  rw [ascii_upperPrefix]
  simp (disch := omega) [decode, hexDecodeInto, prefixLength, if_neg,
    show prefixBytes = [0x30, 0x78] from rfl, hexDecode, h0, hX]

/-- Every string `IsHexNumber` accepts, `Decode` refuses. -/
theorem decode_of_isHexNumber {s : Bytes} (h : isHexNumber s = true) (dst spare : Bytes) :
    decode dst s spare = .ok (dst, 0, some (.invalidByte 0x58)) := by
  obtain ⟨rest, rfl⟩ := (isHexNumber_iff s).mp h
  exact decode_upperPrefix dst spare rest

/-- `Decode` refuses every string `IsHexNumber` accepts, at its `X` and writing nothing, though
`DecodeString` lower-cases the prefix `0X` and reads back the bytes of every such string of hex
digits. -/
theorem decode_refuses_isHexNumber (lower : ToLowerRune) :
    (∀ s dst spare, isHexNumber s = true →
      decode dst s spare = .ok (dst, 0, some (.invalidByte 0x58))) ∧
    ∀ bs, isHexNumber (ascii "0X" ++ hexEncodeToString bs) = true ∧
      decodeString lower (ascii "0X" ++ hexEncodeToString bs) = .ok (bs, none) :=
  ⟨fun _ dst spare h => decode_of_isHexNumber h dst spare, fun bs =>
    ⟨(isHexNumber_iff _).mpr ⟨_, rfl⟩,
      (decodeString_of_toLower_eq (by rw [toLower_upperPrefix, toLower_encodeToString])).trans
        (decodeString_encodeToString lower bs)⟩⟩

/-- A byte of the lower-cased input other than `0` and `x` is among the digits `DecodeString`
hands to `hex.DecodeString`. -/
theorem mem_digits_of_mem {t : Bytes} {c : UInt8} (hc : c ∈ t) (h₀ : c ≠ 0x30) (hx : c ≠ 0x78) :
    c ∈ (if prefixBytes = t.take prefixLength then t.drop 2 else t) := by
  split_ifs with hp
  . rw [← List.take_append_drop 2 t] at hc
    rcases List.mem_append.mp hc with hc | hc
    . rw [show t.take 2 = [0x30, 0x78] from hp.symm] at hc
      simp [h₀, hx] at hc
    . exact hc
  . exact hc

/-- What `DecodeString` accepts is written back as `0x` and its lower-cased digits. -/
theorem encodeToString_of_decodeString {lower : ToLowerRune} {s bs : Bytes}
    (h : decodeString lower s = .ok (bs, none)) :
    encodeToString bs = ascii "0x" ++
      (if s.take 2 = ascii "0x" ∨ s.take 2 = ascii "0X" then s.drop 2 else s).map asciiToLower := by
  unfold decodeString at h
  dsimp only at h
  split at h
  . cases h
  have hd := Except.ok.inj h
  have hascii : ∀ c ∈ s, c.toNat < 0x80 := by
    intro c hc
    by_contra hn
    obtain ⟨d, hd', hbad⟩ := toLower_of_nonAscii lower ⟨c, hc, by omega⟩
    have h₀ : d ≠ 0x30 := by rintro rfl; revert hbad; decide
    have hx : d ≠ 0x78 := by rintro rfl; revert hbad; decide
    have := isSome_fromHexChar_of_hexDecode (by rw [hd]) d (mem_digits_of_mem hd' h₀ hx)
    rw [fromHexChar_eq_none hbad] at this
    exact absurd this (by simp)
  rw [toLower_of_ascii lower hascii, prefixLength, ← List.map_take] at hd
  simp only [prefixBytes_eq_map_asciiToLower] at hd
  have he := hexEncodeToString_hexDecode (by rw [hd])
  rw [hd] at he
  rw [encodeToString, he]
  split_ifs <;> simp [List.map_map, Function.comp_def, asciiToLower_asciiToLower, List.map_drop]

/-- A case mapping that lower-cases ASCII and keeps every other rune. It has what `ToLowerRune`
asks of `unicode.ToLower`, and stands for it in the samples below. -/
def asciiOnlyToLower : ToLowerRune where
  toLower r := if 0x41 ≤ r ∧ r ≤ 0x5A then r + 0x20 else r
  ascii _ _ := rfl
  nonAscii r h₁ h₂ := by simp only at h₂; split at h₂ <;> omega

/-- The `0x` hex codec round-trips both ways. -/
theorem hex_round_trip (lower : ToLowerRune) :
    (∀ bs, decodeString lower (encodeToString bs) = .ok (bs, none)) ∧
    (∀ s bs, decodeString lower s = .ok (bs, none) →
      encodeToString bs = ascii "0x" ++
        (if s.take 2 = ascii "0x" ∨ s.take 2 = ascii "0X" then s.drop 2 else s).map asciiToLower) :=
  ⟨decodeString_encodeToString lower, fun _ _ => encodeToString_of_decodeString⟩

theorem hex_round_trip_upper_prefix :
    decodeString asciiOnlyToLower (ascii "0XaB") = .ok ([0xAB], none) ∧
    encodeToString [0xAB] = ascii "0x" ++
      (if (ascii "0XaB").take 2 = ascii "0x" ∨ (ascii "0XaB").take 2 = ascii "0X" then
        (ascii "0XaB").drop 2 else ascii "0XaB").map asciiToLower :=
  have h : decodeString asciiOnlyToLower (ascii "0XaB") = .ok ([0xAB], none) := rfl
  ⟨h, (hex_round_trip asciiOnlyToLower).2 _ _ h⟩

/-- `DecodeString` slices its input before checking its length, and panics on a string shorter
than the prefix; `Decode` does the same on an empty slice, and, not lower-casing, refuses the
`0X` prefix `DecodeString` strips. -/
theorem decodeString_short_input (lower : ToLowerRune) :
    decodeString lower [] = .error .sliceBoundsOutOfRange ∧
    (∀ c : UInt8, c.toNat < 0x80 → decodeString lower [c] = .error .sliceBoundsOutOfRange) ∧
    decode [] [] [] = .error .sliceBoundsOutOfRange ∧
    decodeString lower (ascii "0XAB") = .ok ([0xAB], none) ∧
    decode [0, 0] (ascii "0XAB") [] = .ok ([0, 0], 0, some (.invalidByte 0x58)) :=
  ⟨rfl, fun c hc => by
    simp [decodeString, toLower_of_ascii lower (s := [c]) (by simpa using hc), prefixLength],
    rfl, rfl, rfl⟩

theorem decodeString_short_input_letter :
    (0x61 : UInt8).toNat < 0x80 ∧
    decodeString asciiOnlyToLower [0x61] = .error .sliceBoundsOutOfRange :=
  ⟨by decide, (decodeString_short_input asciiOnlyToLower).2.1 0x61 (by decide)⟩

/-- `DecodeStringToInt` returns no error on any string `DecodeString` accepts: the `int64` it
returns is the integer in `[-2 ^ 63, 2 ^ 63)` congruent modulo `2 ^ 64` to the value `v` of the
bytes, which is `v` exactly when `v < 2 ^ 63`. -/
theorem decodeStringToInt_wraps (lower : ToLowerRune) {s bs : Bytes}
    (h : decodeString lower s = .ok (bs, none)) :
    decodeStringToInt lower s = .ok (bigInt64 bs, none) ∧
      bigInt64 bs % 2 ^ 64 = Rlp.beValue bs % 2 ^ 64 ∧ -2 ^ 63 ≤ bigInt64 bs ∧
      bigInt64 bs < 2 ^ 63 ∧ (bigInt64 bs = Rlp.beValue bs ↔ Rlp.beValue bs < 2 ^ 63) := by
  obtain ⟨hmod, hlo, hhi⟩ := bigInt64_spec bs
  exact ⟨by simp [decodeStringToInt, h, Except.map], hmod, hlo, hhi, by omega⟩

theorem decodeStringToInt_wraps_at_two_pow_63 :
    decodeString asciiOnlyToLower (ascii "0x8000000000000000") =
        .ok ([0x80, 0, 0, 0, 0, 0, 0, 0], none) ∧
      decodeStringToInt asciiOnlyToLower (ascii "0x8000000000000000") =
        .ok (bigInt64 [0x80, 0, 0, 0, 0, 0, 0, 0], none) ∧
      bigInt64 [0x80, 0, 0, 0, 0, 0, 0, 0] = -2 ^ 63 ∧
      Rlp.beValue [0x80, 0, 0, 0, 0, 0, 0, 0] = 2 ^ 63 :=
  have h : decodeString asciiOnlyToLower (ascii "0x8000000000000000") =
      .ok ([0x80, 0, 0, 0, 0, 0, 0, 0], none) := rfl
  ⟨h, (decodeStringToInt_wraps asciiOnlyToLower h).1, by decide, rfl⟩

end Rpc
