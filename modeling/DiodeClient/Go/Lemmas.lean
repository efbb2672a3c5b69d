import DiodeClient.Go.Strings

/-!
This module relates `bytes.Contains` to the infix order on lists, so that what a buffer contains
follows from how it is assembled, and inverts binds of the `Except` monad the model's fallible
code runs in.
-/

namespace Go

theorem bytesContains_iff_isInfix {b sub : Bytes} : bytesContains b sub = true ↔ sub <:+: b := by
  induction b with
  | nil => cases sub <;> simp [bytesContains]
  | cons x b ih => simp [bytesContains, ih, List.infix_cons_iff]

theorem bytesContains_of_isInfix {b sub : Bytes} (h : sub <:+: b) : bytesContains b sub = true :=
  bytesContains_iff_isInfix.mpr h

/-- What a part of a buffer contains, the buffer contains. -/
theorem bytesContains_mono {b c p : Bytes} (h : c <:+: b) (hc : bytesContains c p = true) :
    bytesContains b p = true :=
  bytesContains_of_isInfix ((bytesContains_iff_isInfix.mp hc).trans h)

/-! UTF-8 and `strings.ToLower`. -/

theorem decodeRune_ascii {b : UInt8} (rest : Bytes) (h : b.toNat < 0x80) :
    decodeRune (b :: rest) = (b.toNat, 1) := by
  simp [decodeRune, h]

/-- A byte outside ASCII starts a rune outside ASCII, or an invalid one read as `RuneError`. -/
theorem decodeRune_fst_ge {b : UInt8} (rest : Bytes) (h : 0x80 ≤ b.toNat) :
    0x80 ≤ (decodeRune (b :: rest)).1 := by
  have h₀ : ¬ b.toNat < 0x80 := by omega
  by_cases h₁ : b.toNat < 0xC2
  . simp only [decodeRune, if_neg h₀, if_pos h₁, runeError]; omega
  by_cases h₂ : b.toNat < 0xE0
  . rcases rest with _ | ⟨b₁, rest⟩ <;>
      simp only [decodeRune, if_neg h₀, if_neg h₁, if_pos h₂, runeError, inRange] <;>
      (try split_ifs) <;> omega
  by_cases h₃ : b.toNat < 0xF0
  . rcases rest with _ | ⟨b₁, _ | ⟨b₂, rest⟩⟩ <;>
      simp only [decodeRune, if_neg h₀, if_neg h₁, if_neg h₂, if_pos h₃, runeError, inRange,
        Bool.and_eq_true, decide_eq_true_eq] <;>
      (try split_ifs) <;> omega
  by_cases h₄ : b.toNat < 0xF5
  . rcases rest with _ | ⟨b₁, _ | ⟨b₂, _ | ⟨b₃, rest⟩⟩⟩ <;>
      simp only [decodeRune, if_neg h₀, if_neg h₁, if_neg h₂, if_neg h₃, if_pos h₄, runeError,
        inRange, Bool.and_eq_true, decide_eq_true_eq] <;>
      (try split_ifs) <;> omega
  . simp only [decodeRune, if_neg h₀, if_neg h₁, if_neg h₂, if_neg h₃, if_neg h₄, runeError]
    omega

theorem encodeRune_of_lt {r : Nat} (h : r < 0x80) : encodeRune r = [UInt8.ofNat r] := by
  simp [encodeRune, h]

/-- A rune outside ASCII is written with a first byte outside ASCII. -/
theorem encodeRune_head_ge {r : Nat} (h : 0x80 ≤ r) :
    ∃ c cs, encodeRune r = c :: cs ∧ 0x80 ≤ c.toNat := by
  unfold encodeRune
  split_ifs with h₁ h₂ h₃ h₄
  . omega
  . exact ⟨_, _, rfl, by rw [Rlp.toNat_ofNat_byte (by omega)]; omega⟩
  . exact ⟨_, _, rfl, by decide⟩
  . exact ⟨_, _, rfl, by rw [Rlp.toNat_ofNat_byte (by omega)]; omega⟩
  . exact ⟨_, _, rfl, by rw [Rlp.toNat_ofNat_byte (by omega)]; omega⟩

/-- A string with a byte outside ASCII maps to one with a byte outside ASCII, or with an `i` or a
`k`: the only letters `unicode.ToLower` maps runes outside ASCII to. -/
theorem mapRunes_nonAscii (lower : ToLowerRune) :
    ∀ (fuel : Nat) (s : Bytes), s.length ≤ fuel → (∃ b ∈ s, 0x80 ≤ b.toNat) →
      ∃ c ∈ mapRunes lower.toLower fuel s, 0x80 ≤ c.toNat ∨ c = 0x69 ∨ c = 0x6B
  | 0, s, hs, ⟨b, hb, _⟩ => by simp_all
  | _ + 1, [], _, ⟨b, hb, _⟩ => by simp at hb
  | fuel + 1, b₀ :: rest, hs, ⟨b, hb, hb80⟩ => by
    simp only [mapRunes, List.mem_append]
    by_cases h₀ : 0x80 ≤ b₀.toNat
    . have hr := decodeRune_fst_ge rest h₀
      by_cases hl : lower.toLower (decodeRune (b₀ :: rest)).1 < 0x80
      . rw [encodeRune_of_lt hl]
        rcases lower.nonAscii _ hr hl with h | h <;> exact ⟨_, .inl (List.mem_singleton_self _),
          .inr (by rw [h]; decide)⟩
      . obtain ⟨c, cs, he, hc⟩ := encodeRune_head_ge (Nat.le_of_not_lt hl)
        exact ⟨c, .inl (he ▸ List.mem_cons_self _ _), .inl hc⟩
    . have hb' : b ∈ rest := by
        rcases List.mem_cons.mp hb with rfl | h
        . omega
        . exact h
      obtain ⟨c, hc, hbad⟩ := mapRunes_nonAscii lower fuel rest
        (by simp at hs; omega) ⟨b, hb', hb80⟩
      rw [decodeRune_ascii rest (by omega)]
      exact ⟨c, .inr hc, hbad⟩

/-- `int64(n)` is the integer in `[-2 ^ 63, 2 ^ 63)` congruent to `n` modulo `2 ^ 64`. -/
theorem int64_spec (n : UInt64) :
    int64 n % 2 ^ 64 = n.toNat % 2 ^ 64 ∧ -2 ^ 63 ≤ int64 n ∧ int64 n < 2 ^ 63 := by
  have : n.toNat < 2 ^ 64 := n.toNat_lt_size
  unfold int64
  split <;> omega

/-- `SetBytes(b).Int64()` is the integer in `[-2 ^ 63, 2 ^ 63)` congruent to the big-endian value
of `b` modulo `2 ^ 64`. -/
theorem bigInt64_spec (b : Bytes) :
    bigInt64 b % 2 ^ 64 = Rlp.beValue b % 2 ^ 64 ∧ -2 ^ 63 ≤ bigInt64 b ∧ bigInt64 b < 2 ^ 63 := by
  have h : (bigUint64 b).toNat = Rlp.beValue b % 2 ^ 64 := by
    simp [bigUint64, UInt64.toNat, UInt64.ofNat]
  obtain ⟨h₁, h₂, h₃⟩ := int64_spec (bigUint64 b)
  refine ⟨?_, h₂, h₃⟩
  rw [bigInt64, h₁, h]
  omega

/-- Inversion of a bind in the `Except` monad. -/
theorem bind_eq_ok {x : Except ε α} {f : α → Except ε β} {b : β} :
    x >>= f = .ok b ↔ ∃ a, x = .ok a ∧ f a = .ok b := by
  cases x <;> simp [bind, Except.bind]

theorem map_some_eq_ok {x : Except ε α} {a : α} :
    (some <$> x : Except ε (Option α)) = .ok (some a) ↔ x = .ok a := by
  cases x <;> simp [Functor.map, Except.map]

end Go
