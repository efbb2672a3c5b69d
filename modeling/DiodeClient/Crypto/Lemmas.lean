import DiodeClient.Crypto.Keys
import DiodeClient.Go.Lemmas

/-!
This module proves what `crypto.go` accepts as a key. `toECDSA` accepts exactly the scalars
below `N` and above zero, of the curve's length when strict, on which the base-point
multiplication gives a point; so private-key import accepts exactly the valid secp256k1 scalars,
and never reaches the panic of `ScalarBaseMult`. The lax form of `ToECDSAUnsafe` reads a scalar
with zeros in front, the legacy encoding, as the scalar itself up to 32 bytes, and panics past
them. `DerToECDSA` adds the version check to the strict form.
-/

namespace Crypto

open Go Rlp

/-- `Sign() <= 0` holds of the value `SetBytes` gives exactly at zero. -/
theorem sign_le_zero_iff (n : Nat) : (n : Int).sign ≤ 0 ↔ n = 0 := by
  rcases n with _ | n
  · simp
  · simp only [Int.sign_natCast_of_ne_zero (Nat.succ_ne_zero n)]
    omega

theorem beValue_replicate_zero_append (n : Nat) (d : Bytes) :
    beValue (List.replicate n 0 ++ d) = beValue d := by
  induction n with
  | zero => rfl
  | succ n ih => simpa [List.replicate_succ, beValue] using ih

theorem scalarBaseMult_of_le {curve : Curve} {k : Bytes} (h : k.length ≤ 32) :
    curve.scalarBaseMult k = .ok (curve.mulBase (List.replicate (32 - k.length) 0 ++ k)) :=
  if_neg (by omega)

theorem scalarBaseMult_of_length {curve : Curve} {k : Bytes} (h : k.length = 32) :
    curve.scalarBaseMult k = .ok (curve.mulBase k) := by
  rw [scalarBaseMult_of_le h.le, h]
  rfl

/-- Zeros in front of a scalar of at most 32 bytes are absorbed by its padding. -/
theorem scalarBaseMult_replicate_zero_append {curve : Curve} {n : Nat} {d : Bytes}
    (h : n + d.length ≤ 32) :
    curve.scalarBaseMult (List.replicate n 0 ++ d) = curve.scalarBaseMult d := by
  rw [scalarBaseMult_of_le (by simpa using h), scalarBaseMult_of_le (by omega),
    ← List.append_assoc, List.append_replicate_replicate, List.length_append, List.length_replicate]
  congr 4
  omega

/-- A stand-in for `S256()`: 256 bits, and a multiplication that gives a point on every scalar.
It has what the key import asks of the curve, and stands for it in the samples below. -/
def sampleCurve : Curve where
  bitSize := 256
  mulBase d := (some (beValue d), some 0)
  marshal _ _ := []
  unmarshal _ := (none, none)

section toECDSA

variable {curve : Curve} {d : Bytes} {strict : Bool}

/-- `toECDSA` returns a key exactly on a scalar of the curve's length when strict, whose value
`D` is positive and below `N`, and on which the base-point multiplication gives a point; the key
is `D` with that point. -/
theorem toECDSA_ok_iff {key : PrivateKey} :
    toECDSA curve d strict = .ok (.ok key) ↔
      (strict → 8 * d.length = curve.bitSize) ∧ 0 < beValue d ∧ beValue d < secp256k1N ∧
        ∃ x y, curve.scalarBaseMult d = .ok (some x, y) ∧ key = ⟨beValue d, ⟨some x, y⟩⟩ := by
  simp only [toECDSA, Bool.and_eq_true, bne_iff_ne, ne_eq, ge_iff_le, sign_le_zero_iff]
  split_ifs with hl hN h0
  -- the three refusals, each against the check that failed
  · simp only [pure, Except.pure, Except.ok.injEq, reduceCtorEq, false_iff, not_and, not_exists]
    exact fun h => absurd (h hl.1) hl.2
  · simp only [pure, Except.pure, Except.ok.injEq, reduceCtorEq, false_iff, not_and, not_exists]
    omega
  · simp only [pure, Except.pure, Except.ok.injEq, reduceCtorEq, false_iff, not_and, not_exists]
    omega
  · have hstrict : strict → 8 * d.length = curve.bitSize := by
      simpa only [not_and, not_not] using hl
    rcases curve.scalarBaseMult d with e | ⟨_ | x, y⟩
    · simp [Except.map]
    · simp [Except.map]
    · simp only [Except.map, Except.ok.injEq]
      constructor
      · rintro rfl
        exact ⟨hstrict, by omega, by omega, x, y, rfl, rfl⟩
      · rintro ⟨-, -, -, x', y', h, rfl⟩
        cases h
        rfl

/-- On a curve of 256 bits the strict form never panics: its length check keeps every scalar
over 32 bytes from `ScalarBaseMult`. -/
theorem toECDSA_strict_ok (hbits : curve.bitSize = 256) (d : Bytes) :
    ∃ r, toECDSA curve d true = .ok r := by
  by_cases h32 : d.length = 32
  · simp only [toECDSA, scalarBaseMult_of_length h32]
    split_ifs <;> exact ⟨_, rfl⟩
  · rw [toECDSA, if_pos (by simp [hbits]; omega)]
    exact ⟨_, rfl⟩

/-- `ToECDSAUnsafe` reads a scalar with zeros in front, the legacy encoding, as the scalar
itself as long as the whole fits in 32 bytes. Past 32 bytes, a scalar whose value is a valid key
reaches `ScalarBaseMult`, which panics. -/
theorem toECDSAUnsafe_replicate_zero_append (curve : Curve) (n : Nat) (d : Bytes) :
    (n + d.length ≤ 32 →
      toECDSAUnsafe curve (List.replicate n 0 ++ d) = toECDSAUnsafe curve d) ∧
    (32 < n + d.length → 0 < beValue d → beValue d < secp256k1N →
      toECDSAUnsafe curve (List.replicate n 0 ++ d) =
        .error (.call "can't handle scalars > 256 bits")) := by
  constructor
  · intro h
    simp only [toECDSAUnsafe, toECDSA, Bool.false_and, Bool.false_eq_true, if_false,
      beValue_replicate_zero_append, scalarBaseMult_replicate_zero_append h]
  · intro h h0 hN
    have hp : curve.scalarBaseMult (List.replicate n 0 ++ d) =
        .error (.call "can't handle scalars > 256 bits") := if_pos (by simpa using h)
    simp only [toECDSAUnsafe, toECDSA, Bool.false_and, Bool.false_eq_true, if_false,
      beValue_replicate_zero_append, hp, ge_iff_le, sign_le_zero_iff]
    rw [if_neg (by omega), if_neg (by omega)]
    rfl

theorem toECDSAUnsafe_replicate_zero_append_sample :
    toECDSAUnsafe sampleCurve (List.replicate 3 0 ++ [1]) = toECDSAUnsafe sampleCurve [1] ∧
      toECDSAUnsafe sampleCurve (List.replicate 32 0 ++ [1]) =
        .error (.call "can't handle scalars > 256 bits") :=
  ⟨(toECDSAUnsafe_replicate_zero_append sampleCurve 3 [1]).1 (by decide),
    (toECDSAUnsafe_replicate_zero_append sampleCurve 32 [1]).2 (by decide) (by decide)
      (by decide)⟩

end toECDSA

/-- `DerToECDSA` returns a key exactly on a parsed `ECPrivateKey` of version 1 whose key the
strict `toECDSA` accepts. -/
theorem derToECDSA_ok_iff {curve : Curve} {asn1 : Asn1} {der : Bytes} {key : PrivateKey} :
    derToECDSA curve asn1 der = .ok (.ok key) ↔
      ∃ privKey, asn1.unmarshalECPrivateKey der = .ok privKey ∧ privKey.version = 1 ∧
        toECDSA curve privKey.privateKey true = .ok (.ok key) := by
  unfold derToECDSA
  rcases asn1.unmarshalECPrivateKey der with err | privKey
  · simp [pure, Except.pure]
  · by_cases hv : privKey.version = 1 <;> simp [hv, ecPrivKeyVersion, pure, Except.pure]

section strict

variable {curve : Curve} (hbits : curve.bitSize = 256)
include hbits

/-- On a curve of 256 bits whose multiplication gives a point on every valid scalar, the strict
`toECDSA` returns a key exactly on the 32-byte scalars whose value lies in `1`..`N - 1`. -/
theorem toECDSA_strict_ok_iff
    (hmult : ∀ d : Bytes, d.length = 32 → 0 < beValue d → beValue d < secp256k1N →
      (curve.mulBase d).1.isSome) (d : Bytes) :
    (∃ key, toECDSA curve d true = .ok (.ok key)) ↔
      d.length = 32 ∧ 0 < beValue d ∧ beValue d < secp256k1N := by
  constructor
  · rintro ⟨key, h⟩
    obtain ⟨hl, h0, hN, -⟩ := toECDSA_ok_iff.mp h
    exact ⟨by have := hl rfl; omega, h0, hN⟩
  · rintro ⟨hl, h0, hN⟩
    obtain ⟨x, hx⟩ := Option.isSome_iff_exists.mp (hmult d hl h0 hN)
    exact ⟨_, toECDSA_ok_iff.mpr ⟨fun _ => by omega, h0, hN, x, _,
      by rw [scalarBaseMult_of_length hl, ← hx], rfl⟩⟩

/-- The key the strict `toECDSA` returns is the scalar's value with the point the 32-byte
multiplication gives. -/
theorem toECDSA_strict_key {d : Bytes} {key : PrivateKey}
    (h : toECDSA curve d true = .ok (.ok key)) :
    key = ⟨beValue d, ⟨(curve.mulBase d).1, (curve.mulBase d).2⟩⟩ := by
  obtain ⟨hl, -, -, x, y, hxy, rfl⟩ := toECDSA_ok_iff.mp h
  rw [scalarBaseMult_of_length (by have := hl rfl; omega), Except.ok.injEq] at hxy
  rw [hxy]

/-- `DerToECDSA` never panics: it hands only the strict `toECDSA` a scalar. -/
theorem derToECDSA_no_panic (asn1 : Asn1) (der : Bytes) :
    ∃ r, derToECDSA curve asn1 der = .ok r := by
  unfold derToECDSA
  rcases asn1.unmarshalECPrivateKey der with err | privKey
  · exact ⟨_, rfl⟩
  · dsimp only
    split_ifs
    · exact ⟨_, rfl⟩
    · exact toECDSA_strict_ok hbits _

end strict

/-- Private-key import accepts exactly the valid secp256k1 scalars. On a curve of 256 bits whose
base-point multiplication gives a point on every such scalar, `ToECDSA` returns a key exactly on
32 bytes whose value `D` lies in `1`..`N - 1`, the key of `D` and of the point the
multiplication gives; `DerToECDSA` returns one exactly on an `ECPrivateKey` of version 1 whose
key is such a scalar; and neither ever panics. -/
theorem toECDSA_valid_scalars {curve : Curve} (hbits : curve.bitSize = 256)
    (hmult : ∀ d : Bytes, d.length = 32 → 0 < beValue d → beValue d < secp256k1N →
      (curve.mulBase d).1.isSome) :
    (∀ d, (∃ key, ToECDSA curve d = .ok (.ok key)) ↔
        d.length = 32 ∧ 0 < beValue d ∧ beValue d < secp256k1N) ∧
      (∀ d key, ToECDSA curve d = .ok (.ok key) →
        key = ⟨beValue d, ⟨(curve.mulBase d).1, (curve.mulBase d).2⟩⟩) ∧
      (∀ asn1 der, (∃ key, derToECDSA curve asn1 der = .ok (.ok key)) ↔
        ∃ privKey, asn1.unmarshalECPrivateKey der = .ok privKey ∧ privKey.version = 1 ∧
          privKey.privateKey.length = 32 ∧ 0 < beValue privKey.privateKey ∧
          beValue privKey.privateKey < secp256k1N) ∧
      (∀ d, ∃ r, ToECDSA curve d = .ok r) ∧ ∀ asn1 der, ∃ r, derToECDSA curve asn1 der = .ok r := by
  have hacc := toECDSA_strict_ok_iff hbits hmult
  refine ⟨hacc, fun _ _ => toECDSA_strict_key hbits, fun asn1 der => ?_, toECDSA_strict_ok hbits,
    derToECDSA_no_panic hbits⟩
  simp only [derToECDSA_ok_iff]
  constructor
  · rintro ⟨key, privKey, hu, hv, hk⟩
    exact ⟨privKey, hu, hv, (hacc _).mp ⟨key, hk⟩⟩
  · rintro ⟨privKey, hu, hv, hvalid⟩
    obtain ⟨key, hk⟩ := (hacc _).mpr hvalid
    exact ⟨key, privKey, hu, hv, hk⟩

/-- At the boundaries: the largest scalar `N - 1` is accepted, and `N`, and a 31-byte scalar,
are refused. -/
theorem toECDSA_valid_scalars_boundary :
    (∃ key, ToECDSA sampleCurve (beBytes (secp256k1N - 1)) = .ok (.ok key)) ∧
      (¬ ∃ key, ToECDSA sampleCurve (beBytes secp256k1N) = .ok (.ok key)) ∧
      ¬ ∃ key, ToECDSA sampleCurve (List.replicate 31 0xFF) = .ok (.ok key) := by
  obtain ⟨h, -⟩ := @toECDSA_valid_scalars sampleCurve rfl fun _ _ _ _ => rfl
  refine ⟨(h _).mpr ⟨by decide, ?_⟩, fun hk => ?_, fun hk => ?_⟩
  · rw [beValue_beBytes]
    decide
  · have := ((h _).mp hk).2.2
    rw [beValue_beBytes] at this
    exact Nat.lt_irrefl _ this
  · exact absurd ((h _).mp hk).1 (by decide)

/-- The loop of `zeroBytes` has zeroed the first `n` bytes after `n` rounds. -/
theorem foldl_set_zero (bytes : Bytes) :
    ∀ n ≤ bytes.length, (List.range n).foldl (fun b i => b.set i 0) bytes =
      List.replicate n 0 ++ bytes.drop n
  | 0, _ => rfl
  | n + 1, hn => by
    rw [List.range_succ, List.foldl_append, foldl_set_zero bytes n (by omega), List.foldl_cons,
      List.foldl_nil, List.drop_eq_getElem_cons (by omega), List.set_append_right _ _ (by simp),
      List.length_replicate, Nat.sub_self, List.set_cons_zero, List.replicate_succ',
      List.append_assoc, List.singleton_append]

/-- `zeroBytes` zeroes every byte. -/
theorem zeroBytes_eq (bytes : Bytes) : zeroBytes bytes = List.replicate bytes.length 0 := by
  rw [zeroBytes, foldl_set_zero bytes bytes.length le_rfl, List.drop_length, List.append_nil]

end Crypto
