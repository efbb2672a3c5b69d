import DiodeClient.Rlp.Basic

/-!
This module contains the parts of Go's standard library the modelled code calls: `bytes.Contains`,
the integer conversions of `math/big` and of Go's `int64`, and `strings.ToLower` with the
`unicode/utf8` decoding and encoding of runes it is built on. `unicode.ToLower` is a table of the
Unicode standard; it enters as a parameter, through the facts about it the codec depends on.
-/

namespace Go

/-- The Go panics the modelled code can raise: the run-time errors, and calls of `panic`. -/
inductive Panic where
  | indexOutOfRange
  | sliceBoundsOutOfRange
  /-- A failed type assertion `x.(T)`. -/
  | typeAssertion
  /-- A call `panic(v)` with the text `v`. -/
  | call (value : String)
  deriving DecidableEq, Repr

/-- `bytes.Contains(b, sub)`: whether `sub` occurs in `b`. -/
def bytesContains (b sub : Bytes) : Bool :=
  sub.isPrefixOf b ||
    match b with
    | [] => false
    | _ :: b' => bytesContains b' sub

/-- `int64(x)` of a `uint64`, and `int(x)` on a 64-bit platform: the same bits read in two's
complement. -/
def int64 (n : UInt64) : Int :=
  if n.toNat < 2 ^ 63 then n.toNat else (n.toNat : Int) - 2 ^ 64

/-- `new(big.Int).SetBytes(b).Uint64()`: the big-endian value of `b`, its low 64 bits. -/
def bigUint64 (b : Bytes) : UInt64 :=
  UInt64.ofNat (Rlp.beValue b)

/-- `new(big.Int).SetBytes(b).Int64()`: the low 64 bits of the big-endian value of `b`, read in
two's complement. -/
def bigInt64 (b : Bytes) : Int :=
  int64 (bigUint64 b)

/-- `utf8.RuneError`, U+FFFD. -/
def runeError : Nat := 0xFFFD

/-- Whether a byte lies in `lo`..`hi`, the accepted range of a continuation byte. -/
def inRange (lo hi : Nat) (b : UInt8) : Bool :=
  lo ≤ b.toNat && b.toNat ≤ hi

/-- `utf8.DecodeRune`: the first rune of `s` and its width. An invalid or truncated sequence
reads as `RuneError` of width one. The masks `p0 & mask2` and `b & maskx` are written as the
remainders they compute. -/
def decodeRune : Bytes → Nat × Nat
  | [] => (runeError, 0)
  | b0 :: rest =>
    let x := b0.toNat
    if x < 0x80 then (x, 1)
    else if x < 0xC2 then (runeError, 1)
    else if x < 0xE0 then
      match rest with
      | b1 :: _ =>
        if inRange 0x80 0xBF b1 then ((x % 32) * 64 + b1.toNat % 64, 2) else (runeError, 1)
      | [] => (runeError, 1)
    else if x < 0xF0 then
      match rest with
      | b1 :: b2 :: _ =>
        if inRange (if x = 0xE0 then 0xA0 else 0x80) (if x = 0xED then 0x9F else 0xBF) b1 &&
            inRange 0x80 0xBF b2 then
          (((x % 16) * 64 + b1.toNat % 64) * 64 + b2.toNat % 64, 3)
        else (runeError, 1)
      | _ => (runeError, 1)
    else if x < 0xF5 then
      match rest with
      | b1 :: b2 :: b3 :: _ =>
        if inRange (if x = 0xF0 then 0x90 else 0x80) (if x = 0xF4 then 0x8F else 0xBF) b1 &&
            inRange 0x80 0xBF b2 && inRange 0x80 0xBF b3 then
          ((((x % 8) * 64 + b1.toNat % 64) * 64 + b2.toNat % 64) * 64 + b3.toNat % 64, 4)
        else (runeError, 1)
      | _ => (runeError, 1)
    else (runeError, 1)

/-- `utf8.AppendRune`: the UTF-8 bytes of a rune; a surrogate half or a value past U+10FFFF is
written as `RuneError`. -/
def encodeRune (r : Nat) : Bytes :=
  if r < 0x80 then [UInt8.ofNat r]
  else if r < 0x800 then [UInt8.ofNat (0xC0 + r / 64), UInt8.ofNat (0x80 + r % 64)]
  else if (0xD800 ≤ r ∧ r ≤ 0xDFFF) ∨ 0x10FFFF < r then [0xEF, 0xBF, 0xBD]
  else if r < 0x10000 then
    [UInt8.ofNat (0xE0 + r / 4096), UInt8.ofNat (0x80 + r / 64 % 64), UInt8.ofNat (0x80 + r % 64)]
  else
    [UInt8.ofNat (0xF0 + r / 262144), UInt8.ofNat (0x80 + r / 4096 % 64),
      UInt8.ofNat (0x80 + r / 64 % 64), UInt8.ofNat (0x80 + r % 64)]

/-- `strings.Map(mapping, s)` for a mapping that drops no rune: every rune of `s`, an invalid
byte read as `RuneError`, replaced by the encoding of its image. Every rune is at least one
byte wide, so a `fuel` of `s.length` is enough. -/
def mapRunes (mapping : Nat → Nat) : Nat → Bytes → Bytes
  | 0, _ => []
  | _ + 1, [] => []
  | fuel + 1, s@(_ :: _) =>
    encodeRune (mapping (decodeRune s).1) ++ mapRunes mapping fuel (s.drop (decodeRune s).2)

/-- The ASCII case mapping of `strings.ToLower`'s fast path. -/
def asciiToLower (c : UInt8) : UInt8 :=
  if 0x41 ≤ c.toNat ∧ c.toNat ≤ 0x5A then UInt8.ofNat (c.toNat + 0x20) else c

/-- `unicode.ToLower`, through what the codec depends on: it lower-cases `A` to `Z` and keeps the
rest of ASCII, and the only runes outside ASCII it maps into ASCII are U+0130 and U+212A, sent
to `i` and `k`. -/
structure ToLowerRune where
  toLower : Nat → Nat
  ascii : ∀ r, r < 0x80 → toLower r = if 0x41 ≤ r ∧ r ≤ 0x5A then r + 0x20 else r
  nonAscii : ∀ r, 0x80 ≤ r → toLower r < 0x80 → toLower r = 0x69 ∨ toLower r = 0x6B

/-- `strings.ToLower`: the ASCII fast path, or `strings.Map(unicode.ToLower, s)`. -/
def toLower (lower : ToLowerRune) (s : Bytes) : Bytes :=
  if s.all (·.toNat < 0x80) then s.map asciiToLower else mapRunes lower.toLower s.length s

end Go
