import DiodeClient.Go.Strings

/-!
This module contains the helpers of the `rpc` package: `EncodeToString` writes bytes as `0x`
followed by lower-case hex digits, `DecodeString` and `Decode` read such text back, after an
optional `0x` prefix, on top of Go's `encoding/hex`.
-/

namespace Rpc

open Go

/-- `prefixBytes`, the bytes of `prefix = "0x"`. -/
def prefixBytes : Bytes := ascii "0x"

/-- `prefixLength`, `len(prefix)`. -/
def prefixLength : Nat := 2

/-- `upperPrefixBytes`, the bytes of `upperPrefix = "0X"`. -/
def upperPrefixBytes : Bytes := ascii "0X"

/-- `upperPrefixLength`, `len(upperPrefix)`. -/
def upperPrefixLength : Nat := 2

/-- The hex digit of a value below sixteen, as `hex.Encode` takes it from `hextable`. -/
def hexDigit (v : Nat) : UInt8 :=
  if v < 10 then UInt8.ofNat (0x30 + v) else UInt8.ofNat (0x61 + v - 10)

/-- `hex.EncodeToString`: two lower-case digits per byte, high half first. -/
def hexEncodeToString (src : Bytes) : Bytes :=
  src.flatMap fun b => [hexDigit (b.toNat / 16), hexDigit (b.toNat % 16)]

/-- `fromHexChar`: the value of a hex digit of either case. -/
def fromHexChar (c : UInt8) : Option Nat :=
  if 0x30 ≤ c.toNat ∧ c.toNat ≤ 0x39 then some (c.toNat - 0x30)
  else if 0x61 ≤ c.toNat ∧ c.toNat ≤ 0x66 then some (c.toNat - 0x61 + 10)
  else if 0x41 ≤ c.toNat ∧ c.toNat ≤ 0x46 then some (c.toNat - 0x41 + 10)
  else none

/-- The errors of `encoding/hex`. -/
inductive HexError where
  /-- `InvalidByteError(b)`. -/
  | invalidByte (b : UInt8)
  /-- `ErrLength`, an odd number of digits. -/
  | length
  deriving DecidableEq, Repr

/-- `hex.Decode` as a function of its source: the bytes it writes to `dst`, in order, and its
error. A pair of digits is checked before its byte is written; an odd last digit is checked
before the length is refused. -/
def hexDecode : Bytes → Bytes × Option HexError
  | a :: b :: rest =>
    match fromHexChar a, fromHexChar b with
    | some x, some y => ((UInt8.ofNat (x * 16 + y)) :: (hexDecode rest).1, (hexDecode rest).2)
    | none, _ => ([], some (.invalidByte a))
    | some _, none => ([], some (.invalidByte b))
  | [a] => ([], some (if (fromHexChar a).isSome then .length else .invalidByte a))
  | [] => ([], none)

/-- `hex.Decode(dst, src)`: `dst` after the writes, the count and the error; writing past the
end of `dst` panics. -/
def hexDecodeInto (dst src : Bytes) : Except Panic (Bytes × Nat × Option HexError) :=
  let (out, err) := hexDecode src
  if dst.length < out.length then .error .indexOutOfRange
  else .ok (out ++ dst.drop out.length, out.length, err)

/-- `IsHex`. -/
def isHex (src : Bytes) : Bool :=
  if src.length < prefixLength then false else prefixBytes = src.take prefixLength

/-- `IsHexNumber`. -/
def isHexNumber (src : Bytes) : Bool :=
  if src.length < upperPrefixLength then false else upperPrefixBytes = src.take upperPrefixLength

/-- `EncodeToString`. -/
def encodeToString (src : Bytes) : Bytes :=
  ascii "0x" ++ hexEncodeToString src

/-- `DecodeString`: the string is lower-cased, and the slice expression `src[0:prefixLength]`
panics on a string shorter than the prefix. `hex.DecodeString` returns the bytes decoded before
an error along with it. -/
def decodeString (lower : ToLowerRune) (src : Bytes) : Except Panic (Bytes × Option HexError) :=
  let src := toLower lower src
  if src.length < prefixLength then .error .sliceBoundsOutOfRange
  else .ok (hexDecode (if prefixBytes = src.take prefixLength then src.drop 2 else src))

/-- `DecodeStringToInt`: `big.Int.Int64` of the decoded bytes, or of zero with the error. -/
def decodeStringToInt (lower : ToLowerRune) (src : Bytes) : Except Panic (Int × Option HexError) :=
  (decodeString lower src).map fun
    | (_, some err) => (0, some err)
    | (outByt, none) => (bigInt64 outByt, none)

/-- `Decode(dst, src)`. The slice `src` is given with `spare`, the bytes of its backing array
past its length up to its capacity: the expression `src[0:prefixLength]` panics only past the
capacity, and reads those bytes when the slice is shorter than the prefix. -/
def decode (dst src spare : Bytes) : Except Panic (Bytes × Nat × Option HexError) :=
  if src.length + spare.length < prefixLength then .error .sliceBoundsOutOfRange
  else if prefixBytes = (src ++ spare).take prefixLength then
    if src.length < 2 then .error .sliceBoundsOutOfRange else hexDecodeInto dst (src.drop 2)
  else hexDecodeInto dst src

end Rpc
