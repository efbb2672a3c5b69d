import DiodeClient.Rlp.Basic

/-!
This module contains the decoder of the rlp package as the edge code drives it:
`rlp.NewStream(bytes.NewReader(buffer), 0).Decode(&v)` reads one value of the buffer into a Go
struct, field by field. Each Go type gets its decoder from the readers here, as the package
builds one per type by reflection: `uint` for `uint64`, `bytes` for `[]byte` and `string`,
`struct` with `field` for structs, `slice` for slices and `iface` for `interface{}`.
The spec asks for failures that carry the offending field path; `field` keeps that path.
-/

namespace Rlp

/-- The errors the decoder reports. -/
inductive RlpError where
  /-- `io.EOF`: nothing left to read at the top level. -/
  | eof
  /-- `rlp.EOL`: the end of the list being read. -/
  | eol
  | canonSize
  | canonInt
  | expectedString
  | expectedList
  | elemTooLarge
  | valueTooLarge
  | uintOverflow
  | tooFewElements
  | tooManyElements
  deriving DecidableEq, Repr

/-- A decoding error and the field path it was met at, outermost field first. -/
structure DecodeError where
  kind : RlpError
  path : List String
  deriving DecidableEq, Repr

/-- Where a read stands: the unread bytes of the innermost list being read, or of the whole
input at the top level. -/
structure Stream where
  input : Bytes
  inList : Bool

/-- A reader of one Go value, the decoder the rlp package makes for its type. -/
abbrev Decoder (α : Type) := StateT Stream (Except DecodeError) α

/-- What `Stream.Kind` reports of the next value, with the bytes it spans. -/
inductive Kind where
  /-- A single byte below 0x80, its own encoding. -/
  | byte (b : UInt8)
  | string (payload : Bytes)
  | list (content : Bytes)

/-- The error of a value longer than what holds it: the list, or the input. -/
def Stream.tooLarge (s : Stream) : DecodeError :=
  ⟨if s.inList then .elemTooLarge else .valueTooLarge, []⟩

/-- The next `size` bytes, if what holds the value has that many. -/
def payload (s : Stream) (size : Nat) (bs : Bytes) : Except DecodeError (Bytes × Bytes) :=
  if size ≤ bs.length then .ok (bs.take size, bs.drop size) else .error s.tooLarge

/-- `readUint` for the size of a long string or list: `k` big-endian bytes, refused with a
leading zero or below 56, since a shorter header exists for those sizes. -/
def readSize (s : Stream) (k : Nat) (bs : Bytes) : Except DecodeError (Nat × Bytes) := do
  let (sizeBytes, bs) ← payload s k bs
  if 2 ≤ k ∧ sizeBytes.head? = some 0 then throw ⟨.canonSize, []⟩
  let size := beValue sizeBytes
  if size < 56 then throw ⟨.canonSize, []⟩
  pure (size, bs)

/-- `Stream.Kind` followed by the read of the value it reports. -/
def next : Decoder Kind := fun s =>
  match s.input with
  | [] => .error ⟨if s.inList then .eol else .eof, []⟩
  | b :: bs =>
    if b.toNat < 0x80 then .ok (.byte b, ⟨bs, s.inList⟩)
    else if b.toNat < 0xB8 then
      (payload s (b.toNat - 0x80) bs).map fun (p, bs) => (.string p, ⟨bs, s.inList⟩)
    else if b.toNat < 0xC0 then do
      let (size, bs) ← readSize s (b.toNat - 0xB7) bs
      let (p, bs) ← payload s size bs
      pure (.string p, ⟨bs, s.inList⟩)
    else if b.toNat < 0xF8 then
      (payload s (b.toNat - 0xC0) bs).map fun (c, bs) => (.list c, ⟨bs, s.inList⟩)
    else do
      let (size, bs) ← readSize s (b.toNat - 0xF7) bs
      let (c, bs) ← payload s size bs
      pure (.list c, ⟨bs, s.inList⟩)

/-- Read the next value and interpret it with `f`. -/
def readWith (f : Kind → Except DecodeError α) : Decoder α := fun s =>
  match next s with
  | .ok (k, s') => (f k).map fun a => (a, s')
  | .error e => .error e

/-- `Stream.Bytes` on the value `next` read: a single byte below 0x80 written behind a header
is refused. -/
def Kind.toBytes : Kind → Except DecodeError Bytes
  | .byte b => .ok [b]
  | .string [b] => if b.toNat < 0x80 then .error ⟨.canonSize, []⟩ else .ok [b]
  | .string p => .ok p
  | .list _ => .error ⟨.expectedString, []⟩

/-- `Stream.Uint` on the value `next` read: an unsigned integer of at most eight bytes, in its
shortest encoding. -/
def Kind.toUint : Kind → Except DecodeError UInt64
  | .byte b => if b = 0 then .error ⟨.canonInt, []⟩ else .ok b.toUInt64
  | .string p =>
    if 8 < p.length then .error ⟨.uintOverflow, []⟩
    else if 2 ≤ p.length ∧ p.head? = some 0 then .error ⟨.canonInt, []⟩
    else if p.length = 1 ∧ beValue p < 128 then .error ⟨.canonSize, []⟩
    else .ok (UInt64.ofNat (beValue p))
  | .list _ => .error ⟨.expectedString, []⟩

/-- The reader of `[]byte` and `string` fields. -/
def bytes : Decoder Bytes :=
  readWith Kind.toBytes

/-- The reader of `uint64` fields. -/
def uint : Decoder UInt64 :=
  readWith Kind.toUint

/-- Run `d` on the content of a list, which it must use up (`Stream.ListEnd`), then go on
after the list. -/
def within (d : Decoder α) (content : Bytes) (after : Stream) :
    Except DecodeError (α × Stream) :=
  match d ⟨content, true⟩ with
  | .ok (a, inner) => if inner.input = [] then .ok (a, after) else .error ⟨.tooManyElements, []⟩
  | .error e => .error e

/-- `Stream.List`, the reader `d` of its content, and `Stream.ListEnd`: the reader of a
struct whose fields `d` reads. -/
def list (d : Decoder α) : Decoder α := fun s =>
  match next s with
  | .ok (.list content, s') => within d content s'
  | .ok _ => .error ⟨.expectedList, []⟩
  | .error e => .error e

/-- A struct field: reaching the end of the struct's list is "too few elements", and every
other error gets the field's name in front of its path. -/
def field (name : String) (d : Decoder α) : Decoder α := fun s =>
  match d s with
  | .ok r => .ok r
  | .error e =>
    .error (if e.kind = .eol then ⟨.tooFewElements, []⟩ else { e with path := name :: e.path })

/-- The elements of a list from index `i` on, each read by `d`, up to the list's end; every
element uses up at least one byte, so `fuel` above the content's length is enough. -/
def elems (d : Decoder α) : Nat → Nat → Decoder (List α)
  | 0, _ => pure []
  | fuel + 1, i => fun s =>
    if s.input = [] then .ok ([], s)
    else (do
      let a ← field s!"[{i}]" d
      let as ← elems d fuel (i + 1)
      pure (a :: as)) s

/-- The reader of a slice field whose elements `d` reads. -/
def slice (d : Decoder α) : Decoder (List α) :=
  list fun s => elems d (s.input.length + 1) 0 s

/-- `decodeInterface` with a budget: a list becomes the list of its elements, anything else
the bytes `Stream.Bytes` gives. -/
def item : Nat → Decoder Item
  | 0 => fun s => .error s.tooLarge
  | fuel + 1 => fun s =>
    match next s with
    | .ok (.list content, s') =>
      within (fun t => elems (item fuel) (t.input.length + 1) 0 t) content s' |>.map
        fun (its, s'') => (.list its, s'')
    | .ok (k, s') => k.toBytes.map fun b => (.bytes b, s')
    | .error e => .error e

/-- The reader of an `interface{}` field. -/
def iface : Decoder Item := fun s =>
  item (s.input.length + 1) s

/-- The reader of a `[]interface{}` field. -/
def ifaces : Decoder (List Item) :=
  slice iface

/-- `rlp.NewStream(bytes.NewReader(buffer), 0).Decode`: one value read from the start of the
buffer; what follows it is left unread. -/
def decode (d : Decoder α) (buffer : Bytes) : Except DecodeError α :=
  d.run' ⟨buffer, false⟩

end Rlp
