import DiodeClient.Rlp.Stream
import DiodeClient.Go.Strings

/-!
This module contains the values the edge codec produces and consumes: the records its parsers
return, the Go errors it reports, the run-time panics its code can raise, and the
collaborators outside the sources it calls. A record keeps the fields the parsers set.
-/

namespace Edge

open Rlp Go

/-- A Go `[20]byte` array. -/
def Bytes20 := { b : Bytes // b.length = 20 }

instance : Inhabited Bytes20 := ⟨⟨List.replicate 20 0, List.length_replicate 20 0⟩⟩

/-- `copy(dst[:], src)` into a zero `[20]byte`: the first twenty bytes of `src`, then zeros. -/
def Bytes20.copyFrom (src : Bytes) : Bytes20 :=
  ⟨(src ++ List.replicate 20 0).take 20, by simp⟩

/-- `blockquick.BlockHeader` as `blockquick.NewHeader` is given it. -/
structure BlockHeader where
  txHash : Bytes
  stateHash : Bytes
  prevBlock : Bytes
  minerSig : Bytes
  minerPubkey : Bytes
  timestamp : UInt64
  number : UInt64
  nonce : UInt64

/-- The Go `error` values the edge codec returns. -/
inductive GoError where
  /-- An error of the rlp decoder. -/
  | rlp (e : DecodeError)
  /-- `errKeyNotFoundInItems`, "key not found". -/
  | keyNotFoundInItems
  /-- `ErrFailedToParseTicket`, "failed to parse ticket". -/
  | failedToParseTicket
  /-- `ErrResponseHandlerNotFound`, "couldn't find handler for response". -/
  | responseHandlerNotFound
  /-- `ErrRPCNotSupport`, "rpc method not support". -/
  | rpcNotSupport
  /-- `ErrTicketTooLow`, declared outside the sources. -/
  | ticketTooLow
  /-- `ErrTicketTooOld`, declared outside the sources. -/
  | ticketTooOld
  /-- "Blockhash != real hash %v %v", with the claimed hash and the header. -/
  | blockHashMismatch (claimed : Bytes) (header : BlockHeader)
  /-- An error of a collaborator outside the sources. -/
  | external (text : String)

/-- `DeviceTicket`; every field defaults to its Go zero value. -/
structure DeviceTicket where
  serverID : Bytes20 := default
  blockNumber : Int := 0
  blockHash : Bytes := []
  fleetAddr : Bytes20 := default
  totalConnections : UInt64 := 0
  totalBytes : UInt64 := 0
  localAddr : Bytes := []
  deviceSig : Bytes := []
  serverSig : Bytes := []
  err : Option GoError := none

/-- `MerkleTreeLeave`, a leaf of a proof: its key and value. -/
structure MerkleTreeLeave where
  key : Bytes
  value : Bytes

/-- `MerkleTree` as `NewMerkleTree` fills it. -/
structure MerkleTree where
  rawTree : List Item
  rootHash : Bytes := []
  module : UInt64 := 0
  leaves : List MerkleTreeLeave := []

structure Account where
  storageRoot : Bytes
  nonce : Int
  code : Bytes
  balance : Int
  stateTree : MerkleTree

structure AccountValue where
  accountTree : MerkleTree

structure AccountRoots where
  accountRoots : List Bytes

structure StateRoots where
  stateRoots : List Bytes

structure ServerObj where
  host : Bytes
  edgePort : UInt64
  serverPort : UInt64
  sig : Bytes

/-- `PortOpen`; every field defaults to its Go zero value. -/
structure PortOpen where
  port : UInt64 := 0
  ref : UInt64 := 0
  rawDeviceID : Bytes := []
  deviceID : Bytes := []
  ok : Bool := false

structure PortSend where
  ref : UInt64
  data : Bytes
  ok : Bool

structure PortClose where
  ref : UInt64
  ok : Bool

structure Goodbye where
  reason : Bytes

/-- `Error`, what `parseError` makes of an error envelope. -/
structure Error where
  message : Bytes

/-- `Message`, an encoded envelope and its length. -/
structure Message where
  len : Nat
  buffer : Bytes

/-- A key-value pair of the item lists of header and account replies. -/
structure KeyValue where
  key : Bytes
  value : Bytes

/-- The `Block` of a `getblock` reply. -/
structure Block where
  coinbase : Bytes
  header : List Item
  receipts : List Item
  transactions : List Item

/-- `blockResponse`, which `parseBlockResponse` returns whole. -/
structure BlockResponse where
  requestID : UInt64
  type : Bytes
  method : Bytes
  block : Block

/-- The fields of a ticket reply the ticket parser reads. -/
structure TicketReply where
  blockHash : Bytes
  totalConnections : UInt64
  totalBytes : UInt64
  localAddr : Bytes
  deviceSig : Bytes

/-- The `Ticket` of a `getobject` reply, as the server sends it. -/
structure ObjectTicket where
  serverID : Bytes
  peakBlock : UInt64
  fleetAddr : Bytes
  totalConnections : UInt64
  totalBytes : UInt64
  deviceSig : Bytes
  serverSig : Bytes
  localAddr : Bytes

/-- The values the response parsers return as an `interface{}`. -/
inductive Response where
  | blockNumber (n : UInt64)
  | block (response : BlockResponse)
  /-- A `*blockquick.BlockHeader`. -/
  | header (header : BlockHeader)
  | blockquick (items : List UInt64)
  /-- A `DeviceTicket` value. -/
  | ticket (ticket : DeviceTicket)
  /-- A `*DeviceTicket`. -/
  | deviceObject (ticket : DeviceTicket)
  | account (account : Account)
  | accountRoots (roots : AccountRoots)
  | accountValue (value : AccountValue)
  | portOpen (portOpen : PortOpen)
  | serverObj (obj : ServerObj)
  | stateRoots (roots : StateRoots)

/-- The values the inbound request parsers return as an `interface{}`. -/
inductive Request where
  | portOpen (portOpen : PortOpen)
  | portSend (portSend : PortSend)
  | portClose (portClose : PortClose)
  | goodbye (goodbye : Goodbye)

/-- The collaborators of the codec outside the sources: secp256k1 key decompression, the light
client's header constructor and header hash, and the Merkle proof parser. -/
structure External where
  decompressPubkeyBytes : Bytes → Bytes
  newHeader : BlockHeader → Except GoError BlockHeader
  hash : BlockHeader → Bytes
  parseProof : List Item → Except GoError (Bytes × UInt64 × List MerkleTreeLeave)

/-- An argument of `NewMessage`: an `interface{}` holding one of the types its methods assert. -/
inductive Arg where
  | uint64 (n : UInt64)
  | bytes (b : Bytes)
  | string (s : Bytes)

/-- The types the methods of `NewMessage` assert their arguments to have. -/
inductive ArgKind where
  | uint64
  | bytes
  | string
  deriving DecidableEq, Repr

/-- The values of each type. -/
def ArgKind.type : ArgKind → Type
  | .uint64 => UInt64
  | .bytes => Bytes
  | .string => Bytes

/-- The dynamic type of an argument. -/
def Arg.kind : Arg → ArgKind
  | .uint64 _ => .uint64
  | .bytes _ => .bytes
  | .string _ => .string

/-- The value of an argument, if it has type `k`. -/
def Arg.cast : (a : Arg) → (k : ArgKind) → Option k.type
  | .uint64 n, .uint64 => some n
  | .bytes b, .bytes => some b
  | .string s, .string => some s
  | _, _ => none

/-- `args[i].(k)`: a missing argument panics with an index out of range, and one of another type
fails the assertion. -/
def Arg.assertAt (k : ArgKind) (args : List Arg) (i : Nat) : Except Panic k.type :=
  match args[i]? with
  | some a =>
    match a.cast k with
    | some x => .ok x
    | none => .error .typeAssertion
  | none => .error .indexOutOfRange

/-- `args[i].(uint64)`. -/
def Arg.uint64At (args : List Arg) (i : Nat) : Except Panic UInt64 :=
  Arg.assertAt .uint64 args i

/-- `args[i].([]byte)`. -/
def Arg.bytesAt (args : List Arg) (i : Nat) : Except Panic Bytes :=
  Arg.assertAt .bytes args i

/-- `args[i].(string)`. -/
def Arg.stringAt (args : List Arg) (i : Nat) : Except Panic Bytes :=
  Arg.assertAt .string args i

end Edge
