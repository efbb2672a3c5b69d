import DiodeClient.Edge.Types

/-!
This module contains the message structs of the edge protocol as the rlp package reads and
writes them. Their Go declarations are not part of the sources. Following the spec, every
message is an envelope `[RequestID, payload]`; a request payload starts with its method name,
a response payload with the tag `"response"` and the method name, and the fields follow in
the order the parsers and `NewMessage` use them.
-/

namespace Edge

open Rlp Go

/-- Modelled from the spec: the request structs are not part of the sources. A request as
`rlp.EncodeToBytes` writes it: its `RequestID` and the list of its payload's fields. -/
def request (requestID : UInt64) (payload : List Item) : Bytes :=
  (Item.list [uintItem requestID, .list payload]).encode

/-- Modelled from the spec: a response as the server writes it, a request whose payload starts
with the tag `"response"` and the method name. -/
def response (requestID : UInt64) (method : Bytes) (fields : List Item) : Bytes :=
  request requestID (.bytes (ascii "response") :: .bytes method :: fields)

/-- Modelled from the spec: the envelope of every message struct, `RequestID` and then the
`Payload` struct, whose fields `payload` reads. -/
def envelope (payload : Decoder α) : Decoder α :=
  list do
    let _ ← field "RequestID" uint
    field "Payload" (list payload)

/-- The first fields of a response payload: its `Type`, and its `Method`. -/
def responseHead (rest : Decoder α) : Decoder α := do
  let _ ← field "Type" bytes
  let _ ← field "Method" bytes
  rest

/-- The first field of an inbound request payload, its `Method`. -/
def requestHead (rest : Decoder α) : Decoder α := do
  let _ ← field "Method" bytes
  rest

/-- Modelled from the spec: an element of the `Items` of header and account replies. -/
def item : Decoder KeyValue :=
  list do
    let key ← field "Key" bytes
    let value ← field "Value" bytes
    pure ⟨key, value⟩

/-- Modelled from the spec: a key-value pair as the server writes it. -/
def KeyValue.toItem (kv : KeyValue) : Item :=
  .list [.bytes kv.key, .bytes kv.value]

/-- Modelled from the spec: `blockPeakResponse`. -/
def blockPeakResponse : Decoder UInt64 :=
  envelope <| responseHead <| field "BlockNumber" uint

/-- Modelled from the spec: the `Block` of a `getblock` reply, with the fields the parser's
comments name. -/
def block : Decoder Block :=
  list do
    let coinbase ← field "Coinbase" bytes
    let header ← field "Header" ifaces
    let receipts ← field "Receipts" ifaces
    let transactions ← field "Transactions" ifaces
    pure ⟨coinbase, header, receipts, transactions⟩

/-- Modelled from the spec: `blockResponse`. -/
def blockResponse : Decoder BlockResponse :=
  list do
    let requestID ← field "RequestID" uint
    let (type, method, blk) ← field "Payload" <| list do
      let type ← field "Type" bytes
      let method ← field "Method" bytes
      let blk ← field "Block" block
      pure (type, method, blk)
    pure ⟨requestID, type, method, blk⟩

/-- Modelled from the spec: `blockHeaderResponse`, its `Items` and `MinerPubkey`. -/
def blockHeaderResponse : Decoder (List KeyValue × Bytes) :=
  envelope <| responseHead do
    let items ← field "Items" (slice item)
    let minerPubkey ← field "MinerPubkey" bytes
    pure (items, minerPubkey)

/-- Modelled from the spec: `blockquickResponse`, its `Items`. -/
def blockquickResponse : Decoder (List UInt64) :=
  envelope <| responseHead <| field "Items" (slice uint)

/-- Modelled from the spec: the ticket replies, `Result` followed by the fields the server
reports back. -/
def ticketResponse : Decoder TicketReply :=
  envelope <| responseHead do
    let _ ← field "Result" bytes
    let blockHash ← field "BlockHash" bytes
    let totalConnections ← field "TotalConnections" uint
    let totalBytes ← field "TotalBytes" uint
    let localAddr ← field "LocalAddr" bytes
    let deviceSig ← field "DeviceSig" bytes
    pure ⟨blockHash, totalConnections, totalBytes, localAddr, deviceSig⟩

/-- Modelled from the spec: the fields of a ticket reply as the server writes them, after its
`Type` and `Method`. -/
def ticketReplyFields (result : Bytes) (r : TicketReply) : List Item :=
  [.bytes result, .bytes r.blockHash, uintItem r.totalConnections, uintItem r.totalBytes,
    .bytes r.localAddr, .bytes r.deviceSig]

/-- Modelled from the spec: the `Block` of a `getblock` reply as the server writes it. -/
def Block.toItem (b : Block) : Item :=
  .list [.bytes b.coinbase, .list b.header, .list b.receipts, .list b.transactions]

/-- Modelled from the spec: the `Ticket` of a `getobject` reply as the server writes it. -/
def ObjectTicket.toItem (t : ObjectTicket) : Item :=
  .list [.bytes t.serverID, uintItem t.peakBlock, .bytes t.fleetAddr, uintItem t.totalConnections,
    uintItem t.totalBytes, .bytes t.deviceSig, .bytes t.serverSig, .bytes t.localAddr]

/-- Modelled from the spec: the `ServerObject` of a `getnode` reply as the server writes it. -/
def ServerObj.toItem (o : ServerObj) : Item :=
  .list [.bytes o.host, uintItem o.edgePort, uintItem o.serverPort, .bytes o.sig]

/-- Modelled from the spec: `ticketThanksResponse`. -/
def ticketThanksResponse : Decoder TicketReply :=
  ticketResponse

/-- Modelled from the spec: `ticketTooLowResponse`. -/
def ticketTooLowResponse : Decoder TicketReply :=
  ticketResponse

/-- Modelled from the spec: `ticketTooOldResponse`. -/
def ticketTooOldResponse : Decoder TicketReply :=
  ticketResponse

/-- Modelled from the spec: `objectResponse`, whose `Ticket` is the device object. -/
def objectResponse : Decoder ObjectTicket :=
  envelope <| responseHead <| field "Ticket" <| list do
    let serverID ← field "ServerID" bytes
    let peakBlock ← field "PeakBlock" uint
    let fleetAddr ← field "FleetAddr" bytes
    let totalConnections ← field "TotalConnections" uint
    let totalBytes ← field "TotalBytes" uint
    let deviceSig ← field "DeviceSig" bytes
    let serverSig ← field "ServerSig" bytes
    let localAddr ← field "LocalAddr" bytes
    pure ⟨serverID, peakBlock, fleetAddr, totalConnections, totalBytes, deviceSig, serverSig,
      localAddr⟩

/-- Modelled from the spec: `accountResponse`, its `Items` and `MerkleProof`. -/
def accountResponse : Decoder (List KeyValue × List Item) :=
  envelope <| responseHead do
    let items ← field "Items" (slice item)
    let merkleProof ← field "MerkleProof" ifaces
    pure (items, merkleProof)

/-- Modelled from the spec: `accountRootsResponse`. -/
def accountRootsResponse : Decoder (List Bytes) :=
  envelope <| responseHead <| field "AccountRoots" (slice bytes)

/-- Modelled from the spec: `accountValueResponse`. -/
def accountValueResponse : Decoder (List Item) :=
  envelope <| responseHead <| field "MerkleProof" ifaces

/-- Modelled from the spec: `portOpenResponse`, its `Result` and `Ref`. -/
def portOpenResponse : Decoder (Bytes × UInt64) :=
  envelope <| responseHead do
    let result ← field "Result" bytes
    let ref ← field "Ref" uint
    pure (result, ref)

/-- Modelled from the spec: `serverObjectResponse`. -/
def serverObjectResponse : Decoder ServerObj :=
  envelope <| responseHead <| field "ServerObject" <| list do
    let host ← field "Host" bytes
    let edgePort ← field "EdgePort" uint
    let serverPort ← field "ServerPort" uint
    let serverSig ← field "ServerSig" bytes
    pure ⟨host, edgePort, serverPort, serverSig⟩

/-- Modelled from the spec: `stateRootsResponse`. -/
def stateRootsResponse : Decoder (List Bytes) :=
  envelope <| responseHead <| field "StateRoots" (slice bytes)

/-- Modelled from the spec: `portOpenInboundRequest`, its `Port`, `Ref` and `DeviceID`. -/
def portOpenInboundRequest : Decoder (UInt64 × UInt64 × Bytes) :=
  envelope <| requestHead do
    let port ← field "Port" uint
    let ref ← field "Ref" uint
    let deviceID ← field "DeviceID" bytes
    pure (port, ref, deviceID)

/-- Modelled from the spec: `portSendInboundRequest`, its `Ref` and `Data`. -/
def portSendInboundRequest : Decoder (UInt64 × Bytes) :=
  envelope <| requestHead do
    let ref ← field "Ref" uint
    let data ← field "Data" bytes
    pure (ref, data)

/-- Modelled from the spec: `portCloseInboundRequest`, its `Ref`. -/
def portCloseInboundRequest : Decoder UInt64 :=
  envelope <| requestHead <| field "Ref" uint

/-- Modelled from the spec: `goodbyeInboundRequest`, its `Reason`. -/
def goodbyeInboundRequest : Decoder Bytes :=
  envelope <| requestHead <| field "Reason" bytes

/-- The elements of a `[]string` read before decoding stopped: the element that fails is left
as the empty string and ends the slice, as `decodeSliceElems` leaves it. -/
def partialStrings : Nat → Stream → List Bytes
  | 0, _ => []
  | fuel + 1, s =>
    if s.input = [] then []
    else match bytes s with
      | .ok (x, s') => x :: partialStrings fuel s'
      | .error _ => [[]]

/-- Modelled from the spec: `errorResponse`, `RequestID` and a `[]string` payload. Its
`Payload` as `Decode` leaves it, whether or not decoding succeeds: empty when decoding stops
before the payload list, and the elements read so far when it stops inside it. -/
def errorResponsePayload (buffer : Bytes) : List Bytes :=
  match next ⟨buffer, false⟩ with
  | .ok (.list content, _) =>
    match uint ⟨content, true⟩ with
    | .ok (_, s) =>
      match next s with
      | .ok (.list payload, _) => partialStrings (payload.length + 1) ⟨payload, true⟩
      | _ => []
    | .error _ => []
  | _ => []

/-- Modelled from the spec: `responseID`. Its `RequestID` as `Decode` leaves it: zero unless
the first element of the envelope is read as a `uint64`. -/
def responseIDOf (buffer : Bytes) : UInt64 :=
  match next ⟨buffer, false⟩ with
  | .ok (.list content, _) =>
    match uint ⟨content, true⟩ with
    | .ok (n, _) => n
    | .error _ => 0
  | _ => 0

end Edge
