import DiodeClient.Edge.Messages
import DiodeClient.Util.Hex

/-!
This module contains the `RLP_V2` codec of the edge package: the parsers of response, error and
inbound request envelopes, the dispatch of an envelope to a parser by the method markers its
bytes contain, and the encoders of outbound messages. `RLP_V2` has no fields, so its methods
are plain functions here; the parsers that call a collaborator outside the sources take it.
-/

namespace Edge

open Rlp Go

def responsePivot : Bytes := ascii "response"
def errorPivot : Bytes := ascii "error"
def ticketTooOldPivot : Bytes := ascii "too_old"
def ticketTooLowPivot : Bytes := ascii "too_low"
def ticketThanksPivot : Bytes := ascii "thanks!"
def portOpenPivot : Bytes := ascii "portopen"
def portSendPivot : Bytes := ascii "portsend"
def portClosePivot : Bytes := ascii "portclose"
def goodbyePivot : Bytes := ascii "goodbye"
def blockPivot : Bytes := ascii "getblock"
def block2Pivot : Bytes := ascii "getblock2"
def blockHeaderPivot : Bytes := ascii "getblockheader"
def blockHeader2Pivot : Bytes := ascii "getblockheader2"
def blockquickPivot : Bytes := ascii "getblockquick"
def blockquick2Pivot : Bytes := ascii "getblockquick2"
def blockPeakPivot : Bytes := ascii "getblockpeak"
def accountRootsPivot : Bytes := ascii "getaccountroots"
def accountValuePivot : Bytes := ascii "getaccountvalue"
def accountPivot : Bytes := ascii "getaccount"
def stateRootsPivot : Bytes := ascii "getstateroots"
def objectPivot : Bytes := ascii "getobject"
def nodePivot : Bytes := ascii "getnode"
def ticketPivot : Bytes := ascii "getticket"

/-- `decodeStream.Decode(&response)` on a fresh stream over the buffer. -/
def decodeWith (d : Decoder α) (buffer : Bytes) : Except GoError α :=
  (decode d buffer).mapError .rlp

/-- Modelled from the spec: `findItemInItems` is not part of the sources. The first item with
the key, or the zero item and `errKeyNotFoundInItems`. -/
def findItemInItems (items : List KeyValue) (key : Bytes) : KeyValue × Option GoError :=
  match items.find? (·.key = key) with
  | some it => (it, none)
  | none => (⟨[], []⟩, some .keyNotFoundInItems)

/-- Modelled from the spec: `util.DecodeBytesToUint` is not part of the sources; it is read as
the conversion `DecodeStringToInt` performs, `big.Int.SetBytes` then `Uint64`. -/
def decodeBytesToUint (b : Bytes) : UInt64 :=
  bigUint64 b

/-- Modelled from the spec: `util.DecodeBytesToInt` is not part of the sources; it is read as
the conversion `DecodeStringToInt` performs, `big.Int.SetBytes` then `Int64`. -/
def decodeBytesToInt (b : Bytes) : Int :=
  bigInt64 b

section

variable (ext : External)

/-- `NewMerkleTree`: the tree of the raw proof, and the parser's error; on an error the tree
holds the raw proof only. -/
def newMerkleTree (rawTree : List Item) : MerkleTree × Option GoError :=
  match ext.parseProof rawTree with
  | .ok (rootHash, module, leaves) => (⟨rawTree, rootHash, module, leaves⟩, none)
  | .error err => ({ rawTree }, some err)

def parseBlockPeakResponse (buffer : Bytes) : Except GoError Response := do
  let blockNumber ← decodeWith blockPeakResponse buffer
  pure (.blockNumber blockNumber)

def parseBlockResponse (buffer : Bytes) : Except GoError Response := do
  let response ← decodeWith blockResponse buffer
  pure (.block response)

/-- `parseBlockHeaderResponse`: the errors of `findItemInItems` are dropped, so a missing item
reads as the zero item. -/
def parseBlockHeaderResponse (buffer : Bytes) : Except GoError Response := do
  let (items, minerPubkey) ← decodeWith blockHeaderResponse buffer
  let txHash := (findItemInItems items (ascii "transaction_hash")).1
  let stateHash := (findItemInItems items (ascii "state_hash")).1
  let blockHash := (findItemInItems items (ascii "block_hash")).1
  let prevBlock := (findItemInItems items (ascii "previous_block")).1
  let nonce := (findItemInItems items (ascii "nonce")).1
  let minerSig := (findItemInItems items (ascii "miner_signature")).1
  let timestamp := (findItemInItems items (ascii "timestamp")).1
  let number := (findItemInItems items (ascii "number")).1
  let dminerPubkey := ext.decompressPubkeyBytes minerPubkey
  let header ← ext.newHeader ⟨txHash.value, stateHash.value, prevBlock.value, minerSig.value,
    dminerPubkey, decodeBytesToUint timestamp.value, decodeBytesToUint number.value,
    decodeBytesToUint nonce.value⟩
  if ext.hash header ≠ blockHash.value then throw (.blockHashMismatch blockHash.value header)
  pure (.header header)

def parseBlockquickResponse (buffer : Bytes) : Except GoError Response := do
  let items ← decodeWith blockquickResponse buffer
  pure (.blockquick items)

/-- `parseDeviceTicketResponse`: the outcome is the first of the markers `thanks!`, `too_low`
and `too_old` the buffer contains. -/
def parseDeviceTicketResponse (buffer : Bytes) : Except GoError Response :=
  if bytesContains buffer ticketThanksPivot then do
    let _ ← decodeWith ticketThanksResponse buffer
    pure (.ticket {})
  else if bytesContains buffer ticketTooLowPivot then do
    let response ← decodeWith ticketTooLowResponse buffer
    pure (.ticket { blockHash := response.blockHash,
                    totalConnections := response.totalConnections,
                    totalBytes := response.totalBytes,
                    localAddr := response.localAddr,
                    deviceSig := response.deviceSig,
                    err := some .ticketTooLow })
  else if bytesContains buffer ticketTooOldPivot then do
    let _ ← decodeWith ticketTooOldResponse buffer
    pure (.ticket { err := some .ticketTooOld })
  else throw .failedToParseTicket

def parseDeviceObjectResponse (buffer : Bytes) : Except GoError Response := do
  let ticket ← decodeWith objectResponse buffer
  pure (.deviceObject { serverID := .copyFrom ticket.serverID,
                        blockNumber := int64 ticket.peakBlock,
                        blockHash := [],
                        fleetAddr := .copyFrom ticket.fleetAddr,
                        totalConnections := ticket.totalConnections,
                        totalBytes := ticket.totalBytes,
                        deviceSig := ticket.deviceSig,
                        serverSig := ticket.serverSig,
                        localAddr := ticket.localAddr })

/-- `parseAccountResponse`: the errors of `findItemInItems` are dropped, and nonce and balance
are converted to `int64`. -/
def parseAccountResponse (buffer : Bytes) : Except GoError Response := do
  let (items, merkleProof) ← decodeWith accountResponse buffer
  let storageRoot := (findItemInItems items (ascii "storageRoot")).1
  let nonce := (findItemInItems items (ascii "nonce")).1
  let code := (findItemInItems items (ascii "code")).1
  let balance := (findItemInItems items (ascii "balance")).1
  let dnonce := decodeBytesToInt nonce.value
  let dbalance := decodeBytesToInt balance.value
  let (stateTree, err) := newMerkleTree ext merkleProof
  if let some err := err then throw err
  pure (.account ⟨storageRoot.value, dnonce, code.value, dbalance, stateTree⟩)

def parseAccountRootsResponse (buffer : Bytes) : Except GoError Response := do
  let accountRoots ← decodeWith accountRootsResponse buffer
  pure (.accountRoots ⟨accountRoots⟩)

def parseAccountValueResponse (buffer : Bytes) : Except GoError Response := do
  let merkleProof ← decodeWith accountValueResponse buffer
  let (accountTree, err) := newMerkleTree ext merkleProof
  if let some err := err then throw err
  pure (.accountValue ⟨accountTree⟩)

def parsePortOpenResponse (buffer : Bytes) : Except GoError Response := do
  let (result, ref) ← decodeWith portOpenResponse buffer
  pure (.portOpen { ok := result = ascii "ok", ref })

def parseServerObjResponse (buffer : Bytes) : Except GoError Response := do
  let serverObj ← decodeWith serverObjectResponse buffer
  pure (.serverObj serverObj)

def parseStateRootsResponse (buffer : Bytes) : Except GoError Response := do
  let stateRoots ← decodeWith stateRootsResponse buffer
  pure (.stateRoots ⟨stateRoots⟩)

/-- `parseResponse`: the parser of the first method marker the buffer contains. -/
def parseResponse (buffer : Bytes) : Except GoError Response :=
  if bytesContains buffer portOpenPivot then parsePortOpenResponse buffer
  else if bytesContains buffer blockPivot then parseBlockResponse buffer
  else if bytesContains buffer block2Pivot then parseBlockResponse buffer
  else if bytesContains buffer blockHeaderPivot then parseBlockHeaderResponse ext buffer
  else if bytesContains buffer blockHeader2Pivot then parseBlockHeaderResponse ext buffer
  else if bytesContains buffer blockquickPivot then parseBlockquickResponse buffer
  else if bytesContains buffer blockquick2Pivot then parseBlockquickResponse buffer
  else if bytesContains buffer blockPeakPivot then parseBlockPeakResponse buffer
  else if bytesContains buffer accountPivot then parseAccountResponse ext buffer
  else if bytesContains buffer accountValuePivot then parseAccountValueResponse ext buffer
  else if bytesContains buffer accountRootsPivot then parseAccountRootsResponse buffer
  else if bytesContains buffer stateRootsPivot then parseStateRootsResponse buffer
  else if bytesContains buffer objectPivot then parseDeviceObjectResponse buffer
  else if bytesContains buffer nodePivot then parseServerObjResponse buffer
  else if bytesContains buffer ticketPivot then parseDeviceTicketResponse buffer
  else throw .responseHandlerNotFound

end

/-- `parseError`: the decoding error is dropped, and `response.Payload[len(response.Payload)-1]`
panics when the payload was left empty. The returned error is always nil. -/
def parseError (buffer : Bytes) : Except Panic (Error × Option GoError) :=
  match (errorResponsePayload buffer).getLast? with
  | some message => .ok (⟨message⟩, none)
  | none => .error .indexOutOfRange

/-- `parseInboundPortOpenRequest`. Modelled from the spec: `util.EncodeToString` is not part of
the sources; it is read as the `EncodeToString` of the hex helpers, `0x` followed by the
lower-case hex digits. -/
def parseInboundPortOpenRequest (buffer : Bytes) : Except GoError Request := do
  let (port, ref, deviceID) ← decodeWith portOpenInboundRequest buffer
  pure (.portOpen { port, ref, rawDeviceID := deviceID, deviceID := Rpc.encodeToString deviceID,
                    ok := true })

def parseInboundPortSendRequest (buffer : Bytes) : Except GoError Request := do
  let (ref, data) ← decodeWith portSendInboundRequest buffer
  pure (.portSend ⟨ref, data, true⟩)

def parseInboundPortCloseRequest (buffer : Bytes) : Except GoError Request := do
  let ref ← decodeWith portCloseInboundRequest buffer
  pure (.portClose ⟨ref, true⟩)

def parseInboundGoodbyeRequest (buffer : Bytes) : Except GoError Request := do
  let reason ← decodeWith goodbyeInboundRequest buffer
  pure (.goodbye ⟨reason⟩)

/-- `parseInboundRequest`: the parser of the first marker the buffer contains, and a nil request
with a nil error when it contains none. -/
def parseInboundRequest (buffer : Bytes) : Except GoError (Option Request) :=
  if bytesContains buffer portOpenPivot then some <$> parseInboundPortOpenRequest buffer
  else if bytesContains buffer portSendPivot then some <$> parseInboundPortSendRequest buffer
  else if bytesContains buffer portClosePivot then some <$> parseInboundPortCloseRequest buffer
  else if bytesContains buffer goodbyePivot then some <$> parseInboundGoodbyeRequest buffer
  else pure none

def isResponseType (rawData : Bytes) : Bool :=
  bytesContains rawData responsePivot

def isErrorType (rawData : Bytes) : Bool :=
  bytesContains rawData errorPivot

/-- `ResponseID`: the decoding error is dropped. -/
def responseID (buffer : Bytes) : UInt64 :=
  responseIDOf buffer

/-- `NewErrorResponse`, given the text `err.Error()`: the envelope is written as text with
`fmt.Sprintf("[\"error\", \"%s\", \"%+v\"]", ...)`, not in the rlp format. -/
def newErrorResponse (method err : Bytes) : Message :=
  let ret := ascii "[\"error\", \"" ++ method ++ ascii "\", \"" ++ err ++ ascii "\"]"
  ⟨ret.length, ret⟩

/-- The parsers `NewMessage` hands out, by the name of the method value it returns. -/
inductive ResponseParser where
  | parseBlockResponse
  | parseBlockPeakResponse
  | parseBlockHeaderResponse
  | parseBlockquickResponse
  | parseAccountResponse
  | parseAccountRootsResponse
  | parseAccountValueResponse
  | parseDeviceTicketResponse
  | parsePortOpenResponse
  | parseDeviceObjectResponse
  | parseServerObjResponse
  | parseStateRootsResponse
  deriving DecidableEq, Repr

/-- Call the parser. -/
def ResponseParser.run (ext : External) : ResponseParser → Bytes → Except GoError Response
  | .parseBlockResponse => Edge.parseBlockResponse
  | .parseBlockPeakResponse => Edge.parseBlockPeakResponse
  | .parseBlockHeaderResponse => Edge.parseBlockHeaderResponse ext
  | .parseBlockquickResponse => Edge.parseBlockquickResponse
  | .parseAccountResponse => Edge.parseAccountResponse ext
  | .parseAccountRootsResponse => Edge.parseAccountRootsResponse
  | .parseAccountValueResponse => Edge.parseAccountValueResponse ext
  | .parseDeviceTicketResponse => Edge.parseDeviceTicketResponse
  | .parsePortOpenResponse => Edge.parsePortOpenResponse
  | .parseDeviceObjectResponse => Edge.parseDeviceObjectResponse
  | .parseServerObjResponse => Edge.parseServerObjResponse
  | .parseStateRootsResponse => Edge.parseStateRootsResponse

/-- `NewMessage`: the encoded request and the parser of its response. A type assertion on a
missing or mistyped argument panics; `rlp.EncodeToBytes` cannot fail on these structs, whose
fields are `uint64`, `[]byte` and `string`. -/
def newMessage (requestID : UInt64) (method : Bytes) (args : List Arg) :
    Except Panic (Except GoError (Bytes × Option ResponseParser)) :=
  if method = ascii "hello" then do
    let flag ← Arg.uint64At args 0
    pure (.ok (request requestID [.bytes method, uintItem flag], none))
  else if method = ascii "portsend" then do
    let ref ← Arg.uint64At args 0
    let data ← Arg.bytesAt args 1
    pure (.ok (request requestID [.bytes method, uintItem ref, .bytes data], none))
  else if method = ascii "portclose" then do
    let ref ← Arg.uint64At args 0
    pure (.ok (request requestID [.bytes method, uintItem ref], none))
  else if method = ascii "getblock" then do
    let blockNumber ← Arg.uint64At args 0
    pure (.ok (request requestID [.bytes method, uintItem blockNumber],
      some .parseBlockResponse))
  else if method = ascii "getblockpeak" then
    pure (.ok (request requestID [.bytes method], some .parseBlockPeakResponse))
  else if method = ascii "getblockheader2" then do
    let blockNumber ← Arg.uint64At args 0
    pure (.ok (request requestID [.bytes method, uintItem blockNumber],
      some .parseBlockHeaderResponse))
  else if method = ascii "getblockquick2" then do
    let lastValid ← Arg.uint64At args 0
    let windowSize ← Arg.uint64At args 1
    pure (.ok (request requestID [.bytes method, uintItem lastValid, uintItem windowSize],
      some .parseBlockquickResponse))
  else if method = ascii "getaccount" then do
    let blockNumber ← Arg.uint64At args 0
    let address ← Arg.bytesAt args 1
    pure (.ok (request requestID [.bytes method, uintItem blockNumber, .bytes address],
      some .parseAccountResponse))
  else if method = ascii "getaccountroots" then do
    let blockNumber ← Arg.uint64At args 0
    let address ← Arg.bytesAt args 1
    pure (.ok (request requestID [.bytes method, uintItem blockNumber, .bytes address],
      some .parseAccountRootsResponse))
  else if method = ascii "getaccountvalue" then do
    let blockNumber ← Arg.uint64At args 0
    let address ← Arg.bytesAt args 1
    let key ← Arg.bytesAt args 2
    pure (.ok (request requestID [.bytes method, uintItem blockNumber, .bytes address, .bytes key],
      some .parseAccountValueResponse))
  else if method = ascii "ticket" then do
    let blockNumber ← Arg.uint64At args 0
    let fleetAddr ← Arg.bytesAt args 1
    let totalConnections ← Arg.uint64At args 2
    let totalBytes ← Arg.uint64At args 3
    let localAddr ← Arg.bytesAt args 4
    let deviceSig ← Arg.bytesAt args 5
    pure (.ok (request requestID [.bytes method, uintItem blockNumber, .bytes fleetAddr,
      uintItem totalConnections, uintItem totalBytes, .bytes localAddr, .bytes deviceSig],
      some .parseDeviceTicketResponse))
  else if method = ascii "portopen" then do
    let deviceID ← Arg.bytesAt args 0
    let port ← Arg.uint64At args 1
    let mode ← Arg.stringAt args 2
    pure (.ok (request requestID [.bytes method, .bytes deviceID, uintItem port, .bytes mode],
      some .parsePortOpenResponse))
  else if method = ascii "getobject" then do
    let deviceID ← Arg.bytesAt args 0
    pure (.ok (request requestID [.bytes method, .bytes deviceID],
      some .parseDeviceObjectResponse))
  else if method = ascii "getnode" then do
    let serverID ← Arg.bytesAt args 0
    pure (.ok (request requestID [.bytes method, .bytes serverID], some .parseServerObjResponse))
  else if method = ascii "getstateroots" then do
    let blockNumber ← Arg.uint64At args 0
    pure (.ok (request requestID [.bytes method, uintItem blockNumber],
      some .parseStateRootsResponse))
  else pure (.error .rpcNotSupport)

/-- `NewResponseMessage`: the `portsend` and `portclose` answers are written as the requests of
those methods, and the response type is not written into them. -/
def newResponseMessage (requestID : UInt64) (responseType method : Bytes) (args : List Arg) :
    Except Panic (Except GoError (Bytes × Option ResponseParser)) :=
  if method = ascii "portopen" then do
    let ref ← Arg.uint64At args 0
    let result ← Arg.stringAt args 1
    pure (.ok (request requestID [.bytes responseType, uintItem ref, .bytes result], none))
  else if method = ascii "portsend" then do
    let ref ← Arg.uint64At args 0
    let data ← Arg.bytesAt args 1
    pure (.ok (request requestID [.bytes method, uintItem ref, .bytes data], none))
  else if method = ascii "portclose" then do
    let ref ← Arg.uint64At args 0
    pure (.ok (request requestID [.bytes method, uintItem ref], none))
  else pure (.error .rpcNotSupport)

end Edge
