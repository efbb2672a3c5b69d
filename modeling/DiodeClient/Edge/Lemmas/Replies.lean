import DiodeClient.Edge.Lemmas.Dispatch

/-!
This module proves that the replies the dispatch table sends to their own parser are read back
whole. A `getblock`, `portopen`, `getobject`, `getnode`, `getaccount` or `getstateroots` reply
as the server writes it, that fits in a Go slice and whose bytes contain no marker beyond those
in its method name, comes out of `parseResponse` as the value it was written from, converted as
its parser converts it. `parseResponse_replies_round_trip` gathers the five replies after
`getblock`.
-/

namespace Edge

open Rlp Go

section

variable {requestID : UInt64} {method : Bytes}

theorem decode_blockResponse {b : Block}
    (hb : (response requestID method [b.toItem]).length < 2 ^ 63) :
    decode blockResponse (response requestID method [b.toItem]) =
      .ok ⟨requestID, ascii "response", method, b⟩ := by
  have hi := encode_infix_response (List.mem_singleton_self b.toItem) requestID method
  have hl : ∀ x, x <:+: (Item.list [.bytes b.coinbase, .list b.header, .list b.receipts,
      .list b.transactions]).encode → x.length < 2 ^ 64 := fun x hx =>
    length_lt_of_infix_response hb (hx.trans hi)
  suffices h : Reads blockResponse [.list [uintItem requestID,
      .list [.bytes (ascii "response"), .bytes method, b.toItem]]]
      ⟨requestID, ascii "response", method, b⟩ by
    simpa only [List.append_nil] using decode_of_reads h []
  refine Reads.list (Reads.cons (Reads.field _ (Reads.uint requestID))
    (Reads.cons (Reads.field _ (Reads.list (?_ : Reads _ _ (ascii "response", method, b))
      (length_lt_of_infix_response hb (encodeList_infix_request requestID _)))) (Reads.pure _)))
    (length_lt_of_infix_response hb (encodeList_infix_encode _))
  exact Reads.cons (Reads.field _ (Reads.bytes (by decide)))
    (Reads.cons (Reads.field _ (Reads.bytes (length_lt_of_infix_response hb
      (method_infix_response ..))))
    (Reads.cons (Reads.field _ (Reads.list
      (Reads.cons (Reads.field _ (Reads.bytes (hl _ (infix_encode_of_mem_bytes (by simp)))))
      (Reads.cons (Reads.field _ (ifaces_reads (hl _ (Item.encode_infix_of_mem (by simp)))))
      (Reads.cons (Reads.field _ (ifaces_reads (hl _ (Item.encode_infix_of_mem (by simp)))))
      (Reads.cons (Reads.field _ (ifaces_reads (hl _ (Item.encode_infix_of_mem (by simp)))))
        (Reads.pure _)))))
      (hl _ (encodeList_infix_encode _)))) (Reads.pure _)))

theorem decode_portOpenResponse {result : Bytes} {ref : UInt64}
    (hb : (response requestID method [.bytes result, uintItem ref]).length < 2 ^ 63) :
    decode portOpenResponse (response requestID method [.bytes result, uintItem ref]) =
      .ok (result, ref) := by
  refine decode_request_of_length (responseHead_reads ?_ (length_lt_of_mem_request (by simp) hb)
    (length_lt_of_mem_request (by simp) hb)) hb
  exact Reads.cons (Reads.field _ (Reads.bytes (length_lt_of_mem_request (by simp) hb)))
    (Reads.cons (Reads.field _ (Reads.uint ref)) (Reads.pure _))

theorem decode_objectResponse {t : ObjectTicket}
    (hb : (response requestID method [t.toItem]).length < 2 ^ 63) :
    decode objectResponse (response requestID method [t.toItem]) = .ok t := by
  have hi := encode_infix_response (List.mem_singleton_self t.toItem) requestID method
  have hl : ∀ b, .bytes b ∈ [.bytes t.serverID, uintItem t.peakBlock, .bytes t.fleetAddr,
      uintItem t.totalConnections, uintItem t.totalBytes, .bytes t.deviceSig, .bytes t.serverSig,
      .bytes t.localAddr] → b.length < 2 ^ 64 := fun b h =>
    length_lt_of_infix_response hb ((infix_encode_of_mem_bytes h).trans hi)
  refine decode_request_of_length (responseHead_reads (Reads.field _ (Reads.list ?_
    (length_lt_of_infix_response hb ((encodeList_infix_encode _).trans hi))))
    (length_lt_of_mem_request (by simp) hb) (length_lt_of_mem_request (by simp) hb)) hb
  exact Reads.cons (Reads.field _ (Reads.bytes (hl _ (by simp))))
    (Reads.cons (Reads.field _ (Reads.uint _))
    (Reads.cons (Reads.field _ (Reads.bytes (hl _ (by simp))))
    (Reads.cons (Reads.field _ (Reads.uint _)) (Reads.cons (Reads.field _ (Reads.uint _))
    (Reads.cons (Reads.field _ (Reads.bytes (hl _ (by simp))))
    (Reads.cons (Reads.field _ (Reads.bytes (hl _ (by simp))))
    (Reads.cons (Reads.field _ (Reads.bytes (hl _ (by simp)))) (Reads.pure _))))))))

theorem decode_serverObjectResponse {o : ServerObj}
    (hb : (response requestID method [o.toItem]).length < 2 ^ 63) :
    decode serverObjectResponse (response requestID method [o.toItem]) = .ok o := by
  have hi := encode_infix_response (List.mem_singleton_self o.toItem) requestID method
  have hl : ∀ b, .bytes b ∈ [.bytes o.host, uintItem o.edgePort, uintItem o.serverPort,
      .bytes o.sig] → b.length < 2 ^ 64 := fun b h =>
    length_lt_of_infix_response hb ((infix_encode_of_mem_bytes h).trans hi)
  refine decode_request_of_length (responseHead_reads (Reads.field _ (Reads.list ?_
    (length_lt_of_infix_response hb ((encodeList_infix_encode _).trans hi))))
    (length_lt_of_mem_request (by simp) hb) (length_lt_of_mem_request (by simp) hb)) hb
  exact Reads.cons (Reads.field _ (Reads.bytes (hl _ (by simp))))
    (Reads.cons (Reads.field _ (Reads.uint _)) (Reads.cons (Reads.field _ (Reads.uint _))
      (Reads.cons (Reads.field _ (Reads.bytes (hl _ (by simp)))) (Reads.pure _))))

theorem decode_stateRootsResponse {roots : List Bytes}
    (hb : (response requestID method [.list (roots.map .bytes)]).length < 2 ^ 63) :
    decode stateRootsResponse (response requestID method [.list (roots.map .bytes)]) =
      .ok roots := by
  have hi := encode_infix_response (List.mem_singleton_self (Item.list (roots.map .bytes)))
    requestID method
  exact decode_request_of_length (responseHead_reads (Reads.field _ (Reads.slice
    (fun x hx => Reads.bytes (length_lt_of_infix_response hb
      ((infix_encode_of_mem_bytes (List.mem_map_of_mem _ hx)).trans hi)))
    (length_lt_of_infix_response hb ((encodeList_infix_encode _).trans hi))))
    (length_lt_of_mem_request (by simp) hb) (length_lt_of_mem_request (by simp) hb)) hb

end

section

variable (ext : External) {requestID : UInt64}

/-- A `getblock` reply is read as the block, under the reply's own request id. -/
theorem parseResponse_getblock {b : Block}
    (hb : (response requestID (ascii "getblock") [b.toItem]).length < 2 ^ 63)
    (h : NoOtherMarker (response requestID (ascii "getblock") [b.toItem]) (ascii "getblock")) :
    parseResponse ext (response requestID (ascii "getblock") [b.toItem]) =
      .ok (.block ⟨requestID, ascii "response", ascii "getblock", b⟩) := by
  rw [parseResponse_response ext .parseBlockResponse (by decide) h]
  simp [ResponseParser.run, parseBlockResponse, decodeWith, decode_blockResponse hb,
    Except.mapError, bind, Except.bind, pure, Except.pure]

/-- A reply carrying a block with a two-byte coinbase and empty lists. -/
theorem parseResponse_getblock_sample :
    (response 7 (ascii "getblock") [(⟨[1, 2], [], [], []⟩ : Block).toItem]).length < 2 ^ 63 ∧
      NoOtherMarker (response 7 (ascii "getblock") [(⟨[1, 2], [], [], []⟩ : Block).toItem])
        (ascii "getblock") ∧
      parseResponse ⟨id, .ok, fun _ => [], fun _ => .ok ([], 0, [])⟩ (response 7 (ascii "getblock") [(⟨[1, 2], [], [], []⟩ : Block).toItem]) =
        .ok (.block ⟨7, ascii "response", ascii "getblock", ⟨[1, 2], [], [], []⟩⟩) :=
  have hb : (response 7 (ascii "getblock") [(⟨[1, 2], [], [], []⟩ : Block).toItem]).length <
      2 ^ 63 := by decide
  have hc : NoOtherMarker (response 7 (ascii "getblock") [(⟨[1, 2], [], [], []⟩ : Block).toItem])
      (ascii "getblock") := by decide
  ⟨hb, hc, parseResponse_getblock _ hb hc⟩

/-- A `portopen` reply is read as its reference, opened exactly when its result is `ok`. -/
theorem parseResponse_portopen {result : Bytes} {ref : UInt64}
    (hb : (response requestID (ascii "portopen") [.bytes result, uintItem ref]).length < 2 ^ 63)
    (h : NoOtherMarker (response requestID (ascii "portopen") [.bytes result, uintItem ref])
      (ascii "portopen")) :
    parseResponse ext (response requestID (ascii "portopen") [.bytes result, uintItem ref]) =
      .ok (.portOpen { ok := result = ascii "ok", ref }) := by
  rw [parseResponse_response ext .parsePortOpenResponse (by decide) h]
  simp [ResponseParser.run, parsePortOpenResponse, decodeWith, decode_portOpenResponse hb,
    Except.mapError, bind, Except.bind, pure, Except.pure]

/-- A `getobject` reply is read as the device ticket of the object: server id and fleet address
cut or padded to twenty bytes, and the peak block as the block number, read as an `int64`. -/
theorem parseResponse_getobject {t : ObjectTicket}
    (hb : (response requestID (ascii "getobject") [t.toItem]).length < 2 ^ 63)
    (h : NoOtherMarker (response requestID (ascii "getobject") [t.toItem]) (ascii "getobject")) :
    parseResponse ext (response requestID (ascii "getobject") [t.toItem]) =
      .ok (.deviceObject
        { serverID := .copyFrom t.serverID, blockNumber := int64 t.peakBlock,
          fleetAddr := .copyFrom t.fleetAddr, totalConnections := t.totalConnections,
          totalBytes := t.totalBytes, localAddr := t.localAddr, deviceSig := t.deviceSig,
          serverSig := t.serverSig }) := by
  rw [parseResponse_response ext .parseDeviceObjectResponse (by decide) h]
  simp [ResponseParser.run, parseDeviceObjectResponse, decodeWith, decode_objectResponse hb,
    Except.mapError, bind, Except.bind, pure, Except.pure]

/-- A `getnode` reply is read as the server object it was written from. -/
theorem parseResponse_getnode {o : ServerObj}
    (hb : (response requestID (ascii "getnode") [o.toItem]).length < 2 ^ 63)
    (h : NoOtherMarker (response requestID (ascii "getnode") [o.toItem]) (ascii "getnode")) :
    parseResponse ext (response requestID (ascii "getnode") [o.toItem]) = .ok (.serverObj o) := by
  rw [parseResponse_response ext .parseServerObjResponse (by decide) h]
  simp [ResponseParser.run, parseServerObjResponse, decodeWith, decode_serverObjectResponse hb,
    Except.mapError, bind, Except.bind, pure, Except.pure]

/-- A `getaccount` reply is read as the account of its items, with the state tree of its proof;
a proof the proof parser refuses makes its error the reply's. -/
theorem parseResponse_getaccount {items : List KeyValue} {proof : List Item}
    (hb : (response requestID (ascii "getaccount")
      [.list (items.map KeyValue.toItem), .list proof]).length < 2 ^ 63)
    (h : NoOtherMarker (response requestID (ascii "getaccount")
      [.list (items.map KeyValue.toItem), .list proof]) (ascii "getaccount")) :
    parseResponse ext (response requestID (ascii "getaccount")
        [.list (items.map KeyValue.toItem), .list proof]) =
      (ext.parseProof proof).map fun (rootHash, module, leaves) =>
        .account ⟨(findItemInItems items (ascii "storageRoot")).1.value,
          decodeBytesToInt (findItemInItems items (ascii "nonce")).1.value,
          (findItemInItems items (ascii "code")).1.value,
          decodeBytesToInt (findItemInItems items (ascii "balance")).1.value,
          ⟨proof, rootHash, module, leaves⟩⟩ := by
  rw [parseResponse_response ext .parseAccountResponse (by decide) h]
  rcases hp : ext.parseProof proof with e | ⟨rootHash, module, leaves⟩ <;>
    simp [ResponseParser.run, parseAccountResponse, decodeWith, decode_accountResponse hb,
      newMerkleTree, hp, Except.mapError, Except.map, bind, Except.bind, pure, Except.pure, throw,
      throwThe, MonadExceptOf.throw]

/-- A `getstateroots` reply is read as the roots it was written from. -/
theorem parseResponse_getstateroots {roots : List Bytes}
    (hb : (response requestID (ascii "getstateroots") [.list (roots.map .bytes)]).length < 2 ^ 63)
    (h : NoOtherMarker (response requestID (ascii "getstateroots") [.list (roots.map .bytes)])
      (ascii "getstateroots")) :
    parseResponse ext (response requestID (ascii "getstateroots") [.list (roots.map .bytes)]) =
      .ok (.stateRoots ⟨roots⟩) := by
  rw [parseResponse_response ext .parseStateRootsResponse (by decide) h]
  simp [ResponseParser.run, parseStateRootsResponse, decodeWith, decode_stateRootsResponse hb,
    Except.mapError, bind, Except.bind, pure, Except.pure]

end

/-- The replies the dispatch table sends to their own parser, besides `getblock`, are read back
whole: a `portopen` reply as its reference and whether it was opened, a `getobject` reply as the
device ticket of the object, a `getnode` reply as its server object, a `getaccount` reply as the
account of its items with the state tree of its proof, and a `getstateroots` reply as its roots. -/
theorem parseResponse_replies_round_trip (ext : External) :
    (∀ requestID result ref,
      (response requestID (ascii "portopen") [.bytes result, uintItem ref]).length < 2 ^ 63 →
      NoOtherMarker (response requestID (ascii "portopen") [.bytes result, uintItem ref])
        (ascii "portopen") →
      parseResponse ext (response requestID (ascii "portopen") [.bytes result, uintItem ref]) =
        .ok (.portOpen { ok := result = ascii "ok", ref })) ∧
    (∀ requestID (t : ObjectTicket),
      (response requestID (ascii "getobject") [t.toItem]).length < 2 ^ 63 →
      NoOtherMarker (response requestID (ascii "getobject") [t.toItem]) (ascii "getobject") →
      parseResponse ext (response requestID (ascii "getobject") [t.toItem]) =
        .ok (.deviceObject
          { serverID := .copyFrom t.serverID, blockNumber := int64 t.peakBlock,
            fleetAddr := .copyFrom t.fleetAddr, totalConnections := t.totalConnections,
            totalBytes := t.totalBytes, localAddr := t.localAddr, deviceSig := t.deviceSig,
            serverSig := t.serverSig })) ∧
    (∀ requestID (o : ServerObj),
      (response requestID (ascii "getnode") [o.toItem]).length < 2 ^ 63 →
      NoOtherMarker (response requestID (ascii "getnode") [o.toItem]) (ascii "getnode") →
      parseResponse ext (response requestID (ascii "getnode") [o.toItem]) = .ok (.serverObj o)) ∧
    (∀ requestID (items : List KeyValue) proof,
      (response requestID (ascii "getaccount")
        [.list (items.map KeyValue.toItem), .list proof]).length < 2 ^ 63 →
      NoOtherMarker (response requestID (ascii "getaccount")
        [.list (items.map KeyValue.toItem), .list proof]) (ascii "getaccount") →
      parseResponse ext (response requestID (ascii "getaccount")
          [.list (items.map KeyValue.toItem), .list proof]) =
        (ext.parseProof proof).map fun (rootHash, module, leaves) =>
          .account ⟨(findItemInItems items (ascii "storageRoot")).1.value,
            decodeBytesToInt (findItemInItems items (ascii "nonce")).1.value,
            (findItemInItems items (ascii "code")).1.value,
            decodeBytesToInt (findItemInItems items (ascii "balance")).1.value,
            ⟨proof, rootHash, module, leaves⟩⟩) ∧
    (∀ requestID (roots : List Bytes),
      (response requestID (ascii "getstateroots") [.list (roots.map .bytes)]).length < 2 ^ 63 →
      NoOtherMarker (response requestID (ascii "getstateroots") [.list (roots.map .bytes)])
        (ascii "getstateroots") →
      parseResponse ext (response requestID (ascii "getstateroots") [.list (roots.map .bytes)]) =
        .ok (.stateRoots ⟨roots⟩)) :=
  ⟨fun _ _ _ => parseResponse_portopen ext, fun _ _ => parseResponse_getobject ext,
    fun _ _ => parseResponse_getnode ext, fun _ _ _ => parseResponse_getaccount ext,
    fun _ _ => parseResponse_getstateroots ext⟩

/-- A `portopen` reply of result `ok` and a `getstateroots` reply of one root. -/
theorem parseResponse_replies_round_trip_sample :
    (response 7 (ascii "portopen") [.bytes (ascii "ok"), uintItem 3]).length < 2 ^ 63 ∧
      NoOtherMarker (response 7 (ascii "portopen") [.bytes (ascii "ok"), uintItem 3])
        (ascii "portopen") ∧
      parseResponse ⟨id, .ok, fun _ => [], fun _ => .ok ([], 0, [])⟩
          (response 7 (ascii "portopen") [.bytes (ascii "ok"), uintItem 3]) =
        .ok (.portOpen { ok := true, ref := 3 }) ∧
    (response 7 (ascii "getstateroots") [.list [.bytes [1]]]).length < 2 ^ 63 ∧
      NoOtherMarker (response 7 (ascii "getstateroots") [.list [.bytes [1]]])
        (ascii "getstateroots") ∧
      parseResponse ⟨id, .ok, fun _ => [], fun _ => .ok ([], 0, [])⟩
          (response 7 (ascii "getstateroots") [.list [.bytes [1]]]) =
        .ok (.stateRoots ⟨[[1]]⟩) :=
  have hb : (response 7 (ascii "portopen") [.bytes (ascii "ok"), uintItem 3]).length < 2 ^ 63 := by
    decide
  have hc : NoOtherMarker (response 7 (ascii "portopen") [.bytes (ascii "ok"), uintItem 3])
      (ascii "portopen") := by decide
  have hb' : (response 7 (ascii "getstateroots") [.list [.bytes [1]]]).length < 2 ^ 63 := by
    decide
  have hc' : NoOtherMarker (response 7 (ascii "getstateroots") [.list [.bytes [1]]])
      (ascii "getstateroots") := by decide
  have h := parseResponse_replies_round_trip ⟨id, .ok, fun _ => [], fun _ => .ok ([], 0, [])⟩
  ⟨hb, hc, (h.1 7 (ascii "ok") 3 hb hc).trans (by simp), hb', hc', h.2.2.2.2 7 [[1]] hb' hc'⟩

end Edge
