import DiodeClient.Edge.Lemmas.Dispatch
import DiodeClient.Rlp.Fails

/-!
This module proves that the replies the dispatch table sends to the parser of another reply are
never read. The parsers `NewMessage` binds to `getblockpeak`, `getblockquick2`,
`getaccountroots` and `getaccountvalue` read their replies back. But a `getblockpeak`,
`getblockheader2` or `getblockquick2` reply goes to the block parser and a `getaccountroots` or
`getaccountvalue` reply to the account parser, and each of these fails on every such reply that
fits in a Go slice and whose bytes hold no marker beyond those in its method name.
-/

namespace Edge

open Rlp Go

section

variable {requestID : UInt64} {method : Bytes}

theorem decode_blockPeakResponse {n : UInt64}
    (hb : (response requestID method [uintItem n]).length < 2 ^ 63) :
    decode blockPeakResponse (response requestID method [uintItem n]) = .ok n :=
  decode_request_of_length (responseHead_reads (Reads.field _ (Reads.uint n))
    (length_lt_of_mem_request (by simp) hb) (length_lt_of_mem_request (by simp) hb)) hb

theorem decode_blockquickResponse {ns : List UInt64}
    (hb : (response requestID method [.list (ns.map uintItem)]).length < 2 ^ 63) :
    decode blockquickResponse (response requestID method [.list (ns.map uintItem)]) = .ok ns :=
  decode_request_of_length (responseHead_reads (Reads.field _ (Reads.slice
    (fun n _ => Reads.uint n) (length_lt_of_infix_response hb ((encodeList_infix_encode _).trans
      (encode_infix_response (List.mem_singleton_self _) _ _)))))
    (length_lt_of_mem_request (by simp) hb) (length_lt_of_mem_request (by simp) hb)) hb

theorem decode_accountRootsResponse {roots : List Bytes}
    (hb : (response requestID method [.list (roots.map .bytes)]).length < 2 ^ 63) :
    decode accountRootsResponse (response requestID method [.list (roots.map .bytes)]) =
      .ok roots := by
  have hi := encode_infix_response (List.mem_singleton_self (Item.list (roots.map .bytes)))
    requestID method
  exact decode_request_of_length (responseHead_reads (Reads.field _ (Reads.slice
    (fun x hx => Reads.bytes (length_lt_of_infix_response hb
      ((infix_encode_of_mem_bytes (List.mem_map_of_mem _ hx)).trans hi)))
    (length_lt_of_infix_response hb ((encodeList_infix_encode _).trans hi))))
    (length_lt_of_mem_request (by simp) hb) (length_lt_of_mem_request (by simp) hb)) hb

theorem decode_accountValueResponse {proof : List Item}
    (hb : (response requestID method [.list proof]).length < 2 ^ 63) :
    decode accountValueResponse (response requestID method [.list proof]) = .ok proof :=
  decode_request_of_length (responseHead_reads (Reads.field _ (ifaces_reads
    (length_lt_of_infix_response hb (encode_infix_response (List.mem_singleton_self _) _ _))))
    (length_lt_of_mem_request (by simp) hb) (length_lt_of_mem_request (by simp) hb)) hb

end

section

variable (ext : External) {requestID : UInt64} {method : Bytes}

theorem parseBlockPeakResponse_response {n : UInt64}
    (hb : (response requestID method [uintItem n]).length < 2 ^ 63) :
    parseBlockPeakResponse (response requestID method [uintItem n]) = .ok (.blockNumber n) := by
  simp [parseBlockPeakResponse, decodeWith, decode_blockPeakResponse hb, Except.mapError, bind,
    Except.bind, pure, Except.pure]

theorem parseBlockquickResponse_response {ns : List UInt64}
    (hb : (response requestID method [.list (ns.map uintItem)]).length < 2 ^ 63) :
    parseBlockquickResponse (response requestID method [.list (ns.map uintItem)]) =
      .ok (.blockquick ns) := by
  simp [parseBlockquickResponse, decodeWith, decode_blockquickResponse hb, Except.mapError, bind,
    Except.bind, pure, Except.pure]

theorem parseAccountRootsResponse_response {roots : List Bytes}
    (hb : (response requestID method [.list (roots.map .bytes)]).length < 2 ^ 63) :
    parseAccountRootsResponse (response requestID method [.list (roots.map .bytes)]) =
      .ok (.accountRoots ⟨roots⟩) := by
  simp [parseAccountRootsResponse, decodeWith, decode_accountRootsResponse hb, Except.mapError,
    bind, Except.bind, pure, Except.pure]

theorem parseAccountValueResponse_response {proof : List Item}
    (hb : (response requestID method [.list proof]).length < 2 ^ 63) :
    parseAccountValueResponse ext (response requestID method [.list proof]) =
      (ext.parseProof proof).map fun (rootHash, module, leaves) =>
        .accountValue ⟨⟨proof, rootHash, module, leaves⟩⟩ := by
  rcases hp : ext.parseProof proof with e | ⟨rootHash, module, leaves⟩ <;>
    simp [parseAccountValueResponse, decodeWith, decode_accountValueResponse hb, newMerkleTree, hp,
      Except.mapError, Except.map, bind, Except.bind, pure, Except.pure, throw, throwThe,
      MonadExceptOf.throw]

end

section

variable {requestID : UInt64} {method : Bytes} {fields : List Item} {e : DecodeError}

/-- The block reader refuses a response whose `Block` field it refuses. -/
theorem decode_blockResponse_of_failsIn
    (hb : (response requestID method fields).length < 2 ^ 63)
    (h : FailsIn (field "Block" block) fields e) :
    decode blockResponse (response requestID method fields) = .error (fieldError "Payload" e) := by
  refine decode_list_of_failsIn
    (length_lt_of_infix_response hb (encodeList_infix_encode _))
    (FailsIn.bind_of_reads (Reads.field _ (Reads.uint requestID)) (FailsIn.bind_left
      (FailsIn.field _ (FailsIn.list_list
        (length_lt_of_infix_response hb (encodeList_infix_request requestID _)) ?_))))
  exact FailsIn.bind_of_reads (Reads.field _ (Reads.bytes (by decide)))
    (FailsIn.bind_of_reads (Reads.field _ (Reads.bytes
      (length_lt_of_infix_response hb (method_infix_response ..)))) (FailsIn.bind_left h))

/-- A response reader refuses a response whose fields after `Type` and `Method` it refuses. -/
theorem decode_response_of_failsIn {p : Decoder α}
    (hb : (response requestID method fields).length < 2 ^ 63) (h : FailsIn p fields e) :
    decode (envelope (responseHead p)) (response requestID method fields) =
      .error (fieldError "Payload" e) :=
  decode_list_of_failsIn (length_lt_of_infix_response hb (encodeList_infix_encode _))
    (FailsIn.bind_of_reads (Reads.field _ (Reads.uint requestID)) (FailsIn.field _
      (FailsIn.list_list (length_lt_of_infix_response hb (encodeList_infix_request requestID _))
        (FailsIn.bind_of_reads (Reads.field _ (Reads.bytes (by decide)))
          (FailsIn.bind_of_reads (Reads.field _ (Reads.bytes
            (length_lt_of_infix_response hb (method_infix_response ..)))) h)))))

end

section

variable (ext : External) {requestID : UInt64}

/-- Every `getblockpeak` reply goes to the block parser, which finds the block number where it
reads the block's list. -/
theorem parseResponse_getblockpeak {n : UInt64}
    (hb : (response requestID (ascii "getblockpeak") [uintItem n]).length < 2 ^ 63)
    (h : NoOtherMarker (response requestID (ascii "getblockpeak") [uintItem n])
      (ascii "getblockpeak")) :
    parseResponse ext (response requestID (ascii "getblockpeak") [uintItem n]) =
      .error (.rlp ⟨.expectedList, ["Payload", "Block"]⟩) := by
  have hd := decode_blockResponse_of_failsIn hb
    (FailsIn.field "Block" (FailsIn.list_bytes (beBytes_toNat_length_lt n) _))
  rw [parseResponse_response ext .parseBlockResponse (by decide) h]
  simp [ResponseParser.run, parseBlockResponse, decodeWith, hd, Except.mapError, bind,
    Except.bind]
  rfl

theorem parseResponse_getblockpeak_sample :
    (response 7 (ascii "getblockpeak") [uintItem 9]).length < 2 ^ 63 ∧
      NoOtherMarker (response 7 (ascii "getblockpeak") [uintItem 9]) (ascii "getblockpeak") ∧
      parseResponse ⟨id, .ok, fun _ => [], fun _ => .ok ([], 0, [])⟩ (response 7 (ascii "getblockpeak") [uintItem 9]) =
        .error (.rlp ⟨.expectedList, ["Payload", "Block"]⟩) :=
  have hb : (response 7 (ascii "getblockpeak") [uintItem 9]).length < 2 ^ 63 := by decide
  have hc : NoOtherMarker (response 7 (ascii "getblockpeak") [uintItem 9])
      (ascii "getblockpeak") := by decide
  ⟨hb, hc, parseResponse_getblockpeak _ hb hc⟩

/-- Every `getblockheader2` reply goes to the block parser, which finds the header items where it
reads the block's fields. -/
theorem parseResponse_getblockheader2 {items : List KeyValue} {minerPubkey : Bytes}
    (hb : (response requestID (ascii "getblockheader2")
      [.list (items.map KeyValue.toItem), .bytes minerPubkey]).length < 2 ^ 63)
    (h : NoOtherMarker (response requestID (ascii "getblockheader2")
      [.list (items.map KeyValue.toItem), .bytes minerPubkey]) (ascii "getblockheader2")) :
    ∃ e, parseResponse ext (response requestID (ascii "getblockheader2")
      [.list (items.map KeyValue.toItem), .bytes minerPubkey]) = .error e := by
  have hi : (Item.list (items.map KeyValue.toItem)).encode <:+: response requestID
      (ascii "getblockheader2") [.list (items.map KeyValue.toItem), .bytes minerPubkey] :=
    encode_infix_response (by simp) _ _
  have hc := length_lt_of_infix_response hb ((encodeList_infix_encode _).trans hi)
  obtain ⟨e, hf⟩ : ∃ e, FailsIn (field "Block" block)
      [.list (items.map KeyValue.toItem), .bytes minerPubkey] e := by
    cases items with
    | nil =>
      exact ⟨_, FailsIn.field _ (FailsIn.list_list hc
        (FailsIn.bind_left (FailsIn.field _ (FailsIn.readWith_nil _))))⟩
    | cons kv kvs =>
      exact ⟨_, FailsIn.field _ (FailsIn.list_list hc
        (FailsIn.bind_left (FailsIn.field _ (FailsIn.readWith_list
          (length_lt_of_infix_response hb ((encodeList_infix_encode _).trans
            ((Item.encode_infix_of_mem (List.mem_cons_self _ _)).trans hi))) rfl))))⟩
  rw [parseResponse_response ext .parseBlockResponse (by decide) h]
  simp [ResponseParser.run, parseBlockResponse, decodeWith, decode_blockResponse_of_failsIn hb hf,
    Except.mapError, bind, Except.bind]

/-- Every `getblockquick2` reply goes to the block parser, which finds too few numbers, or a
number where it reads the block's header list. -/
theorem parseResponse_getblockquick2 {ns : List UInt64}
    (hb : (response requestID (ascii "getblockquick2") [.list (ns.map uintItem)]).length < 2 ^ 63)
    (h : NoOtherMarker (response requestID (ascii "getblockquick2") [.list (ns.map uintItem)])
      (ascii "getblockquick2")) :
    ∃ e, parseResponse ext (response requestID (ascii "getblockquick2")
      [.list (ns.map uintItem)]) = .error e := by
  have hc := length_lt_of_infix_response hb ((encodeList_infix_encode _).trans
    (encode_infix_response (List.mem_singleton_self _) _ _))
  obtain ⟨e, hf⟩ : ∃ e, FailsIn (field "Block" block) [.list (ns.map uintItem)] e := by
    match ns with
    | [] =>
      exact ⟨_, FailsIn.field _ (FailsIn.list_list hc
        (FailsIn.bind_left (FailsIn.field _ (FailsIn.readWith_nil _))))⟩
    | [n] =>
      exact ⟨_, FailsIn.field _ (FailsIn.list_list hc
        (FailsIn.bind_of_reads (Reads.field _ (Reads.bytes (beBytes_toNat_length_lt n)))
          (FailsIn.bind_left (FailsIn.field _ (FailsIn.list_nil _)))))⟩
    | n :: n' :: _ =>
      exact ⟨_, FailsIn.field _ (FailsIn.list_list hc
        (FailsIn.bind_of_reads (Reads.field _ (Reads.bytes (beBytes_toNat_length_lt n)))
          (FailsIn.bind_left (FailsIn.field _ (FailsIn.list_bytes (beBytes_toNat_length_lt n') _)))))⟩
  rw [parseResponse_response ext .parseBlockResponse (by decide) h]
  simp [ResponseParser.run, parseBlockResponse, decodeWith, decode_blockResponse_of_failsIn hb hf,
    Except.mapError, bind, Except.bind]

/-- Every `getaccountroots` reply goes to the account parser, which finds a root where it reads
an item's list, or no Merkle proof after an empty list. -/
theorem parseResponse_getaccountroots {roots : List Bytes}
    (hb : (response requestID (ascii "getaccountroots") [.list (roots.map .bytes)]).length <
      2 ^ 63)
    (h : NoOtherMarker (response requestID (ascii "getaccountroots") [.list (roots.map .bytes)])
      (ascii "getaccountroots")) :
    ∃ e, parseResponse ext (response requestID (ascii "getaccountroots")
      [.list (roots.map .bytes)]) = .error e := by
  have hi := encode_infix_response (List.mem_singleton_self (Item.list (roots.map .bytes))) requestID
    (ascii "getaccountroots")
  have hc := length_lt_of_infix_response hb ((encodeList_infix_encode _).trans hi)
  obtain ⟨e, hd⟩ : ∃ e, decode accountResponse
      (response requestID (ascii "getaccountroots") [.list (roots.map .bytes)]) = .error e := by
    match roots with
    | [] =>
      exact ⟨_, decode_response_of_failsIn hb (FailsIn.bind_of_reads
        (Reads.field _ (@Reads.slice _ item KeyValue.toItem [] (fun _ h => absurd h (List.not_mem_nil _))
          (by decide)))
        (FailsIn.bind_left (FailsIn.field _ (FailsIn.list_nil _))))⟩
    | r :: _ =>
      exact ⟨_, decode_response_of_failsIn hb (FailsIn.bind_left (FailsIn.field _
        (FailsIn.slice_head hc (FailsIn.list_bytes (length_lt_of_infix_response hb
          ((infix_encode_of_mem_bytes (List.mem_cons_self _ _)).trans hi)) _))))⟩
  rw [parseResponse_response ext .parseAccountResponse (by decide) h]
  simp [ResponseParser.run, parseAccountResponse, decodeWith, hd, Except.mapError, bind,
    Except.bind]

/-- Every `getaccountvalue` reply goes to the account parser, which finds no Merkle proof after
the items it reads from the value's proof. -/
theorem parseResponse_getaccountvalue {proof : List Item}
    (hb : (response requestID (ascii "getaccountvalue") [.list proof]).length < 2 ^ 63)
    (h : NoOtherMarker (response requestID (ascii "getaccountvalue") [.list proof])
      (ascii "getaccountvalue")) :
    ∃ e, parseResponse ext (response requestID (ascii "getaccountvalue") [.list proof]) =
      .error e := by
  have hc := length_lt_of_infix_response hb ((encodeList_infix_encode _).trans
    (encode_infix_response (List.mem_singleton_self (Item.list proof)) requestID
      (ascii "getaccountvalue")))
  obtain ⟨e, hd⟩ : ∃ e, decode accountResponse
      (response requestID (ascii "getaccountvalue") [.list proof]) = .error e := by
    refine (FailsIn.bind_of_stops ?_ fun _ => ?_).elim fun _ hf =>
      ⟨_, decode_response_of_failsIn hb hf⟩
    . intro a s hs
      simp only [Item.encodeList_cons, Item.encodeList_nil] at hs
      exact list_stops hc (field_stops _ hs)
    . exact ⟨_, FailsIn.bind_left (FailsIn.field _ (FailsIn.list_nil _))⟩
  rw [parseResponse_response ext .parseAccountResponse (by decide) h]
  simp [ResponseParser.run, parseAccountResponse, decodeWith, hd, Except.mapError, bind,
    Except.bind]

end

/-- The replies to `getblockpeak`, `getblockquick2`, `getaccountroots` and `getaccountvalue` are
read back by the parser `NewMessage` binds to their method, and `parseResponse` refuses every
`getblockheader2`, `getblockquick2`, `getaccountroots` and `getaccountvalue` reply that fits in a
Go slice and holds no marker beyond those in its method name. -/
theorem parseResponse_shadowed_replies_refused (ext : External) :
    (∀ requestID n,
      (response requestID (ascii "getblockpeak") [uintItem n]).length < 2 ^ 63 →
      ResponseParser.run ext .parseBlockPeakResponse
        (response requestID (ascii "getblockpeak") [uintItem n]) = .ok (.blockNumber n)) ∧
    (∀ requestID (items : List KeyValue) minerPubkey,
      (response requestID (ascii "getblockheader2")
        [.list (items.map KeyValue.toItem), .bytes minerPubkey]).length < 2 ^ 63 →
      NoOtherMarker (response requestID (ascii "getblockheader2")
        [.list (items.map KeyValue.toItem), .bytes minerPubkey]) (ascii "getblockheader2") →
      ∃ e, parseResponse ext (response requestID (ascii "getblockheader2")
        [.list (items.map KeyValue.toItem), .bytes minerPubkey]) = .error e) ∧
    (∀ requestID (ns : List UInt64),
      (response requestID (ascii "getblockquick2") [.list (ns.map uintItem)]).length < 2 ^ 63 →
      NoOtherMarker (response requestID (ascii "getblockquick2") [.list (ns.map uintItem)])
        (ascii "getblockquick2") →
      ResponseParser.run ext .parseBlockquickResponse
          (response requestID (ascii "getblockquick2") [.list (ns.map uintItem)]) =
        .ok (.blockquick ns) ∧
      ∃ e, parseResponse ext (response requestID (ascii "getblockquick2")
        [.list (ns.map uintItem)]) = .error e) ∧
    (∀ requestID (roots : List Bytes),
      (response requestID (ascii "getaccountroots") [.list (roots.map .bytes)]).length < 2 ^ 63 →
      NoOtherMarker (response requestID (ascii "getaccountroots") [.list (roots.map .bytes)])
        (ascii "getaccountroots") →
      ResponseParser.run ext .parseAccountRootsResponse
          (response requestID (ascii "getaccountroots") [.list (roots.map .bytes)]) =
        .ok (.accountRoots ⟨roots⟩) ∧
      ∃ e, parseResponse ext (response requestID (ascii "getaccountroots")
        [.list (roots.map .bytes)]) = .error e) ∧
    (∀ requestID proof,
      (response requestID (ascii "getaccountvalue") [.list proof]).length < 2 ^ 63 →
      NoOtherMarker (response requestID (ascii "getaccountvalue") [.list proof])
        (ascii "getaccountvalue") →
      ResponseParser.run ext .parseAccountValueResponse
          (response requestID (ascii "getaccountvalue") [.list proof]) =
        (ext.parseProof proof).map (fun (rootHash, module, leaves) =>
          .accountValue ⟨⟨proof, rootHash, module, leaves⟩⟩) ∧
      ∃ e, parseResponse ext (response requestID (ascii "getaccountvalue") [.list proof]) =
        .error e) :=
  ⟨fun _ _ => parseBlockPeakResponse_response, fun _ _ _ => parseResponse_getblockheader2 ext,
    fun _ _ hb h => ⟨parseBlockquickResponse_response hb, parseResponse_getblockquick2 ext hb h⟩,
    fun _ _ hb h => ⟨parseAccountRootsResponse_response hb, parseResponse_getaccountroots ext hb h⟩,
    fun _ _ hb h =>
      ⟨parseAccountValueResponse_response ext hb, parseResponse_getaccountvalue ext hb h⟩⟩

/-- A `getblockquick2` reply of two numbers is read by its own parser and refused by the table. -/
theorem parseResponse_shadowed_replies_refused_blockquick2 :
    (response 7 (ascii "getblockquick2") [.list [uintItem 1, uintItem 2]]).length < 2 ^ 63 ∧
      NoOtherMarker (response 7 (ascii "getblockquick2") [.list [uintItem 1, uintItem 2]])
        (ascii "getblockquick2") ∧
      ResponseParser.run ⟨id, .ok, fun _ => [], fun _ => .ok ([], 0, [])⟩ .parseBlockquickResponse
          (response 7 (ascii "getblockquick2") [.list [uintItem 1, uintItem 2]]) =
        .ok (.blockquick [1, 2]) ∧
      ∃ e, parseResponse ⟨id, .ok, fun _ => [], fun _ => .ok ([], 0, [])⟩
        (response 7 (ascii "getblockquick2") [.list [uintItem 1, uintItem 2]]) = .error e :=
  have hb : (response 7 (ascii "getblockquick2") [.list [uintItem 1, uintItem 2]]).length <
      2 ^ 63 := by decide
  have hc : NoOtherMarker (response 7 (ascii "getblockquick2") [.list [uintItem 1, uintItem 2]])
      (ascii "getblockquick2") := by decide
  ⟨hb, hc, (parseResponse_shadowed_replies_refused
    ⟨id, .ok, fun _ => [], fun _ => .ok ([], 0, [])⟩).2.2.1 7 [1, 2] hb hc⟩

end Edge
