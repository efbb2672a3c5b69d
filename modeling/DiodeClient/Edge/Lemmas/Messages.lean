import DiodeClient.Edge.Messages
import DiodeClient.Rlp.Lemmas
import DiodeClient.Go.Lemmas

/-!
This module proves that the message decoders read back the envelopes the encoders write, field
by field, and that an envelope contains the bytes of its method name.
-/

namespace Edge

open Rlp Go

theorem envelope_reads {p : Decoder α} {payload : List Item} {a : α} (h : Reads p payload a)
    (hlen : (Item.encodeList payload).length + 18 < 2 ^ 64) (requestID : UInt64) :
    Reads (envelope p) [.list [uintItem requestID, .list payload]] a := by
  have hp := @Item.encode_list_length_le payload (by omega)
  have hu := uintItem_length_le requestID
  refine Reads.list (Reads.cons (Reads.field _ (Reads.uint requestID))
    (Reads.field _ (Reads.list h (by omega)))) ?_
  simp only [Item.encodeList_cons, Item.encodeList_nil, List.append_nil, List.length_append]
  omega

/-- A request decodes to what its payload's fields read. -/
theorem decode_request {p : Decoder α} {payload : List Item} {a : α} (h : Reads p payload a)
    (hlen : (Item.encodeList payload).length + 18 < 2 ^ 64) (requestID : UInt64) :
    decode (envelope p) (request requestID payload) = .ok a := by
  simpa only [List.append_nil] using decode_of_reads (envelope_reads h hlen requestID) []

theorem requestHead_reads {rest : Decoder α} {its : List Item} {a : α} (h : Reads rest its a)
    {method : Bytes} (hm : method.length < 2 ^ 64) :
    Reads (requestHead rest) (.bytes method :: its) a :=
  Reads.cons (Reads.field _ (Reads.bytes hm)) h

theorem responseHead_reads {rest : Decoder α} {its : List Item} {a : α} (h : Reads rest its a)
    {type method : Bytes} (ht : type.length < 2 ^ 64) (hm : method.length < 2 ^ 64) :
    Reads (responseHead rest) (.bytes type :: .bytes method :: its) a :=
  Reads.cons (Reads.field _ (Reads.bytes ht)) (Reads.cons (Reads.field _ (Reads.bytes hm)) h)

theorem encode_infix_request {it : Item} {payload : List Item} (h : it ∈ payload)
    (requestID : UInt64) : it.encode <:+: request requestID payload :=
  (Item.encode_infix_of_mem h).trans
    (Item.encode_infix_of_mem (List.mem_cons_of_mem _ (List.mem_singleton_self _)))

/-- The method name's bytes occur in every request of that method. -/
theorem method_infix_request (requestID : UInt64) (method : Bytes) (fields : List Item) :
    method <:+: request requestID (.bytes method :: fields) :=
  (infix_encodeString method).trans <| by
    simpa only [Item.encode_bytes] using
      encode_infix_request (List.mem_cons_self (Item.bytes method) fields) requestID

/-- The method name's bytes occur in every response to that method. -/
theorem method_infix_response (requestID : UInt64) (method : Bytes) (fields : List Item) :
    method <:+: response requestID method fields :=
  (infix_encodeString method).trans <| by
    simpa only [Item.encode_bytes] using encode_infix_request
      (List.mem_cons_of_mem _ (List.mem_cons_self (Item.bytes method) fields)) requestID

theorem encode_infix_response {it : Item} {fields : List Item} (h : it ∈ fields)
    (requestID : UInt64) (method : Bytes) : it.encode <:+: response requestID method fields :=
  encode_infix_request (List.mem_cons_of_mem _ (List.mem_cons_of_mem _ h)) requestID

/-- Every part of a response that fits in a Go slice is below the decoder's length limit. -/
theorem length_lt_of_infix_response {requestID : UInt64} {method x : Bytes} {fields : List Item}
    (hb : (response requestID method fields).length < 2 ^ 63)
    (hx : x <:+: response requestID method fields) : x.length < 2 ^ 64 := by
  have := hx.length_le
  omega

theorem encodeList_infix_request (requestID : UInt64) (payload : List Item) :
    Item.encodeList payload <:+: request requestID payload :=
  (encodeList_infix_encode payload).trans
    (Item.encode_infix_of_mem (List.mem_cons_of_mem _ (List.mem_singleton_self _)))

/-- A byte string field of a request is shorter than the request. -/
theorem length_lt_of_mem_request {b : Bytes} {payload : List Item} (h : .bytes b ∈ payload)
    {requestID : UInt64} (hb : (request requestID payload).length < 2 ^ 63) :
    b.length < 2 ^ 64 := by
  have := ((infix_encodeString b).trans (by simpa using encode_infix_request h requestID)).length_le
  omega

/-- A request that fits in a Go slice decodes to what its payload's fields read. -/
theorem decode_request_of_length {p : Decoder α} {payload : List Item} {a : α}
    (h : Reads p payload a) {requestID : UInt64} (hb : (request requestID payload).length < 2 ^ 63) :
    decode (envelope p) (request requestID payload) = .ok a :=
  decode_request h (by have := (encodeList_infix_request requestID payload).length_le; omega) _

theorem decode_portSendInboundRequest (requestID ref : UInt64) {data : Bytes}
    (h : data.length < 2 ^ 63) :
    decode portSendInboundRequest
      (request requestID [.bytes (ascii "portsend"), uintItem ref, .bytes data]) = .ok (ref, data) := by
  have hd := encodeString_length_le (b := data) (by omega)
  have hr := uintItem_length_le ref
  refine decode_request (requestHead_reads ?_ (by decide)) ?_ _
  . exact Reads.cons (Reads.field _ (Reads.uint ref))
      (Reads.cons (Reads.field _ (Reads.bytes (by omega))) (Reads.pure _))
  simp only [Item.encodeList_cons, Item.encodeList_nil, List.append_nil, List.length_append,
    Item.encode_bytes]
  have : (encodeString (ascii "portsend")).length = 9 := rfl
  omega

theorem decode_portCloseInboundRequest (requestID ref : UInt64) :
    decode portCloseInboundRequest
      (request requestID [.bytes (ascii "portclose"), uintItem ref]) = .ok ref := by
  have hr := uintItem_length_le ref
  refine decode_request (requestHead_reads (Reads.field _ (Reads.uint ref)) (by decide)) ?_ _
  simp only [Item.encodeList_cons, Item.encodeList_nil, List.append_nil, List.length_append,
    Item.encode_bytes]
  have : (encodeString (ascii "portclose")).length = 10 := rfl
  omega

theorem decode_portOpenInboundRequest (requestID port ref : UInt64) {deviceID : Bytes}
    (hb : (request requestID [.bytes (ascii "portopen"), uintItem port, uintItem ref,
      .bytes deviceID]).length < 2 ^ 63) :
    decode portOpenInboundRequest
      (request requestID [.bytes (ascii "portopen"), uintItem port, uintItem ref, .bytes deviceID]) =
        .ok (port, ref, deviceID) := by
  refine decode_request_of_length (requestHead_reads ?_ (by decide)) hb
  exact Reads.cons (Reads.field _ (Reads.uint port)) (Reads.cons (Reads.field _ (Reads.uint ref))
    (Reads.cons (Reads.field _ (Reads.bytes (length_lt_of_mem_request (by simp) hb))) (Reads.pure _)))

theorem decode_ticketResponse {requestID : UInt64} {method result : Bytes} {r : TicketReply}
    (hb : (response requestID method (ticketReplyFields result r)).length < 2 ^ 63) :
    decode ticketResponse (response requestID method (ticketReplyFields result r)) = .ok r := by
  have hl : ∀ b, Item.bytes b ∈ .bytes (ascii "response") :: .bytes method ::
      ticketReplyFields result r → b.length < 2 ^ 64 := fun b h => length_lt_of_mem_request h hb
  refine decode_request_of_length (responseHead_reads ?_ (hl _ (by simp)) (hl _ (by simp))) hb
  exact Reads.cons (Reads.field _ (Reads.bytes (hl _ (by simp [ticketReplyFields]))))
    (Reads.cons (Reads.field _ (Reads.bytes (hl _ (by simp [ticketReplyFields]))))
    (Reads.cons (Reads.field _ (Reads.uint _)) (Reads.cons (Reads.field _ (Reads.uint _))
    (Reads.cons (Reads.field _ (Reads.bytes (hl _ (by simp [ticketReplyFields]))))
    (Reads.cons (Reads.field _ (Reads.bytes (hl _ (by simp [ticketReplyFields])))) (Reads.pure _))))))

theorem item_reads {kv : KeyValue} (h : kv.toItem.encode.length < 2 ^ 64) :
    Reads item [kv.toItem] kv :=
  have hl : ∀ x, x <:+: kv.toItem.encode → x.length < 2 ^ 64 := fun x hx => by
    have := hx.length_le
    omega
  Reads.list (Reads.cons (Reads.field _ (Reads.bytes (hl _ (infix_encode_of_mem_bytes (by simp)))))
    (Reads.cons (Reads.field _ (Reads.bytes (hl _ (infix_encode_of_mem_bytes (by simp)))))
      (Reads.pure _))) (hl _ (encodeList_infix_encode _))

theorem decode_blockHeaderResponse {requestID : UInt64} {method minerPubkey : Bytes}
    {items : List KeyValue}
    (hb : (response requestID method [.list (items.map KeyValue.toItem), .bytes minerPubkey]).length <
      2 ^ 63) :
    decode blockHeaderResponse
      (response requestID method [.list (items.map KeyValue.toItem), .bytes minerPubkey]) =
        .ok (items, minerPubkey) := by
  have hl : ∀ x, x <:+: response requestID method [.list (items.map KeyValue.toItem),
      .bytes minerPubkey] → x.length < 2 ^ 64 := fun x hx => by
    have := hx.length_le
    omega
  have hi : (Item.list (items.map KeyValue.toItem)).encode <:+: response requestID method
      [.list (items.map KeyValue.toItem), .bytes minerPubkey] :=
    encode_infix_request (by simp) requestID
  have hp : (Item.bytes minerPubkey).encode <:+: response requestID method
      [.list (items.map KeyValue.toItem), .bytes minerPubkey] :=
    encode_infix_request (by simp) requestID
  refine decode_request_of_length (responseHead_reads ?_ (by decide)
    (hl _ (method_infix_response ..))) hb
  exact Reads.cons (Reads.field _ (Reads.slice
      (fun kv hkv => item_reads (hl _ ((Item.encode_infix_of_mem (List.mem_map_of_mem _ hkv)).trans hi)))
      (hl _ ((encodeList_infix_encode _).trans hi))))
    (Reads.cons (Reads.field _ (Reads.bytes (hl _ ((infix_encodeString _).trans (by simpa using hp)))))
      (Reads.pure _))

theorem ifaces_reads {its : List Item} (h : (Item.list its).encode.length < 2 ^ 64) :
    Reads ifaces [.list its] its := by
  have hl : ∀ x, x <:+: (Item.list its).encode → x.length < 2 ^ 64 := fun x hx => by
    have := hx.length_le
    omega
  simpa using @Reads.slice Item iface id its
    (fun it hit => Reads.iface (hl _ (Item.encode_infix_of_mem hit)))
    (by simpa using hl _ (encodeList_infix_encode its))

theorem decode_accountResponse {requestID : UInt64} {method : Bytes} {items : List KeyValue}
    {proof : List Item}
    (hb : (response requestID method [.list (items.map KeyValue.toItem), .list proof]).length <
      2 ^ 63) :
    decode accountResponse
      (response requestID method [.list (items.map KeyValue.toItem), .list proof]) =
        .ok (items, proof) := by
  have hl : ∀ x, x <:+: response requestID method [.list (items.map KeyValue.toItem),
      .list proof] → x.length < 2 ^ 64 := fun x hx => by
    have := hx.length_le
    omega
  have hi : (Item.list (items.map KeyValue.toItem)).encode <:+: response requestID method
      [.list (items.map KeyValue.toItem), .list proof] :=
    encode_infix_request (by simp) requestID
  have hp : (Item.list proof).encode <:+: response requestID method
      [.list (items.map KeyValue.toItem), .list proof] :=
    encode_infix_request (by simp) requestID
  refine decode_request_of_length (responseHead_reads ?_ (by decide)
    (hl _ (method_infix_response ..))) hb
  exact Reads.cons (Reads.field _ (Reads.slice
      (fun kv hkv => item_reads (hl _ ((Item.encode_infix_of_mem (List.mem_map_of_mem _ hkv)).trans hi)))
      (hl _ ((encodeList_infix_encode _).trans hi))))
    (Reads.cons (Reads.field _ (ifaces_reads (hl _ hp))) (Reads.pure _))

end Edge
