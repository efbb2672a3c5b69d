import DiodeClient.Rlp.Sound
import DiodeClient.Edge.Lemmas.Dispatch

/-!
This module proves that the parsers of `RLP_V2` accept nothing but what `rlp.EncodeToBytes`
writes. Every reply a response parser accepts, and every inbound request `parseInboundRequest`
hands on, starts with an envelope `[RequestID, payload]` in its one canonical encoding, and the
payload starts with the byte strings the parser skips: the type and the method of a reply, the
method of a request. The message decoders of `Messages.lean` inherit this from the readers they
are built of (`Rlp.Accepts`), one lemma per decoder.
-/

namespace Edge

open Rlp Go

/-- The items of an envelope `[RequestID, payload]` whose payload has the shape `P`, with a
content short enough for `next` to read its size back. -/
def EnvelopeItems (P : List Item → Prop) (its : List Item) : Prop :=
  ∃ requestID payload, P payload ∧
    (Item.encodeList [uintItem requestID, .list payload]).length < 2 ^ 64 ∧
    its = [.list [uintItem requestID, .list payload]]

/-- The payload of a reply: its first two fields are byte strings, the type and the method. -/
def ResponsePayload (payload : List Item) : Prop :=
  ∃ type method fields, payload = .bytes type :: .bytes method :: fields

/-- The payload of an inbound request: its first field is a byte string, the method. -/
def RequestPayload (payload : List Item) : Prop :=
  ∃ method fields, payload = .bytes method :: fields

/-- `ResponseID` reads the request ID of an envelope, whatever follows it. -/
theorem responseIDOf_request_append {requestID : UInt64} {payload : List Item}
    (h : (Item.encodeList [uintItem requestID, .list payload]).length < 2 ^ 64) (rest : Bytes) :
    responseIDOf (request requestID payload ++ rest) = requestID := by
  have hn := next_head_list ⟨[], false⟩ h rest
  have hu := (@uint_ok_iff ⟨Item.encodeList [uintItem requestID, .list payload], true⟩
    ⟨(Item.list payload).encode, true⟩ requestID).mpr ⟨by simp, rfl⟩
  dsimp only at hn
  simp only [request, Item.encode_list, List.append_assoc]
  simp only [responseIDOf, hn, hu]

section

variable {α β : Type} {d : Decoder α} {R : α → List Item → Prop}

theorem envelope_accepts (h : Accepts d R) :
    Accepts (envelope d) fun a => EnvelopeItems (R a) := by
  refine (Accepts.list ((Accepts.uint.field _).bind fun _ => h.list.field _)).mono ?_
  rintro _ _ ⟨_, ⟨n, _, _, rfl, ⟨c, hc, -, rfl⟩, rfl⟩, hlen, rfl⟩
  exact ⟨n, c, hc, hlen, rfl⟩

theorem response_accepts (h : Accepts d R) :
    Accepts (envelope (responseHead d)) fun _ => EnvelopeItems ResponsePayload := by
  refine (envelope_accepts ((Accepts.bytes.field _).bind fun _ =>
    (Accepts.bytes.field _).bind fun _ => h)).mono ?_
  rintro _ _ ⟨n, _, ⟨t, _, _, rfl, ⟨m, _, _, rfl, -, rfl⟩, rfl⟩, hlen, rfl⟩
  exact ⟨n, _, ⟨t, m, _, rfl⟩, hlen, rfl⟩

theorem request_accepts (h : Accepts d R) :
    Accepts (envelope (requestHead d)) fun _ => EnvelopeItems RequestPayload := by
  refine (envelope_accepts ((Accepts.bytes.field _).bind fun _ => h)).mono ?_
  rintro _ _ ⟨n, _, ⟨m, _, _, rfl, -, rfl⟩, hlen, rfl⟩
  exact ⟨n, _, ⟨m, _, rfl⟩, hlen, rfl⟩

theorem decodeWith_ok_iff {buffer : Bytes} {a : α} :
    decodeWith d buffer = .ok a ↔ decode d buffer = .ok a := by
  simp only [decodeWith]
  cases decode d buffer <;> simp [Except.mapError]

/-- What `decodeWith` accepts is the encoding of items that the decoder accepts, and anything
after them. -/
theorem decodeWith_accepts (hd : Accepts d R) {buffer : Bytes} {a : α}
    (h : decodeWith d buffer = .ok a) : ∃ its rest, R a its ∧ buffer = Item.encodeList its ++ rest := by
  obtain ⟨s', hs'⟩ := decode_ok_iff.mp (decodeWith_ok_iff.mp h)
  obtain ⟨-, its, hr, hs⟩ := hd _ _ _ hs'
  exact ⟨its, s'.input, hr, hs⟩

/-- A buffer an envelope decoder accepts is the envelope of the request ID `ResponseID` reads
from it, followed by anything. -/
theorem envelope_of_decodeWith {P : List Item → Prop} (hd : Accepts d fun _ => EnvelopeItems P)
    {buffer : Bytes} {a : α} (h : decodeWith d buffer = .ok a) :
    ∃ payload rest, P payload ∧ buffer = request (responseID buffer) payload ++ rest := by
  obtain ⟨_, rest, ⟨n, payload, hp, hlen, rfl⟩, rfl⟩ := decodeWith_accepts hd h
  have hreq : Item.encodeList [.list [uintItem n, .list payload]] ++ rest = request n payload ++ rest := by
    simp [request]
  rw [hreq, responseID, responseIDOf_request_append hlen]
  exact ⟨payload, rest, hp, rfl⟩

/-! The message decoders, one lemma each, assembled from the readers of their fields. -/

theorem item_accepts : Accepts item fun _ _ => True :=
  (Accepts.list ((Accepts.bytes.field _).seq fun _ =>
    (Accepts.bytes.field _).seq fun _ => Accepts.pure _)).any

theorem block_accepts : Accepts block fun _ _ => True :=
  (Accepts.list ((Accepts.bytes.field _).seq fun _ => (Accepts.ifaces.field _).seq fun _ =>
    (Accepts.ifaces.field _).seq fun _ => (Accepts.ifaces.field _).seq fun _ =>
      Accepts.pure _)).any

theorem blockResponse_accepts : Accepts blockResponse fun _ => EnvelopeItems ResponsePayload := by
  refine (Accepts.list ((Accepts.uint.field _).bind fun _ =>
    (Accepts.list ((Accepts.bytes.field _).bind fun _ => (Accepts.bytes.field _).bind fun _ =>
      (block_accepts.field _).bind fun _ => Accepts.pure _)).field _ |>.bind
        fun x => show Accepts _ fun (_ : BlockResponse) its => its = [] from ?_)).mono ?_
  · obtain ⟨_, _, _⟩ := x
    exact Accepts.pure _
  · rintro _ _ ⟨_, ⟨n, _, _, rfl, ⟨_, _, _, ⟨_, ⟨t, _, _, rfl, ⟨m, _, _, rfl,
      ⟨_, blk, _, -, rfl, rfl⟩, rfl⟩, rfl⟩, -, rfl⟩, rfl, rfl⟩, rfl⟩, hlen, rfl⟩
    exact ⟨n, _, ⟨t, m, blk, rfl⟩, by simpa using hlen, by simp⟩

theorem blockPeakResponse_accepts : Accepts blockPeakResponse fun _ => EnvelopeItems ResponsePayload :=
  response_accepts (Accepts.uint.field _)

theorem blockHeaderResponse_accepts : Accepts blockHeaderResponse fun _ => EnvelopeItems ResponsePayload :=
  response_accepts (((Accepts.slice item_accepts).field _).seq fun _ =>
    (Accepts.bytes.field _).seq fun _ => Accepts.pure _)

theorem blockquickResponse_accepts : Accepts blockquickResponse fun _ => EnvelopeItems ResponsePayload :=
  response_accepts ((Accepts.slice Accepts.uint).field _)

theorem ticketResponse_accepts : Accepts ticketResponse fun _ => EnvelopeItems ResponsePayload :=
  response_accepts ((Accepts.bytes.field _).seq fun _ => (Accepts.bytes.field _).seq fun _ =>
    (Accepts.uint.field _).seq fun _ => (Accepts.uint.field _).seq fun _ =>
      (Accepts.bytes.field _).seq fun _ => (Accepts.bytes.field _).seq fun _ => Accepts.pure _)

theorem objectResponse_accepts : Accepts objectResponse fun _ => EnvelopeItems ResponsePayload :=
  response_accepts ((Accepts.list ((Accepts.bytes.field _).seq fun _ =>
    (Accepts.uint.field _).seq fun _ => (Accepts.bytes.field _).seq fun _ =>
      (Accepts.uint.field _).seq fun _ => (Accepts.uint.field _).seq fun _ =>
        (Accepts.bytes.field _).seq fun _ => (Accepts.bytes.field _).seq fun _ =>
          (Accepts.bytes.field _).seq fun _ => Accepts.pure _)).field _)

theorem accountResponse_accepts : Accepts accountResponse fun _ => EnvelopeItems ResponsePayload :=
  response_accepts (((Accepts.slice item_accepts).field _).seq fun _ =>
    (Accepts.ifaces.field _).seq fun _ => Accepts.pure _)

theorem accountRootsResponse_accepts : Accepts accountRootsResponse fun _ => EnvelopeItems ResponsePayload :=
  response_accepts ((Accepts.slice Accepts.bytes).field _)

theorem accountValueResponse_accepts : Accepts accountValueResponse fun _ => EnvelopeItems ResponsePayload :=
  response_accepts (Accepts.ifaces.field _)

theorem portOpenResponse_accepts : Accepts portOpenResponse fun _ => EnvelopeItems ResponsePayload :=
  response_accepts ((Accepts.bytes.field _).seq fun _ => (Accepts.uint.field _).seq fun _ =>
    Accepts.pure _)

theorem serverObjectResponse_accepts : Accepts serverObjectResponse fun _ => EnvelopeItems ResponsePayload :=
  response_accepts ((Accepts.list ((Accepts.bytes.field _).seq fun _ =>
    (Accepts.uint.field _).seq fun _ => (Accepts.uint.field _).seq fun _ =>
      (Accepts.bytes.field _).seq fun _ => Accepts.pure _)).field _)

theorem stateRootsResponse_accepts : Accepts stateRootsResponse fun _ => EnvelopeItems ResponsePayload :=
  response_accepts ((Accepts.slice Accepts.bytes).field _)

theorem portOpenInboundRequest_accepts : Accepts portOpenInboundRequest fun _ => EnvelopeItems RequestPayload :=
  request_accepts ((Accepts.uint.field _).seq fun _ => (Accepts.uint.field _).seq fun _ =>
    (Accepts.bytes.field _).seq fun _ => Accepts.pure _)

theorem portSendInboundRequest_accepts : Accepts portSendInboundRequest fun _ => EnvelopeItems RequestPayload :=
  request_accepts ((Accepts.uint.field _).seq fun _ => (Accepts.bytes.field _).seq fun _ =>
    Accepts.pure _)

theorem portCloseInboundRequest_accepts : Accepts portCloseInboundRequest fun _ => EnvelopeItems RequestPayload :=
  request_accepts (Accepts.uint.field _)

theorem goodbyeInboundRequest_accepts : Accepts goodbyeInboundRequest fun _ => EnvelopeItems RequestPayload :=
  request_accepts (Accepts.bytes.field _)

/-- Every reply a parser handed out by `NewMessage` accepts is the reply envelope of the request
ID `ResponseID` reads from it, in its canonical encoding. -/
theorem ResponseParser.run_ok_envelope (ext : External) {p : ResponseParser} {buffer : Bytes}
    {r : Response} (h : p.run ext buffer = .ok r) :
    ∃ payload rest, ResponsePayload payload ∧ buffer = request (responseID buffer) payload ++ rest := by
  cases p <;> simp only [ResponseParser.run] at h
  case parseDeviceTicketResponse =>
    simp only [Edge.parseDeviceTicketResponse] at h
    split_ifs at h <;> obtain ⟨_, ha, -⟩ := bind_eq_ok.mp h <;>
      exact envelope_of_decodeWith ticketResponse_accepts ha
  all_goals obtain ⟨_, ha, -⟩ := bind_eq_ok.mp h
  case parseBlockResponse => exact envelope_of_decodeWith blockResponse_accepts ha
  case parseBlockPeakResponse => exact envelope_of_decodeWith blockPeakResponse_accepts ha
  case parseBlockHeaderResponse => exact envelope_of_decodeWith blockHeaderResponse_accepts ha
  case parseBlockquickResponse => exact envelope_of_decodeWith blockquickResponse_accepts ha
  case parseAccountResponse => exact envelope_of_decodeWith accountResponse_accepts ha
  case parseAccountRootsResponse => exact envelope_of_decodeWith accountRootsResponse_accepts ha
  case parseAccountValueResponse => exact envelope_of_decodeWith accountValueResponse_accepts ha
  case parsePortOpenResponse => exact envelope_of_decodeWith portOpenResponse_accepts ha
  case parseDeviceObjectResponse => exact envelope_of_decodeWith objectResponse_accepts ha
  case parseServerObjResponse => exact envelope_of_decodeWith serverObjectResponse_accepts ha
  case parseStateRootsResponse => exact envelope_of_decodeWith stateRootsResponse_accepts ha

/-- Every reply `parseResponse` accepts is the reply envelope `[RequestID, [Type, Method, ...]]`
of the request ID `ResponseID` reads from it, exactly as `rlp.EncodeToBytes` writes it: no other
spelling of the envelope, of its integers or of its strings is accepted, and only what follows
the envelope is left unread. The parser and the correlator agree on which request a reply
answers. -/
theorem parseResponse_ok_envelope (ext : External) {buffer : Bytes} {r : Response}
    (h : parseResponse ext buffer = .ok r) :
    ∃ type method fields rest,
      buffer = request (responseID buffer) (.bytes type :: .bytes method :: fields) ++ rest := by
  rw [parseResponse_eq_dispatch] at h
  cases hd : dispatch buffer with
  | none =>
    rw [hd] at h
    cases h
  | some p =>
    rw [hd] at h
    obtain ⟨_, rest, ⟨t, m, fields, rfl⟩, hb⟩ := ResponseParser.run_ok_envelope ext h
    exact ⟨t, m, fields, rest, hb⟩

theorem parseResponse_ok_envelope_stateroots :
    parseResponse ⟨id, .ok, fun _ => [], fun _ => .ok ([], 0, [])⟩
        (response 1 (ascii "getstateroots") [.list []]) = .ok (.stateRoots ⟨[]⟩) ∧
      ∃ type method fields rest, response 1 (ascii "getstateroots") [.list []] =
        request (responseID (response 1 (ascii "getstateroots") [.list []]))
          (.bytes type :: .bytes method :: fields) ++ rest :=
  have h : parseResponse ⟨id, .ok, fun _ => [], fun _ => .ok ([], 0, [])⟩
      (response 1 (ascii "getstateroots") [.list []]) = .ok (.stateRoots ⟨[]⟩) := rfl
  ⟨h, parseResponse_ok_envelope _ h⟩

/-- Every inbound request `parseInboundRequest` hands on is the request envelope `[RequestID,
[Method, ...]]` of the request ID `ResponseID` reads from it, exactly as `rlp.EncodeToBytes`
writes it. -/
theorem parseInboundRequest_ok_envelope {buffer : Bytes} {r : Request}
    (h : parseInboundRequest buffer = .ok (some r)) :
    ∃ method fields rest, buffer = request (responseID buffer) (.bytes method :: fields) ++ rest := by
  have henv : ∃ payload rest, RequestPayload payload ∧
      buffer = request (responseID buffer) payload ++ rest := by
    simp only [parseInboundRequest] at h
    split_ifs at h
    · obtain ⟨_, ha, -⟩ := bind_eq_ok.mp (map_some_eq_ok.mp h)
      exact envelope_of_decodeWith portOpenInboundRequest_accepts ha
    · obtain ⟨_, ha, -⟩ := bind_eq_ok.mp (map_some_eq_ok.mp h)
      exact envelope_of_decodeWith portSendInboundRequest_accepts ha
    · obtain ⟨_, ha, -⟩ := bind_eq_ok.mp (map_some_eq_ok.mp h)
      exact envelope_of_decodeWith portCloseInboundRequest_accepts ha
    · obtain ⟨_, ha, -⟩ := bind_eq_ok.mp (map_some_eq_ok.mp h)
      exact envelope_of_decodeWith goodbyeInboundRequest_accepts ha
    · cases h
  obtain ⟨_, rest, ⟨m, fields, rfl⟩, hb⟩ := henv
  exact ⟨m, fields, rest, hb⟩

theorem parseInboundRequest_ok_envelope_portclose :
    parseInboundRequest (request 1 [.bytes (ascii "portclose"), uintItem 3]) =
        .ok (some (.portClose ⟨3, true⟩)) ∧
      ∃ method fields rest, request 1 [.bytes (ascii "portclose"), uintItem 3] =
        request (responseID (request 1 [.bytes (ascii "portclose"), uintItem 3]))
          (.bytes method :: fields) ++ rest :=
  have h : parseInboundRequest (request 1 [.bytes (ascii "portclose"), uintItem 3]) =
      .ok (some (.portClose ⟨3, true⟩)) := rfl
  ⟨h, parseInboundRequest_ok_envelope h⟩

end

end Edge
