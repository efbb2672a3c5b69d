import DiodeClient.Edge.Lemmas.Ticket
import DiodeClient.Edge.Lemmas.Requests

/-!
This module is about the dispatch of responses. `parseResponse` is the table `responseMarkers`
read in order: a buffer goes to the parser of the
first marker among its bytes. A response whose bytes contain no marker beyond those in its
method name is therefore dispatched by the method name alone, and the table sends six of the
twelve methods `NewMessage` binds a parser to elsewhere: the `getblock` marker is tested before
the longer block markers, `getaccount` before the longer account markers, and the ticket marker
`getticket` is not the method name `ticket`. Every parser the table picks refuses a buffer that
does not start with an rlp list, such as the text `NewErrorResponse` writes.
-/

namespace Edge

open Rlp Go

/-- The markers `parseResponse` tests, in its order, with the parser of each. -/
def responseMarkers : List (Bytes × ResponseParser) :=
  [(portOpenPivot, .parsePortOpenResponse), (blockPivot, .parseBlockResponse),
    (block2Pivot, .parseBlockResponse), (blockHeaderPivot, .parseBlockHeaderResponse),
    (blockHeader2Pivot, .parseBlockHeaderResponse), (blockquickPivot, .parseBlockquickResponse),
    (blockquick2Pivot, .parseBlockquickResponse), (blockPeakPivot, .parseBlockPeakResponse),
    (accountPivot, .parseAccountResponse), (accountValuePivot, .parseAccountValueResponse),
    (accountRootsPivot, .parseAccountRootsResponse), (stateRootsPivot, .parseStateRootsResponse),
    (objectPivot, .parseDeviceObjectResponse), (nodePivot, .parseServerObjResponse),
    (ticketPivot, .parseDeviceTicketResponse)]

/-- The parser of the first of `markers` the buffer contains. -/
def dispatchBy (buffer : Bytes) : List (Bytes × ResponseParser) → Option ResponseParser
  | [] => none
  | (marker, p) :: markers => if bytesContains buffer marker then some p else dispatchBy buffer markers

/-- The parser `parseResponse` hands a buffer to. -/
def dispatch (buffer : Bytes) : Option ResponseParser :=
  dispatchBy buffer responseMarkers

/-- Every marker `buffer` contains occurs in `method`: the buffer's other bytes hold none. -/
def NoOtherMarker (buffer method : Bytes) : Prop :=
  ∀ m ∈ responseMarkers, bytesContains buffer m.1 = true → bytesContains method m.1 = true

instance (buffer method : Bytes) : Decidable (NoOtherMarker buffer method) :=
  inferInstanceAs (Decidable (∀ m ∈ responseMarkers, _))

theorem dispatchBy_cons_elim (buffer marker : Bytes) (p : ResponseParser)
    (markers : List (Bytes × ResponseParser)) (e : β) (f : ResponseParser → β) :
    (dispatchBy buffer ((marker, p) :: markers)).elim e f =
      if bytesContains buffer marker then f p else (dispatchBy buffer markers).elim e f := by
  simp only [dispatchBy]
  split <;> rfl

/-- `parseResponse` is the table read in order. -/
theorem parseResponse_eq_dispatch (ext : External) (buffer : Bytes) :
    parseResponse ext buffer =
      (dispatch buffer).elim (.error .responseHandlerNotFound) (ResponseParser.run ext · buffer) := by
  simp only [parseResponse, dispatch, responseMarkers, dispatchBy_cons_elim, ResponseParser.run]
  rfl

/-- What a buffer is dispatched to depends only on which markers it contains. -/
theorem dispatchBy_congr {b c : Bytes} : ∀ {markers : List (Bytes × ResponseParser)},
    (∀ m ∈ markers, bytesContains b m.1 = bytesContains c m.1) →
      dispatchBy b markers = dispatchBy c markers
  | [], _ => rfl
  | (m, p) :: ms, h => by
    simp only [dispatchBy, h (m, p) (List.mem_cons_self _ _),
      dispatchBy_congr fun x hx => h x (List.mem_cons_of_mem _ hx)]

/-- A response whose bytes contain no marker beyond those in its method name is dispatched as the
method name is. -/
theorem dispatch_response {requestID : UInt64} {method : Bytes} {fields : List Item}
    (h : NoOtherMarker (response requestID method fields) method) :
    dispatch (response requestID method fields) = dispatch method :=
  dispatchBy_congr fun m hm => Bool.eq_iff_iff.mpr
    ⟨h m hm, bytesContains_mono (method_infix_response requestID method fields)⟩

/-- Such a response is read by the parser the table gives the method name. -/
theorem parseResponse_response (ext : External) {requestID : UInt64} {method : Bytes}
    {fields : List Item} (P : ResponseParser) (hP : dispatch method = some P)
    (h : NoOtherMarker (response requestID method fields) method) :
    parseResponse ext (response requestID method fields) =
      P.run ext (response requestID method fields) := by
  rw [parseResponse_eq_dispatch, dispatch_response h, hP]
  rfl

/-- The parsers the table picks for the method names `NewMessage` binds a parser to. -/
theorem dispatch_method_names :
    dispatch (ascii "getblock") = some .parseBlockResponse ∧
    dispatch (ascii "getblockpeak") = some .parseBlockResponse ∧
    dispatch (ascii "getblockheader2") = some .parseBlockResponse ∧
    dispatch (ascii "getblockquick2") = some .parseBlockResponse ∧
    dispatch (ascii "getaccount") = some .parseAccountResponse ∧
    dispatch (ascii "getaccountroots") = some .parseAccountResponse ∧
    dispatch (ascii "getaccountvalue") = some .parseAccountResponse ∧
    dispatch (ascii "ticket") = none ∧
    dispatch (ascii "portopen") = some .parsePortOpenResponse ∧
    dispatch (ascii "getobject") = some .parseDeviceObjectResponse ∧
    dispatch (ascii "getnode") = some .parseServerObjResponse ∧
    dispatch (ascii "getstateroots") = some .parseStateRootsResponse := by
  decide

/-- Every response parser refuses a buffer that does not start with an rlp list: each decodes a
struct before it returns anything. -/
theorem run_error_of_not_list (ext : External) (p : ResponseParser) {buffer : Bytes}
    (h : ∀ c s, next ⟨buffer, false⟩ ≠ .ok (.list c, s)) :
    ∃ e, p.run ext buffer = .error e := by
  have hd := fun {α : Type} (d : Decoder α) => decode_list_of_not_list h d
  cases p <;> simp only [ResponseParser.run, parseBlockResponse, parseBlockPeakResponse,
    parseBlockHeaderResponse, parseBlockquickResponse, parseAccountResponse,
    parseAccountRootsResponse, parseAccountValueResponse, parseDeviceTicketResponse,
    parsePortOpenResponse, parseDeviceObjectResponse, parseServerObjResponse,
    parseStateRootsResponse, blockResponse, blockPeakResponse, blockHeaderResponse,
    blockquickResponse, accountResponse, accountRootsResponse, accountValueResponse,
    ticketThanksResponse, ticketTooLowResponse, ticketTooOldResponse, ticketResponse,
    portOpenResponse, objectResponse, serverObjectResponse, stateRootsResponse, envelope,
    decodeWith, hd, Except.mapError, bind, Except.bind, Except.error.injEq, exists_eq']
  split_ifs <;> exact ⟨_, rfl⟩

theorem parseResponse_error_of_not_list (ext : External) {buffer : Bytes}
    (h : ∀ c s, next ⟨buffer, false⟩ ≠ .ok (.list c, s)) :
    ∃ e, parseResponse ext buffer = .error e := by
  rw [parseResponse_eq_dispatch]
  cases dispatch buffer with
  | none => exact ⟨_, rfl⟩
  | some p => exact run_error_of_not_list ext p h

/-- The text `NewErrorResponse` writes is refused by `parseResponse` with an error. -/
theorem parseResponse_newErrorResponse (ext : External) (method err : Bytes) :
    ∃ e, parseResponse ext (newErrorResponse method err).buffer = .error e :=
  parseResponse_error_of_not_list ext (next_ne_list_of_byte (by decide) _ _)

/-- A response to a message `NewMessage` wrote, whose bytes contain no marker beyond those in the
method name, goes to the parser bound to the message exactly for six methods. -/
theorem dispatch_response_bound {requestID replyID : UInt64} {method : Bytes} {args : List Arg}
    {enc : Bytes} {P : ResponseParser} {fields : List Item}
    (hP : newMessage requestID method args = .ok (.ok (enc, some P)))
    (hclean : NoOtherMarker (response replyID method fields) method) :
    dispatch (response replyID method fields) = some P ↔
      method ∈ [ascii "getblock", ascii "getaccount", ascii "portopen", ascii "getobject",
        ascii "getnode", ascii "getstateroots"] := by
  have hmem : (method, P) ∈ requestParsers := by
    obtain ⟨l₁, l₂, hl, -⟩ := List.lookup_eq_some_iff.mp (newMessage_inv hP).2.symm
    exact hl ▸ List.mem_append_right _ (List.mem_cons_self _ _)
  have htable : ∀ mp ∈ requestParsers, dispatch mp.1 = some mp.2 ↔
      mp.1 ∈ [ascii "getblock", ascii "getaccount", ascii "portopen", ascii "getobject",
        ascii "getnode", ascii "getstateroots"] := by
    decide
  rw [dispatch_response hclean]
  exact htable _ hmem

/-- The reply to a `getblock` request is dispatched to the block parser bound to the request. -/
theorem dispatch_response_bound_getblock :
    newMessage 1 (ascii "getblock") [.uint64 5] =
        .ok (.ok (request 1 [.bytes (ascii "getblock"), uintItem 5], some .parseBlockResponse)) ∧
      NoOtherMarker (response 1 (ascii "getblock") []) (ascii "getblock") ∧
      (dispatch (response 1 (ascii "getblock") []) = some .parseBlockResponse ↔
        ascii "getblock" ∈ [ascii "getblock", ascii "getaccount", ascii "portopen",
          ascii "getobject", ascii "getnode", ascii "getstateroots"]) :=
  have hc : NoOtherMarker (response 1 (ascii "getblock") []) (ascii "getblock") := by decide
  ⟨rfl, hc, dispatch_response_bound (rfl : newMessage 1 (ascii "getblock") [.uint64 5] = _) hc⟩

/-- A ticket acceptance whose bytes hold no marker finds no parser, though `NewMessage` bound the
ticket parser to it and that parser reads it. -/
theorem parseResponse_ticket_reply (ext : External) {requestID replyID : UInt64}
    {args : List Arg} {enc : Bytes} {D : ResponseParser} {r : TicketReply}
    (hD : newMessage requestID (ascii "ticket") args = .ok (.ok (enc, some D)))
    (hb : (response replyID (ascii "ticket") (ticketReplyFields ticketThanksPivot r)).length <
      2 ^ 63)
    (hclean : ∀ m ∈ responseMarkers,
      bytesContains (response replyID (ascii "ticket") (ticketReplyFields ticketThanksPivot r))
        m.1 = true → bytesContains (ascii "ticket") m.1 = true) :
    D.run ext (response replyID (ascii "ticket") (ticketReplyFields ticketThanksPivot r)) =
      .ok (.ticket {}) ∧
    parseResponse ext (response replyID (ascii "ticket") (ticketReplyFields ticketThanksPivot r)) =
      .error .responseHandlerNotFound := by
  cases Option.some.inj (newMessage_inv hD).2
  refine ⟨parseDeviceTicketResponse_thanks hb, ?_⟩
  rw [parseResponse_eq_dispatch, dispatch_response hclean, dispatch_method_names.2.2.2.2.2.2.2.1]
  rfl

theorem parseResponse_ticket_reply_sample :
    newMessage 1 (ascii "ticket") [.uint64 9, .bytes [], .uint64 0, .uint64 0, .bytes [], .bytes []] =
      .ok (.ok (request 1 [.bytes (ascii "ticket"), uintItem 9, .bytes [], uintItem 0, uintItem 0,
        .bytes [], .bytes []], some .parseDeviceTicketResponse)) ∧
    parseDeviceTicketResponse
        (response 1 (ascii "ticket") (ticketReplyFields ticketThanksPivot ⟨[], 0, 0, [], []⟩)) =
      .ok (.ticket {}) ∧
    parseResponse ⟨id, .ok, fun _ => [], fun _ => .ok ([], 0, [])⟩
        (response 1 (ascii "ticket") (ticketReplyFields ticketThanksPivot ⟨[], 0, 0, [], []⟩)) =
      .error .responseHandlerNotFound :=
  ⟨rfl, parseResponse_ticket_reply ⟨id, .ok, fun _ => [], fun _ => .ok ([], 0, [])⟩
    (rfl : newMessage 1 (ascii "ticket") [.uint64 9, .bytes [], .uint64 0, .uint64 0, .bytes [],
      .bytes []] = _) (by decide) (by decide)⟩

end Edge
