import DiodeClient.Edge.Protocol
import DiodeClient.Edge.Lemmas.Messages

/-!
This module is about ticket replies. `parseDeviceTicketResponse` picks the outcome by the first of
the markers `thanks!`, `too_low` and `too_old` that occurs anywhere in the buffer, before it
decodes anything; a reply's outcome is read right when no earlier marker occurs in its other
fields, and an acceptance is never read from a buffer without the bytes `thanks!`.
-/

namespace Edge

open Rlp Go

theorem bytesContains_response_field {x : Bytes} {fields : List Item} (h : .bytes x ∈ fields)
    (requestID : UInt64) (method : Bytes) :
    bytesContains (response requestID method fields) x = true :=
  bytesContains_of_isInfix <| (infix_encodeString x).trans <| by
    simpa only [Item.encode_bytes] using encode_infix_response h requestID method

section

variable {requestID : UInt64} {method : Bytes} {r : TicketReply}

theorem parseDeviceTicketResponse_thanks
    (hb : (response requestID method (ticketReplyFields ticketThanksPivot r)).length < 2 ^ 63) :
    parseDeviceTicketResponse (response requestID method (ticketReplyFields ticketThanksPivot r)) =
      .ok (.ticket {}) := by
  have hc : bytesContains (response requestID method (ticketReplyFields ticketThanksPivot r))
      ticketThanksPivot = true := bytesContains_response_field (List.mem_cons_self _ _) ..
  simp [parseDeviceTicketResponse, hc, decodeWith, ticketThanksResponse, decode_ticketResponse hb,
    Except.mapError, bind, Except.bind, pure, Except.pure]

theorem parseDeviceTicketResponse_tooLow
    (hb : (response requestID method (ticketReplyFields ticketTooLowPivot r)).length < 2 ^ 63)
    (hth : bytesContains (response requestID method (ticketReplyFields ticketTooLowPivot r))
      ticketThanksPivot = false) :
    parseDeviceTicketResponse (response requestID method (ticketReplyFields ticketTooLowPivot r)) =
      .ok (.ticket
        { blockHash := r.blockHash, totalConnections := r.totalConnections,
          totalBytes := r.totalBytes, localAddr := r.localAddr, deviceSig := r.deviceSig,
          err := some .ticketTooLow }) := by
  have hc : bytesContains (response requestID method (ticketReplyFields ticketTooLowPivot r))
      ticketTooLowPivot = true := bytesContains_response_field (List.mem_cons_self _ _) ..
  simp [parseDeviceTicketResponse, hth, hc, decodeWith, ticketTooLowResponse,
    decode_ticketResponse hb, Except.mapError, bind, Except.bind, pure, Except.pure]

theorem parseDeviceTicketResponse_tooOld
    (hb : (response requestID method (ticketReplyFields ticketTooOldPivot r)).length < 2 ^ 63)
    (hth : bytesContains (response requestID method (ticketReplyFields ticketTooOldPivot r))
      ticketThanksPivot = false)
    (hlow : bytesContains (response requestID method (ticketReplyFields ticketTooOldPivot r))
      ticketTooLowPivot = false) :
    parseDeviceTicketResponse (response requestID method (ticketReplyFields ticketTooOldPivot r)) =
      .ok (.ticket { err := some .ticketTooOld }) := by
  have hc : bytesContains (response requestID method (ticketReplyFields ticketTooOldPivot r))
      ticketTooOldPivot = true := bytesContains_response_field (List.mem_cons_self _ _) ..
  simp [parseDeviceTicketResponse, hth, hlow, hc, decodeWith, ticketTooOldResponse,
    decode_ticketResponse hb, Except.mapError, bind, Except.bind, pure, Except.pure]

end

/-- A buffer without the bytes `thanks!` never yields a ticket without an error. -/
theorem parseDeviceTicketResponse_err_of_not_thanks {buffer : Bytes} {t : DeviceTicket}
    (hth : bytesContains buffer ticketThanksPivot = false)
    (h : parseDeviceTicketResponse buffer = .ok (.ticket t)) :
    t.err = some .ticketTooLow ∨ t.err = some .ticketTooOld := by
  unfold parseDeviceTicketResponse at h
  rw [if_neg (by simp [hth])] at h
  split at h
  . cases hd : decodeWith ticketTooLowResponse buffer <;>
      simp [hd, bind, Except.bind, pure, Except.pure] at h
    subst h
    exact .inl rfl
  . split at h
    . cases hd : decodeWith ticketTooOldResponse buffer <;>
        simp [hd, bind, Except.bind, pure, Except.pure] at h
      subst h
      exact .inr rfl
    . cases h

/-- A `too_low` reply whose block hash spells `thanks!` reads as an acceptance. -/
theorem ticket_tooLow_thanks_hash :
    parseDeviceTicketResponse (response 0 (ascii "ticket")
      (ticketReplyFields ticketTooLowPivot ⟨ascii "thanks!", 0, 0, [], []⟩)) = .ok (.ticket {}) :=
  rfl

/-- Each outcome is read from its reply when no marker tested before it occurs in the reply, and
an acceptance only from a buffer that contains `thanks!`. -/
theorem parseDeviceTicketResponse_outcomes (requestID : UInt64) (method : Bytes)
    (r : TicketReply) :
    ((response requestID method (ticketReplyFields ticketThanksPivot r)).length < 2 ^ 63 →
      parseDeviceTicketResponse (response requestID method (ticketReplyFields ticketThanksPivot r)) =
        .ok (.ticket {})) ∧
    ((response requestID method (ticketReplyFields ticketTooLowPivot r)).length < 2 ^ 63 →
      bytesContains (response requestID method (ticketReplyFields ticketTooLowPivot r))
        ticketThanksPivot = false →
      parseDeviceTicketResponse (response requestID method (ticketReplyFields ticketTooLowPivot r)) =
        .ok (.ticket
          { blockHash := r.blockHash, totalConnections := r.totalConnections,
            totalBytes := r.totalBytes, localAddr := r.localAddr, deviceSig := r.deviceSig,
            err := some .ticketTooLow })) ∧
    ((response requestID method (ticketReplyFields ticketTooOldPivot r)).length < 2 ^ 63 →
      bytesContains (response requestID method (ticketReplyFields ticketTooOldPivot r))
        ticketThanksPivot = false →
      bytesContains (response requestID method (ticketReplyFields ticketTooOldPivot r))
        ticketTooLowPivot = false →
      parseDeviceTicketResponse (response requestID method (ticketReplyFields ticketTooOldPivot r)) =
        .ok (.ticket { err := some .ticketTooOld })) ∧
    (∀ buffer t, bytesContains buffer ticketThanksPivot = false →
      parseDeviceTicketResponse buffer = .ok (.ticket t) →
      t.err = some .ticketTooLow ∨ t.err = some .ticketTooOld) :=
  ⟨parseDeviceTicketResponse_thanks, parseDeviceTicketResponse_tooLow,
    parseDeviceTicketResponse_tooOld, fun _ _ => parseDeviceTicketResponse_err_of_not_thanks⟩

theorem parseDeviceTicketResponse_outcomes_sample :
    (response 1 (ascii "ticket") (ticketReplyFields ticketTooOldPivot ⟨[0xAB], 5, 6, [1], [2]⟩)).length
      < 2 ^ 63 ∧
    bytesContains (response 1 (ascii "ticket")
      (ticketReplyFields ticketTooOldPivot ⟨[0xAB], 5, 6, [1], [2]⟩)) ticketThanksPivot = false ∧
    bytesContains (response 1 (ascii "ticket")
      (ticketReplyFields ticketTooOldPivot ⟨[0xAB], 5, 6, [1], [2]⟩)) ticketTooLowPivot = false ∧
    parseDeviceTicketResponse (response 1 (ascii "ticket")
      (ticketReplyFields ticketTooOldPivot ⟨[0xAB], 5, 6, [1], [2]⟩)) =
        .ok (.ticket { err := some .ticketTooOld }) :=
  ⟨by decide, by decide, by decide,
    (parseDeviceTicketResponse_outcomes 1 (ascii "ticket") ⟨[0xAB], 5, 6, [1], [2]⟩).2.2.1
      (by decide) (by decide) (by decide)⟩

end Edge
