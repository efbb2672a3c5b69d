import DiodeClient.Edge.Protocol
import DiodeClient.Edge.Lemmas.Messages
import DiodeClient.Util.Lemmas

/-!
This module proves what the peers of a tunnel make of each other's messages. An inbound
`portopen` request is read as its port, reference and device. Of the `portsend` and `portclose`
messages both peers write the decoder reads back the reference and the data, and the inbound
dispatch, which looks for method names among the bytes, picks the right parser as long as no
other marker occurs in them.
-/

namespace Edge

open Rlp Go

section

variable (requestID ref : UInt64) (data : Bytes)

theorem newMessage_portsend :
    newMessage requestID (ascii "portsend") [.uint64 ref, .bytes data] =
      .ok (.ok (request requestID [.bytes (ascii "portsend"), uintItem ref, .bytes data], none)) :=
  rfl

theorem newMessage_portclose :
    newMessage requestID (ascii "portclose") [.uint64 ref] =
      .ok (.ok (request requestID [.bytes (ascii "portclose"), uintItem ref], none)) :=
  rfl

/-- The `portsend` answer is the `portsend` request; the response type is not written. -/
theorem newResponseMessage_portsend (responseType : Bytes) :
    newResponseMessage requestID responseType (ascii "portsend") [.uint64 ref, .bytes data] =
      .ok (.ok (request requestID [.bytes (ascii "portsend"), uintItem ref, .bytes data], none)) :=
  rfl

theorem newResponseMessage_portclose (responseType : Bytes) :
    newResponseMessage requestID responseType (ascii "portclose") [.uint64 ref] =
      .ok (.ok (request requestID [.bytes (ascii "portclose"), uintItem ref], none)) :=
  rfl

theorem parseInboundPortSendRequest_request {data : Bytes} (h : data.length < 2 ^ 63) :
    parseInboundPortSendRequest
        (request requestID [.bytes (ascii "portsend"), uintItem ref, .bytes data]) =
      .ok (.portSend ⟨ref, data, true⟩) := by
  simp [parseInboundPortSendRequest, decodeWith, decode_portSendInboundRequest requestID ref h,
    Except.mapError, bind, Except.bind, pure, Except.pure]

theorem parseInboundPortCloseRequest_request :
    parseInboundPortCloseRequest (request requestID [.bytes (ascii "portclose"), uintItem ref]) =
      .ok (.portClose ⟨ref, true⟩) := by
  simp [parseInboundPortCloseRequest, decodeWith, decode_portCloseInboundRequest,
    Except.mapError, bind, Except.bind, pure, Except.pure]

end

/-- An inbound `portopen` request is read as its port, reference and device, whose hex string
`DecodeString` reads back to the device's bytes. -/
theorem parseInboundRequest_portopen (lower : ToLowerRune) {requestID port ref : UInt64}
    {deviceID : Bytes}
    (hb : (request requestID [.bytes (ascii "portopen"), uintItem port, uintItem ref,
      .bytes deviceID]).length < 2 ^ 63) :
    ∃ p : PortOpen, parseInboundRequest (request requestID [.bytes (ascii "portopen"),
        uintItem port, uintItem ref, .bytes deviceID]) = .ok (some (.portOpen p)) ∧
      p.port = port ∧ p.ref = ref ∧ p.rawDeviceID = deviceID ∧ p.ok = true ∧
      Rpc.decodeString lower p.deviceID = .ok (deviceID, none) := by
  have hc := bytesContains_of_isInfix (method_infix_request requestID (ascii "portopen")
    [uintItem port, uintItem ref, .bytes deviceID])
  refine ⟨⟨port, ref, deviceID, Rpc.encodeToString deviceID, true⟩, ?_, rfl, rfl, rfl, rfl,
    Rpc.decodeString_encodeToString lower deviceID⟩
  simp [parseInboundRequest, portOpenPivot, hc, parseInboundPortOpenRequest, decodeWith,
    decode_portOpenInboundRequest requestID port ref hb, Except.mapError, bind, Except.bind, pure,
    Except.pure]

theorem parseInboundRequest_portopen_sample :
    (request 1 [.bytes (ascii "portopen"), uintItem 80, uintItem 3, .bytes [0xAB]]).length <
        2 ^ 63 ∧
      ∃ p : PortOpen, parseInboundRequest (request 1 [.bytes (ascii "portopen"),
          uintItem 80, uintItem 3, .bytes [0xAB]]) = .ok (some (.portOpen p)) ∧
        p.port = 80 ∧ p.ref = 3 ∧ p.rawDeviceID = [0xAB] ∧ p.ok = true ∧
        Rpc.decodeString Rpc.asciiOnlyToLower p.deviceID = .ok ([0xAB], none) :=
  have hb : (request 1 [.bytes (ascii "portopen"), uintItem 80, uintItem 3,
      .bytes [0xAB]]).length < 2 ^ 63 := by decide
  ⟨hb, parseInboundRequest_portopen Rpc.asciiOnlyToLower hb⟩

/-- Both peers' `portsend` and `portclose` messages decode to the reference and data they were
written from. -/
theorem tunnel_messages_round_trip (requestID ref : UInt64) (responseType : Bytes) {data : Bytes}
    (h : data.length < 2 ^ 63) :
    (∃ b, newMessage requestID (ascii "portsend") [.uint64 ref, .bytes data] = .ok (.ok (b, none)) ∧
      parseInboundPortSendRequest b = .ok (.portSend ⟨ref, data, true⟩)) ∧
    (∃ b, newResponseMessage requestID responseType (ascii "portsend") [.uint64 ref, .bytes data] =
        .ok (.ok (b, none)) ∧
      parseInboundPortSendRequest b = .ok (.portSend ⟨ref, data, true⟩)) ∧
    (∃ b, newMessage requestID (ascii "portclose") [.uint64 ref] = .ok (.ok (b, none)) ∧
      parseInboundPortCloseRequest b = .ok (.portClose ⟨ref, true⟩)) ∧
    (∃ b, newResponseMessage requestID responseType (ascii "portclose") [.uint64 ref] =
        .ok (.ok (b, none)) ∧
      parseInboundPortCloseRequest b = .ok (.portClose ⟨ref, true⟩)) :=
  ⟨⟨_, newMessage_portsend .., parseInboundPortSendRequest_request _ _ h⟩,
    ⟨_, newResponseMessage_portsend .., parseInboundPortSendRequest_request _ _ h⟩,
    ⟨_, newMessage_portclose .., parseInboundPortCloseRequest_request ..⟩,
    ⟨_, newResponseMessage_portclose .., parseInboundPortCloseRequest_request ..⟩⟩

theorem tunnel_messages_round_trip_short_data :
    (ascii "tunnel data").length < 2 ^ 63 ∧
    (∃ b, newMessage 7 (ascii "portsend") [.uint64 3, .bytes (ascii "tunnel data")] =
        .ok (.ok (b, none)) ∧
      parseInboundPortSendRequest b = .ok (.portSend ⟨3, ascii "tunnel data", true⟩)) :=
  ⟨by decide, (tunnel_messages_round_trip 7 3 (ascii "response") (by decide)).1⟩

/-- Tunnel data that spells `response` makes its `portsend` message read as a response. -/
theorem portsend_response_data :
    newMessage 0 (ascii "portsend") [.uint64 0, .bytes (ascii "response")] =
      .ok (.ok (request 0 [.bytes (ascii "portsend"), uintItem 0, .bytes (ascii "response")],
        none)) ∧
    isResponseType (request 0 [.bytes (ascii "portsend"), uintItem 0, .bytes (ascii "response")]) =
      true :=
  ⟨newMessage_portsend .., by decide⟩

/-- `portsend` and `portclose` messages are told apart from responses and errors and sent to
their own parsers, unless the bytes of another marker occur in them. -/
theorem inbound_tunnel_classified (requestID ref : UInt64) (data : Bytes) :
    (∀ b, newMessage requestID (ascii "portsend") [.uint64 ref, .bytes data] = .ok (.ok (b, none)) →
      ¬ responsePivot <:+: b → ¬ errorPivot <:+: b → ¬ portOpenPivot <:+: b →
      isResponseType b = false ∧ isErrorType b = false ∧
        parseInboundRequest b = some <$> parseInboundPortSendRequest b) ∧
    (∀ b, newMessage requestID (ascii "portclose") [.uint64 ref] = .ok (.ok (b, none)) →
      ¬ responsePivot <:+: b → ¬ errorPivot <:+: b → ¬ portOpenPivot <:+: b →
      ¬ portSendPivot <:+: b →
      isResponseType b = false ∧ isErrorType b = false ∧
        parseInboundRequest b = some <$> parseInboundPortCloseRequest b) := by
  have hfalse : ∀ {b p : Bytes}, ¬ p <:+: b → bytesContains b p = false := fun h =>
    Bool.eq_false_iff.mpr (mt bytesContains_iff_isInfix.mp h)
  constructor
  . intro b hb hr he ho
    rw [newMessage_portsend] at hb
    cases hb
    have hs := bytesContains_of_isInfix (method_infix_request requestID (ascii "portsend")
      [uintItem ref, .bytes data])
    exact ⟨hfalse hr, hfalse he, by simp [parseInboundRequest, hfalse ho, portSendPivot, hs]⟩
  . intro b hb hr he ho hs
    rw [newMessage_portclose] at hb
    cases hb
    have hc := bytesContains_of_isInfix (method_infix_request requestID (ascii "portclose")
      [uintItem ref])
    exact ⟨hfalse hr, hfalse he,
      by simp [parseInboundRequest, hfalse ho, hfalse hs, portClosePivot, hc]⟩

theorem inbound_tunnel_classified_plain_data :
    (∀ b, newMessage 1 (ascii "portsend") [.uint64 2, .bytes [1, 2, 3]] = .ok (.ok (b, none)) →
      ¬ responsePivot <:+: b → ¬ errorPivot <:+: b → ¬ portOpenPivot <:+: b →
      isResponseType b = false ∧ isErrorType b = false ∧
        parseInboundRequest b = some <$> parseInboundPortSendRequest b) ∧
    ¬ responsePivot <:+: request 1 [.bytes (ascii "portsend"), uintItem 2, .bytes [1, 2, 3]] ∧
    ¬ errorPivot <:+: request 1 [.bytes (ascii "portsend"), uintItem 2, .bytes [1, 2, 3]] ∧
    ¬ portOpenPivot <:+: request 1 [.bytes (ascii "portsend"), uintItem 2, .bytes [1, 2, 3]] :=
  ⟨(inbound_tunnel_classified 1 2 [1, 2, 3]).1, fun h => absurd (bytesContains_of_isInfix h)
    (by decide), fun h => absurd (bytesContains_of_isInfix h) (by decide),
    fun h => absurd (bytesContains_of_isInfix h) (by decide)⟩

end Edge
