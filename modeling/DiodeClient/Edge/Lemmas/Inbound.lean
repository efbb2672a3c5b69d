import DiodeClient.Edge.Lemmas.Canonical

/-!
This module gives the inbound requests of `RLP_V2` their form on the wire, and proves that
`parseInboundRequest` returns a request exactly on the buffers that start with the canonical
envelope of its fields and whose markers select its parser. It joins the two directions of the
format: the decoders read back what the encoder writes (`Reads`), and nothing else (`Accepts`).
-/

namespace Edge

open Rlp Go

/-- The fields after the method that each inbound request is read from, in the order of its
message struct. -/
def Request.fields : Request → List Item
  | .portOpen p => [uintItem p.port, uintItem p.ref, .bytes p.rawDeviceID]
  | .portSend p => [uintItem p.ref, .bytes p.data]
  | .portClose p => [uintItem p.ref]
  | .goodbye g => [.bytes g.reason]

/-- The fields the inbound parsers set themselves rather than read: `Ok`, and the hex `DeviceID`
of a `PortOpen`. -/
def Request.Filled : Request → Prop
  | .portOpen p => p.deviceID = Rpc.encodeToString p.rawDeviceID ∧ p.ok = true
  | .portSend p => p.ok = true
  | .portClose p => p.ok = true
  | .goodbye _ => True

/-- `parseInboundRequest` hands `buffer` to the parser of this request: the buffer holds its
marker and none of the markers tested before it. -/
def Request.selectedBy (buffer : Bytes) : Request → Bool
  | .portOpen _ => bytesContains buffer portOpenPivot
  | .portSend _ => !bytesContains buffer portOpenPivot && bytesContains buffer portSendPivot
  | .portClose _ => !bytesContains buffer portOpenPivot && !bytesContains buffer portSendPivot &&
      bytesContains buffer portClosePivot
  | .goodbye _ => !bytesContains buffer portOpenPivot && !bytesContains buffer portSendPivot &&
      !bytesContains buffer portClosePivot && bytesContains buffer goodbyePivot

/-- `buffer` starts with the canonical envelope `[RequestID, [Method, fields...]]` of a message
carrying `fields`, whatever its request ID and method. -/
def SentIn (fields : List Item) (buffer : Bytes) : Prop :=
  ∃ requestID method rest,
    (Item.encodeList [uintItem requestID, .list (.bytes method :: fields)]).length < 2 ^ 64 ∧
    buffer = request requestID (.bytes method :: fields) ++ rest

theorem encodeList_length_lt_of_envelope {payload : List Item} {requestID : UInt64}
    (hlen : (Item.encodeList [uintItem requestID, .list payload]).length < 2 ^ 64) :
    (Item.encodeList payload).length < 2 ^ 64 := by
  have : (Item.encodeList payload).length ≤ (Item.encodeList [uintItem requestID, .list payload]).length :=
    ((encodeList_infix_encode payload).trans (Item.encode_infix_encodeList (by simp))).length_le
  omega

theorem length_lt_of_mem_bytes {b : Bytes} {its : List Item} (h : .bytes b ∈ its)
    (hlen : (Item.encodeList its).length < 2 ^ 64) : b.length < 2 ^ 64 := by
  have := ((infix_encodeString b).trans (by simpa using Item.encode_infix_encodeList h)).length_le
  omega

section

variable {α : Type} {d : Decoder α} {enc : α → List Item}

theorem envelope_reads_of_lt {payload : List Item} {a : α} (h : Reads d payload a)
    {requestID : UInt64} (hlen : (Item.encodeList [uintItem requestID, .list payload]).length < 2 ^ 64) :
    Reads (envelope d) [.list [uintItem requestID, .list payload]] a :=
  Reads.list (Reads.cons (Reads.field _ (Reads.uint requestID))
    (Reads.field _ (Reads.list h (encodeList_length_lt_of_envelope hlen)))) hlen

/-- A request decoder whose fields accept only the items `enc a` accepts only envelopes carrying
them, behind any method. -/
theorem request_accepts_fields (h : Accepts d fun a its => its = enc a) :
    Accepts (envelope (requestHead d))
      fun a => EnvelopeItems fun payload => ∃ method, payload = .bytes method :: enc a := by
  refine (envelope_accepts ((Accepts.bytes.field _).bind fun _ => h)).mono ?_
  rintro a _ ⟨n, _, ⟨m, _, _, rfl, rfl, rfl⟩, hlen, rfl⟩
  exact ⟨n, _, ⟨m, rfl⟩, hlen, rfl⟩

/-- A request decoder whose fields read exactly the items `enc a` returns `a` exactly on the
buffers that start with an envelope carrying them. -/
theorem decodeWith_ok_iff_sentIn (hd : Accepts d fun a its => its = enc a)
    (hr : ∀ a, (Item.encodeList (enc a)).length < 2 ^ 64 → Reads d (enc a) a)
    {buffer : Bytes} {a : α} :
    decodeWith (envelope (requestHead d)) buffer = .ok a ↔ SentIn (enc a) buffer := by
  constructor
  · intro h
    obtain ⟨_, rest, ⟨n, _, ⟨m, rfl⟩, hlen, rfl⟩, rfl⟩ := decodeWith_accepts (request_accepts_fields hd) h
    exact ⟨n, m, rest, hlen, by simp [request]⟩
  · rintro ⟨n, m, rest, hlen, rfl⟩
    have hp := encodeList_length_lt_of_envelope hlen
    have hf : (Item.encodeList (enc a)).length < 2 ^ 64 :=
      lt_of_le_of_lt (by simp [Item.encodeList_cons]) hp
    exact decodeWith_ok_iff.mpr (decode_of_reads
      (envelope_reads_of_lt (requestHead_reads (hr a hf) (length_lt_of_mem_bytes (by simp) hp)) hlen) rest)

end

/-! The four inbound message decoders, each read off its fields. -/

theorem portOpenInboundRequest_ok_iff {buffer : Bytes} {port ref : UInt64} {deviceID : Bytes} :
    decodeWith portOpenInboundRequest buffer = .ok (port, ref, deviceID) ↔
      SentIn [uintItem port, uintItem ref, .bytes deviceID] buffer :=
  @decodeWith_ok_iff_sentIn _ _ (fun a : UInt64 × UInt64 × Bytes => [uintItem a.1, uintItem a.2.1, .bytes a.2.2])
    (((Accepts.uint.field _).bind fun _ => (Accepts.uint.field _).bind fun _ =>
      (Accepts.bytes.field _).bind fun _ => Accepts.ret _).mono
        (by rintro _ _ ⟨_, _, _, rfl, ⟨_, _, _, rfl, ⟨_, _, _, rfl, ⟨rfl, rfl⟩, rfl⟩, rfl⟩, rfl⟩; rfl))
    (fun _ hl => Reads.cons (Reads.field _ (Reads.uint _)) (Reads.cons (Reads.field _ (Reads.uint _))
      (Reads.cons (Reads.field _ (Reads.bytes (length_lt_of_mem_bytes (by simp) hl))) (Reads.pure _))))
    _ _

theorem portSendInboundRequest_ok_iff {buffer : Bytes} {ref : UInt64} {data : Bytes} :
    decodeWith portSendInboundRequest buffer = .ok (ref, data) ↔
      SentIn [uintItem ref, .bytes data] buffer :=
  @decodeWith_ok_iff_sentIn _ _ (fun a : UInt64 × Bytes => [uintItem a.1, .bytes a.2])
    (((Accepts.uint.field _).bind fun _ => (Accepts.bytes.field _).bind fun _ => Accepts.ret _).mono
      (by rintro _ _ ⟨_, _, _, rfl, ⟨_, _, _, rfl, ⟨rfl, rfl⟩, rfl⟩, rfl⟩; rfl))
    (fun _ hl => Reads.cons (Reads.field _ (Reads.uint _))
      (Reads.cons (Reads.field _ (Reads.bytes (length_lt_of_mem_bytes (by simp) hl))) (Reads.pure _)))
    _ _

theorem portCloseInboundRequest_ok_iff {buffer : Bytes} {ref : UInt64} :
    decodeWith portCloseInboundRequest buffer = .ok ref ↔ SentIn [uintItem ref] buffer :=
  decodeWith_ok_iff_sentIn (Accepts.uint.field _) fun _ _ => Reads.field _ (Reads.uint _)

theorem goodbyeInboundRequest_ok_iff {buffer : Bytes} {reason : Bytes} :
    decodeWith goodbyeInboundRequest buffer = .ok reason ↔ SentIn [.bytes reason] buffer :=
  decodeWith_ok_iff_sentIn (Accepts.bytes.field _)
    fun _ hl => Reads.field _ (Reads.bytes (length_lt_of_mem_bytes (by simp) hl))

/-- `parseInboundRequest` returns a request exactly when the buffer's markers select its parser,
the buffer starts with the canonical envelope of its fields, behind any request ID and method,
and the fields the parser sets itself have the values it sets. Nothing else is parsed to a
request: no other spelling of the envelope, no missing or extra field. -/
theorem parseInboundRequest_ok_iff {buffer : Bytes} {r : Request} :
    parseInboundRequest buffer = .ok (some r) ↔
      r.selectedBy buffer ∧ r.Filled ∧ SentIn r.fields buffer := by
  constructor
  · intro h
    simp only [parseInboundRequest] at h
    split_ifs at h with h₁ h₂ h₃ h₄
    · obtain ⟨⟨port, ref, dev⟩, ha, ⟨⟩⟩ := bind_eq_ok.mp (map_some_eq_ok.mp h)
      exact ⟨by simp [Request.selectedBy, h₁], ⟨rfl, rfl⟩, portOpenInboundRequest_ok_iff.mp ha⟩
    · obtain ⟨⟨ref, data⟩, ha, ⟨⟩⟩ := bind_eq_ok.mp (map_some_eq_ok.mp h)
      exact ⟨by simp [Request.selectedBy, h₁, h₂], rfl, portSendInboundRequest_ok_iff.mp ha⟩
    · obtain ⟨ref, ha, ⟨⟩⟩ := bind_eq_ok.mp (map_some_eq_ok.mp h)
      exact ⟨by simp [Request.selectedBy, h₁, h₂, h₃], rfl, portCloseInboundRequest_ok_iff.mp ha⟩
    · obtain ⟨reason, ha, ⟨⟩⟩ := bind_eq_ok.mp (map_some_eq_ok.mp h)
      exact ⟨by simp [Request.selectedBy, h₁, h₂, h₃, h₄], trivial,
        goodbyeInboundRequest_ok_iff.mp ha⟩
    · cases h
  · rintro ⟨hsel, hf, hs⟩
    cases r with
    | portOpen p =>
      obtain ⟨port, ref, raw, dev, ok⟩ := p
      obtain ⟨rfl, rfl⟩ : dev = Rpc.encodeToString raw ∧ ok = true := hf
      simp only [Request.selectedBy] at hsel
      simp [parseInboundRequest, parseInboundPortOpenRequest, hsel,
        portOpenInboundRequest_ok_iff.mpr hs]
    | portSend p =>
      obtain ⟨ref, data, ok⟩ := p
      cases hf
      simp [Request.selectedBy] at hsel
      simp [parseInboundRequest, parseInboundPortSendRequest, hsel,
        portSendInboundRequest_ok_iff.mpr hs]
    | portClose p =>
      obtain ⟨ref, ok⟩ := p
      cases hf
      simp [Request.selectedBy] at hsel
      simp [parseInboundRequest, parseInboundPortCloseRequest, hsel,
        portCloseInboundRequest_ok_iff.mpr hs]
    | goodbye g =>
      simp [Request.selectedBy] at hsel
      simp [parseInboundRequest, parseInboundGoodbyeRequest, hsel,
        goodbyeInboundRequest_ok_iff.mpr hs]

end Edge
