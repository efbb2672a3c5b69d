import DiodeClient.Edge.Protocol
import DiodeClient.Edge.Lemmas.Messages

/-!
This module is about error envelopes. On an envelope in the rlp format `parseError` returns the
last message. It drops the decoder's error and takes the last element of whatever payload the
decoder left, so it panics whenever that payload is empty: on input that is not an rlp list,
such as the text `NewErrorResponse` writes, which `IsErrorType` takes for an error, and on
envelopes whose payload list is empty.
-/

namespace Edge

open Rlp Go

theorem parseError_of_payload_nil {buffer : Bytes} (h : errorResponsePayload buffer = []) :
    parseError buffer = .error .indexOutOfRange := by
  simp [parseError, h]

/-- A buffer that starts with a byte below 0x80 is no list, and leaves the payload empty. -/
theorem errorResponsePayload_of_byte {b : UInt8} (h : b.toNat < 0x80) (rest : Bytes) :
    errorResponsePayload (b :: rest) = [] := by
  simp [errorResponsePayload, next, h]

theorem errorResponsePayload_request_nil (requestID : UInt64) :
    errorResponsePayload (request requestID []) = [] := by
  have hu := uintItem_length_le requestID
  have hl : (Item.list []).encode = [0xC0] := rfl
  have hc : (Item.encodeList [uintItem requestID, .list []]).length < 2 ^ 64 := by
    simp only [Item.encodeList_cons, Item.encodeList_nil, hl, List.append_nil, List.length_append]
    simp only [List.length_singleton]
    omega
  have hn := next_head_list ⟨[], false⟩ hc []
  have hi := Reads.uint requestID [0xC0] true
  simp only [Item.encodeList_cons, Item.encodeList_nil, List.append_nil] at hi
  rw [List.append_nil] at hn
  simp only [errorResponsePayload, request, Item.encode_list, hn]
  simp only [Item.encodeList_cons, Item.encodeList_nil, hl, List.append_nil, hi]
  rfl

theorem partialStrings_encodeList : ∀ (msgs : List Bytes), (∀ m ∈ msgs, m.length < 2 ^ 64) →
    ∀ fuel, msgs.length < fuel →
      partialStrings fuel ⟨Item.encodeList (msgs.map .bytes), true⟩ = msgs
  | _, _, 0, hf => absurd hf (Nat.not_lt_zero _)
  | [], _, _ + 1, _ => rfl
  | m :: ms, h, fuel + 1, hf => by
    have hm := Reads.bytes (h m (List.mem_cons_self _ _)) (Item.encodeList (ms.map .bytes)) true
    simp only [Item.encodeList_cons, Item.encodeList_nil, List.append_nil] at hm
    have hne : (Item.bytes m).encode ++ Item.encodeList (ms.map .bytes) ≠ [] := by
      simp [encodeString_ne_nil]
    simp only [partialStrings, List.map_cons, Item.encodeList_cons, hne, if_false, hm,
      partialStrings_encodeList ms (fun x hx => h x (List.mem_cons_of_mem _ hx)) fuel
        (by simp at hf; omega)]

/-- On an error envelope in the rlp format the decoder reads every message. -/
theorem errorResponsePayload_request (requestID : UInt64) {msgs : List Bytes}
    (hb : (request requestID (msgs.map .bytes)).length < 2 ^ 63) :
    errorResponsePayload (request requestID (msgs.map .bytes)) = msgs := by
  have hl : ∀ x, x <:+: request requestID (msgs.map .bytes) → x.length < 2 ^ 64 := fun x hx => by
    have := hx.length_le
    omega
  have hi : (Item.list (msgs.map .bytes)).encode <:+: request requestID (msgs.map .bytes) :=
    Item.encode_infix_of_mem (List.mem_cons_of_mem _ (List.mem_singleton_self _))
  have hn := next_head_list ⟨[], false⟩ (hl _ (encodeList_infix_encode _)) []
  have hu := Reads.uint requestID (Item.encodeList [.list (msgs.map .bytes)]) true
  have hp := next_head_list ⟨[], true⟩ (hl _ ((encodeList_infix_encode _).trans hi)) []
  have hs := partialStrings_encodeList msgs
    (fun m hm => hl _ ((infix_encode_of_mem_bytes (List.mem_map_of_mem _ hm)).trans hi))
    ((Item.encodeList (msgs.map .bytes)).length + 1)
    (by have := length_le_encodeList (msgs.map .bytes); simp at this; omega)
  rw [List.append_nil] at hn hp
  dsimp only at hn hp
  simp only [Item.encodeList_cons, Item.encodeList_nil, List.append_nil] at hu
  rw [errorResponsePayload, request, Item.encode_list, hn]
  simp only [Item.encodeList_cons, Item.encodeList_nil, List.append_nil, hu]
  simp only [Item.encode_list, hp, hs]

/-- On an error envelope in the rlp format `parseError` returns the last message. -/
theorem parseError_request (requestID : UInt64) {msgs : List Bytes} (hne : msgs ≠ [])
    (hb : (request requestID (msgs.map .bytes)).length < 2 ^ 63) :
    parseError (request requestID (msgs.map .bytes)) = .ok (⟨msgs.getLast hne⟩, none) := by
  simp [parseError, errorResponsePayload_request requestID hb, List.getLast?_eq_getLast _ hne]

theorem parseError_request_sample :
    [ascii "boom"] ≠ [] ∧ (request 1 ([ascii "boom"].map .bytes)).length < 2 ^ 63 ∧
      parseError (request 1 ([ascii "boom"].map .bytes)) =
        .ok (⟨[ascii "boom"].getLast (List.cons_ne_nil _ _)⟩, none) :=
  have hb : (request 1 ([ascii "boom"].map .bytes)).length < 2 ^ 63 := by decide
  ⟨List.cons_ne_nil _ _, hb, parseError_request 1 (List.cons_ne_nil _ _) hb⟩

/-- The panics: the empty buffer, and every envelope whose payload list is empty. -/
theorem parseError_panics_on_empty_payload :
    parseError [] = .error .indexOutOfRange ∧
    ∀ requestID, parseError (request requestID []) = .error .indexOutOfRange :=
  ⟨rfl, fun requestID => parseError_of_payload_nil (errorResponsePayload_request_nil requestID)⟩

/-- `NewErrorResponse` writes text, whose first byte `[` no rlp list starts with: `parseError`
panics on every buffer it writes. -/
theorem parseError_newErrorResponse (method err : Bytes) :
    (newErrorResponse method err).len = (newErrorResponse method err).buffer.length ∧
    parseError (newErrorResponse method err).buffer = .error .indexOutOfRange :=
  ⟨rfl, parseError_of_payload_nil (errorResponsePayload_of_byte (by decide) _)⟩

end Edge
