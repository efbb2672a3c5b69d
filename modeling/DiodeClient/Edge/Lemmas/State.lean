import DiodeClient.Edge.Protocol
import DiodeClient.Edge.Lemmas.Messages

/-!
This module is about the replies that carry chain state. The header and account parsers look
their values up by key and drop the lookup's error, so a missing key reads as the empty value:
a header reply without a `nonce` item is accepted with nonce zero once its `block_hash` item is
that header's hash. Account nonces and balances are read as `int64`, the low 64 bits of the
big-endian value in two's complement, with no error.
-/

namespace Edge

open Rlp Go

theorem findItemInItems_of_find {items : List KeyValue} {key : Bytes} {kv : KeyValue}
    (h : items.find? (·.key = key) = some kv) : findItemInItems items key = (kv, none) := by
  simp [findItemInItems, h]

/-- A header reply without a `nonce` item is accepted, as the header with nonce zero, when its
`block_hash` item is the hash of that header. -/
theorem parseBlockHeaderResponse_without_nonce (ext : External) {buffer : Bytes}
    {requestID : UInt64}
    {method txHash stateHash prevBlock minerSig timestamp number minerPubkey : Bytes}
    {header : BlockHeader}
    (hnew : ext.newHeader ⟨txHash, stateHash, prevBlock, minerSig,
      ext.decompressPubkeyBytes minerPubkey, decodeBytesToUint timestamp,
      decodeBytesToUint number, 0⟩ = .ok header)
    (hbuf : buffer = response requestID method
      [.list ([⟨ascii "transaction_hash", txHash⟩, ⟨ascii "state_hash", stateHash⟩,
        ⟨ascii "block_hash", ext.hash header⟩, ⟨ascii "previous_block", prevBlock⟩,
        ⟨ascii "miner_signature", minerSig⟩, ⟨ascii "timestamp", timestamp⟩,
        ⟨ascii "number", number⟩].map KeyValue.toItem), .bytes minerPubkey])
    (hb : buffer.length < 2 ^ 63) :
    parseBlockHeaderResponse ext buffer = .ok (.header header) := by
  subst hbuf
  have h0 : decodeBytesToUint [] = 0 := rfl
  simp only [parseBlockHeaderResponse, decodeWith, decode_blockHeaderResponse hb]
  simp +decide [findItemInItems, h0, hnew, Except.mapError, bind, Except.bind, pure, Except.pure]

set_option maxRecDepth 4000 in
theorem parseBlockHeaderResponse_without_nonce_sample :
    parseBlockHeaderResponse ⟨id, .ok, BlockHeader.txHash, fun _ => .ok ([], 0, [])⟩
      (response 1 (ascii "getblockheader2")
        [.list ([⟨ascii "transaction_hash", [7]⟩, ⟨ascii "state_hash", []⟩,
          ⟨ascii "block_hash", [7]⟩, ⟨ascii "previous_block", []⟩,
          ⟨ascii "miner_signature", []⟩, ⟨ascii "timestamp", []⟩,
          ⟨ascii "number", []⟩].map KeyValue.toItem), .bytes []]) =
      .ok (.header ⟨[7], [], [], [], [], 0, 0, 0⟩) :=
  parseBlockHeaderResponse_without_nonce ⟨id, .ok, BlockHeader.txHash, fun _ => .ok ([], 0, [])⟩
    rfl rfl (by decide)

/-- What an account `parseAccountResponse` returns is made of: nonce and balance are converted
from the values of the items found under their keys. -/
theorem parseAccountResponse_inv {ext : External} {buffer : Bytes} {a : Account}
    (h : parseAccountResponse ext buffer = .ok (.account a)) :
    ∃ items proof, decodeWith accountResponse buffer = .ok (items, proof) ∧
      a.nonce = decodeBytesToInt (findItemInItems items (ascii "nonce")).1.value ∧
      a.balance = decodeBytesToInt (findItemInItems items (ascii "balance")).1.value := by
  unfold parseAccountResponse at h
  rw [bind_eq_ok] at h
  obtain ⟨⟨items, proof⟩, hd, h⟩ := h
  refine ⟨items, proof, hd, ?_⟩
  rcases hm : newMerkleTree ext proof with ⟨tree, _ | err⟩ <;>
    simp [hm, bind, Except.bind, pure, Except.pure, throw, throwThe, MonadExceptOf.throw] at h
  subst h
  exact ⟨rfl, rfl⟩

/-- A stand-in for the Merkle proof parser outside the sources, with what the specification asks
of one: a proof without leaves fails, and a proof of one leaf `[key, value]` has that leaf, with
the hash of the leaf's encoding as its root. -/
def oneLeafProof (hash : Bytes → Bytes) (proof : List Item) :
    Except GoError (Bytes × UInt64 × List MerkleTreeLeave) :=
  match proof with
  | [.list [.bytes key, .bytes value]] =>
    .ok (hash (Item.list [.bytes key, .bytes value]).encode, 0, [⟨key, value⟩])
  | _ => .error (.external "invalid proof")

/-- The nonce and balance of an account are the `int64` values of the low 64 bits of their
items' big-endian values: the integers in `[-2 ^ 63, 2 ^ 63)` congruent to them modulo
`2 ^ 64`. -/
theorem parseAccountResponse_int64 (ext : External) {buffer : Bytes} {a : Account}
    (h : parseAccountResponse ext buffer = .ok (.account a)) :
    ∃ items proof, decodeWith accountResponse buffer = .ok (items, proof) ∧
      (∀ n, items.find? (·.key = ascii "nonce") = some n →
        a.nonce % 2 ^ 64 = beValue n.value % 2 ^ 64 ∧ -2 ^ 63 ≤ a.nonce ∧ a.nonce < 2 ^ 63) ∧
      (∀ b, items.find? (·.key = ascii "balance") = some b →
        a.balance % 2 ^ 64 = beValue b.value % 2 ^ 64 ∧ -2 ^ 63 ≤ a.balance ∧ a.balance < 2 ^ 63) := by
  obtain ⟨items, proof, hd, hn, hb⟩ := parseAccountResponse_inv h
  refine ⟨items, proof, hd, fun n hfind => ?_, fun b hfind => ?_⟩
  . rw [hn, findItemInItems_of_find hfind]
    exact bigInt64_spec n.value
  . rw [hb, findItemInItems_of_find hfind]
    exact bigInt64_spec b.value

/-- A balance of eight bytes with the top bit set, the value `2 ^ 63`, comes back as `-2 ^ 63`
with no error, under a proof parser that refuses a proof without leaves and reads the reply's
proof of one leaf. -/
theorem parseAccountResponse_int64_sample :
    parseAccountResponse ⟨id, .ok, BlockHeader.txHash, oneLeafProof id⟩
      (response 1 (ascii "getaccount")
        [.list ([⟨ascii "storageRoot", []⟩, ⟨ascii "nonce", []⟩, ⟨ascii "code", []⟩,
          ⟨ascii "balance", [0x80, 0, 0, 0, 0, 0, 0, 0]⟩].map KeyValue.toItem),
          .list [.list [.bytes [1], .bytes [2]]]]) =
      .ok (.account ⟨[], 0, [], -2 ^ 63,
        ⟨[.list [.bytes [1], .bytes [2]]], [0xC2, 1, 2], 0, [⟨[1], [2]⟩]⟩⟩) ∧
    ∃ items proof, decodeWith accountResponse
      (response 1 (ascii "getaccount")
        [.list ([⟨ascii "storageRoot", []⟩, ⟨ascii "nonce", []⟩, ⟨ascii "code", []⟩,
          ⟨ascii "balance", [0x80, 0, 0, 0, 0, 0, 0, 0]⟩].map KeyValue.toItem),
          .list [.list [.bytes [1], .bytes [2]]]]) = .ok (items, proof) ∧
      (∀ n, items.find? (·.key = ascii "nonce") = some n →
        (0 : Int) % 2 ^ 64 = beValue n.value % 2 ^ 64 ∧ -2 ^ 63 ≤ (0 : Int) ∧ (0 : Int) < 2 ^ 63) ∧
      (∀ b, items.find? (·.key = ascii "balance") = some b →
        (-2 ^ 63 : Int) % 2 ^ 64 = beValue b.value % 2 ^ 64 ∧ -2 ^ 63 ≤ (-2 ^ 63 : Int) ∧
          (-2 ^ 63 : Int) < 2 ^ 63) :=
  have h : parseAccountResponse ⟨id, .ok, BlockHeader.txHash, oneLeafProof id⟩
      (response 1 (ascii "getaccount")
        [.list ([⟨ascii "storageRoot", []⟩, ⟨ascii "nonce", []⟩, ⟨ascii "code", []⟩,
          ⟨ascii "balance", [0x80, 0, 0, 0, 0, 0, 0, 0]⟩].map KeyValue.toItem),
          .list [.list [.bytes [1], .bytes [2]]]]) =
      .ok (.account ⟨[], 0, [], -2 ^ 63,
        ⟨[.list [.bytes [1], .bytes [2]]], [0xC2, 1, 2], 0, [⟨[1], [2]⟩]⟩⟩) :=
    rfl
  ⟨h, parseAccountResponse_int64 _ h⟩

end Edge
