import DiodeClient.Edge.Protocol
import DiodeClient.Go.Lemmas

/-!
This module is about the requests `NewMessage` writes. `writeMessage` says once for every
method what `NewMessage` does: a method it knows reads a fixed list of arguments, asserting the
type of each, and is written as a request holding the method name and the items of those
arguments, in the order read, with the parser `requestParsers` lists for it; every other method
gets the error `RPCNotSupport`. `NewMessage` is that function, method by method. From it,
`NewMessage` panics exactly on a method it knows whose arguments are missing or of another type,
and then at the first such argument.
-/

namespace Edge

open Rlp Go

/-- A type assertion succeeds exactly on an argument of the asserted type. -/
theorem Arg.assertAt_ok_iff {k : ArgKind} {args : List Arg} {i : Nat} :
    (∃ x, Arg.assertAt k args i = .ok x) ↔ (args[i]?).map Arg.kind = some k := by
  unfold Arg.assertAt
  cases args[i]? with
  | none => simp
  | some a =>
    cases a <;> cases k <;>
      simp only [Arg.cast, Arg.kind, Option.map_some', Except.ok.injEq, exists_eq', reduceCtorEq,
        exists_false, Option.some.injEq, iff_true, true_iff, false_iff, not_false_eq_true]

/-- A type assertion fails exactly on a missing argument, which panics with an index out of
range, and on one of another type, which fails the assertion. -/
theorem Arg.assertAt_error_iff {k : ArgKind} {args : List Arg} {i : Nat} {e : Panic} :
    Arg.assertAt k args i = .error e ↔
      (args[i]?).map Arg.kind ≠ some k ∧
        e = if i < args.length then .typeAssertion else .indexOutOfRange := by
  unfold Arg.assertAt
  by_cases hi : i < args.length
  · rw [List.getElem?_eq_getElem hi]
    cases args[i] <;> cases k <;> simp [Arg.cast, Arg.kind, hi, eq_comm]
  · rw [List.getElem?_eq_none (Nat.le_of_not_lt hi)]
    simp [hi, eq_comm]

/-- The item an argument of type `k` is written as. -/
def ArgKind.item : (k : ArgKind) → k.type → Item
  | .uint64, n => uintItem n
  | .bytes, b => .bytes b
  | .string, s => .bytes s

/-- Reads the arguments from position `i` on, asserting the types `ks` in order, and returns the
items they are written as. -/
def readArgs (args : List Arg) (i : Nat) : List ArgKind → Except Panic (List Item)
  | [] => pure []
  | k :: ks => do
    let x ← Arg.assertAt k args i
    let items ← readArgs args (i + 1) ks
    pure (k.item x :: items)

theorem readArgs_cons_error_iff {args : List Arg} {i : Nat} {k : ArgKind} {ks : List ArgKind}
    {e : Panic} :
    readArgs args i (k :: ks) = .error e ↔
      Arg.assertAt k args i = .error e ∨
        (∃ x, Arg.assertAt k args i = .ok x) ∧ readArgs args (i + 1) ks = .error e := by
  simp only [readArgs]
  rcases Arg.assertAt k args i with e' | x <;> rcases readArgs args (i + 1) ks with e' | items <;>
    simp only [bind, Except.bind, pure, Except.pure, reduceCtorEq, exists_false, false_and,
      and_false, or_false, false_or, Except.ok.injEq, Except.error.injEq, exists_eq', true_and]

/-- The arguments fail to be read at the first one that is missing or of another type, with the
panic of its assertion. -/
theorem readArgs_error_iff {args : List Arg} {e : Panic} : ∀ {i : Nat} {ks : List ArgKind},
    readArgs args i ks = .error e ↔
      ∃ j < ks.length, (∀ j' < j, (args[i + j']?).map Arg.kind = ks[j']?) ∧
        (args[i + j]?).map Arg.kind ≠ ks[j]? ∧
        e = if i + j < args.length then .typeAssertion else .indexOutOfRange
  | _, [] => by simp [readArgs, pure, Except.pure]
  | i, k :: ks => by
    rw [readArgs_cons_error_iff, Arg.assertAt_error_iff, Arg.assertAt_ok_iff,
      @readArgs_error_iff args e (i + 1) ks, List.length_cons, Nat.exists_lt_succ_left]
    simp only [Nat.add_zero, List.getElem?_cons_zero, List.getElem?_cons_succ,
      Nat.forall_lt_succ_left, Nat.add_right_comm i 1, Nat.add_assoc, Nat.not_lt_zero,
      IsEmpty.forall_iff, forall_const, true_and]
    exact or_congr_right ⟨fun ⟨hk, j, hj, hfit, hj'⟩ => ⟨j, hj, ⟨hk, hfit⟩, hj'⟩,
      fun ⟨j, hj, ⟨hk, hfit⟩, hj'⟩ => ⟨hk, j, hj, hfit, hj'⟩⟩

/-- The methods `NewMessage` writes, with the types of the arguments each reads, in order. -/
def argKinds : List (Bytes × List ArgKind) :=
  [(ascii "hello", [.uint64]), (ascii "portsend", [.uint64, .bytes]),
    (ascii "portclose", [.uint64]), (ascii "getblock", [.uint64]), (ascii "getblockpeak", []),
    (ascii "getblockheader2", [.uint64]), (ascii "getblockquick2", [.uint64, .uint64]),
    (ascii "getaccount", [.uint64, .bytes]), (ascii "getaccountroots", [.uint64, .bytes]),
    (ascii "getaccountvalue", [.uint64, .bytes, .bytes]),
    (ascii "ticket", [.uint64, .bytes, .uint64, .uint64, .bytes, .bytes]),
    (ascii "portopen", [.bytes, .uint64, .string]), (ascii "getobject", [.bytes]),
    (ascii "getnode", [.bytes]), (ascii "getstateroots", [.uint64])]

/-- The methods `NewMessage` binds a parser to, with the parser. -/
def requestParsers : List (Bytes × ResponseParser) :=
  [(ascii "getblock", .parseBlockResponse), (ascii "getblockpeak", .parseBlockPeakResponse),
    (ascii "getblockheader2", .parseBlockHeaderResponse),
    (ascii "getblockquick2", .parseBlockquickResponse), (ascii "getaccount", .parseAccountResponse),
    (ascii "getaccountroots", .parseAccountRootsResponse),
    (ascii "getaccountvalue", .parseAccountValueResponse),
    (ascii "ticket", .parseDeviceTicketResponse), (ascii "portopen", .parsePortOpenResponse),
    (ascii "getobject", .parseDeviceObjectResponse), (ascii "getnode", .parseServerObjResponse),
    (ascii "getstateroots", .parseStateRootsResponse)]

/-- What `NewMessage` is for, stated once for every method: a known method is written with the
items of the arguments it reads, in the order read, and bound to the parser of
`requestParsers`. -/
def writeMessage (requestID : UInt64) (method : Bytes) (args : List Arg) :
    Except Panic (Except GoError (Bytes × Option ResponseParser)) :=
  match argKinds.lookup method with
  | none => pure (.error .rpcNotSupport)
  | some ks => do
    let items ← readArgs args 0 ks
    pure (.ok (request requestID (.bytes method :: items), requestParsers.lookup method))

/-- `NewMessage` is `writeMessage`: its chain of method tests is the table `argKinds`, and each
branch reads its arguments in the order it writes them. -/
theorem newMessage_eq_writeMessage (requestID : UInt64) (method : Bytes) (args : List Arg) :
    newMessage requestID method args = writeMessage requestID method args := by
  rcases hl : argKinds.lookup method with _ | ks <;> simp only [writeMessage, hl]
  · -- a method `NewMessage` does not know fails every test
    simp only [List.lookup_eq_none_iff, argKinds, List.mem_cons, List.not_mem_nil, or_false,
      forall_eq_or_imp, forall_eq, bne_iff_ne, ne_eq] at hl
    simp only [newMessage, hl, if_false]
  · obtain ⟨l₁, l₂, hmem, -⟩ := List.lookup_eq_some_iff.mp hl
    have h : (method, ks) ∈ argKinds := hmem ▸ List.mem_append_right _ (List.mem_cons_self _ _)
    simp only [argKinds, List.mem_cons, Prod.mk.injEq, List.mem_singleton, List.not_mem_nil,
      or_false] at h
    rcases h with ⟨rfl, rfl⟩ | ⟨rfl, rfl⟩ | ⟨rfl, rfl⟩ | ⟨rfl, rfl⟩ | ⟨rfl, rfl⟩ | ⟨rfl, rfl⟩ |
      ⟨rfl, rfl⟩ | ⟨rfl, rfl⟩ | ⟨rfl, rfl⟩ | ⟨rfl, rfl⟩ | ⟨rfl, rfl⟩ | ⟨rfl, rfl⟩ | ⟨rfl, rfl⟩ |
      ⟨rfl, rfl⟩ | ⟨rfl, rfl⟩ <;>
    · -- step past the methods tested before this one
      unfold newMessage
      repeat (rw [if_neg] ; swap; decide)
      rw [if_pos rfl]
      simp only [readArgs, Arg.uint64At, Arg.bytesAt, Arg.stringAt, bind_assoc, pure_bind]
      rfl

/-- A message `NewMessage` writes is a request whose payload starts with the method name, and
the parser it hands out is the one `requestParsers` lists for the method; the methods of the
tunnel and `hello` get none. -/
theorem newMessage_inv {requestID : UInt64} {method : Bytes} {args : List Arg} {enc : Bytes}
    {p : Option ResponseParser} (h : newMessage requestID method args = .ok (.ok (enc, p))) :
    (∃ fields, enc = request requestID (.bytes method :: fields)) ∧
      p = requestParsers.lookup method := by
  rw [newMessage_eq_writeMessage, writeMessage] at h
  split at h
  · cases h
  · obtain ⟨items, -, h⟩ := bind_eq_ok.mp h
    cases h
    exact ⟨⟨items, rfl⟩, rfl⟩

/-- A method `NewMessage` knows panics at the first argument it reads that is missing, with an
index out of range, or of another type, with a failed type assertion. -/
theorem newMessage_error_iff {requestID : UInt64} {method : Bytes} {ks : List ArgKind}
    {args : List Arg} {e : Panic} (h : argKinds.lookup method = some ks) :
    newMessage requestID method args = .error e ↔
      ∃ j < ks.length, (∀ j' < j, (args[j']?).map Arg.kind = ks[j']?) ∧
        (args[j]?).map Arg.kind ≠ ks[j]? ∧
        e = if j < args.length then .typeAssertion else .indexOutOfRange := by
  have hr := @readArgs_error_iff args e 0 ks
  simp only [Nat.zero_add] at hr
  rw [← hr]
  simp only [newMessage_eq_writeMessage, writeMessage, h]
  rcases readArgs args 0 ks with e' | items <;> simp [bind, Except.bind, pure, Except.pure]

/-- `portsend` with its reference and no data panics at the data, past the end of the list. -/
theorem newMessage_error_iff_portsend :
    argKinds.lookup (ascii "portsend") = some [.uint64, .bytes] ∧
      newMessage 1 (ascii "portsend") [.uint64 7] = .error .indexOutOfRange ∧
      ∃ j < 2, (∀ j' < j, ([.uint64 7][j']?).map Arg.kind = [ArgKind.uint64, .bytes][j']?) ∧
        ([.uint64 7][j]?).map Arg.kind ≠ [ArgKind.uint64, .bytes][j]? ∧
        Panic.indexOutOfRange = if j < 1 then .typeAssertion else .indexOutOfRange :=
  ⟨rfl, rfl, (@newMessage_error_iff 1 (ascii "portsend") _ [.uint64 7] _ rfl).mp rfl⟩

example : newMessage 1 (ascii "portsend") [.bytes [], .uint64 7] = .error .typeAssertion := rfl

end Edge
