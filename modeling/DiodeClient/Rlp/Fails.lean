import DiodeClient.Rlp.Lemmas

/-!
This module proves where the decoder stops on input it refuses. `FailsIn d its e` says that the
reader `d` fails with `e` when the items `its` are what is left of the list it reads. Like
`Reads`, it is proved for the readers of `Stream.lean` and kept by sequencing: the error a whole
message struct reports is assembled from the fields read before the one that fails, and from
the error of that field, with the field names in front.
-/

namespace Rlp

/-- The error `field name` reports when its reader fails with `e`. -/
def fieldError (name : String) (e : DecodeError) : DecodeError :=
  if e.kind = .eol then ⟨.tooFewElements, []⟩ else { e with path := name :: e.path }

/-- `d` fails with `e` when the items `its` are what is left of the list it reads. -/
def FailsIn (d : Decoder α) (its : List Item) (e : DecodeError) : Prop :=
  d ⟨Item.encodeList its, true⟩ = .error e

/-- A list reader stops right after the list, whatever it reads from it. -/
theorem list_stops {d : Decoder α} {c : List Item} (hc : (Item.encodeList c).length < 2 ^ 64)
    {rest : Bytes} {inList : Bool} {a : α} {s : Stream}
    (h : list d ⟨(Item.list c).encode ++ rest, inList⟩ = .ok (a, s)) : s = ⟨rest, inList⟩ := by
  simp only [list, Item.encode_list, List.append_assoc, next_head_list ⟨[], inList⟩ hc rest,
    within] at h
  split at h
  . split at h
    . exact (Prod.mk.inj (Except.ok.inj h)).2.symm
    . cases h
  . cases h

theorem field_stops {d : Decoder α} {s s' : Stream} {a : α} (name : String)
    (h : field name d s = .ok (a, s')) : d s = .ok (a, s') := by
  simp only [field] at h
  split at h <;> simp_all

namespace FailsIn

variable {d : Decoder α} {its : List Item} {e : DecodeError}

theorem bind_left {f : α → Decoder β} (h : FailsIn d its e) : FailsIn (d >>= f) its e := by
  show StateT.bind d f _ = _
  simp [StateT.bind, show d _ = _ from h, bind, Except.bind]

theorem bind_of_reads {f : α → Decoder β} {it : Item} {a : α} (hd : Reads d [it] a)
    (h : FailsIn (f a) its e) : FailsIn (d >>= f) (it :: its) e := by
  have h₁ := hd (Item.encodeList its) true
  simp only [Item.encodeList_cons, Item.encodeList_nil, List.append_nil] at h₁
  show StateT.bind d f ⟨Item.encodeList (it :: its), true⟩ = _
  simp only [Item.encodeList_cons, StateT.bind, h₁]
  exact h

/-- Whatever `d` reads from the item `it`, if it stops right after it and `f` then fails, so does
`d >>= f`, with the error of `d` or of `f`. -/
theorem bind_of_stops {f : α → Decoder β} {it : Item}
    (hd : ∀ a s, d ⟨Item.encodeList (it :: its), true⟩ = .ok (a, s) →
      s = ⟨Item.encodeList its, true⟩)
    (h : ∀ a, ∃ e, FailsIn (f a) its e) : ∃ e, FailsIn (d >>= f) (it :: its) e := by
  show ∃ e, StateT.bind d f _ = _
  rcases hr : d ⟨Item.encodeList (it :: its), true⟩ with e' | ⟨a, s⟩
  . exact ⟨e', by simp only [StateT.bind, hr]; rfl⟩
  . obtain ⟨e, he⟩ := h a
    exact ⟨e, by simp only [StateT.bind, hr, hd a s hr]; exact he⟩

theorem field (name : String) (h : FailsIn d its e) :
    FailsIn (Rlp.field name d) its (fieldError name e) := by
  simp [FailsIn, Rlp.field, show d _ = _ from h, fieldError]

theorem readWith_nil (f : Kind → Except DecodeError α) : FailsIn (readWith f) [] ⟨.eol, []⟩ := by
  simp [FailsIn, readWith, next]

theorem list_nil (d : Decoder α) : FailsIn (list d) [] ⟨.eol, []⟩ := by
  simp [FailsIn, list, next]

/-- A string or byte reader refuses a list. -/
theorem readWith_list {f : Kind → Except DecodeError α} {c : List Item}
    (hc : (Item.encodeList c).length < 2 ^ 64) (hf : f (.list (Item.encodeList c)) = .error e) :
    FailsIn (readWith f) (.list c :: its) e := by
  simp [FailsIn, readWith, Item.encode_list, next_head_list ⟨[], true⟩ hc, hf, Except.map]

/-- A list reader refuses a byte string. -/
theorem list_bytes {b : Bytes} (hb : b.length < 2 ^ 64) (d : Decoder α) :
    FailsIn (list d) (.bytes b :: its) ⟨.expectedList, []⟩ := by
  simp only [FailsIn, list, Item.encodeList_cons, Item.encode_bytes, next_encodeString true hb]
  rcases stringKind_cases b with ⟨x, hx⟩ | hx <;> simp [hx]

theorem list_list {c : List Item} (hc : (Item.encodeList c).length < 2 ^ 64)
    (h : FailsIn d c e) : FailsIn (list d) (.list c :: its) e := by
  simp [FailsIn, list, Item.encode_list, next_head_list ⟨[], true⟩ hc, within,
    show d _ = _ from h]

/-- A slice reader fails at its first element when the element reader fails there. -/
theorem slice_head {x : Item} {xs : List Item}
    (hc : (Item.encodeList (x :: xs)).length < 2 ^ 64) (h : FailsIn d (x :: xs) e) :
    FailsIn (slice d) (.list (x :: xs) :: its) (fieldError "[0]" e) := by
  refine list_list hc ?_
  have hne : Item.encodeList (x :: xs) ≠ [] := by simp [Item.encode_ne_nil]
  simp only [FailsIn] at h ⊢
  rw [show (Item.encodeList (x :: xs)).length + 1 = _ + 1 from rfl]
  simp only [elems, hne, if_false]
  exact bind_left (field "[0]" h)

end FailsIn

/-- A buffer holding a list whose items `d` refuses is refused by `list d`. -/
theorem decode_list_of_failsIn {d : Decoder α} {its : List Item} {e : DecodeError}
    (hc : (Item.encodeList its).length < 2 ^ 64) (h : FailsIn d its e) :
    decode (list d) (Item.list its).encode = .error e := by
  have hn := next_head_list ⟨[], false⟩ hc []
  rw [List.append_nil] at hn
  simp [decode, StateT.run', list, Item.encode_list, hn, within, show d _ = _ from h]

end Rlp
