import FormBuilder.Proofs.Store.Frame

/-!
Where a move takes each field.  The field that is moved goes to its target, those that it passes
make room by one place, and all others stay where they are.  The opposite move shifts each place
back, so it undoes the move: `fields_of_reorder`.
-/

namespace FormBuilder
namespace Store

variable {s : Store} {source target i : Nat}

/-! ## Places -/

/-- The place to which a move from `source` to `target` takes what stands at `i`. -/
def movedTo (source target i : Nat) : Nat :=
  if i = source then target
  else if source < i ∧ i ≤ target then i - 1
  else if target ≤ i ∧ i < source then i + 1
  else i

@[simp]
theorem movedTo_source (source target : Nat) : movedTo source target source = target := if_pos rfl

theorem movedTo_of_passed (h : source < i ∧ i ≤ target) : movedTo source target i = i - 1 := by
  rw [movedTo, if_neg (by omega), if_pos h]

theorem movedTo_of_passedBack (h : target ≤ i ∧ i < source) :
    movedTo source target i = i + 1 := by
  rw [movedTo, if_neg (by omega), if_neg (by omega), if_pos h]

theorem movedTo_of_apart (h : i < source ∧ i < target ∨ source < i ∧ target < i) :
    movedTo source target i = i := by
  rw [movedTo, if_neg (by omega), if_neg (by omega), if_neg (by omega)]

/-- The opposite move takes everything back. -/
theorem movedTo_movedTo (source target i : Nat) :
    movedTo target source (movedTo source target i) = i := by
  unfold movedTo
  split_ifs <;> omega

/-! ## Lists -/

section Lists

variable {α : Type} {xs : List α}

theorem moveElement_of_lt (hsource : source < xs.length) :
    moveElement source target xs = (xs.eraseIdx source).insertIdx target xs[source] := by
  rw [moveElement, List.getElem?_eq_getElem hsource]

/-- The elements that are not moved are the same list as before. -/
theorem eraseIdx_moveElement (hsource : source < xs.length) :
    (moveElement source target xs).eraseIdx target = xs.eraseIdx source := by
  rw [moveElement_of_lt hsource, List.eraseIdx_insertIdx_self]

theorem getElem?_movedTo (hsource : source < xs.length) (htarget : target < xs.length) (i : Nat) :
    (moveElement source target xs)[movedTo source target i]? = xs[i]? := by
  have hlength := List.length_eraseIdx_add_one hsource
  rcases Decidable.eq_or_ne i source with rfl | hi
  · rw [movedTo_source, getElem?_moveElement hsource htarget]
  rw [moveElement_of_lt hsource, List.getElem?_insertIdx, List.getElem?_eraseIdx,
    List.getElem?_eraseIdx]
  -- What is passed is read one place nearer to the source, behind the gap or in front of it.
  by_cases hpassed : source < i ∧ i ≤ target
  · have hback : i - 1 + 1 = i := by omega
    rw [movedTo_of_passed hpassed, if_pos (by omega), if_neg (by omega), hback]
  by_cases hpassedBack : target ≤ i ∧ i < source
  · rw [movedTo_of_passedBack hpassedBack, if_neg (by omega), if_neg (by omega),
      if_pos (by omega), Nat.add_sub_cancel]
  rw [movedTo_of_apart (by omega)]
  by_cases hbefore : i < target
  · rw [if_pos hbefore, if_pos (by omega)]
  · have hback : i - 1 + 1 = i := by omega
    rw [if_neg hbefore, if_neg (by omega), if_neg (by omega), hback]

theorem moveElement_moveElement (hsource : source < xs.length) (htarget : target < xs.length) :
    moveElement target source (moveElement source target xs) = xs := by
  have hlength := (moveElement_perm hsource htarget).length_eq
  apply List.ext_getElem?
  intro i
  have hback := getElem?_movedTo (hlength.symm ▸ htarget) (hlength.symm ▸ hsource)
    (movedTo source target i)
  rw [movedTo_movedTo] at hback
  rw [hback, getElem?_movedTo hsource htarget]

end Lists

/-! ## Moves -/

/-- The field at `source` has gone to `target`, place by place and as a whole. -/
structure Moved (source target : Nat) (old new : List Field) : Prop where
  moved : new[target]? = old[source]?
  passed : ∀ i, source < i → i ≤ target → new[i - 1]? = old[i]?
  passedBack : ∀ i, target ≤ i → i < source → new[i + 1]? = old[i]?
  apart : ∀ i, i < source ∧ i < target ∨ source < i ∧ target < i → new[i]? = old[i]?
  rest : new.eraseIdx target = old.eraseIdx source
  perm : new.Perm old

theorem moved_moveElement {fields : List Field} (hsource : source < fields.length)
    (htarget : target < fields.length) :
    Moved source target fields (moveElement source target fields) where
  moved := getElem?_moveElement hsource htarget
  passed i hfirst hlast := by
    rw [← getElem?_movedTo hsource htarget i, movedTo_of_passed ⟨hfirst, hlast⟩]
  passedBack i hfirst hlast := by
    rw [← getElem?_movedTo hsource htarget i, movedTo_of_passedBack ⟨hfirst, hlast⟩]
  apart i h := by
    rw [← getElem?_movedTo hsource htarget i, movedTo_of_apart h]
  rest := eraseIdx_moveElement hsource
  perm := moveElement_perm hsource htarget

theorem perform_reorder (e : Entropy) (hsource : source < s.fields.length)
    (htarget : target < s.fields.length) :
    s.perform e (.reorder source target) =
      (.ok .done, { s with fields := moveElement source target s.fields }, e) := by
  rw [perform, reorder_of_lt hsource htarget]
  rfl

/-- In every store, a field can be moved from any place to any place.  It is found at its target
then, each field that it passes one place nearer to where it came from, and every other one where
it was; so all others keep their order, and no field is lost or doubled.  The opposite move
brings the store back. -/
theorem fields_of_reorder (s : Store) (e : Entropy) (hsource : source < s.fields.length)
    (htarget : target < s.fields.length) :
    ∃ t, s.perform e (.reorder source target) = (.ok .done, t, e) ∧
      Moved source target s.fields t.fields ∧
      t.perform e (.reorder target source) = (.ok .done, s, e) := by
  have hlength := (moveElement_perm hsource htarget).length_eq
  refine ⟨_, perform_reorder e hsource htarget, moved_moveElement hsource htarget, ?_⟩
  rw [perform_reorder e (hlength.symm ▸ htarget) (hlength.symm ▸ hsource),
    moveElement_moveElement hsource htarget]

/-- The first of three fields goes to the end, and comes back. -/
theorem fields_of_reorder_first :
    let a : Field := { id := "a", name := "n", attributes := .date {} }
    let b : Field := { id := "b", name := "n", attributes := .radio {} }
    let c : Field := { id := "c", name := "m", attributes := .number {} }
    let s : Store := { fields := [a, b, c], selected := some "a" }
    let t : Store := { fields := [b, c, a], selected := some "a" }
    let e : Entropy := .ofBytes #[]
    0 < s.fields.length ∧ 2 < s.fields.length ∧ Moved 0 2 s.fields t.fields ∧
      t.perform e (.reorder 2 0) = (.ok .done, s, e) := by
  intro a b c s t e
  have hsource : 0 < s.fields.length := by decide
  have htarget : 2 < s.fields.length := by decide
  obtain ⟨t', hperform, hmoved, hback⟩ := fields_of_reorder s e hsource htarget
  have hdone : s.perform e (.reorder 0 2) = (.ok .done, t, e) := rfl
  obtain rfl : t = t' := congrArg (·.2.1) (hdone.symm.trans hperform)
  exact ⟨hsource, htarget, hmoved, hback⟩

end Store
end FormBuilder
