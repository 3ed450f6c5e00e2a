import FormBuilder.Proofs.Store.Interleaving

/-!
What a successful operation leaves alone.  It adds, removes, changes or moves one field at
most; all others keep what they hold and their order, and the selection is touched by
selecting and by removing the selected field only.  So no field is lost on the way: after a
run from an empty store the ids are those that were added and not removed since,
`frame_of_reachable`.
-/

namespace FormBuilder
namespace Store

variable {s t : Store} {id : FieldId} {f new : Field} {e : Entropy} {op : Operation}
  {answer : Answer} {ops : List Operation}

/-! ## Lists -/

section Lists

variable {α : Type} {x : α} {source target : Nat} {xs : List α}

/-- A move takes one element out and puts it back into what is left. -/
theorem exists_moveElement_eq (hsource : source < xs.length) (htarget : target < xs.length) :
    ∃ front back front' back', xs = front ++ xs[source] :: back ∧
      moveElement source target xs = front' ++ xs[source] :: back' ∧
      front' ++ back' = front ++ back ∧ front'.length = target := by
  have hrest : target ≤ (xs.eraseIdx source).length := by
    have := List.length_eraseIdx_add_one hsource
    omega
  obtain ⟨front', back', hsplit, hlength, hinsert⟩ :=
    List.exists_of_modifyTailIdx (xs[source] :: ·) hrest
  refine ⟨xs.take source, xs.drop (source + 1), front', back', ?_, ?_, ?_, hlength⟩
  · rw [List.getElem_cons_drop, List.take_append_drop]
  · rw [moveElement, List.getElem?_eq_getElem hsource]
    exact hinsert
  · rw [← hsplit, List.eraseIdx_eq_take_drop_succ]

theorem getElem?_moveElement (hsource : source < xs.length) (htarget : target < xs.length) :
    (moveElement source target xs)[target]? = xs[source]? := by
  obtain ⟨front, back, front', back', -, hmove, -, hlength⟩ :=
    exists_moveElement_eq hsource htarget
  rw [hmove, ← hlength, List.getElem?_append_right (Nat.le_refl _), Nat.sub_self,
    List.getElem?_cons_zero, List.getElem?_eq_getElem hsource]

/-- The elements that are not moved keep their order. -/
theorem filter_moveElement {p : α → Bool} (hsource : source < xs.length)
    (htarget : target < xs.length) (hp : p xs[source] = false) :
    (moveElement source target xs).filter p = xs.filter p := by
  obtain ⟨front, back, front', back', hxs, hmove, hrest, -⟩ :=
    exists_moveElement_eq hsource htarget
  have hskip : ∀ front back : List α,
      (front ++ xs[source] :: back).filter p = (front ++ back).filter p := by
    intro front back
    rw [List.filter_append, List.filter_cons_of_neg (by simp [hp]), List.filter_append]
  calc (moveElement source target xs).filter p
      = (front ++ back).filter p := by rw [hmove, hskip, hrest]
    _ = xs.filter p := by rw [← hskip, ← hxs]

end Lists

/-! ## One operation -/

/-- What a successful operation does to the list of fields. -/
def Reshapes (old new : List Field) : Operation → Answer → Prop
  | .create _, _ | .select _, _ => new = old
  | .add _, answer => ∃ f, answer = .field f ∧ new = old ++ [f]
  | .insert f, _ => new = old ++ [f]
  | .remove id, answer =>
    ∃ front f back, answer = .field f ∧ f.id = id ∧ old = front ++ f :: back ∧
      new = front ++ back ∧ ∀ g ∈ new, g.id ≠ id
  | .patch id _, _ | .addOption id, _ | .updateOption id _ _ _, _ =>
    ∃ front f g back, f.id = id ∧ g.id = id ∧ old = front ++ f :: back ∧ new = front ++ g :: back
  | .reorder source target, _ => new.Perm old ∧ new[target]? = old[source]?

/-- The id of the field that a successful operation adds, removes, changes or moves. -/
def subject? (s : Store) : Operation → Answer → Option FieldId
  | .create _, _ | .select _, _ | .add _, .done => none
  | .add _, .field f | .insert f, _ => some f.id
  | .remove id, _ | .patch id _, _ | .addOption id, _ | .updateOption id _ _ _, _ => some id
  | .reorder source _, _ => s.fields[source]?.map Field.id

/-- What is selected after a successful operation. -/
def selection (old : Option FieldId) : Operation → Option FieldId
  | .select choice => choice
  | .remove id => if old = some id then none else old
  | _ => old

/-- The fields that a successful operation is not about. -/
def others (fields : List Field) (subject : Option FieldId) : List Field :=
  fields.filter fun f => some f.id ≠ subject

/-- What a successful operation changes of a store, all else being the same. -/
structure Frame (s : Store) (op : Operation) (answer : Answer) (t : Store) : Prop where
  fields : Reshapes s.fields t.fields op answer
  others : others t.fields (s.subject? op answer) = others s.fields (s.subject? op answer)
  selected : t.selected = selection s.selected op
  config : t.config = s.config

/-- A field stands between fields of other ids. -/
theorem Coherent.exists_fields_eq (hs : s.Coherent) (hf : f ∈ s.fields) :
    ∃ front back, s.fields = front ++ f :: back ∧ ∀ g ∈ front ++ back, g.id ≠ f.id := by
  obtain ⟨front, back, hfields⟩ := List.append_of_mem hf
  refine ⟨front, back, hfields, fun g hg hid => ?_⟩
  have hnodup := hs.nodup
  rw [ids, hfields, List.map_append, List.map_cons, List.nodup_middle, ← List.map_append] at hnodup
  exact (List.nodup_cons.mp hnodup).1 (hid ▸ List.mem_map_of_mem hg)

theorem others_some (fields : List Field) (id : FieldId) :
    others fields (some id) = fields.filter (·.id ≠ id) := by
  simp only [others, ne_eq, Option.some.injEq]

theorem others_append_singleton (fields : List Field) (f : Field) :
    others (fields ++ [f]) (some f.id) = others fields (some f.id) := by
  simp [others_some]

theorem selected_filter (old : Option FieldId) (id : FieldId) :
    old.filter (· ≠ id) = selection old (.remove id) := by
  cases old with
  | none => rfl
  | some other => by_cases hid : other = id <;> simp [selection, hid, Option.filter]

theorem frame_remove (hs : s.Coherent) (hf : f ∈ s.fields) :
    Frame s (.remove f.id) (.field f) { s with
      fields := s.fields.filter (·.id ≠ f.id)
      selected := s.selected.filter (· ≠ f.id) } where
  fields := by
    obtain ⟨front, back, hfields, hother⟩ := hs.exists_fields_eq hf
    have hrest : s.fields.filter (·.id ≠ f.id) = front ++ back := by
      rw [hfields, List.filter_append, List.filter_cons_of_neg (by simp), ← List.filter_append]
      exact List.filter_eq_self.mpr fun g hg => decide_eq_true (hother g hg)
    exact ⟨front, f, back, rfl, rfl, hfields, hrest, fun g hg => hother g (hrest ▸ hg)⟩
  others := by
    simp only [subject?, others_some, List.filter_filter, Bool.and_self]
  selected := selected_filter s.selected f.id
  config := rfl

/-- An edit leaves the list in its shape and the field with its id. -/
theorem frame_edit (hs : s.Coherent) (hf : f ∈ s.fields) (hid : new.id = f.id)
    (hlane : op.lane? = some (.field f.id)) : Frame s op .done (s.withField new) := by
  obtain ⟨front, back, hfields, hother⟩ := hs.exists_fields_eq hf
  have hsame : ∀ {part : List Field}, (∀ g ∈ part, g.id ≠ f.id) →
      part.map (fun g => if g.id = new.id then new else g) = part := by
    intro part hpart
    exact (List.map_congr_left fun g hg => if_neg (hid ▸ hpart g hg)).trans (List.map_id' part)
  have hnew : (s.withField new).fields = front ++ new :: back := by
    rw [withField, hfields, List.map_append, List.map_cons, if_pos hid.symm,
      hsame fun g hg => hother g (List.mem_append_left back hg),
      hsame fun g hg => hother g (List.mem_append_right front hg)]
  have hreshapes : ∃ front' old g back', old.id = f.id ∧ g.id = f.id ∧
      s.fields = front' ++ old :: back' ∧ (s.withField new).fields = front' ++ g :: back' :=
    ⟨front, f, new, back, rfl, hid, hfields, hnew⟩
  have hothers : others (s.withField new).fields (some f.id) = others s.fields (some f.id) := by
    rw [hnew, hfields, others_some, others_some, List.filter_append, List.filter_append,
      List.filter_cons_of_neg (by simp [hid]), List.filter_cons_of_neg (by simp)]
  cases op with
  | patch _ _ | addOption _ | updateOption _ _ _ _ =>
    obtain rfl := Lane.field.inj (Option.some.inj hlane)
    exact ⟨hreshapes, hothers, rfl, rfl⟩
  | create _ | add _ | insert _ | remove _ => cases hlane
  | reorder _ _ | select _ => cases Option.some.inj hlane

theorem frame_reorder {source target : Nat} (hsource : source < s.fields.length)
    (htarget : target < s.fields.length) :
    Frame s (.reorder source target) .done
      { s with fields := moveElement source target s.fields } where
  fields := ⟨moveElement_perm hsource htarget, getElem?_moveElement hsource htarget⟩
  others := by
    rw [subject?, List.getElem?_eq_getElem hsource, Option.map_some, others_some, others_some]
    exact filter_moveElement hsource htarget (by simp)
  selected := rfl
  config := rfl

theorem frame_of_effect (hs : s.Coherent) (h : Effect s e op answer t) : Frame s op answer t := by
  cases h with
  | create _ => exact ⟨rfl, rfl, rfl, rfl⟩
  | add _ _ => exact ⟨⟨_, rfl, rfl⟩, others_append_singleton s.fields _, rfl, rfl⟩
  | insert _ => exact ⟨rfl, others_append_singleton s.fields _, rfl, rfl⟩
  | remove hf => exact frame_remove hs hf
  | patch hf hpatch => exact frame_edit hs hf (Field.id_of_patch hpatch) rfl
  | reorder hsource htarget => exact frame_reorder hsource htarget
  | select _ => exact ⟨rfl, rfl, rfl, rfl⟩
  | addOption hf _ | updateOption hf _ _ => exact frame_edit hs hf rfl rfl

theorem frame_of_perform (hs : s.Coherent) (h : (s.perform e op).1 = .ok answer) :
    Frame s op answer (s.perform e op).2.1 := by
  rcases exists_refusal_or_isDone hs e op with ⟨why, hwhy⟩ | ⟨answer', hanswer, heffect⟩
  · exact nomatch (isRefused_of_refusal hs hwhy).answer.symm.trans h
  · obtain rfl := Except.ok.inj (hanswer.symm.trans h)
    exact frame_of_effect hs heffect

/-- A refused operation leaves the store as it is. -/
theorem store_of_error {why : StoreError} (hs : s.Coherent) (h : (s.perform e op).1 = .error why) :
    (s.perform e op).2.1 = s := by
  rcases exists_refusal_or_isDone hs e op with ⟨why', hwhy⟩ | ⟨answer, hanswer, -⟩
  · exact (isRefused_of_refusal hs hwhy).store
  · exact nomatch hanswer.symm.trans h

/-! ## Runs -/

/-- An operation of a run with its answer. -/
structure Call where
  op : Operation
  answer : Except StoreError Answer

/-- A field of this id comes into the store. -/
def Call.Adds (id : FieldId) : Call → Prop
  | ⟨.add _, .ok (.field f)⟩ | ⟨.insert f, .ok _⟩ => f.id = id
  | _ => False

/-- The field of this id leaves the store. -/
def Call.Removes (id : FieldId) : Call → Prop
  | ⟨.remove other, .ok _⟩ => other = id
  | _ => False

theorem Call.Removes.op_eq {call : Call} (h : call.Removes id) : call.op = .remove id := by
  unfold Call.Removes at h
  split at h
  · exact congrArg Operation.remove h
  · exact h.elim

/-- The operations of a run with their answers. -/
def calls (s : Store) (e : Entropy) (ops : List Operation) : List Call :=
  List.zipWith Call.mk ops (s.performAll e ops).1

/-- A field of this id was added and not removed since. -/
def Lives (id : FieldId) (calls : List Call) : Prop :=
  ∃ front call back, calls = front ++ call :: back ∧ call.Adds id ∧
    ∀ later ∈ back, ¬ later.Removes id

theorem mem_ids_of_frame (h : Frame s op answer t) :
    id ∈ t.ids ↔ Call.Adds id ⟨op, .ok answer⟩ ∨
      id ∈ s.ids ∧ ¬ Call.Removes id ⟨op, .ok answer⟩ := by
  have hfields := h.fields
  cases op with
  | create _ | select _ =>
    replace hfields : t.fields = s.fields := hfields
    simp [ids, hfields, Call.Adds, Call.Removes]
  | add _ =>
    obtain ⟨f, rfl, hnew⟩ := hfields
    simp [ids, hnew, Call.Adds, Call.Removes, or_comm, eq_comm]
  | insert f =>
    replace hfields : t.fields = s.fields ++ [f] := hfields
    simp [ids, hfields, Call.Adds, Call.Removes, or_comm, eq_comm]
  | remove other =>
    obtain ⟨front, f, back, -, rfl, hold, hnew, hother⟩ := hfields
    have hids : t.ids = (front ++ back).map Field.id := congrArg _ hnew
    have hold' : ∀ {id}, id ∈ s.ids ↔ id = f.id ∨ id ∈ t.ids := by
      intro id
      rw [hids, ids, hold, List.map_append, List.map_cons, List.map_append, List.mem_append,
        List.mem_cons, List.mem_append, or_left_comm]
    have hgone : f.id ∉ t.ids := by
      intro hmem
      obtain ⟨g, hg, hid⟩ := List.mem_map.mp hmem
      exact hother g hg hid
    simp only [Call.Adds, Call.Removes, false_or, hold']
    constructor
    · exact fun hid => ⟨.inr hid, fun he => hgone (he ▸ hid)⟩
    · rintro ⟨hid, hne⟩
      exact hid.resolve_left (Ne.symm hne)
  | patch _ _ | addOption _ | updateOption _ _ _ _ =>
    obtain ⟨front, f, g, back, hf, hg, hold, hnew⟩ := hfields
    simp [ids, hold, hnew, hf, hg, Call.Adds, Call.Removes]
  | reorder source target =>
    have hmem : id ∈ t.ids ↔ id ∈ s.ids := (hfields.1.map Field.id).mem_iff
    simpa [Call.Adds, Call.Removes] using hmem

/-- An id is in the store after an operation if the operation adds it, or if it was there before
and is not removed. -/
theorem mem_ids_perform (hs : s.Coherent) (e : Entropy) (op : Operation) :
    id ∈ (s.perform e op).2.1.ids ↔ Call.Adds id ⟨op, (s.perform e op).1⟩ ∨
      id ∈ s.ids ∧ ¬ Call.Removes id ⟨op, (s.perform e op).1⟩ := by
  cases h : (s.perform e op).1 with
  | error why =>
    rw [store_of_error hs h]
    cases op <;> simp [Call.Adds, Call.Removes]
  | ok answer => exact mem_ids_of_frame (frame_of_perform hs h)

theorem lives_nil : ¬ Lives id [] := by
  rintro ⟨front, call, back, h, -⟩
  exact absurd h.symm (by simp)

theorem lives_cons {call : Call} {calls : List Call} :
    Lives id (call :: calls) ↔
      Lives id calls ∨ call.Adds id ∧ ∀ later ∈ calls, ¬ later.Removes id := by
  constructor
  · rintro ⟨front, added, back, h, hadds, hback⟩
    cases front with
    | nil =>
      obtain ⟨rfl, rfl⟩ := List.cons.inj h
      exact .inr ⟨hadds, hback⟩
    | cons first front =>
      obtain ⟨rfl, hcalls⟩ := List.cons.inj h
      exact .inl ⟨front, added, back, hcalls, hadds, hback⟩
  · rintro (⟨front, added, back, rfl, hadds, hback⟩ | ⟨hadds, hcalls⟩)
    · exact ⟨call :: front, added, back, rfl, hadds, hback⟩
    · exact ⟨[], call, calls, rfl, hadds, hcalls⟩

/-- What was there before a run and is not removed by it, and what it adds and does not remove
again: these ids are in the store at its end. -/
theorem mem_ids_performAll (hs : s.Coherent) (e : Entropy) (ops : List Operation) :
    id ∈ (s.performAll e ops).2.1.ids ↔ Lives id (s.calls e ops) ∨
      id ∈ s.ids ∧ ∀ call ∈ s.calls e ops, ¬ call.Removes id := by
  induction ops generalizing s e with
  | nil => simp [calls, performAll, lives_nil]
  | cons op ops ih =>
    have hrest := ih ((step_perform s e op).coherent hs) (s.perform e op).2.2
    have hcalls : s.calls e (op :: ops) = ⟨op, (s.perform e op).1⟩ ::
        (s.perform e op).2.1.calls (s.perform e op).2.2 ops := rfl
    rw [mem_ids_perform hs e op, or_and_right, and_assoc, ← or_assoc] at hrest
    rw [hcalls, lives_cons, List.forall_mem_cons, performAll_cons]
    exact hrest

/-- Of every operation that succeeds on a store that operations lead to: which field it adds,
removes, changes or moves, that all other fields keep what they hold and their order, and that
the selection is changed by selecting and by removing the selected field only.  After any run
from an empty store no id occurs twice, and the ids are those of the fields that were added
and not removed since. -/
theorem frame_of_reachable :
    (∀ s, Reachable s → ∀ e op answer, (s.perform e op).1 = .ok answer →
      Frame s op answer (s.perform e op).2.1) ∧
    ∀ (config : StoreConfig) (e : Entropy) (ops : List Operation),
      (performAll { config } e ops).2.1.ids.Nodup ∧
        ∀ id, id ∈ (performAll { config } e ops).2.1.ids ↔ Lives id (calls { config } e ops) := by
  refine ⟨fun s hs e op answer h => frame_of_perform hs.coherent h, fun config e ops => ?_⟩
  have hempty : Coherent { config } := (Reachable.new config).coherent
  refine ⟨(hempty.performAll e ops).1.nodup, fun id => ?_⟩
  rw [mem_ids_performAll hempty]
  exact or_iff_left fun h => absurd h.1 List.not_mem_nil

/-- The first of three fields is moved to the end while the second one is selected.  A field
that was removed and inserted again is there, one that was removed is not. -/
theorem frame_of_reachable_moved :
    let a : Field := { id := "a", name := "n", attributes := .radio {} }
    let b : Field := { id := "b", name := "n", attributes := .date {} }
    let c : Field := { id := "c", name := "m", attributes := .number {} }
    let e : Entropy := .ofBytes #[]
    let s : Store := { fields := [a, b, c], selected := some "b" }
    let ops : List Operation := [.insert a, .insert b, .remove "a", .remove "b", .insert a]
    Reachable s ∧ (s.perform e (.reorder 0 2)).1 = .ok .done ∧
      Frame s (.reorder 0 2) .done { s with fields := [b, c, a] } ∧
      "a" ∈ (performAll {} e ops).2.1.ids ∧ "b" ∉ (performAll {} e ops).2.1.ids := by
  intro a b c e s ops
  have hs : Reachable s :=
    ((((Reachable.new {}).perform e (.insert a)).perform e (.insert b)).perform e
      (.insert c)).perform e (.select (some "b"))
  have hok : (s.perform e (.reorder 0 2)).1 = .ok .done := rfl
  obtain ⟨hframe, hrun⟩ := frame_of_reachable
  obtain ⟨-, hids⟩ := hrun {} e ops
  have hcalls : calls {} e ops = [⟨.insert a, .ok .done⟩, ⟨.insert b, .ok .done⟩,
      ⟨.remove "a", .ok (.field a)⟩, ⟨.remove "b", .ok (.field b)⟩, ⟨.insert a, .ok .done⟩] := rfl
  refine ⟨hs, hok, hframe s hs e _ _ hok, (hids "a").mpr ?_, mt (hids "b").mp ?_⟩
  · exact hcalls ▸ ⟨[_, _, _, _], ⟨.insert a, .ok .done⟩, [], rfl, rfl, fun _ h => nomatch h⟩
  · rw [hcalls]
    simp [lives_cons, lives_nil, Call.Adds, Call.Removes, a, b]

end Store
end FormBuilder
