import FormBuilder.Proofs.Except
import FormBuilder.Store.Operation
import Mathlib.Tactic.SplitIfs

/-!
What one operation does to a store.  Each of the nine operations leaves the store as
it is or makes one of five changes, which `Step` lists with what the operation has
checked before: `step_perform`.
-/

namespace FormBuilder

theorem Field.id_of_patch {f new : Field} {p : FieldPatch} (h : f.patch p = .ok new) :
    new.id = f.id := by
  unfold patch at h
  split at h
  · exact Except.ok.inj h ▸ rfl
  · split at h
    · exact Except.ok.inj h ▸ rfl
    · exact nomatch h

namespace Store

/-! ## Positions -/

/-- Where the first field with an id stands. -/
def position (s : Store) (id : FieldId) : Nat := s.fields.findIdx (·.id = id)

variable {s t : Store} {id : FieldId} {f new : Field} {e e' : Entropy}

theorem find?_eq_none_iff : s.find? id = none ↔ id ∉ s.ids := by
  simp [find?, ids]

theorem id_of_find? (h : s.find? id = some f) : f.id = id := by
  obtain ⟨hid, -⟩ := List.find?_eq_some_iff_append.mp h
  exact of_decide_eq_true hid

theorem getElem?_position (h : s.find? id = some f) : s.fields[s.position id]? = some f := by
  rw [position, ← List.find?_eq_getElem?_findIdx]
  exact h

theorem eraseP_eq_eraseIdx (fields : List Field) (id : FieldId) :
    fields.eraseP (·.id = id) = fields.eraseIdx (fields.findIdx (·.id = id)) := by
  induction fields with
  | nil => rfl
  | cons f rest ih =>
    by_cases hf : f.id = id
    · simp [List.findIdx_cons, hf]
    · simp [List.findIdx_cons, hf, ih]

/-- A field goes to the place of the first field with its id. -/
theorem replaceField_eq_set (new : Field) (fields : List Field) :
    replaceField new fields = fields.set (fields.findIdx (·.id = new.id)) new := by
  induction fields with
  | nil => rfl
  | cons f rest ih =>
    by_cases hf : f.id = new.id
    · simp [replaceField, List.findIdx_cons, hf]
    · simp [replaceField, List.findIdx_cons, hf, ih]

/-! ## Operations -/

theorem not_mem_of_drawId {length attempts : Nat} {taken : List FieldId}
    (h : drawId length taken attempts e = (some id, e')) : id ∉ taken := by
  induction attempts generalizing e with
  | zero => exact nomatch congrArg Prod.fst h
  | succ attempts ih =>
    simp only [drawId] at h
    split_ifs at h with htaken
    · exact ih h
    · exact Option.some.inj (congrArg Prod.fst h) ▸ htaken

theorem not_mem_of_allocateId (h : s.allocateId e = (.ok id, e')) : id ∉ s.ids := by
  unfold allocateId at h
  split at h
  · exact nomatch congrArg Prod.fst h
  · split at h
    · next hdraw => exact Except.ok.inj (congrArg Prod.fst h) ▸ not_mem_of_drawId hdraw
    · exact nomatch congrArg Prod.fst h

theorem not_mem_of_create {kind : Kind} (h : s.create kind e = (.ok f, e')) : f.id ∉ s.ids := by
  unfold create at h
  split at h
  · next hid => exact Except.ok.inj (congrArg Prod.fst h) ▸ not_mem_of_allocateId hid
  · exact nomatch congrArg Prod.fst h

theorem add_eq_ok {kind : Kind} (h : s.add kind e = (.ok (f, t), e')) :
    f.id ∉ s.ids ∧ t = { s with fields := s.fields ++ [f] } := by
  unfold add at h
  split at h
  · next hcreate =>
    obtain ⟨rfl, rfl⟩ := Prod.mk.inj (Except.ok.inj (congrArg Prod.fst h))
    exact ⟨not_mem_of_create hcreate, rfl⟩
  · exact nomatch congrArg Prod.fst h

theorem insert_eq_ok (h : s.insert f = .ok t) :
    f.id ∉ s.ids ∧ t = { s with fields := s.fields ++ [f] } := by
  unfold insert at h
  split_ifs at h with hid
  exact ⟨hid, (Except.ok.inj h).symm⟩

theorem remove_eq_ok (h : s.remove id = .ok (f, t)) :
    s.find? id = some f ∧ t = { s with
      fields := s.fields.eraseIdx (s.position id)
      selected := if s.selected = some id then none else s.selected } := by
  unfold remove at h
  rw [eraseP_eq_eraseIdx] at h
  split at h
  · exact nomatch h
  · next hfind =>
    obtain ⟨rfl, rfl⟩ := Prod.mk.inj (Except.ok.inj h)
    exact ⟨hfind, rfl⟩

/-- A change that keeps the id takes effect where the field stands. -/
theorem edit_eq_ok {change : Field → Except StoreError Field}
    (hchange : ∀ f new, change f = .ok new → new.id = f.id) (h : s.edit id change = .ok t) :
    ∃ f new, s.find? id = some f ∧ change f = .ok new ∧
      t = { s with fields := s.fields.set (s.position id) new } := by
  unfold edit at h
  split at h
  · exact nomatch h
  · next f hfind =>
    obtain ⟨new, hnew, ht⟩ := bind_eq_ok_iff.mp h
    have hid : new.id = id := (hchange f new hnew).trans (id_of_find? hfind)
    rw [replaceField_eq_set, hid] at ht
    exact ⟨f, new, hfind, hnew, (Except.ok.inj ht).symm⟩

theorem id_of_patchField {p : FieldPatch} (h : patchField p f = .ok new) : new.id = f.id :=
  Field.id_of_patch (mapError_eq_ok_iff.mp h)

theorem id_of_editOptions {change : List Choice → Except PatchError (List Choice)}
    (h : editOptions change f = .ok new) : new.id = f.id := by
  unfold editOptions at h
  split at h
  · exact nomatch h
  · obtain ⟨options, -, hpatch⟩ := bind_eq_ok_iff.mp h
    split at hpatch
    · exact nomatch hpatch
    · exact id_of_patchField hpatch

theorem reorder_eq_ok {source target : Nat} (h : s.reorder source target = .ok t) :
    source < s.fields.length ∧ target < s.fields.length ∧
      t = { s with fields := moveElement source target s.fields } := by
  have hcheck : ∀ {index : Nat}, s.checkIndex index = .ok () → index < s.fields.length := by
    intro index hindex
    by_cases hlt : index < s.fields.length
    · exact hlt
    · rw [checkIndex, if_neg hlt] at hindex
      exact nomatch hindex
  obtain ⟨_, hsource, hrest⟩ := bind_eq_ok_iff.mp h
  obtain ⟨_, htarget, ht⟩ := bind_eq_ok_iff.mp hrest
  exact ⟨hcheck hsource, hcheck htarget, (Except.ok.inj ht).symm⟩

theorem select_eq_ok {choice : Option FieldId} (h : s.select choice = .ok t) :
    (∀ id ∈ choice, id ∈ s.ids) ∧ t = { s with selected := choice } := by
  cases choice with
  | none => exact ⟨fun _ hid => (nomatch hid), (Except.ok.inj h).symm⟩
  | some id =>
    simp only [select] at h
    split_ifs at h with hid
    exact ⟨fun _ hid' => Option.some.inj hid' ▸ hid, (Except.ok.inj h).symm⟩

/-! ## Steps -/

/-- What an operation may turn a store into. -/
inductive Step (s : Store) : Store → Prop where
  | refl : Step s s
  | append {f : Field} (h : f.id ∉ s.ids) : Step s { s with fields := s.fields ++ [f] }
  | erase {id : FieldId} {f : Field} (h : s.find? id = some f) :
    Step s { s with
      fields := s.fields.eraseIdx (s.position id)
      selected := if s.selected = some id then none else s.selected }
  | replace {id : FieldId} {f new : Field} (h : s.find? id = some f) (hid : new.id = f.id) :
    Step s { s with fields := s.fields.set (s.position id) new }
  | move {source target : Nat} (hsource : source < s.fields.length)
    (htarget : target < s.fields.length) :
    Step s { s with fields := moveElement source target s.fields }
  | select {choice : Option FieldId} (h : ∀ id ∈ choice, id ∈ s.ids) :
    Step s { s with selected := choice }

/-- What draws nothing steps where it succeeds and leaves the store where it is
refused. -/
theorem step_settle {α : Type} {x : Except StoreError α} {result : α → Answer × Store}
    (h : ∀ a, x = .ok a → Step s (result a).2) : Step s (s.settle e (x.map result)).2.1 := by
  cases x with
  | error why => exact .refl
  | ok a => exact h a rfl

theorem step_edit {change : Field → Except StoreError Field}
    (hchange : ∀ f new, change f = .ok new → new.id = f.id) (h : s.edit id change = .ok t) :
    Step s t := by
  obtain ⟨f, new, hfind, hnew, rfl⟩ := edit_eq_ok hchange h
  exact .replace hfind (hchange f new hnew)

theorem step_perform (s : Store) (e : Entropy) (op : Operation) : Step s (s.perform e op).2.1 := by
  cases op with
  | create kind =>
    simp only [perform]
    split <;> exact .refl
  | add kind =>
    simp only [perform]
    split
    · next hadd =>
      obtain ⟨hid, rfl⟩ := add_eq_ok hadd
      exact .append hid
    · exact .refl
  | insert f =>
    refine step_settle fun new h => ?_
    obtain ⟨hid, rfl⟩ := insert_eq_ok h
    exact .append hid
  | remove id =>
    refine step_settle fun ⟨f, new⟩ h => ?_
    obtain ⟨hfind, rfl⟩ := remove_eq_ok h
    exact .erase hfind
  | patch id p => exact step_settle fun new h => step_edit (fun _ _ => id_of_patchField) h
  | reorder source target =>
    refine step_settle fun new h => ?_
    obtain ⟨hsource, htarget, rfl⟩ := reorder_eq_ok h
    exact .move hsource htarget
  | select choice =>
    refine step_settle fun new h => ?_
    obtain ⟨hchoice, rfl⟩ := select_eq_ok h
    exact .select hchoice
  | addOption id => exact step_settle fun new h => step_edit (fun _ _ => id_of_editOptions) h
  | updateOption id index label value =>
    exact step_settle fun new h => step_edit (fun _ _ => id_of_editOptions) h

end Store
end FormBuilder
