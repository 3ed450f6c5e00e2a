import FormBuilder.Proofs.Store.Step
import Mathlib.Data.List.InsertIdx
import Mathlib.Data.List.Nodup
import Mathlib.Data.List.Perm.Basic

/-!
Stores that runs of operations lead to.  In each of them no id occurs twice and the
selected id is that of a field: `Reachable.coherent`.  Every step preserves both,
whatever operation it comes from.
-/

namespace FormBuilder
namespace Store

/-- What holds of a store between two operations. -/
structure Coherent (s : Store) : Prop where
  nodup : s.ids.Nodup
  selected : ∀ id ∈ s.selected, id ∈ s.ids

/-- The stores that operations lead to, from an empty store or from given fields.
Operations do not overlap, so this covers all orders in which those of several clients
may come.  Each operation may draw any bytes. -/
inductive Reachable : Store → Prop where
  | new (config : StoreConfig) : Reachable { config }
  | ofFields {config : StoreConfig} {fields : List Field} {s : Store}
    (h : ofFields config fields = .ok s) : Reachable s
  | perform {s : Store} (h : Reachable s) (e : Entropy) (op : Operation) :
    Reachable (s.perform e op).2.1

variable {s t : Store} {id : FieldId} {f new : Field}

/-! ## Given fields -/

theorem firstRepeated_eq_none_iff {seen : List FieldId} {fields : List Field} :
    firstRepeated seen fields = none ↔
      (fields.map Field.id).Nodup ∧ ∀ id ∈ seen, id ∉ fields.map Field.id := by
  induction fields generalizing seen with
  | nil => exact iff_of_true rfl ⟨List.nodup_nil, fun _ _ => List.not_mem_nil⟩
  | cons f rest ih =>
    rw [firstRepeated]
    by_cases hseen : f.id ∈ seen
    · rw [if_pos hseen]
      exact iff_of_false (fun h => nomatch h) fun h => h.2 f.id hseen List.mem_cons_self
    · rw [if_neg hseen, ih, List.forall_mem_cons, List.map_cons, List.nodup_cons]
      constructor
      · rintro ⟨hnodup, hf, hdisjoint⟩
        refine ⟨⟨hf, hnodup⟩, fun id hid hmem => ?_⟩
        rcases List.mem_cons.mp hmem with rfl | hrest
        · exact hseen hid
        · exact hdisjoint id hid hrest
      · rintro ⟨⟨hf, hnodup⟩, hdisjoint⟩
        exact ⟨hnodup, hf, fun id hid hmem => hdisjoint id hid (List.mem_cons_of_mem f.id hmem)⟩

theorem ofFields_eq_ok_iff {config : StoreConfig} {fields : List Field} :
    ofFields config fields = .ok s ↔ (fields.map Field.id).Nodup ∧ s = { config, fields } := by
  have hnone : firstRepeated [] fields = none ↔ (fields.map Field.id).Nodup :=
    firstRepeated_eq_none_iff.trans (and_iff_left fun _ h => absurd h List.not_mem_nil)
  rw [← hnone, ofFields]
  split <;> rename_i h <;> simp [h, eq_comm]

theorem coherent_ofFields {config : StoreConfig} {fields : List Field}
    (h : ofFields config fields = .ok s) : s.Coherent := by
  obtain ⟨hnodup, rfl⟩ := ofFields_eq_ok_iff.mp h
  exact ⟨hnodup, fun _ hid => nomatch hid⟩

/-! ## Steps -/

theorem ids_set (h : s.find? id = some f) (hid : new.id = f.id) :
    (s.fields.set (s.position id) new).map Field.id = s.ids := by
  obtain ⟨hlt, hf⟩ := List.getElem?_eq_some_iff.mp (getElem?_position h)
  have hlt' : s.position id < (s.fields.map Field.id).length := by rwa [List.length_map]
  have hsame : new.id = (s.fields.map Field.id)[s.position id] := by
    rw [List.getElem_map, hf, hid]
  rw [List.map_set, hsame, List.set_getElem_self, ids]

theorem moveElement_perm {α : Type} {source target : Nat} {xs : List α}
    (hsource : source < xs.length) (htarget : target < xs.length) :
    (moveElement source target xs).Perm xs := by
  have hlength := List.length_eraseIdx_add_one hsource
  rw [moveElement, List.getElem?_eq_getElem hsource]
  exact (List.perm_insertIdx xs[source] (xs.eraseIdx source) (by omega)).trans
    (List.getElem_cons_eraseIdx_perm hsource)

theorem mem_ids_eraseIdx {other : FieldId} (hne : other ≠ id) (h : other ∈ s.ids) :
    other ∈ (s.fields.eraseIdx (s.position id)).map Field.id := by
  obtain ⟨g, hg, rfl⟩ := List.mem_map.mp h
  rw [position, ← eraseP_eq_eraseIdx]
  exact List.mem_map_of_mem ((List.mem_eraseP_of_neg (by simpa using hne)).mpr hg)

theorem Coherent.of_perm (hs : s.Coherent) (hids : t.ids.Perm s.ids)
    (hsel : t.selected = s.selected) : t.Coherent where
  nodup := hids.nodup_iff.mpr hs.nodup
  selected id hid := hids.mem_iff.mpr (hs.selected id (hsel ▸ hid))

theorem Step.coherent (h : Step s t) (hs : s.Coherent) : t.Coherent := by
  cases h with
  | refl => exact hs
  | @append f hid =>
    have hids : ids { s with fields := s.fields ++ [f] } = s.ids ++ [f.id] := List.map_append
    constructor
    · rw [hids]
      have hperm := List.perm_append_singleton f.id s.ids
      exact hperm.nodup_iff.mpr (List.nodup_cons.mpr ⟨hid, hs.nodup⟩)
    · intro id hsel
      rw [hids]
      exact List.mem_append_left _ (hs.selected id hsel)
  | @erase id f hfind =>
    constructor
    · exact hs.nodup.sublist ((List.eraseIdx_sublist _ _).map Field.id)
    · intro other hsel
      simp only at hsel
      split_ifs at hsel with hother
      · exact nomatch hsel
      · exact mem_ids_eraseIdx (fun he => hother (he ▸ hsel)) (hs.selected other hsel)
  | replace hfind hid =>
    exact hs.of_perm (.of_eq (ids_set hfind hid)) rfl
  | move hsource htarget => exact hs.of_perm ((moveElement_perm hsource htarget).map Field.id) rfl
  | select hchoice => exact ⟨hs.nodup, hchoice⟩

theorem Reachable.coherent (h : Reachable s) : s.Coherent := by
  induction h with
  | new config => exact ⟨List.nodup_nil, fun _ hid => nomatch hid⟩
  | ofFields h => exact coherent_ofFields h
  | @perform s _ e op ih => exact (step_perform s e op).coherent ih

/-- A run of operations leads from one reachable store to another. -/
theorem Reachable.performAll (h : Reachable s) (e : Entropy) (ops : List Operation) :
    Reachable (s.performAll e ops).2.1 := by
  induction ops generalizing s e with
  | nil => exact h
  | cons op rest ih => exact ih (h.perform e op) _

/-! ## Selection -/

theorem Coherent.find?_eq_some_iff (h : s.Coherent) :
    s.find? id = some f ↔ f ∈ s.fields ∧ f.id = id := by
  constructor
  · exact fun hfind => ⟨List.mem_of_find?_eq_some hfind, id_of_find? hfind⟩
  · rintro ⟨hf, rfl⟩
    have hne : s.find? f.id ≠ none := fun hnone =>
      find?_eq_none_iff.mp hnone (List.mem_map_of_mem hf)
    obtain ⟨g, hg⟩ := Option.ne_none_iff_exists'.mp hne
    have hgf : g = f := List.inj_on_of_nodup_map h.nodup (List.mem_of_find?_eq_some hg) hf
      (id_of_find? hg)
    rw [hg, hgf]

theorem Coherent.selectedField_eq_some_iff (h : s.Coherent) :
    s.selectedField = some f ↔ f ∈ s.fields ∧ s.selected = some f.id := by
  unfold selectedField
  constructor
  · intro hsel
    obtain ⟨id, hid, hfind⟩ := Option.bind_eq_some_iff.mp hsel
    obtain ⟨hf, rfl⟩ := h.find?_eq_some_iff.mp hfind
    exact ⟨hf, hid⟩
  · rintro ⟨hf, hid⟩
    rw [hid]
    exact h.find?_eq_some_iff.mpr ⟨hf, rfl⟩

theorem Coherent.isSome_selectedField (h : s.Coherent) :
    s.selectedField.isSome = s.selected.isSome := by
  cases hsel : s.selected with
  | none => rw [selectedField, hsel]; rfl
  | some id =>
    obtain ⟨f, hf, rfl⟩ := List.mem_map.mp (h.selected id hsel)
    rw [h.selectedField_eq_some_iff.mpr ⟨hf, hsel⟩]
    rfl

/-- In every store that operations lead to, the ids are distinct and a selected id is
that of a field.  A field is selected exactly when an id is, and it is the only field of
this id. -/
theorem selectedField_of_reachable (h : Reachable s) :
    s.ids.Nodup ∧ (∀ id, s.selected = some id → id ∈ s.ids) ∧
      s.selectedField.isSome = s.selected.isSome ∧
      ∀ f, s.selectedField = some f ↔ f ∈ s.fields ∧ s.selected = some f.id :=
  ⟨h.coherent.nodup, h.coherent.selected, h.coherent.isSome_selectedField,
    fun _ => h.coherent.selectedField_eq_some_iff⟩

/-- A field put into an empty store and selected. -/
theorem selectedField_of_reachable_inserted :
    let f : Field := { id := "a", name := "n", attributes := .checkbox {} }
    let s : Store := { fields := [f], selected := some "a" }
    Reachable s ∧ s.ids.Nodup ∧ s.selectedField = some f := by
  intro f s
  let e : Entropy := .ofBytes #[]
  have h : Reachable s := ((Reachable.new {}).perform e (.insert f)).perform e (.select (some "a"))
  obtain ⟨hnodup, -, -, hselected⟩ := selectedField_of_reachable h
  exact ⟨h, hnodup, (hselected f).mpr ⟨List.mem_singleton.mpr rfl, rfl⟩⟩

end Store
end FormBuilder
