import FormBuilder.Proofs.Store.Reachable

/-!
Stores of given fields and stores filled one field at a time.  Both refuse the first id that
comes again and agree on everything else, `ofFields_eq_insertAll`.  What carries the proof is
that the ids met so far on one side are the ids of the store on the other.
-/

namespace FormBuilder
namespace Store

variable {seen : List FieldId} {fields : List Field} {id : FieldId}

/-- Inserts one field after another, up to the first that is refused. -/
def insertAll (s : Store) (fields : List Field) : Except StoreError Store :=
  fields.foldlM insert s

theorem insertAll_cons (s : Store) (f : Field) (fields : List Field) :
    s.insertAll (f :: fields) = s.insert f >>= fun t => t.insertAll fields :=
  List.foldlM_cons

theorem insertAll_eq_firstRepeated {s : Store} (hseen : ∀ id, id ∈ seen ↔ id ∈ s.ids)
    (fields : List Field) :
    s.insertAll fields = match firstRepeated seen fields with
      | some id => .error (.duplicateId id)
      | none => .ok { s with fields := s.fields ++ fields } := by
  induction fields generalizing seen s with
  | nil => simp [insertAll, firstRepeated, pure, Except.pure]
  | cons f rest ih =>
    rw [insertAll_cons, insert, firstRepeated]
    by_cases hf : f.id ∈ s.ids
    · rw [if_pos hf, if_pos ((hseen f.id).mpr hf)]
      rfl
    · have hseen' : ∀ id, id ∈ f.id :: seen ↔ id ∈ ids { s with fields := s.fields ++ [f] } := by
        intro id
        simp [ids, hseen, or_comm]
      rw [if_neg hf, if_neg (mt (hseen f.id).mp hf)]
      refine (ih hseen').trans ?_
      simp only [List.append_assoc, List.singleton_append]

theorem firstRepeated_cons_of_mem {f : Field} (h : f.id ∈ seen) (fields : List Field) :
    firstRepeated seen (f :: fields) = some f.id := if_pos h

theorem firstRepeated_cons_of_not_mem {f : Field} (h : f.id ∉ seen) (fields : List Field) :
    firstRepeated seen (f :: fields) = firstRepeated (f.id :: seen) fields := if_neg h

/-- What comes again is the id of a field behind fields without a repetition. -/
theorem firstRepeated_eq_some_iff :
    firstRepeated seen fields = some id ↔
      ∃ front f back, fields = front ++ f :: back ∧ firstRepeated seen front = none ∧
        (f.id ∈ seen ∨ f.id ∈ front.map Field.id) ∧ f.id = id := by
  induction fields generalizing seen with
  | nil => simp [firstRepeated]
  | cons g rest ih =>
    by_cases hg : g.id ∈ seen
    · rw [firstRepeated_cons_of_mem hg, Option.some.injEq]
      constructor
      · exact fun hid => ⟨[], g, rest, rfl, rfl, .inl hg, hid⟩
      · rintro ⟨front, f, back, hfields, hfront, -, hid⟩
        cases front with
        | nil => exact (List.cons.inj hfields).1 ▸ hid
        | cons first front =>
          obtain ⟨rfl, -⟩ := List.cons.inj hfields
          have hrepeated := (firstRepeated_cons_of_mem hg front).symm.trans hfront
          exact absurd hrepeated (Option.some_ne_none _)
    · rw [firstRepeated_cons_of_not_mem hg, ih]
      constructor
      · rintro ⟨front, f, back, rfl, hfront, hmem, hid⟩
        refine ⟨g :: front, f, back, rfl, ?_, ?_, hid⟩
        · rwa [firstRepeated_cons_of_not_mem hg]
        · simpa [or_assoc, or_left_comm] using hmem
      · rintro ⟨front, f, back, hfields, hfront, hmem, hid⟩
        cases front with
        | nil =>
          obtain ⟨rfl, -⟩ := List.cons.inj hfields
          exact absurd (hmem.resolve_right List.not_mem_nil) hg
        | cons first front =>
          obtain ⟨rfl, hrest⟩ := List.cons.inj hfields
          rw [firstRepeated_cons_of_not_mem hg] at hfront
          exact ⟨front, f, back, hrest, hfront,
            by simpa [or_assoc, or_left_comm] using hmem, hid⟩

/-- A store of given fields is the new store into which they are inserted one after another.
That succeeds exactly if all ids are distinct, and leaves the fields in their order and nothing
selected.  Otherwise both are refused for the first field whose id an earlier one has. -/
theorem ofFields_eq_insertAll (config : StoreConfig) (fields : List Field) :
    ofFields config fields = insertAll { config } fields ∧
    (∀ s, insertAll { config } fields = .ok s ↔
      (fields.map Field.id).Nodup ∧ s = { config, fields, selected := none }) ∧
    ∀ why, insertAll { config } fields = .error why ↔
      ∃ front f back, fields = front ++ f :: back ∧ (front.map Field.id).Nodup ∧
        f.id ∈ front.map Field.id ∧ why = .duplicateId f.id := by
  have hnew : insertAll { config } fields = ofFields config fields :=
    insertAll_eq_firstRepeated (s := { config }) (fun _ => Iff.rfl) fields
  refine ⟨hnew.symm, fun s => ?_, fun why => ?_⟩
  · rw [hnew, ofFields_eq_ok_iff]
  · have herror : ofFields config fields = .error why ↔
        ∃ id, firstRepeated [] fields = some id ∧ why = .duplicateId id := by
      unfold ofFields
      split <;> rename_i h <;> simp [h, eq_comm]
    rw [hnew, herror]
    constructor
    · rintro ⟨_, hrepeated, rfl⟩
      obtain ⟨front, f, back, hfields, hfront, hmem, rfl⟩ := firstRepeated_eq_some_iff.mp hrepeated
      exact ⟨front, f, back, hfields, (firstRepeated_eq_none_iff.mp hfront).1,
        hmem.resolve_left List.not_mem_nil, rfl⟩
    · rintro ⟨front, f, back, hfields, hnodup, hmem, rfl⟩
      have hfront : firstRepeated [] front = none :=
        firstRepeated_eq_none_iff.mpr ⟨hnodup, fun _ h => absurd h List.not_mem_nil⟩
      exact ⟨f.id, firstRepeated_eq_some_iff.mpr
        ⟨front, f, back, hfields, hfront, .inr hmem, rfl⟩, rfl⟩

end Store
end FormBuilder
