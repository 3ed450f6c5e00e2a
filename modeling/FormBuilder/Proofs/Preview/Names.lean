import FormBuilder.Proofs.Preview.Survival
import FormBuilder.Proofs.Source.Initializers

/-!
Names that several fields have.  The search for them goes through the fields once and keeps the
names that it met and those that it met again.  At each point these are what they should be for
the fields in front, `AreRepeated`, and a field changes that in one case only: its name was met
exactly once.  Where no name is repeated, the source of a form has one entry for each name and
the preview starts with the initial value of each field: `areRepeated_duplicateNames`.
-/

namespace FormBuilder

variable {names found seen : List String} {name other : String} {place : Nat}

/-- A name occurs for the second time at this place. -/
def IsSecond (names : List String) (place : Nat) (name : String) : Prop :=
  names[place]? = some name ∧ (names.take place).count name = 1

/-- What is found are the names that occur at least twice, each once, in the order in which
they occur for the second time. -/
structure AreRepeated (names found : List String) : Prop where
  mem_iff : ∀ name, name ∈ found ↔ 2 ≤ names.count name
  nodup : found.Nodup
  inOrder : ∃ places, places.Pairwise (· < ·) ∧ List.Forall₂ (IsSecond names) places found

theorem IsSecond.lt_length (h : IsSecond names place name) : place < names.length :=
  (List.getElem?_eq_some_iff.mp h.1).1

theorem IsSecond.append (h : IsSecond names place name) (more : List String) :
    IsSecond (names ++ more) place name := by
  have hlt := h.lt_length
  rw [IsSecond, List.getElem?_append_left hlt, List.take_append_of_le_length hlt.le]
  exact h

theorem isSecond_concat (h : names.count name = 1) :
    IsSecond (names ++ [name]) names.length name := by
  constructor
  · exact List.getElem?_concat_length
  · rwa [List.take_left]

theorem lt_length_of_mem_places {places : List Nat}
    (h : List.Forall₂ (IsSecond names) places found) : ∀ p ∈ places, p < names.length := by
  induction h with
  | nil => exact List.forall_mem_nil _
  | cons hplace _ ih => exact List.forall_mem_cons.mpr ⟨hplace.lt_length, ih⟩

theorem count_append_self (names : List String) (name : String) :
    (names ++ [name]).count name = names.count name + 1 := by
  rw [List.count_append, List.count_singleton_self]

theorem count_append_of_ne (h : other ≠ name) (names : List String) :
    (names ++ [name]).count other = names.count other := by
  have hnone : [name].count other = 0 := List.count_eq_zero_of_not_mem (mt List.mem_singleton.mp h)
  rw [List.count_append, hnone, Nat.add_zero]

namespace AreRepeated

/-! ## One more name -/

theorem nil : AreRepeated [] [] where
  mem_iff := by simp
  nodup := List.nodup_nil
  inOrder := ⟨[], List.Pairwise.nil, .nil⟩

/-- A name that occurred once is found when it comes again. -/
theorem concat_of_once (h : AreRepeated names found) (hcount : names.count name = 1) :
    AreRepeated (names ++ [name]) (found ++ [name]) where
  mem_iff other := by
    rw [List.mem_append, List.mem_singleton, h.mem_iff]
    by_cases hother : other = name
    · rw [hother, count_append_self, hcount]
      exact iff_of_true (.inr rfl) le_rfl
    · rw [count_append_of_ne hother]
      exact or_iff_left hother
  nodup := by
    have hfresh : name ∉ found := fun hmem => by
      have htwice := (h.mem_iff name).mp hmem
      omega
    rw [← List.concat_eq_append]
    exact h.nodup.concat hfresh
  inOrder := by
    obtain ⟨places, hincreasing, hsecond⟩ := h.inOrder
    have hbefore : ∀ p ∈ places, ∀ q ∈ [names.length], p < q := fun p hp =>
      List.forall_mem_singleton.mpr (lt_length_of_mem_places hsecond p hp)
    refine ⟨places ++ [names.length], ?_, ?_⟩
    · exact List.pairwise_append.mpr ⟨hincreasing, List.pairwise_singleton _ _, hbefore⟩
    · have hsecond := hsecond.imp fun _ _ hs => hs.append [name]
      exact List.rel_append hsecond (.cons (isSecond_concat hcount) .nil)

/-- Any other name, whether it is new or was found before, changes nothing. -/
theorem concat_of_ne (h : AreRepeated names found) (hcount : names.count name ≠ 1) :
    AreRepeated (names ++ [name]) found where
  mem_iff other := by
    rw [h.mem_iff]
    by_cases hother : other = name
    · rw [hother, count_append_self]
      omega
    · rw [count_append_of_ne hother]
  nodup := h.nodup
  inOrder := by
    obtain ⟨places, hincreasing, hsecond⟩ := h.inOrder
    exact ⟨places, hincreasing, hsecond.imp fun _ _ hs => hs.append [name]⟩

/-- Nothing is found exactly if nothing is repeated. -/
theorem eq_nil_iff (h : AreRepeated names found) : found = [] ↔ names.Nodup := by
  have hnone : ∀ name, name ∉ found ↔ names.count name ≤ 1 := by
    intro name
    rw [h.mem_iff]
    omega
  rw [List.eq_nil_iff_forall_not_mem, List.nodup_iff_count_le_one]
  exact forall_congr' hnone

end AreRepeated

/-! ## All names -/

/-- The search from some point on, where it knows the names in front. -/
theorem areRepeated_go (hseen : ∀ n, n ∈ seen ↔ n ∈ names) (h : AreRepeated names found)
    (rest : List String) : AreRepeated (names ++ rest) (duplicateNames.go seen found rest) := by
  induction rest generalizing names seen found with
  | nil => rwa [List.append_nil, duplicateNames.go]
  | cons name rest ih =>
    have honce : name ∈ seen ∧ name ∉ found ↔ names.count name = 1 := by
      rw [hseen, h.mem_iff, ← List.one_le_count_iff]
      omega
    rw [duplicateNames.go, List.append_cons]
    by_cases hcount : names.count name = 1
    · have hknown : ∀ n, n ∈ seen ↔ n ∈ names ++ [name] := by
        intro n
        have hname : name ∈ names := (hseen name).mp (honce.mpr hcount).1
        rw [hseen, List.mem_append, List.mem_singleton]
        exact (or_iff_left_of_imp fun hn => hn ▸ hname).symm
      rw [if_pos (honce.mpr hcount)]
      exact ih hknown (h.concat_of_once hcount)
    · have hknown : ∀ n, n ∈ name :: seen ↔ n ∈ names ++ [name] := by
        intro n
        rw [List.mem_cons, hseen, List.mem_append, List.mem_singleton, or_comm]
      rw [if_neg (mt honce.mp hcount)]
      exact ih hknown (h.concat_of_ne hcount)

theorem areRepeated_names (fields : List Field) :
    AreRepeated (fields.map Field.name) (duplicateNames fields) :=
  areRepeated_go (fun _ => Iff.rfl) .nil _

/-! ## Distinct names -/

theorem value_start_of_nodup {fields : List Field} {f : Field}
    (h : (fields.map Field.name).Nodup) (hf : f ∈ fields) :
    (PreviewForm.start fields).value f.name = some f.initialValue := by
  obtain ⟨front, back, rfl⟩ := List.append_of_mem hf
  rw [List.map_append, List.map_cons] at h
  have hname : f.name ∉ back.map Field.name := (List.nodup_cons.mp h.of_append_right).1
  have hback : ∀ g ∈ back, g.name ≠ f.name := fun g hg he => hname (he ▸ List.mem_map_of_mem hg)
  show (lastNamed? f.name (front ++ f :: back)).map Field.initialValue = _
  rw [PreviewForm.lastNamed?_eq_some rfl hback, Option.map_some]

theorem map_fst_initializer (fields : List Field) :
    (fields.map Source.initializer).map Prod.fst = fields.map Field.name := List.map_map

/-- The names reported as repeated are those that at least two fields have, each once, in the
order in which they occur for the second time.  So none is reported exactly if all names are
distinct.  Then the source of the form has one entry for each field, no two with the same name,
and the first preview binds the name of each field to the initial value of that field. -/
theorem areRepeated_duplicateNames (fields : List Field) :
    AreRepeated (fields.map Field.name) (duplicateNames fields) ∧
    (duplicateNames fields = [] ↔ (fields.map Field.name).Nodup) ∧
    (duplicateNames fields = [] →
      (∃ entries, Source.readInitializers? (Source.generate fields).toList = some entries ∧
        entries.map Prod.fst = fields.map Field.name ∧ (entries.map Prod.fst).Nodup) ∧
      ∀ f ∈ fields, (PreviewForm.start fields).value f.name = some f.initialValue) := by
  have hrepeated := areRepeated_names fields
  refine ⟨hrepeated, hrepeated.eq_nil_iff, fun hnone => ?_⟩
  have hnodup := hrepeated.eq_nil_iff.mp hnone
  refine ⟨⟨fields.map Source.initializer, ?_, map_fst_initializer fields, ?_⟩, fun f hf => ?_⟩
  · rw [Source.generate, String.toList_ofList]
    exact Source.readInitializers?_form fields
  · rwa [map_fst_initializer]
  · exact value_start_of_nodup hnodup hf

/-- Two names that cross: the one that comes first is repeated last, and both come once more. -/
theorem areRepeated_duplicateNames_crossed :
    let toggle (name : String) (checked : Option Bool) : Field :=
      { id := name, name, attributes := .checkbox { checked } }
    let crossed := ["a", "b", "c", "b", "a", "b", "a"].map (toggle · none)
    let distinct := [toggle "a" (some true), toggle "" none]
    duplicateNames crossed = ["b", "a"] ∧
      IsSecond (crossed.map Field.name) 3 "b" ∧ IsSecond (crossed.map Field.name) 4 "a" ∧
      AreRepeated ["a", "b", "c", "b", "a", "b", "a"] ["b", "a"] ∧
      duplicateNames distinct = [] ∧
      (PreviewForm.start distinct).value "a" = some (.bool true) := by
  intro toggle crossed distinct
  obtain ⟨hcrossed, -, -⟩ := areRepeated_duplicateNames crossed
  obtain ⟨-, hnone, hdistinct⟩ := areRepeated_duplicateNames distinct
  have hempty : duplicateNames distinct = [] := hnone.mpr (by decide)
  refine ⟨by decide, ⟨by decide, by decide⟩, ⟨by decide, by decide⟩, hcrossed, hempty, ?_⟩
  exact (hdistinct hempty).2 (toggle "a" (some true)) List.mem_cons_self

end FormBuilder
