import FormBuilder.Proofs.Preview.Submission
import FormBuilder.Proofs.Preview.Survival

/-!
What a form holds once it followed a change of its fields.  The names are bound field after
field, each to the value that it had or else to the initial value of the field, so the last
field of a name wins: `value_sync_eq_foldl`.  Following the same fields again changes nothing:
`form_of_sync`.
-/

namespace FormBuilder
namespace PreviewForm

variable {form : PreviewForm} {fields : List Field} {name : String}

/-- What a name is to be bound to: the value that it shows, or else an initial value. -/
def wanted (form : PreviewForm) (name : String) (initial : Value) : Value :=
  if form.shown name = .absent then initial else form.shown name

theorem wanted_empty (name : String) (initial : Value) :
    ({} : PreviewForm).wanted name initial = initial := if_pos rfl

/-- What was bound once is wanted again. -/
theorem wanted_of_value {new : PreviewForm} {initial : Value}
    (h : new.value name = some (form.wanted name initial)) :
    new.wanted name initial = form.wanted name initial := by
  have hshown : new.shown name = form.wanted name initial := by rw [shown, h, Option.getD_some]
  rw [wanted, hshown]
  by_cases habsent : form.shown name = .absent
  · rw [wanted, if_pos habsent, ite_self]
  · rw [wanted, if_neg habsent, if_neg habsent]

/-! ## Values -/

theorem value_sync (form : PreviewForm) (fields : List Field) (name : String) :
    (form.sync fields).value name =
      (lastNamed? name fields).map fun f => form.wanted name f.initialValue := by
  refine congrArg (Option.map · _) (funext fun f => ?_)
  rw [wanted, shown]
  cases form.value name with
  | none => rfl
  | some v => cases v <;> rfl

/-- Each field binds its name anew, whatever it was bound to by the fields before. -/
theorem value_sync_eq_foldl (form : PreviewForm) (fields : List Field) :
    (form.sync fields).value =
      (fields.map fun f => (f.name, f.initialValue)).foldl
        (fun values e => setAt e.1 (some (form.wanted e.1 e.2)) values) fun _ => none := by
  -- from the last field on, since that is the one that wins
  induction fields using List.reverseRecOn with
  | nil => rfl
  | append_singleton fields f ih =>
    rw [List.map_append, List.map_singleton, List.foldl_concat, ← ih]
    funext name
    rw [value_sync, lastNamed?_concat, setAt, value_sync]
    split_ifs with hname
    · rw [hname, Option.map_some]
    · rfl

theorem sync_congr {others : List Field}
    (h : others.map (fun g => (g.name, g.initialValue)) =
      fields.map fun f => (f.name, f.initialValue)) : form.sync others = form.sync fields := by
  have hvalue : (form.sync others).value = (form.sync fields).value := by
    rw [value_sync_eq_foldl, value_sync_eq_foldl, h]
  exact congrArg₂ PreviewForm.mk hvalue rfl

/-! ## Forms -/

theorem sync_empty (fields : List Field) : ({} : PreviewForm).sync fields = start fields := by
  refine congrArg₂ PreviewForm.mk (funext fun name => ?_) rfl
  refine (value_sync {} fields name).trans ?_
  simp only [wanted_empty]

theorem sync_sync (form : PreviewForm) (fields : List Field) :
    (form.sync fields).sync fields = form.sync fields := by
  have hvalue : ((form.sync fields).sync fields).value = (form.sync fields).value := by
    funext name
    have hsync := value_sync form fields name
    rw [value_sync (form.sync fields), hsync]
    cases hlast : lastNamed? name fields with
    | none => rfl
    | some f =>
      rw [hlast, Option.map_some] at hsync
      rw [Option.map_some, Option.map_some, wanted_of_value hsync]
  exact congrArg₂ PreviewForm.mk hvalue rfl

/-- Once a form followed its fields, it shows no errors, and exactly the names of the fields are
bound: to the values that they had, unless these were absent, and otherwise to the initial
values of the last fields of the names.  So it does not matter how often a form follows the
same fields, nor what they are but for their names and initial values, and a form that follows
its first fields is a new form of them. -/
theorem form_of_sync (form : PreviewForm) (fields : List Field) :
    (∀ name, (form.sync fields).error name = none) ∧
      (∀ name, ((form.sync fields).value name).isSome = true ↔ name ∈ fields.map Field.name) ∧
      (∀ name v, form.value name = some v → v ≠ .absent → name ∈ fields.map Field.name →
        (form.sync fields).value name = some v) ∧
      (∀ front f back, fields = front ++ f :: back → (∀ g ∈ back, g.name ≠ f.name) →
        (∀ v, form.value f.name = some v → v = .absent) →
        (form.sync fields).value f.name = some f.initialValue) ∧
      (form.sync fields).sync fields = form.sync fields ∧
      ({} : PreviewForm).sync fields = start fields ∧
      (start fields).sync fields = start fields ∧
      ∀ others : List Field, others.map (fun g => (g.name, g.initialValue)) =
        fields.map (fun f => (f.name, f.initialValue)) → form.sync others = form.sync fields := by
  refine ⟨fun _ => rfl, (sound_sync form fields).bound, fun name v => value_sync_of_some, ?_,
    sync_sync form fields, sync_empty fields, ?_, fun others => sync_congr⟩
  · rintro front f back rfl hback hvalue
    have hshown : form.shown f.name = .absent := by
      rw [shown]
      cases hv : form.value f.name with
      | none => rfl
      | some v => exact hvalue v hv
    rw [value_sync, lastNamed?_eq_some rfl hback, Option.map_some, wanted, if_pos hshown]
  · rw [← sync_empty, sync_sync]

/-- A text is kept, an empty number gets the last initial value of its name, and a name that no
field has is forgotten. -/
theorem form_of_sync_cleared :
    let city : Field := { id := "c", name := "city", attributes := .text { initial := some "Ulm" } }
    let age : Field := { id := "a", name := "age", attributes := .number { initial := some .one } }
    let old : Field := { id := "o", name := "age", attributes := .checkbox {} }
    let fields := [age, city, old]
    let form : PreviewForm :=
      { value := setAt "city" (some (.text "Bonn")) (setAt "age" (some .absent)
          fun _ => some (.text "stale")) }
    (form.sync fields).value "city" = some (.text "Bonn") ∧
      (form.sync fields).value "age" = some (.bool false) ∧
      (form.sync fields).value "street" = none ∧
      form.sync [age, { city with id := "d", required := true }, old] = form.sync fields := by
  intro city age old fields form
  obtain ⟨-, hbound, hkept, hinitial, -, -, -, hcongr⟩ := form_of_sync form fields
  have hstreet : ¬ ((form.sync fields).value "street").isSome = true :=
    mt (hbound "street").mp (by decide)
  have habsent : ∀ v, form.value old.name = some v → v = .absent :=
    fun v hv => (Option.some.inj hv).symm
  refine ⟨hkept "city" _ rfl nofun (by decide), ?_, Option.not_isSome_iff_eq_none.mp hstreet,
    hcongr _ rfl⟩
  exact hinitial [age, city] old [] rfl (fun _ hg => nomatch hg) habsent

end PreviewForm
end FormBuilder
