import FormBuilder.Field.Value
import FormBuilder.Proofs.Store.Refusal

/-!
Changes of options.  They touch the list of options of one field and nothing else, in the one
place that is asked for, and are the same as a patch that brings the whole list:
`options_of_edit`.  The value that a field starts with depends on the first option only, and
only where no other start is set.
-/

namespace FormBuilder

/-- What a select or radio field offers, and what it starts with if that is set. -/
def Attributes.choices? : Attributes → Option ChoiceList
  | .select c | .radio c => some c
  | _ => none

theorem Attributes.choices?_eq_some_iff {a : Attributes} {c : ChoiceList} :
    a.choices? = some c ↔ a = .select c ∨ a = .radio c := by
  cases a <;> simp [choices?]

/-- A field with other options, all else being the same. -/
structure Field.HasOnlyOptions (f : Field) (options : List Choice) (g : Field) : Prop where
  id : g.id = f.id
  kind : g.kind = f.kind
  name : g.name = f.name
  label : g.label = f.label
  required : g.required = f.required
  choices : g.attributes.choices? = f.attributes.choices?.map ({ · with options })

namespace Field

variable {f g : Field} {c : ChoiceList} {options : List Choice}

theorem options?_of_choices (h : f.attributes.choices? = some c) :
    f.attributes.options? = some c.options := by
  rcases Attributes.choices?_eq_some_iff.mp h with hf | hf <;> rw [hf] <;> rfl

theorem hasOnlyOptions_withOptions (f : Field) (options : List Choice) :
    f.HasOnlyOptions options { f with attributes := f.attributes.withOptions options } := by
  refine ⟨rfl, ?_, rfl, rfl, rfl, ?_⟩
  · cases hf : f.attributes <;> simp [kind, hf, Attributes.withOptions, Attributes.kind]
  · cases hf : f.attributes <;> rfl

/-! ## What a field starts with -/

/-- The value of the first option. -/
def firstValue (options : List Choice) : String := (options.head?.map Choice.value).getD ""

theorem initialValue_of_choices (h : f.attributes.choices? = some c) :
    f.initialValue = .text (c.initial.getD (firstValue c.options)) := by
  have hor : (c.initial.or (c.options.head?.map Choice.value)).getD "" =
      c.initial.getD (firstValue c.options) := by
    cases c.initial <;> rfl
  rcases Attributes.choices?_eq_some_iff.mp h with hf | hf <;> simp only [initialValue, hf, hor]

/-- Options matter to the start only where no other start is set. -/
theorem initialValue_ne_iff (hc : f.attributes.choices? = some c) (h : f.HasOnlyOptions options g) :
    g.initialValue ≠ f.initialValue ↔
      c.initial = none ∧ firstValue options ≠ firstValue c.options := by
  have hg : g.attributes.choices? = some { c with options } := by rw [h.choices, hc]; rfl
  rw [initialValue_of_choices hg, initialValue_of_choices hc]
  cases hinitial : c.initial <;> simp

theorem firstValue_set_ne_iff {old new : Choice} {index : Nat} (h : options[index]? = some old) :
    firstValue (options.set index new) ≠ firstValue options ↔ index = 0 ∧ new.value ≠ old.value := by
  cases options with
  | nil => exact nomatch h
  | cons first rest =>
    cases index with
    | zero =>
      obtain rfl := Option.some.inj h
      simp [firstValue]
    | succ index => simp [firstValue]

theorem firstValue_append_ne_iff {new : Choice} (h : new.value ≠ "") :
    firstValue (options ++ [new]) ≠ firstValue options ↔ options = [] := by
  cases options with
  | nil => simpa [firstValue] using h
  | cons first rest => simp [firstValue]

end Field

namespace Store

variable {s t : Store} {f g : Field} {c : ChoiceList} {options : List Choice}

/-- The store in which a field has other options, which a patch may have brought as well. -/
structure ReplacesOptions (s : Store) (f : Field) (options : List Choice) (g : Field) (t : Store) :
    Prop where
  field : f.HasOnlyOptions options g
  store : t = s.withField g
  patch : ∃ p, AttributesPatch.replaceOptions? f.kind options = some p ∧
    s.patch f.id { attributes := some p } = .ok t

theorem exists_replacesOptions (hs : s.Coherent) (hf : f ∈ s.fields)
    (hc : f.attributes.choices? = some c)
    (change : List Choice → Except PatchError (List Choice))
    (hchange : change c.options = .ok options) :
    ∃ g t, s.edit f.id (editOptions change) = .ok t ∧ ReplacesOptions s f options g t := by
  have hoptions := Field.options?_of_choices hc
  have hedit : editOptions change f =
      .ok { f with attributes := f.attributes.withOptions options } := by
    rw [editOptions_eq hoptions, hchange]
    rfl
  obtain ⟨p, hp, hpatch⟩ := exists_replaceOptions hoptions options
  exact ⟨_, _, edit_of_ok hs hf hedit, f.hasOnlyOptions_withOptions options, rfl, p, hp,
    edit_of_ok hs hf hpatch⟩

/-- Only an option that is there can be updated. -/
theorem exists_option_of_update (hs : s.Coherent) (hf : f ∈ s.fields)
    (hc : f.attributes.choices? = some c) {index : Nat} {label value : Option String}
    (h : s.updateOption f.id index label value = .ok t) : ∃ old, c.options[index]? = some old := by
  cases hold : c.options[index]? with
  | some old => exact ⟨old, rfl⟩
  | none =>
    have herror : editOptions (updateChoice index label value) f =
        .error (.patch (.optionOutOfBounds index c.options.length)) := by
      rw [editOptions_eq (Field.options?_of_choices hc), updateChoice, hold]
      rfl
    cases (edit_of_error hs hf herror).symm.trans h

/-- Options are changed one at a time.  An option that is there can be updated: what is given of
it is set, and all other options stay as they are and where they are.  One option can always be
added, at the end.  In both cases the field is otherwise the same, and the store is the one
after a patch with the whole list.  What the field starts with changes exactly if that is not
set and the first option gets another value or comes into being. -/
theorem options_of_edit (hs : Reachable s) (hf : f ∈ s.fields)
    (hc : f.attributes.choices? = some c) :
    (∀ index label value t, s.updateOption f.id index label value = .ok t →
      ∃ old options g, c.options[index]? = some old ∧
        options.length = c.options.length ∧
        options[index]? = some ⟨label.getD old.label, value.getD old.value⟩ ∧
        (∀ i, i ≠ index → options[i]? = c.options[i]?) ∧
        ReplacesOptions s f options g t ∧
        (g.initialValue ≠ f.initialValue ↔
          c.initial = none ∧ index = 0 ∧ value.getD old.value ≠ old.value)) ∧
    (∀ index label value, index < c.options.length →
      ∃ t, s.updateOption f.id index label value = .ok t) ∧
    ∃ g t, s.addOption f.id = .ok t ∧
      ReplacesOptions s f (c.options ++ [⟨"New", "new"⟩]) g t ∧
      (g.initialValue ≠ f.initialValue ↔ c.initial = none ∧ c.options = []) := by
  have hupdate : ∀ index label value old, c.options[index]? = some old →
      ∃ g t, s.updateOption f.id index label value = .ok t ∧
        ReplacesOptions s f (c.options.set index ⟨label.getD old.label, value.getD old.value⟩) g t := by
    intro index label value old hold
    refine exists_replacesOptions hs.coherent hf hc (updateChoice index label value) ?_
    rw [updateChoice, hold]
  refine ⟨fun index label value t ht => ?_, fun index label value hindex => ?_, ?_⟩
  · obtain ⟨old, hold⟩ := exists_option_of_update hs.coherent hf hc ht
    obtain ⟨g, t', ht', hreplaces⟩ := hupdate index label value old hold
    obtain rfl := Except.ok.inj (ht.symm.trans ht')
    have hindex : index < c.options.length := (List.getElem?_eq_some_iff.mp hold).1
    refine ⟨old, _, g, hold, List.length_set, List.getElem?_set_self hindex,
      fun i hi => List.getElem?_set_ne hi.symm, hreplaces, ?_⟩
    rw [Field.initialValue_ne_iff hc hreplaces.field, Field.firstValue_set_ne_iff hold]
  · obtain ⟨-, t, ht, -⟩ := hupdate index label value _ (List.getElem?_eq_getElem hindex)
    exact ⟨t, ht⟩
  · obtain ⟨g, t, ht, hreplaces⟩ :=
      exists_replacesOptions hs.coherent hf hc (fun options => .ok (options ++ [.new])) rfl
    refine ⟨g, t, ht, hreplaces, ?_⟩
    rw [Field.initialValue_ne_iff hc hreplaces.field, Field.firstValue_append_ne_iff (by decide)]

/-- A radio field without a start of its own gets another first value, a select field with one
does not start with anything else. -/
theorem options_of_edit_first :
    let f : Field :=
      { id := "a", name := "n"
        attributes := .radio { options := [⟨"Yes", "yes"⟩, ⟨"No", "no"⟩] } }
    let empty : Field := { id := "b", name := "m", attributes := .select { initial := some "x" } }
    let s : Store := { fields := [f, empty] }
    Reachable s ∧
      (∃ t g, s.updateOption "a" 0 none (some "sure") = .ok t ∧ t = s.withField g ∧
        f.HasOnlyOptions [⟨"Yes", "sure"⟩, ⟨"No", "no"⟩] g ∧ g.initialValue ≠ f.initialValue) ∧
      ∃ t g, s.addOption "b" = .ok t ∧ t = s.withField g ∧
        empty.HasOnlyOptions [⟨"New", "new"⟩] g ∧ g.initialValue = empty.initialValue := by
  intro f empty s
  have hs : Reachable s :=
    ((Reachable.new {}).perform (.ofBytes #[]) (.insert f)).perform (.ofBytes #[]) (.insert empty)
  have hf : f ∈ s.fields := List.mem_cons_self
  have hempty : empty ∈ s.fields := List.mem_cons_of_mem f List.mem_cons_self
  obtain ⟨hupdate, hsucceeds, -⟩ := options_of_edit hs hf rfl
  obtain ⟨t, ht⟩ := hsucceeds 0 none (some "sure") (by decide)
  obtain ⟨old, options, g, hold, hlength, hnew, hother, hreplaces, hstart⟩ := hupdate _ _ _ _ ht
  obtain rfl := Option.some.inj hold
  have hoptions : options = [⟨"Yes", "sure"⟩, ⟨"No", "no"⟩] := by
    match options, hlength with
    | [first, second], _ =>
      rw [Option.some.inj hnew, Option.some.inj (hother 1 (by decide))]
      rfl
  obtain ⟨-, -, g', t', ht', hreplaces', hstart'⟩ := options_of_edit hs hempty rfl
  refine ⟨hs, ⟨t, g, ht, hreplaces.store, hoptions ▸ hreplaces.field, hstart.mpr (by decide)⟩,
    t', g', ht', hreplaces'.store, hreplaces'.field, ?_⟩
  by_contra hne
  exact nomatch (hstart'.mp hne).1

end Store
end FormBuilder
