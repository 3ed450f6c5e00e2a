import FormBuilder.Preview.Session
import Mathlib.Tactic.SplitIfs

/-!
The errors that a form shows.  Whatever is done with a form, it binds the names of its
fields and shows errors only where a required value is missing, and after a submission it
shows all of these: `error_of_reachable`.  Values and errors are kept apart, so this takes an
invariant that links them and that every step preserves.
-/

namespace FormBuilder

/-! ## Refused values -/

/-- What a required field refuses. -/
inductive Value.Refused : Value → Prop where
  | unchecked : Refused (.bool false)
  | nan : Refused (.number .nan)
  | empty : Refused (.text "")
  | absent : Refused .absent

theorem Binary64.isNaN_iff {x : Binary64} : x.isNaN = true ↔ x = .nan := by
  cases x <;> simp [isNaN]

theorem Value.refused_iff {v : Value} : v.Refused ↔ v.isFalsy = true ∧ ¬ v.isZero = true := by
  constructor
  · intro h
    cases h <;> decide
  · rintro ⟨hfalsy, hzero⟩
    cases v with
    | bool b =>
      have hb : b = false := by simpa [isFalsy] using hfalsy
      exact hb ▸ .unchecked
    | number x =>
      have hx : x.isNaN = true := (Bool.or_eq_true_iff.mp hfalsy).resolve_left hzero
      exact Binary64.isNaN_iff.mp hx ▸ .nan
    | text s =>
      have hs : s = "" := by simpa [isFalsy] using hfalsy
      exact hs ▸ .empty
    | absent => exact .absent

theorem Rule.check_of_refused {v : Value} (h : v.Refused) :
    Rule.required.check v = some .required := if_pos (Value.refused_iff.mp h)

theorem Rule.check_of_not_refused {v : Value} (h : ¬ v.Refused) :
    Rule.required.check v = none := if_neg (mt Value.refused_iff.mpr h)

theorem Field.validate_eq_some_iff {f : Field} {v : Value} {err : FieldError} :
    f.validate v = some err ↔ f.required = true ∧ v.Refused ∧ err = ⟨f.name, .required⟩ := by
  rw [validate, rule?]
  by_cases hf : f.required = true
  · rw [if_pos hf, Option.bind_some]
    by_cases hv : v.Refused
    · simp [Rule.check_of_refused hv, hf, hv, eq_comm]
    · simp [Rule.check_of_not_refused hv, hv]
  · simp [hf]

namespace PreviewForm

variable {fields : List Field} {form : PreviewForm} {name : String} {err : FieldError}

/-- A field of the name is required, and the value of the name is none that it takes. -/
def Misses (form : PreviewForm) (fields : List Field) (name : String) : Prop :=
  (∃ f ∈ fields, f.name = name ∧ f.required = true) ∧
    ∃ v, form.value name = some v ∧ v.Refused

/-! ## Steps -/

theorem refused_of_firstError {v : Value} (h : firstError name v fields = some err) :
    (∃ f ∈ fields, f.name = name ∧ f.required = true) ∧ v.Refused ∧ err = ⟨name, .required⟩ := by
  obtain ⟨f, hf, hvalidate⟩ := List.exists_of_findSome?_eq_some h
  obtain ⟨hmem, hname⟩ := List.mem_filter.mp hf
  obtain ⟨hrequired, hv, herr⟩ := Field.validate_eq_some_iff.mp hvalidate
  have hfname : f.name = name := of_decide_eq_true hname
  exact ⟨⟨f, hmem, hfname, hrequired⟩, hv, hfname ▸ herr⟩

theorem firstError_eq_some_iff {v : Value} :
    firstError name v fields = some err ↔
      (∃ f ∈ fields, f.name = name ∧ f.required = true) ∧ v.Refused ∧ err = ⟨name, .required⟩ := by
  refine ⟨refused_of_firstError, fun h => ?_⟩
  obtain ⟨⟨f, hf, hname, hrequired⟩, hv, rfl⟩ := h
  have hmem : f ∈ fields.filter (·.name = name) := List.mem_filter.mpr ⟨hf, decide_eq_true hname⟩
  have hvalidate : f.validate v = some ⟨name, .required⟩ :=
    Field.validate_eq_some_iff.mpr ⟨hrequired, hv, hname ▸ rfl⟩
  have hsome : (firstError name v fields).isSome = true := by
    rw [firstError, List.findSome?_isSome_iff]
    exact ⟨f, hmem, hvalidate ▸ rfl⟩
  obtain ⟨err, herr⟩ := Option.isSome_iff_exists.mp hsome
  exact (refused_of_firstError herr).2.2 ▸ herr

theorem current_eq {f : Field} {v : Value} (h : form.value f.name = some v) :
    form.current f = v := by
  rw [current, h, Option.getD_some]

theorem mem_failures_iff :
    err ∈ form.failures fields ↔ ∃ f ∈ fields, f.validate (form.current f) = some err := by
  induction fields with
  | nil => simp [failures]
  | cons f rest ih =>
    rw [failures]
    cases hf : f.validate (form.current f) with
    | none => simp [hf, ih]
    | some e =>
      simp only [List.mem_cons, List.mem_filter, decide_eq_true_eq, ih, exists_eq_or_imp, hf,
        Option.some.injEq]
      -- an error with the field of the first one is the first one
      have hsame : ∀ g ∈ rest, g.validate (form.current g) = some err → err.field = e.field →
          err = e := by
        intro g _ hg hfield
        obtain ⟨-, -, rfl⟩ := Field.validate_eq_some_iff.mp hg
        obtain ⟨-, -, rfl⟩ := Field.validate_eq_some_iff.mp hf
        exact congrArg (FieldError.mk · Refusal.required) hfield
      constructor
      · rintro (rfl | ⟨hrest, -⟩)
        · exact .inl rfl
        · exact .inr hrest
      · rintro (rfl | ⟨g, hg, hvalidate⟩)
        · exact .inl rfl
        · by_cases hfield : err.field = e.field
          · exact .inl (hsame g hg hvalidate hfield)
          · exact .inr ⟨⟨g, hg, hvalidate⟩, hfield⟩

theorem submit_snd (form : PreviewForm) (fields : List Field) :
    (form.submit fields).2 =
      { form with error := fun name => (form.failures fields).find? (·.field = name) } := by
  unfold submit
  extract_lets errors shown
  split <;> rfl

theorem refused_of_error_submit (h : (form.submit fields).2.error name = some err) :
    err = ⟨name, .required⟩ ∧
      ∃ f ∈ fields, f.name = name ∧ f.required = true ∧ (form.current f).Refused := by
  rw [submit_snd] at h
  obtain ⟨f, hf, hvalidate⟩ := mem_failures_iff.mp (List.mem_of_find?_eq_some h)
  obtain ⟨hrequired, hrefused, rfl⟩ := Field.validate_eq_some_iff.mp hvalidate
  have hname : f.name = name := by simpa using List.find?_some h
  exact ⟨hname ▸ rfl, f, hf, hname, hrequired, hrefused⟩

theorem error_submit_eq_some_iff :
    (form.submit fields).2.error name = some err ↔ err = ⟨name, .required⟩ ∧
      ∃ f ∈ fields, f.name = name ∧ f.required = true ∧ (form.current f).Refused := by
  refine ⟨refused_of_error_submit, fun h => ?_⟩
  obtain ⟨rfl, f, hf, rfl, hrequired, hrefused⟩ := h
  have hmem : (⟨f.name, .required⟩ : FieldError) ∈ form.failures fields :=
    mem_failures_iff.mpr ⟨f, hf, Field.validate_eq_some_iff.mpr ⟨hrequired, hrefused, rfl⟩⟩
  have hsome : ((form.submit fields).2.error f.name).isSome = true := by
    rw [submit_snd]
    exact List.find?_isSome.mpr ⟨_, hmem, decide_eq_true rfl⟩
  obtain ⟨err, herr⟩ := Option.isSome_iff_exists.mp hsome
  exact (refused_of_error_submit herr).1 ▸ herr

/-! ## Runs -/

/-- What holds of a form between two steps. -/
structure Sound (form : PreviewForm) (fields : List Field) : Prop where
  bound : ∀ name, (form.value name).isSome = true ↔ name ∈ fields.map Field.name
  shown : ∀ name err, form.error name = some err →
    err = ⟨name, .required⟩ ∧ form.Misses fields name

theorem isSome_lastNamed? (name : String) (fields : List Field) :
    (lastNamed? name fields).isSome = true ↔ name ∈ fields.map Field.name := by
  rw [lastNamed?, List.find?_isSome, List.mem_map]
  simp only [List.mem_reverse, decide_eq_true_eq]

theorem sound_start (fields : List Field) : (start fields).Sound fields where
  bound name := by rw [start, Option.isSome_map, isSome_lastNamed?]
  shown _ _ h := nomatch h

theorem sound_sync (form : PreviewForm) (fields : List Field) :
    (form.sync fields).Sound fields where
  bound name := by rw [sync, Option.isSome_map, isSome_lastNamed?]
  shown _ _ h := nomatch h

theorem Sound.exists_value {f : Field} (h : form.Sound fields) (hf : f ∈ fields) :
    ∃ v, form.value f.name = some v :=
  Option.isSome_iff_exists.mp ((h.bound f.name).mpr (List.mem_map_of_mem hf))

/-- The fields of a name all have its value, so it does not matter which of them refuses it. -/
theorem Sound.misses_iff (h : form.Sound fields) :
    form.Misses fields name ↔
      ∃ f ∈ fields, f.name = name ∧ f.required = true ∧ (form.current f).Refused := by
  constructor
  · rintro ⟨⟨f, hf, rfl, hrequired⟩, v, hv, hrefused⟩
    exact ⟨f, hf, rfl, hrequired, (current_eq hv).symm ▸ hrefused⟩
  · rintro ⟨f, hf, rfl, hrequired, hrefused⟩
    obtain ⟨v, hv⟩ := h.exists_value hf
    exact ⟨⟨f, hf, rfl, hrequired⟩, v, hv, current_eq hv ▸ hrefused⟩

theorem Sound.error_submit_iff (h : form.Sound fields) :
    (form.submit fields).2.error name = some err ↔
      err = ⟨name, .required⟩ ∧ form.Misses fields name := by
  rw [error_submit_eq_some_iff, h.misses_iff]

theorem misses_submit_iff :
    (form.submit fields).2.Misses fields name ↔ form.Misses fields name := by
  rw [submit_snd]
  rfl

theorem Sound.submit (h : form.Sound fields) : (form.submit fields).2.Sound fields where
  bound name := by
    rw [submit_snd]
    exact h.bound name
  shown name err herr := by
    rw [misses_submit_iff]
    exact h.error_submit_iff.mp herr

theorem any_name_iff : fields.any (·.name = name) = true ↔ name ∈ fields.map Field.name := by
  simp only [List.any_eq_true, decide_eq_true_eq, List.mem_map]

theorem change_eq_ok_iff {v : Value} {new : PreviewForm} :
    form.change fields name v = .ok new ↔ name ∈ fields.map Field.name ∧
      new = { value := setAt name (some v) form.value
              error := setAt name (firstError name v fields) form.error } := by
  rw [change, ← any_name_iff]
  split_ifs with hname
  · rw [Except.ok.injEq, eq_comm, and_iff_right hname]
  · exact iff_of_false (fun h => nomatch h) fun h => hname h.1

@[simp]
theorem setAt_self {α : Type} (name : String) (a : α) (old : String → α) :
    setAt name a old name = a := if_pos rfl

theorem setAt_of_ne {α : Type} {other : String} (h : other ≠ name) (a : α) (old : String → α) :
    setAt name a old other = old other := if_neg h

theorem Sound.change {v : Value} {new : PreviewForm} (h : form.Sound fields)
    (hnew : form.change fields name v = .ok new) : new.Sound fields := by
  obtain ⟨hname, rfl⟩ := change_eq_ok_iff.mp hnew
  constructor
  · intro other
    by_cases ho : other = name
    · subst ho
      simpa using hname
    · simpa [setAt_of_ne ho] using h.bound other
  · intro other err herr
    by_cases ho : other = name
    · subst ho
      have hfirst := (setAt_self ..).symm.trans herr
      obtain ⟨hrequired, hrefused, rfl⟩ := firstError_eq_some_iff.mp hfirst
      exact ⟨rfl, hrequired, v, setAt_self .., hrefused⟩
    · have hold := (setAt_of_ne ho ..).symm.trans herr
      obtain ⟨rfl, hrequired, w, hw, hrefused⟩ := h.shown other err hold
      exact ⟨rfl, hrequired, w, (setAt_of_ne ho ..).trans hw, hrefused⟩

theorem Sound.after (h : form.Sound fields) (step : FormStep) :
    (form.after fields step).Sound fields := by
  cases step with
  | change name v =>
    rw [PreviewForm.after]
    split
    · next hnew => exact h.change hnew
    · exact h
  | submit => exact h.submit
  | render => exact h

/-- The forms that steps on these fields lead to, from the first form or from one that has
just followed a change of the fields. -/
inductive Reachable (fields : List Field) : PreviewForm → Prop where
  | start : Reachable fields (.start fields)
  | sync (form : PreviewForm) : Reachable fields (form.sync fields)
  | after {form : PreviewForm} (h : Reachable fields form) (step : FormStep) :
    Reachable fields (form.after fields step)

theorem Reachable.sound (h : Reachable fields form) : form.Sound fields := by
  induction h with
  | start => exact sound_start fields
  | sync form => exact sound_sync form fields
  | after _ step ih => exact ih.after step

/-- Whatever is done with a form, exactly the names of its fields have a value.  Where it
shows an error, a field of that name is required and refuses the value that the name has
now.  Right after a submission, refused or not, it shows all of these errors. -/
theorem error_of_reachable (h : Reachable fields form) :
    (∀ name, (form.value name).isSome = true ↔ name ∈ fields.map Field.name) ∧
      (∀ name err, form.error name = some err →
        err = ⟨name, .required⟩ ∧ form.Misses fields name) ∧
      ∀ name, (form.submit fields).2.Misses fields name →
        (form.submit fields).2.error name = some ⟨name, .required⟩ := by
  refine ⟨h.sound.bound, h.sound.shown, fun name hmisses => ?_⟩
  exact h.sound.error_submit_iff.mpr ⟨rfl, misses_submit_iff.mp hmisses⟩

/-- A required number is cleared, and a text field of the same name does not mind. -/
theorem error_of_reachable_cleared :
    let amount : Field := { id := "n", name := "amount", required := true, attributes := .number {} }
    let note : Field := { id := "t", name := "amount", attributes := .text {} }
    let fields := [amount, note]
    let form := (PreviewForm.start fields).after fields (.change "amount" .absent)
    Reachable fields form ∧ (form.value "amount").isSome = true ∧
      form.error "amount" = some ⟨"amount", .required⟩ ∧ form.Misses fields "amount" ∧
      (form.submit fields).2.error "amount" = some ⟨"amount", .required⟩ := by
  intro amount note fields form
  have h : Reachable fields form := Reachable.start.after (.change "amount" .absent)
  obtain ⟨hbound, hshown, hall⟩ := error_of_reachable h
  have herror : form.error "amount" = some ⟨"amount", .required⟩ := rfl
  have hmisses := (hshown "amount" _ herror).2
  exact ⟨h, (hbound "amount").mpr List.mem_cons_self, herror, hmisses,
    hall "amount" (misses_submit_iff.mpr hmisses)⟩

end PreviewForm
end FormBuilder
