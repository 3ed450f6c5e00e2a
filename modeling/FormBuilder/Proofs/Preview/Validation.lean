import FormBuilder.Proofs.Preview.Outcome

/-!
Validation of one name and validation of all fields.  A change shows for its name the error
that a submission of all fields would show, and no later step makes this error wrong.  So when
every name was changed once, a submission finds nothing that is not shown already:
`error_of_change`.
-/

namespace FormBuilder
namespace PreviewForm

variable {form new : PreviewForm} {fields : List Field} {name other : String} {v : Value}

/-- The error of the name is the one that a submission would show. -/
def UpToDate (form : PreviewForm) (fields : List Field) (name : String) : Prop :=
  form.error name = (form.submit fields).2.error name

/-! ## Changes -/

theorem change_of_not_mem (h : name ∉ fields.map Field.name) (form : PreviewForm) (v : Value) :
    form.change fields name v = .error (.unboundName name) :=
  if_neg (mt any_name_iff.mp h)

theorem exists_change (h : name ∈ fields.map Field.name) (form : PreviewForm) (v : Value) :
    ∃ new, form.change fields name v = .ok new :=
  ⟨_, change_eq_ok_iff.mpr ⟨h, rfl⟩⟩

theorem value_change (h : form.change fields name v = .ok new) : new.value name = some v := by
  obtain ⟨-, rfl⟩ := change_eq_ok_iff.mp h
  exact setAt_self ..

theorem error_change_eq_some_iff (h : form.change fields name v = .ok new) {err : FieldError} :
    new.error name = some err ↔ err = ⟨name, .required⟩ ∧
      (∃ f ∈ fields, f.name = name ∧ f.required = true) ∧ v.Refused := by
  obtain ⟨-, rfl⟩ := change_eq_ok_iff.mp h
  show setAt name (firstError name v fields) form.error name = some err ↔ _
  rw [setAt_self, firstError_eq_some_iff, ← and_assoc, and_comm]

theorem change_of_ne (h : form.change fields name v = .ok new) (hne : other ≠ name) :
    new.value other = form.value other ∧ new.error other = form.error other := by
  obtain ⟨-, rfl⟩ := change_eq_ok_iff.mp h
  exact ⟨setAt_of_ne hne .., setAt_of_ne hne ..⟩

/-! ## Submissions -/

/-- The fields of a name are validated with its value, whichever comes first. -/
theorem error_submit_of_value (h : form.value name = some v) {err : FieldError} :
    (form.submit fields).2.error name = some err ↔ err = ⟨name, .required⟩ ∧
      (∃ f ∈ fields, f.name = name ∧ f.required = true) ∧ v.Refused := by
  have hcurrent : ∀ f : Field, f.name = name → form.current f = v := by
    rintro f rfl
    exact current_eq h
  rw [error_submit_eq_some_iff]
  refine and_congr_right fun _ => ⟨?_, ?_⟩
  · rintro ⟨f, hf, hname, hrequired, hrefused⟩
    exact ⟨⟨f, hf, hname, hrequired⟩, hcurrent f hname ▸ hrefused⟩
  · rintro ⟨⟨f, hf, hname, hrequired⟩, hrefused⟩
    exact ⟨f, hf, hname, hrequired, (hcurrent f hname).symm ▸ hrefused⟩

/-- What a submission shows for a name depends on the value of this name only. -/
theorem error_submit_congr (h : form.value name = new.value name) :
    (form.submit fields).2.error name = (new.submit fields).2.error name := by
  have hcurrent : ∀ f : Field, f.name = name → form.current f = new.current f := by
    rintro f rfl
    rw [current, current, h]
  refine Option.ext fun err => ?_
  rw [error_submit_eq_some_iff, error_submit_eq_some_iff]
  refine and_congr_right fun _ => exists_congr fun f => and_congr_right fun _ => ?_
  exact and_congr_right fun hname => by rw [hcurrent f hname]

/-! ## Runs -/

theorem upToDate_change (h : form.change fields name v = .ok new) : new.UpToDate fields name :=
  Option.ext fun _ =>
    (error_change_eq_some_iff h).trans (error_submit_of_value (value_change h)).symm

theorem UpToDate.change (h : form.UpToDate fields name) (hne : name ≠ other)
    (hnew : form.change fields other v = .ok new) : new.UpToDate fields name := by
  obtain ⟨hvalue, herror⟩ := change_of_ne hnew hne
  rw [UpToDate, herror, h, error_submit_congr hvalue]

theorem upToDate_submit (form : PreviewForm) (fields : List Field) (name : String) :
    (form.submit fields).2.UpToDate fields name := by
  rw [UpToDate, submit_submit]

theorem Sound.upToDate_of_not_mem (h : form.Sound fields) (hname : name ∉ fields.map Field.name) :
    form.UpToDate fields name := by
  have hnone : ∀ {form : PreviewForm}, form.Sound fields → form.error name = none := by
    intro form h
    refine Option.eq_none_iff_forall_ne_some.mpr fun err herr => hname ?_
    obtain ⟨-, ⟨f, hf, rfl, -⟩, -⟩ := h.shown name err herr
    exact List.mem_map_of_mem hf
  rw [UpToDate, hnone h, hnone h.submit]

theorem UpToDate.after (h : form.UpToDate fields name) (step : FormStep) :
    (form.after fields step).UpToDate fields name := by
  cases step with
  | change other v =>
    rw [PreviewForm.after]
    split
    · next new hnew =>
      by_cases hname : name = other
      · subst hname
        exact upToDate_change hnew
      · exact h.change hname hnew
    · exact h
  | submit => exact upToDate_submit form fields name
  | render => exact h

/-- The form after one step after another. -/
def afterAll (form : PreviewForm) (fields : List Field) (steps : List FormStep) : PreviewForm :=
  steps.foldl (fun form step => form.after fields step) form

theorem Sound.afterAll (h : form.Sound fields) (steps : List FormStep) :
    (form.afterAll fields steps).Sound fields := by
  induction steps generalizing form with
  | nil => exact h
  | cons step steps ih => exact ih (h.after step)

theorem UpToDate.afterAll (h : form.UpToDate fields name) (steps : List FormStep) :
    (form.afterAll fields steps).UpToDate fields name := by
  induction steps generalizing form with
  | nil => exact h
  | cons step steps ih => exact ih (h.after step)

theorem afterAll_append (form : PreviewForm) (fields : List Field) (steps later : List FormStep) :
    form.afterAll fields (steps ++ later) = (form.afterAll fields steps).afterAll fields later :=
  List.foldl_append

theorem after_of_change (h : form.change fields name v = .ok new) :
    form.after fields (.change name v) = new := by
  rw [PreviewForm.after, h]

/-- Once a name was changed, its error stays up to date. -/
theorem upToDate_of_changed {steps : List FormStep} (hname : name ∈ fields.map Field.name)
    (h : .change name v ∈ steps) (form : PreviewForm) :
    (form.afterAll fields steps).UpToDate fields name := by
  obtain ⟨front, back, rfl⟩ := List.append_of_mem h
  obtain ⟨new, hnew⟩ := exists_change hname (form.afterAll fields front) v
  have hafter : form.afterAll fields (front ++ .change name v :: back) =
      new.afterAll fields back := by
    rw [afterAll_append, ← after_of_change hnew]
    rfl
  rw [hafter]
  exact (upToDate_change hnew).afterAll back

/-- A change of a name that no field has is refused and leaves the form as it is.  A change of
any other name sets the value of this name and shows the error that a submission would show for
it, namely that it is required, where a field of the name is and the value is one that required
fields refuse; nothing changes for other names.  So once every name of the fields was changed,
a submission shows no other errors than are shown already, and succeeds if and only if none
are. -/
theorem error_of_change (fields : List Field) :
    (∀ (form : PreviewForm) (name : String) (v : Value),
      (name ∉ fields.map Field.name →
        form.change fields name v = .error (.unboundName name) ∧
          form.after fields (.change name v) = form) ∧
      (name ∈ fields.map Field.name →
        ∃ new, form.change fields name v = .ok new ∧ form.after fields (.change name v) = new ∧
          new.value name = some v ∧
          (∀ other, other ≠ name →
            new.value other = form.value other ∧ new.error other = form.error other) ∧
          new.error name = (new.submit fields).2.error name ∧
          ∀ err, new.error name = some err ↔ err = ⟨name, .required⟩ ∧
            (∃ f ∈ fields, f.name = name ∧ f.required = true) ∧ v.Refused)) ∧
    ∀ steps : List FormStep, (∀ f ∈ fields, ∃ v, .change f.name v ∈ steps) →
      let form := (start fields).afterAll fields steps
      (∀ name, (form.submit fields).2.error name = form.error name) ∧
        ((∃ members, (form.submit fields).1 = .ok members) ↔ ∀ name, form.error name = none) := by
  refine ⟨fun form name v => ⟨fun hname => ?_, fun hname => ?_⟩, fun steps hsteps => ?_⟩
  · have hrefused := change_of_not_mem hname form v
    exact ⟨hrefused, by rw [PreviewForm.after, hrefused]⟩
  · obtain ⟨new, hnew⟩ := exists_change hname form v
    exact ⟨new, hnew, after_of_change hnew, value_change hnew, fun other => change_of_ne hnew,
      upToDate_change hnew, fun err => error_change_eq_some_iff hnew⟩
  · intro form
    have hsound : form.Sound fields := (sound_start fields).afterAll steps
    have hall : ∀ name, form.UpToDate fields name := by
      intro name
      by_cases hname : name ∈ fields.map Field.name
      · obtain ⟨f, hf, rfl⟩ := List.mem_map.mp hname
        obtain ⟨v, hv⟩ := hsteps f hf
        exact upToDate_of_changed hname hv (start fields)
      · exact hsound.upToDate_of_not_mem hname
    refine ⟨fun name => (hall name).symm, ?_⟩
    rw [exists_members_iff, ← error_submit_eq_none_iff]
    exact forall_congr' fun name => by rw [hall name]

/-- A required number shares its name with a text.  The empty text is refused, zero is not, and
a name without fields cannot be changed. -/
theorem error_of_change_shared :
    let note : Field := { id := "t", name := "amount", attributes := .text {} }
    let amount : Field := { id := "n", name := "amount", required := true, attributes := .number {} }
    let fields := [note, amount]
    let cleared : FormStep := .change "amount" (.text "")
    let zero : FormStep := .change "amount" (.number (.finite true .zero))
    let form := (start fields).afterAll fields [cleared, .submit, zero]
    (start fields).change fields "price" .absent = .error (.unboundName "price") ∧
      ((start fields).after fields cleared).error "amount" = some ⟨"amount", .required⟩ ∧
      (form.submit fields).2.error "amount" = form.error "amount" ∧
      ((∃ members, (form.submit fields).1 = .ok members) ↔ ∀ name, form.error name = none) := by
  intro note amount fields cleared zero form
  obtain ⟨hchange, hrun⟩ := error_of_change fields
  obtain ⟨hunbound, -⟩ := hchange (start fields) "price" .absent
  obtain ⟨-, hbound⟩ := hchange (start fields) "amount" (.text "")
  obtain ⟨new, -, hafter, -, -, -, herror⟩ := hbound List.mem_cons_self
  have hshown : new.error "amount" = some ⟨"amount", .required⟩ :=
    (herror _).mpr ⟨rfl, ⟨amount, List.mem_cons_of_mem _ List.mem_cons_self, rfl, rfl⟩, .empty⟩
  have hsteps : ∀ f ∈ fields, ∃ v, FormStep.change f.name v ∈ [cleared, .submit, zero] := by
    intro f hf
    rcases List.mem_pair.mp hf with rfl | rfl <;> exact ⟨.text "", List.mem_cons_self⟩
  obtain ⟨hsame, hsuccess⟩ := hrun [cleared, .submit, zero] hsteps
  exact ⟨(hunbound (by decide)).1, hafter ▸ hshown, hsame "amount", hsuccess⟩

end PreviewForm
end FormBuilder
