import FormBuilder.Proofs.Preview.Errors
import FormBuilder.Proofs.Preview.Submission

/-!
What a submission answers and what it leaves of the form.  The fields are validated in turn,
and one whose name has an error already is passed over: `failures_eq_foldl`.  So there is one
error for each name, in the order of the first fields that refuse their values, and as many
members as names with values: `outcome_of_submit`.
-/

namespace FormBuilder

open Source (membersOf mem_membersOf map_fst_membersOf eraseDups_concat)

instance (v : Value) : Decidable v.Refused := decidable_of_iff _ Value.refused_iff.symm

theorem Value.isSome_toJson?_iff {v : Value} : v.toJson?.isSome = true ↔ v ≠ .absent := by
  cases v <;> simp [toJson?]

theorem nodup_eraseDups (names : List String) : names.eraseDups.Nodup := by
  induction names using List.reverseRecOn with
  | nil => exact List.nodup_nil
  | append_singleton names name ih =>
    rw [eraseDups_concat]
    split_ifs with hname
    · exact ih
    · have hnew : name ∉ names.eraseDups := mt List.mem_eraseDups.mp hname
      exact (List.perm_append_singleton name _).nodup_iff.mpr (List.nodup_cons.mpr ⟨hnew, ih⟩)

theorem eraseDups_filter (p : String → Bool) (names : List String) :
    (names.filter p).eraseDups = names.eraseDups.filter p := by
  induction names using List.reverseRecOn with
  | nil => rfl
  | append_singleton names name ih =>
    rw [List.filter_append, eraseDups_concat]
    cases hp : p name with
    | false => split_ifs <;> simp [hp, ih]
    | true =>
      have hmem : name ∈ names.filter p ↔ name ∈ names := by
        rw [List.mem_filter, and_iff_left hp]
      rw [List.filter_cons_of_pos hp, List.filter_nil, eraseDups_concat]
      simp only [hmem]
      split_ifs <;> simp [hp, ih]

namespace PreviewForm

variable {form : PreviewForm} {fields : List Field} {f : Field} {name : String}

/-! ## Errors -/

/-- The field is required and refuses the value that it shows. -/
def Refuses (form : PreviewForm) (f : Field) : Prop := f.required = true ∧ (form.current f).Refused

instance (form : PreviewForm) (f : Field) : Decidable (form.Refuses f) :=
  inferInstanceAs (Decidable (_ ∧ _))

/-- The names of the fields that refuse their values, each once, in the order of the first
such fields. -/
def refusedNames (form : PreviewForm) (fields : List Field) : List String :=
  ((fields.filter fun f => form.Refuses f).map Field.name).eraseDups

theorem validate_current (form : PreviewForm) (f : Field) :
    f.validate (form.current f) = if form.Refuses f then some ⟨f.name, .required⟩ else none := by
  split_ifs with h
  · exact Field.validate_eq_some_iff.mpr ⟨h.1, h.2, rfl⟩
  · refine Option.eq_none_iff_forall_ne_some.mpr fun err herr => h ?_
    obtain ⟨hrequired, hrefused, -⟩ := Field.validate_eq_some_iff.mp herr
    exact ⟨hrequired, hrefused⟩

/-- One error for each name, in the order of the first fields that refuse their values. -/
theorem failures_eq (form : PreviewForm) (fields : List Field) :
    form.failures fields = (form.refusedNames fields).map (⟨·, .required⟩) := by
  induction fields with
  | nil => rfl
  | cons f rest ih =>
    rw [failures, validate_current]
    by_cases hf : form.Refuses f
    · have hnames : form.refusedNames (f :: rest) =
          f.name :: (form.refusedNames rest).filter (· ≠ f.name) := by
        rw [refusedNames, List.filter_cons_of_pos (by simpa using hf), List.map_cons,
          List.eraseDups_cons, eraseDups_filter, ← refusedNames]
        refine congrArg (f.name :: ·) (List.filter_congr fun name _ => ?_)
        rw [Bool.eq_iff_iff]
        simp
      simp only [hnames, if_pos hf, ih, List.map_cons, List.filter_map]
      rfl
    · have hnames : form.refusedNames (f :: rest) = form.refusedNames rest := by
        rw [refusedNames, List.filter_cons_of_neg (by simpa using hf), ← refusedNames]
      rw [hnames, if_neg hf, ih]

theorem refusedNames_concat (form : PreviewForm) (fields : List Field) (f : Field) :
    form.refusedNames (fields ++ [f]) =
      if form.Refuses f ∧ f.name ∉ form.refusedNames fields then
        form.refusedNames fields ++ [f.name]
      else form.refusedNames fields := by
  rw [refusedNames, List.filter_append, List.map_append]
  by_cases hf : form.Refuses f
  · have hmem : f.name ∈ (fields.filter fun f => form.Refuses f).map Field.name ↔
        f.name ∈ form.refusedNames fields := List.mem_eraseDups.symm
    rw [List.filter_cons_of_pos (by simpa using hf), List.filter_nil, List.map_singleton,
      eraseDups_concat, ← refusedNames]
    simp only [hmem, hf, true_and]
    split_ifs <;> rfl
  · rw [List.filter_cons_of_neg (by simpa using hf)]
    simp [hf, refusedNames]

/-- The errors can be collected in one pass over the fields, in which a field is passed over
if its name has an error already. -/
theorem failures_eq_foldl (form : PreviewForm) (fields : List Field) :
    form.failures fields = fields.foldl (fun errors f =>
      if form.Refuses f ∧ f.name ∉ errors.map FieldError.field then
        errors ++ [⟨f.name, .required⟩]
      else errors) [] := by
  induction fields using List.reverseRecOn with
  | nil => rfl
  | append_singleton fields f ih =>
    have hnames : (form.failures fields).map FieldError.field = form.refusedNames fields := by
      rw [failures_eq, List.map_map]
      exact List.map_id' _
    rw [List.foldl_concat, ← ih, hnames, failures_eq, failures_eq, refusedNames_concat]
    split_ifs
    · rw [List.map_append, List.map_singleton]
    · rfl

theorem mem_refusedNames_iff :
    name ∈ form.refusedNames fields ↔ ∃ f ∈ fields, form.Refuses f ∧ f.name = name := by
  simp [refusedNames, and_assoc]

theorem refusedNames_eq_nil_iff :
    form.refusedNames fields = [] ↔
      ∀ f ∈ fields, f.required = true → ¬ (form.current f).Refused := by
  rw [List.eq_nil_iff_forall_not_mem]
  simp only [mem_refusedNames_iff, not_exists, not_and]
  constructor
  · exact fun h f hf hrequired hrefused => h f.name f hf ⟨hrequired, hrefused⟩ rfl
  · exact fun h name f hf hrefuses _ => h f hf hrefuses.1 hrefuses.2

/-! ## Submissions -/

theorem submit_fst (form : PreviewForm) (fields : List Field) :
    (form.submit fields).1 =
      if form.refusedNames fields = [] then .ok (form.members fields)
      else .error ((form.refusedNames fields).map (⟨·, .required⟩)) := by
  rw [← failures_eq]
  have hnone : form.failures fields = [] ↔ form.refusedNames fields = [] := by
    rw [failures_eq, List.map_eq_nil_iff]
  simp only [submit, hnone]
  split_ifs <;> rfl

/-- A submission reads values only, and leaves them. -/
theorem submit_submit (form : PreviewForm) (fields : List Field) :
    (form.submit fields).2.submit fields = form.submit fields := by
  have hrefused : (form.submit fields).2.refusedNames fields = form.refusedNames fields := by
    rw [submit_snd]
    rfl
  have hmembers : (form.submit fields).2.members fields = form.members fields := by
    rw [submit_snd]
    rfl
  refine Prod.ext ?_ ?_
  · rw [submit_fst, submit_fst, hrefused, hmembers]
  · rw [submit_snd, failures_eq, hrefused, submit_snd, failures_eq]

theorem map_fst_members (form : PreviewForm) (fields : List Field) :
    (form.members fields).map Prod.fst =
      (fields.map Field.name).eraseDups.filter fun name => form.shown name ≠ .absent := by
  rw [members_eq, map_fst_membersOf]
  refine List.filter_congr fun name _ => ?_
  rw [Bool.eq_iff_iff, Value.isSome_toJson?_iff, decide_eq_true_iff]

theorem toJson?_of_mem_members {v : Json} (h : (name, v) ∈ form.members fields) :
    (form.shown name).toJson? = some v := by
  rw [members_eq] at h
  exact (mem_membersOf.mp h).2

theorem error_submit_iff {err : FieldError} :
    (form.submit fields).2.error name = some err ↔
      err ∈ (form.refusedNames fields).map (⟨·, .required⟩) ∧ err.field = name := by
  rw [error_submit_eq_some_iff, List.mem_map]
  simp only [mem_refusedNames_iff]
  constructor
  · rintro ⟨rfl, f, hf, hname, hrefuses⟩
    exact ⟨⟨name, ⟨f, hf, hrefuses, hname⟩, rfl⟩, rfl⟩
  · rintro ⟨⟨_, ⟨f, hf, hrefuses, rfl⟩, rfl⟩, rfl⟩
    exact ⟨rfl, f, hf, rfl, hrefuses⟩

/-- A submission shows no error exactly if no name has one. -/
theorem error_submit_eq_none_iff :
    (∀ name, (form.submit fields).2.error name = none) ↔ form.refusedNames fields = [] := by
  rw [List.eq_nil_iff_forall_not_mem]
  refine forall_congr' fun name => ?_
  rw [Option.eq_none_iff_forall_ne_some]
  constructor
  · intro h hname
    exact h ⟨name, .required⟩ (error_submit_iff.mpr ⟨List.mem_map_of_mem hname, rfl⟩)
  · intro h err herr
    obtain ⟨hmem, rfl⟩ := error_submit_iff.mp herr
    obtain ⟨name, hname, rfl⟩ := List.mem_map.mp hmem
    exact h hname

theorem exists_members_iff :
    (∃ members, (form.submit fields).1 = .ok members) ↔ form.refusedNames fields = [] := by
  rw [submit_fst]
  split_ifs with hnone <;> simp [hnone]

/-- A submission leaves the values as they are.  It succeeds if and only if no required field
refuses the value that it shows.  Then no error is left, and there is a member for each name
with a value that is not absent, in the order of the first fields of the names.  Otherwise
there is one error for each name with a required field that refuses its value, in the order of
the first such fields, and the form shows these errors and no others.  A second submission
changes nothing and answers the same. -/
theorem outcome_of_submit (form : PreviewForm) (fields : List Field) :
    (form.submit fields).2.value = form.value ∧
      ((∃ members, (form.submit fields).1 = .ok members) ↔
        ∀ f ∈ fields, f.required = true → ¬ (form.current f).Refused) ∧
      (∀ members, (form.submit fields).1 = .ok members →
        (∀ name, (form.submit fields).2.error name = none) ∧
        members.map Prod.fst =
          (fields.map Field.name).eraseDups.filter (fun name => form.shown name ≠ .absent) ∧
        (members.map Prod.fst).Nodup ∧
        ∀ name v, (name, v) ∈ members → (form.shown name).toJson? = some v) ∧
      (∀ errors, (form.submit fields).1 = .error errors →
        errors = (form.refusedNames fields).map (⟨·, .required⟩) ∧
        (form.refusedNames fields).Nodup ∧
        ∀ name err, (form.submit fields).2.error name = some err ↔
          err ∈ errors ∧ err.field = name) ∧
      (form.submit fields).2.submit fields = form.submit fields := by
  have hanswer := submit_fst form fields
  refine ⟨by rw [submit_snd], exists_members_iff.trans refusedNames_eq_nil_iff,
    fun members h => ?_, fun errors h => ?_, submit_submit form fields⟩
  · rw [hanswer] at h
    split_ifs at h with hnone
    obtain rfl := Except.ok.inj h
    have hnames := map_fst_members form fields
    have hnodup : ((form.members fields).map Prod.fst).Nodup :=
      hnames ▸ (nodup_eraseDups _).filter _
    exact ⟨error_submit_eq_none_iff.mpr hnone, hnames, hnodup, fun name v => toJson?_of_mem_members⟩
  · rw [hanswer] at h
    split_ifs at h with hnone
    obtain rfl := Except.error.inj h
    exact ⟨rfl, nodup_eraseDups _, fun name err => error_submit_iff⟩

/-- Two fields share the name of a city, of which the second is required.  An empty form has
errors in the order of the first required fields; a filled one submits each name once. -/
theorem outcome_of_submit_shared :
    let city : Field := { id := "u", name := "city", attributes := .text {} }
    let age : Field := { id := "a", name := "age", required := true, attributes := .number {} }
    let home : Field := { id := "h", name := "city", required := true, attributes := .text {} }
    let fields := [city, age, home, age]
    let filled : PreviewForm :=
      { value := setAt "city" (some (.text "Ulm")) fun _ => some (.number .one) }
    let errors : List FieldError := [⟨"age", .required⟩, ⟨"city", .required⟩]
    let members : List (String × Json) := [("city", .string "Ulm"), ("age", .float .one)]
    ((({} : PreviewForm).submit fields).1 = .error errors ∧
      errors = (({} : PreviewForm).refusedNames fields).map (⟨·, .required⟩) ∧
      (({} : PreviewForm).submit fields).2.error "city" = some ⟨"city", .required⟩) ∧
      (filled.submit fields).1 = .ok members ∧ (filled.submit fields).2.error "city" = none ∧
      (members.map Prod.fst).Nodup := by
  intro city age home fields filled errors members
  have hempty : (({} : PreviewForm).submit fields).1 = .error errors := rfl
  have hfilled : (filled.submit fields).1 = .ok members := rfl
  obtain ⟨-, -, -, herrors, -⟩ := outcome_of_submit {} fields
  obtain ⟨-, -, hmembers, -, -⟩ := outcome_of_submit filled fields
  obtain ⟨hnames, -, hshown⟩ := herrors errors hempty
  obtain ⟨hnone, -, hnodup, -⟩ := hmembers members hfilled
  refine ⟨⟨hempty, hnames, (hshown "city" _).mpr ⟨?_, rfl⟩⟩, hfilled, hnone "city", hnodup⟩
  exact List.mem_cons_of_mem _ List.mem_cons_self

end PreviewForm
end FormBuilder
