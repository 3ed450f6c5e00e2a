import FormBuilder.Proofs.Preview.Errors
import FormBuilder.Proofs.Store.Reachable

/-!
What becomes of an entered value while fields are edited.  Only following the fields and
changing the value itself touch it, so it stays as long as some field has its name whenever
the form follows them.  Once the form has followed fields without the name, the value is
forgotten, and the name starts afresh: `value_of_run`.
-/

namespace FormBuilder
namespace PreviewForm

variable {fields : List Field} {form : PreviewForm} {name : String}

/-! ## Following the fields -/

theorem lastNamed?_eq_some {f : Field} {front back : List Field} (hname : f.name = name)
    (hback : ∀ g ∈ back, g.name ≠ name) : lastNamed? name (front ++ f :: back) = some f := by
  have hnone : back.reverse.find? (·.name = name) = none := by
    simpa [List.find?_eq_none] using hback
  rw [lastNamed?, List.reverse_append, List.reverse_cons, List.append_assoc, List.find?_append,
    hnone, Option.none_or, List.singleton_append, List.find?_cons, decide_eq_true hname]

theorem value_sync_of_some {v : Value} (hv : form.value name = some v) (habsent : v ≠ .absent)
    (hname : name ∈ fields.map Field.name) : (form.sync fields).value name = some v := by
  obtain ⟨f, hf⟩ := Option.isSome_iff_exists.mp ((isSome_lastNamed? name fields).mpr hname)
  have hpresent : v.isAbsent = false := by
    cases v with
    | absent => exact absurd rfl habsent
    | bool _ | number _ | text _ => rfl
  simp [sync, hf, hv, hpresent]

theorem value_sync_of_none {f : Field} (hv : form.value name = none)
    (hf : lastNamed? name fields = some f) :
    (form.sync fields).value name = some f.initialValue := by
  simp [sync, hf, hv]

theorem value_sync_of_not_mem (hname : name ∉ fields.map Field.name) :
    (form.sync fields).value name = none := by
  rw [← Option.not_isSome_iff_eq_none, sync, Option.isSome_map, isSome_lastNamed?]
  exact hname

end PreviewForm

namespace Session

/-! ## Runs -/

variable {s : Session} {name : String} {v : Value} {actions : List Action} {action : Action}
  {P Q : Session → Action → Prop}

/-- A field of the store has the name. -/
def Names (s : Session) (name : String) : Prop := name ∈ s.store.fields.map Field.name

/-- The action gives the name a value, and is not refused. -/
def Changes (s : Session) (name : String) (action : Action) : Prop :=
  ∃ v new, action = .use (.change name v) ∧ s.form.change s.store.fields name v = .ok new

/-- A property of every action of a run and the state in which it is taken. -/
def Throughout (P : Session → Action → Prop) (s : Session) (actions : List Action) : Prop :=
  ∀ before action after, actions = before ++ action :: after → P (s.run before) action

theorem run_cons (s : Session) (action : Action) (actions : List Action) :
    s.run (action :: actions) = (s.act action).run actions := rfl

theorem run_append (s : Session) (before after : List Action) :
    s.run (before ++ after) = (s.run before).run after := List.foldl_append

theorem throughout_nil : Throughout P s [] := by
  intro before action after h
  exact absurd h.symm (by simp)

theorem throughout_cons :
    Throughout P s (action :: actions) ↔ P s action ∧ Throughout P (s.act action) actions := by
  constructor
  · intro h
    refine ⟨h [] action actions rfl, fun before other after ha => ?_⟩
    exact h (action :: before) other after (congrArg (action :: ·) ha)
  · rintro ⟨hfirst, hrest⟩ before other after h
    cases before with
    | nil =>
      obtain ⟨rfl, rfl⟩ := List.cons.inj h
      exact hfirst
    | cons first before =>
      obtain ⟨rfl, hactions⟩ := List.cons.inj h
      exact hrest before other after hactions

theorem Throughout.front {before after : List Action} (h : Throughout P s (before ++ after)) :
    Throughout P s before := by
  intro front action back hbefore
  exact h front action (back ++ after) (by rw [hbefore, List.append_assoc, List.cons_append])

/-! ## One action -/

theorem value_submit (form : PreviewForm) (fields : List Field) :
    (form.submit fields).2.value = form.value := by
  rw [PreviewForm.submit_snd]

/-- Only following the fields and changing the value of a name touch it. -/
theorem value_act (hsync : action ≠ .sync) (hchange : ¬ s.Changes name action) :
    (s.act action).form.value name = s.form.value name := by
  cases action with
  | operation op => rfl
  | sync => exact absurd rfl hsync
  | use step =>
    cases step with
    | change other v =>
      show (s.form.after s.store.fields (.change other v)).value name = s.form.value name
      rw [PreviewForm.after]
      split
      · next new hnew =>
        have hne : name ≠ other := by
          rintro rfl
          exact hchange ⟨v, new, rfl, hnew⟩
        obtain ⟨-, rfl⟩ := PreviewForm.change_eq_ok_iff.mp hnew
        exact PreviewForm.setAt_of_ne hne ..
      · rfl
    | submit => exact congrFun (value_submit s.form s.store.fields) name
    | render => rfl

/-! ## Many actions -/

/-- The form follows the fields only while one of them has the name. -/
def Keeps (name : String) (s : Session) (action : Action) : Prop := action = .sync → s.Names name

/-- The form follows the fields only while none of them has the name. -/
def Misses (name : String) (s : Session) (action : Action) : Prop := action = .sync → ¬ s.Names name

/-- The value of the name is not entered anew. -/
def Leaves (name : String) (s : Session) (action : Action) : Prop := ¬ s.Changes name action

theorem value_run_of_keeps (hv : s.form.value name = some v) (habsent : v ≠ .absent)
    (hkeeps : Throughout (Keeps name) s actions) (hleaves : Throughout (Leaves name) s actions) :
    (s.run actions).form.value name = some v := by
  induction actions generalizing s with
  | nil => exact hv
  | cons action rest ih =>
    obtain ⟨hkeep, hkeeps⟩ := throughout_cons.mp hkeeps
    obtain ⟨hleave, hleaves⟩ := throughout_cons.mp hleaves
    rw [run_cons]
    refine ih ?_ hkeeps hleaves
    by_cases hsync : action = .sync
    · subst hsync
      exact PreviewForm.value_sync_of_some hv habsent (hkeep rfl)
    · rw [value_act hsync hleave, hv]

theorem value_run_of_misses (hv : s.form.value name = none)
    (hmisses : Throughout (Misses name) s actions) (hleaves : Throughout (Leaves name) s actions) :
    (s.run actions).form.value name = none := by
  induction actions generalizing s with
  | nil => exact hv
  | cons action rest ih =>
    obtain ⟨hmiss, hmisses⟩ := throughout_cons.mp hmisses
    obtain ⟨hleave, hleaves⟩ := throughout_cons.mp hleaves
    rw [run_cons]
    refine ih ?_ hmisses hleaves
    by_cases hsync : action = .sync
    · subst hsync
      exact PreviewForm.value_sync_of_not_mem (hmiss rfl)
    · rw [value_act hsync hleave, hv]

/-- A value that is not absent survives every run in which some field has its name whenever
the form follows the fields, and in which it is not entered anew.  Once the form follows
fields of which none has the name, the value is gone, and as long as it is not entered
anew the name has no value until the form follows fields with the name again; then it has
the initial value of the last of them. -/
theorem value_of_run (s : Session) (name : String) :
    (∀ actions v, s.form.value name = some v → v ≠ .absent →
      Throughout (Keeps name) s actions → Throughout (Leaves name) s actions →
      (s.run actions).form.value name = some v) ∧
    ∀ before after, ¬ (s.run before).Names name →
      Throughout (Leaves name) (s.run (before ++ [.sync])) after →
      (∀ between rest, after = between ++ rest →
        Throughout (Misses name) (s.run (before ++ [.sync])) between →
        (s.run (before ++ .sync :: between)).form.value name = none) ∧
      ∀ between rest f front back, after = between ++ .sync :: rest →
        Throughout (Misses name) (s.run (before ++ [.sync])) between →
        (s.run (before ++ .sync :: between)).store.fields = front ++ f :: back →
        f.name = name → (∀ g ∈ back, g.name ≠ name) →
        (s.run (before ++ .sync :: between ++ [.sync])).form.value name = some f.initialValue := by
  refine ⟨fun actions v => value_run_of_keeps, fun before after hnames hleaves => ?_⟩
  have hforgotten : (s.run (before ++ [.sync])).form.value name = none := by
    rw [run_append]
    exact PreviewForm.value_sync_of_not_mem hnames
  have hrun : ∀ between, s.run (before ++ .sync :: between) =
      (s.run (before ++ [.sync])).run between := by
    intro between
    rw [← run_append, List.append_assoc, List.singleton_append]
  have hnone : ∀ between rest, after = between ++ rest →
      Throughout (Misses name) (s.run (before ++ [.sync])) between →
      (s.run (before ++ .sync :: between)).form.value name = none := by
    rintro between rest rfl hmisses
    rw [hrun]
    exact value_run_of_misses hforgotten hmisses hleaves.front
  refine ⟨hnone, fun between rest f front back hafter hmisses hfields hname hback => ?_⟩
  rw [run_append]
  refine PreviewForm.value_sync_of_none (hnone between _ hafter hmisses) ?_
  rw [hfields]
  exact PreviewForm.lastNamed?_eq_some hname hback

/-- A text is entered and its field gets a label: the text stays.  The field is renamed and
then gets its old name back: the text is forgotten at the first of these changes. -/
theorem value_of_run_renamed :
    let field : Field := { id := "a", name := "email", attributes := .text {} }
    let s : Session :=
      { store := { fields := [field] }
        supply := .ofBytes #[]
        form := { value := PreviewForm.setAt "email" (some (.text "x@y.com")) fun _ => none } }
    let label : Action := .operation (.patch "a" { label := some "Mail" })
    let name (new : String) : Action := .operation (.patch "a" { name := some new })
    (s.run [label, .sync, .use .submit]).form.value "email" = some (.text "x@y.com") ∧
      (s.run [name "mail", .sync, name "email"]).form.value "email" = none ∧
      (s.run [name "mail", .sync, name "email", .sync]).form.value "email" = some (.text "") := by
  intro field s label name
  have hleaves : ∀ {s : Session} {action : Action}, (∀ v, action ≠ .use (.change "email" v)) →
      Leaves "email" s action := fun h ⟨v, _, haction, _⟩ => h v haction
  obtain ⟨hstays, hforgets⟩ := value_of_run s "email"
  have hkept := hstays [label, .sync, .use .submit] (.text "x@y.com") rfl nofun
    (by
      simp only [throughout_cons]
      refine ⟨nofun, fun _ => ?_, nofun, throughout_nil⟩
      exact List.mem_singleton.mpr rfl)
    (by
      simp only [throughout_cons]
      exact ⟨hleaves nofun, hleaves nofun, hleaves nofun, throughout_nil⟩)
  have hrenamed : ¬ (s.run [name "mail"]).Names "email" := by
    show "email" ∉ ["mail"]
    decide
  obtain ⟨hnone, hinitial⟩ := hforgets [name "mail"] [name "email", .sync] hrenamed
    (by
      simp only [throughout_cons]
      exact ⟨hleaves nofun, hleaves nofun, throughout_nil⟩)
  have hmisses : Throughout (Misses "email") (s.run ([name "mail"] ++ [.sync])) [name "email"] := by
    simp only [throughout_cons]
    exact ⟨nofun, throughout_nil⟩
  exact ⟨hkept, hnone [name "email"] [.sync] rfl hmisses,
    hinitial [name "email"] [] field [] [] rfl hmisses rfl rfl fun _ hg => nomatch hg⟩

end Session
end FormBuilder
