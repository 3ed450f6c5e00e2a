import FormBuilder.Field.Patch

/-!
Patches one after another.  Two patches for a field of their kind amount to a single one,
which takes every member from the second patch where that sets it and from the first one
elsewhere: `patch_compose`.  That a patch may be repeated, and that patches of different
members may be exchanged, is read off the single patch.
-/

namespace FormBuilder

/-! ## Members -/

namespace Change

variable {α : Type} {p q : Change α}

/-- The second change, unless it keeps what is there. -/
def andThen : Change α → Change α → Change α
  | first, keep => first
  | _, second => second

theorem apply_andThen (p q : Change α) (old : Option α) :
    (p.andThen q).apply old = q.apply (p.apply old) := by
  cases q <;> rfl

theorem andThen_self (p : Change α) : p.andThen p = p := by cases p <;> rfl

theorem andThen_comm (h : ¬ (p ≠ keep ∧ q ≠ keep)) : p.andThen q = q.andThen p := by
  cases p with
  | keep => cases q <;> rfl
  | clear | set _ =>
    have hq : q = keep := by simpa using h
    rw [hq]
    rfl

end Change

section Optional

variable {α : Type} {p q : Option α}

theorem getD_or (p q : Option α) (old : α) : (q.or p).getD old = q.getD (p.getD old) := by
  cases q <;> rfl

theorem or_comm_of_not_both (h : ¬ (p.isSome ∧ q.isSome)) : q.or p = p.or q := by
  cases p with
  | none => cases q <;> rfl
  | some a =>
    have hq : q = none := by simpa using h
    rw [hq]
    rfl

end Optional

/-- What patches set of a field. -/
inductive Member where
  | name
  | label
  | required
  | placeholder
  | rows
  | min
  | max
  | step
  | options
  | initial
  | checked

/-! ## Attributes -/

namespace TextPatch

def andThen (p q : TextPatch) : TextPatch :=
  ⟨p.placeholder.andThen q.placeholder, p.initial.andThen q.initial⟩

theorem apply_andThen (p q : TextPatch) (t : TextInput) :
    (p.andThen q).apply t = q.apply (p.apply t) := by
  simp only [apply, andThen, Change.apply_andThen]

end TextPatch

namespace NumberPatch

def andThen (p q : NumberPatch) : NumberPatch :=
  ⟨p.min.andThen q.min, p.max.andThen q.max, p.step.andThen q.step, p.initial.andThen q.initial⟩

theorem apply_andThen (p q : NumberPatch) (n : NumberInput) :
    (p.andThen q).apply n = q.apply (p.apply n) := by
  simp only [apply, andThen, Change.apply_andThen]

end NumberPatch

namespace TextAreaPatch

def andThen (p q : TextAreaPatch) : TextAreaPatch :=
  ⟨p.rows.andThen q.rows, p.placeholder.andThen q.placeholder, p.initial.andThen q.initial⟩

theorem apply_andThen (p q : TextAreaPatch) (t : TextArea) :
    (p.andThen q).apply t = q.apply (p.apply t) := by
  simp only [apply, andThen, Change.apply_andThen]

end TextAreaPatch

namespace ChoicePatch

def andThen (p q : ChoicePatch) : ChoicePatch :=
  ⟨q.options.or p.options, p.initial.andThen q.initial⟩

theorem apply_andThen (p q : ChoicePatch) (c : ChoiceList) :
    (p.andThen q).apply c = q.apply (p.apply c) := by
  simp only [apply, andThen, Change.apply_andThen, getD_or]

end ChoicePatch

namespace TogglePatch

def andThen (p q : TogglePatch) : TogglePatch := ⟨p.checked.andThen q.checked⟩

theorem apply_andThen (p q : TogglePatch) (t : Toggle) :
    (p.andThen q).apply t = q.apply (p.apply t) := by
  simp only [apply, andThen, Change.apply_andThen]

end TogglePatch

namespace DatePatch

def andThen (p q : DatePatch) : DatePatch :=
  ⟨p.min.andThen q.min, p.max.andThen q.max, p.initial.andThen q.initial⟩

theorem apply_andThen (p q : DatePatch) (d : DateInput) :
    (p.andThen q).apply d = q.apply (p.apply d) := by
  simp only [apply, andThen, Change.apply_andThen]

end DatePatch

namespace AttributesPatch

/-- A patch and attributes of its kind. -/
inductive Matches : AttributesPatch → Attributes → Prop where
  | text {p : TextPatch} {t : TextInput} : Matches (.text p) (.text t)
  | number {p : NumberPatch} {n : NumberInput} : Matches (.number p) (.number n)
  | textarea {p : TextAreaPatch} {t : TextArea} : Matches (.textarea p) (.textarea t)
  | select {p : ChoicePatch} {c : ChoiceList} : Matches (.select p) (.select c)
  | radio {p : ChoicePatch} {c : ChoiceList} : Matches (.radio p) (.radio c)
  | checkbox {p : TogglePatch} {t : Toggle} : Matches (.checkbox p) (.checkbox t)
  | switch {p : TogglePatch} {t : Toggle} : Matches (.switch p) (.switch t)
  | date {p : DatePatch} {d : DateInput} : Matches (.date p) (.date d)

/-- One patch and then another one of its kind. -/
def andThen : AttributesPatch → AttributesPatch → AttributesPatch
  | text p, text q => .text (p.andThen q)
  | number p, number q => .number (p.andThen q)
  | textarea p, textarea q => .textarea (p.andThen q)
  | select p, select q => .select (p.andThen q)
  | radio p, radio q => .radio (p.andThen q)
  | checkbox p, checkbox q => .checkbox (p.andThen q)
  | switch p, switch q => .switch (p.andThen q)
  | date p, date q => .date (p.andThen q)
  | _, q => q

/-- The members that a patch sets.  To clear a member is to set it. -/
def Sets : AttributesPatch → Member → Prop
  | text p, .placeholder => p.placeholder ≠ .keep
  | text p, .initial => p.initial ≠ .keep
  | number p, .min => p.min ≠ .keep
  | number p, .max => p.max ≠ .keep
  | number p, .step => p.step ≠ .keep
  | number p, .initial => p.initial ≠ .keep
  | textarea p, .rows => p.rows ≠ .keep
  | textarea p, .placeholder => p.placeholder ≠ .keep
  | textarea p, .initial => p.initial ≠ .keep
  | select p, .options | radio p, .options => p.options.isSome
  | select p, .initial | radio p, .initial => p.initial ≠ .keep
  | checkbox p, .checked | switch p, .checked => p.checked ≠ .keep
  | date p, .min => p.min ≠ .keep
  | date p, .max => p.max ≠ .keep
  | date p, .initial => p.initial ≠ .keep
  | _, _ => False

variable {p q : AttributesPatch} {a : Attributes}

theorem matches_of_kind_eq (h : p.kind = a.kind) : p.Matches a := by
  cases p <;> cases a <;> first | constructor | simp [kind, Attributes.kind] at h

theorem Matches.kind_eq (h : p.Matches a) : p.kind = a.kind := by cases h <;> rfl

theorem andThen_self (p : AttributesPatch) : p.andThen p = p := by
  cases p with
  | text p => simp only [andThen, TextPatch.andThen, Change.andThen_self]
  | number p => simp only [andThen, NumberPatch.andThen, Change.andThen_self]
  | textarea p => simp only [andThen, TextAreaPatch.andThen, Change.andThen_self]
  | select p | radio p => simp only [andThen, ChoicePatch.andThen, Change.andThen_self, Option.or_self]
  | checkbox p | switch p => simp only [andThen, TogglePatch.andThen, Change.andThen_self]
  | date p => simp only [andThen, DatePatch.andThen, Change.andThen_self]

theorem applyTo?_andThen (hp : p.Matches a) (hq : q.Matches a) :
    ∃ b, p.applyTo? a = some b ∧ q.applyTo? b = (p.andThen q).applyTo? a ∧ q.Matches b := by
  -- patches that match the same attributes are of one kind, which leaves eight pairs
  cases hp <;> cases hq <;> refine ⟨_, rfl, ?_, by constructor⟩
  case text => simp only [applyTo?, andThen, TextPatch.apply_andThen]
  case number => simp only [applyTo?, andThen, NumberPatch.apply_andThen]
  case textarea => simp only [applyTo?, andThen, TextAreaPatch.apply_andThen]
  case select | radio => simp only [applyTo?, andThen, ChoicePatch.apply_andThen]
  case checkbox | switch => simp only [applyTo?, andThen, TogglePatch.apply_andThen]
  case date => simp only [applyTo?, andThen, DatePatch.apply_andThen]

theorem andThen_comm (hp : p.Matches a) (hq : q.Matches a) (h : ∀ m, ¬ (p.Sets m ∧ q.Sets m)) :
    p.andThen q = q.andThen p := by
  cases hp <;> cases hq
  case text =>
    simp only [andThen, TextPatch.andThen, Change.andThen_comm (h .placeholder),
      Change.andThen_comm (h .initial)]
  case number =>
    simp only [andThen, NumberPatch.andThen, Change.andThen_comm (h .min),
      Change.andThen_comm (h .max), Change.andThen_comm (h .step), Change.andThen_comm (h .initial)]
  case textarea =>
    simp only [andThen, TextAreaPatch.andThen, Change.andThen_comm (h .rows),
      Change.andThen_comm (h .placeholder), Change.andThen_comm (h .initial)]
  case select | radio =>
    simp only [andThen, ChoicePatch.andThen, or_comm_of_not_both (h .options),
      Change.andThen_comm (h .initial)]
  case checkbox | switch =>
    simp only [andThen, TogglePatch.andThen, Change.andThen_comm (h .checked)]
  case date =>
    simp only [andThen, DatePatch.andThen, Change.andThen_comm (h .min),
      Change.andThen_comm (h .max), Change.andThen_comm (h .initial)]

end AttributesPatch

/-! ## Fields -/

namespace FieldPatch

variable {p q : FieldPatch} {f : Field} {a : Attributes}

/-- The patch that does what one patch and then another one do.  An empty name sets nothing. -/
def andThen (p q : FieldPatch) : FieldPatch where
  name := (q.name.filter (· ≠ "")).or p.name
  label := q.label.or p.label
  required := q.required.or p.required
  attributes := Option.merge AttributesPatch.andThen p.attributes q.attributes

/-- The members that a patch sets.  An empty label clears the label, which is to set it. -/
def Sets (p : FieldPatch) : Member → Prop
  | .name => (p.name.filter (· ≠ "")).isSome
  | .label => p.label.isSome
  | .required => p.required.isSome
  | m => ∃ a, p.attributes = some a ∧ a.Sets m

/-- The attributes of a patch, if there are any, are of the kind of the field. -/
def Fits (p : FieldPatch) (f : Field) : Prop := ∀ a, p.attributes = some a → a.kind = f.kind

/-- The attributes after a patch. -/
def newAttributes? (p : FieldPatch) (old : Attributes) : Option Attributes :=
  match p.attributes with
  | none => some old
  | some a => a.applyTo? old

/-- A patch that is not refused treats every member by itself. -/
theorem patch_eq_ok (h : p.newAttributes? f.attributes = some a) :
    f.patch p = .ok { f with
      name := p.newName f.name
      label := p.newLabel f.label
      required := p.required.getD f.required
      attributes := a } := by
  unfold newAttributes? at h
  unfold Field.patch
  cases hp : p.attributes with
  | none =>
    rw [hp] at h
    obtain rfl := Option.some.inj h
    rfl
  | some patch =>
    rw [hp] at h
    simp only [h]

theorem fits_of_patch {g : Field} (h : f.patch p = .ok g) : p.Fits f := by
  intro a ha
  simp only [Field.patch, ha] at h
  split at h
  · next happly => exact (AttributesPatch.isSome_applyTo? a f.attributes).mp (happly ▸ rfl)
  · exact nomatch h

theorem newName_eq (p : FieldPatch) (old : String) :
    p.newName old = (p.name.filter (· ≠ "")).getD old := by
  unfold newName
  split
  · next name hname => by_cases he : name = "" <;> simp [hname, he, Option.filter]
  · next hname => simp [hname]

theorem newName_andThen (p q : FieldPatch) (old : String) :
    (p.andThen q).newName old = q.newName (p.newName old) := by
  simp only [newName_eq, andThen]
  cases hq : q.name.filter (· ≠ "") with
  | none => rfl
  | some name =>
    have hne : name ≠ "" := by simpa using (Option.filter_eq_some_iff.mp hq).2
    simp [Option.filter, hne]

theorem newLabel_andThen (p q : FieldPatch) (old : Option String) :
    (p.andThen q).newLabel old = q.newLabel (p.newLabel old) := by
  unfold newLabel andThen
  cases q.label <;> rfl

theorem newAttributes?_andThen (hp : p.Fits f) (hq : q.Fits f) :
    ∃ b, p.newAttributes? f.attributes = some b ∧
      q.newAttributes? b = (p.andThen q).newAttributes? f.attributes ∧
      (q.newAttributes? b).isSome := by
  unfold newAttributes? andThen
  cases hpa : p.attributes with
  | none =>
    cases hqa : q.attributes with
    | none => exact ⟨f.attributes, rfl, rfl, rfl⟩
    | some b =>
      exact ⟨f.attributes, rfl, rfl, (AttributesPatch.isSome_applyTo? b _).mpr (hq b hqa)⟩
  | some a =>
    cases hqa : q.attributes with
    | none =>
      obtain ⟨b, hb⟩ := Option.isSome_iff_exists.mp
        ((AttributesPatch.isSome_applyTo? a f.attributes).mpr (hp a hpa))
      exact ⟨b, hb, hb.symm, rfl⟩
    | some b =>
      have ha := AttributesPatch.matches_of_kind_eq (hp a hpa)
      have hb := AttributesPatch.matches_of_kind_eq (hq b hqa)
      obtain ⟨new, hnew, happly, hmatches⟩ := AttributesPatch.applyTo?_andThen ha hb
      exact ⟨new, hnew, happly, (AttributesPatch.isSome_applyTo? b new).mpr hmatches.kind_eq⟩

/-- Two patches of the kind of a field do what the one made of them does. -/
theorem patch_andThen (hp : p.Fits f) (hq : q.Fits f) :
    ∃ g h, f.patch p = .ok g ∧ g.patch q = .ok h ∧ f.patch (p.andThen q) = .ok h := by
  obtain ⟨b, hb, hsame, hsome⟩ := newAttributes?_andThen hp hq
  obtain ⟨c, hc⟩ := Option.isSome_iff_exists.mp hsome
  have hpq := patch_eq_ok (hsame.symm.trans hc)
  have hrequired : (p.andThen q).required.getD f.required =
      q.required.getD (p.required.getD f.required) := getD_or p.required q.required f.required
  rw [newName_andThen, newLabel_andThen, hrequired] at hpq
  exact ⟨_, _, patch_eq_ok hb, patch_eq_ok hc, hpq⟩

theorem andThen_self (p : FieldPatch) : p.andThen p = p := by
  obtain ⟨name, label, required, attributes⟩ := p
  have hname : (name.filter (· ≠ "")).or name = name := by
    cases name with
    | none => rfl
    | some name => by_cases hne : name = "" <;> simp [Option.filter, hne]
  have hattributes : Option.merge AttributesPatch.andThen attributes attributes = attributes := by
    cases attributes with
    | none => rfl
    | some a => exact congrArg some a.andThen_self
  simp only [andThen, hname, hattributes, Option.or_self]

theorem sets_of_attributes {a : AttributesPatch} {m : Member} (hp : p.attributes = some a)
    (h : a.Sets m) : p.Sets m := by
  cases m
  case name | label | required => cases a <;> exact h.elim
  all_goals exact ⟨a, hp, h⟩

theorem attributes_andThen_comm (hp : p.Fits f) (hq : q.Fits f)
    (h : ∀ m, ¬ (p.Sets m ∧ q.Sets m)) :
    (p.andThen q).attributes = (q.andThen p).attributes := by
  simp only [andThen]
  cases hpa : p.attributes with
  | none => cases q.attributes <;> rfl
  | some a =>
    cases hqa : q.attributes with
    | none => rfl
    | some b =>
      have ha := AttributesPatch.matches_of_kind_eq (hp a hpa)
      have hb := AttributesPatch.matches_of_kind_eq (hq b hqa)
      have hboth : ∀ m, ¬ (a.Sets m ∧ b.Sets m) := fun m hm =>
        h m ⟨sets_of_attributes hpa hm.1, sets_of_attributes hqa hm.2⟩
      exact congrArg some (AttributesPatch.andThen_comm ha hb hboth)

/-- Which of two patches of different members is the first one does not matter.  The patches
made of them may differ in empty names, but not in what they do. -/
theorem patch_andThen_comm (hp : p.Fits f) (hq : q.Fits f)
    (h : ∀ m, ¬ (p.Sets m ∧ q.Sets m)) : f.patch (p.andThen q) = f.patch (q.andThen p) := by
  have hname : (p.andThen q).newName f.name = (q.andThen p).newName f.name := by
    rw [newName_andThen, newName_andThen, newName_eq q, newName_eq p, newName_eq p, newName_eq q,
      ← getD_or, ← getD_or, or_comm_of_not_both (h .name)]
  have hlabel : (p.andThen q).label = (q.andThen p).label := or_comm_of_not_both (h .label)
  have hrequired : (p.andThen q).required = (q.andThen p).required :=
    or_comm_of_not_both (h .required)
  simp only [Field.patch, newLabel, hname, hlabel, hrequired, attributes_andThen_comm hp hq h]

end FieldPatch

namespace Field

/-- Patches of the kind of a field are never refused, and one after the other they do what
the patch made of both does.  Hence a patch may be repeated, the empty patch does nothing,
and patches that set no member in common may be exchanged. -/
theorem patch_compose (f : Field) :
    (∀ p q : FieldPatch, p.Fits f → q.Fits f →
      ∃ g h, f.patch p = .ok g ∧ g.patch q = .ok h ∧ f.patch (p.andThen q) = .ok h) ∧
    (∀ p : FieldPatch, (f.patch p >>= fun g => g.patch p) = f.patch p) ∧
    f.patch {} = .ok f ∧
    ∀ p q : FieldPatch, p.Fits f → q.Fits f → (∀ m, ¬ (p.Sets m ∧ q.Sets m)) →
      ∃ g g' h, f.patch p = .ok g ∧ g.patch q = .ok h ∧ f.patch q = .ok g' ∧
        g'.patch p = .ok h := by
  refine ⟨fun p q hp hq => FieldPatch.patch_andThen hp hq, fun p => ?_, rfl,
    fun p q hp hq hsets => ?_⟩
  · cases hpatch : f.patch p with
    | error why => rfl
    | ok g =>
      have hp := FieldPatch.fits_of_patch hpatch
      obtain ⟨g', h, hg, hh, hboth⟩ := FieldPatch.patch_andThen hp hp
      -- the patch made of both is the patch itself
      rw [p.andThen_self, hg] at hboth
      obtain rfl := Except.ok.inj hboth
      obtain rfl := Except.ok.inj (hg.symm.trans hpatch)
      exact hh
  · obtain ⟨g, h, hg, hh, hpq⟩ := FieldPatch.patch_andThen hp hq
    obtain ⟨g', h', hg', hh', hqp⟩ := FieldPatch.patch_andThen hq hp
    rw [FieldPatch.patch_andThen_comm hp hq hsets, hqp] at hpq
    obtain rfl := Except.ok.inj hpq
    exact ⟨g, g', h', hg, hh, hg', hh'⟩

/-- One patch clears a number and comes with an empty name, the other one gives a name and
clears the label. -/
theorem patch_compose_cleared :
    let f : Field :=
      { id := "a", name := "n", label := some "N"
        attributes := .number { min := some .one, initial := some .one } }
    let p : FieldPatch :=
      { name := some "", required := some true
        attributes := some (.number { max := .set .one, initial := .clear }) }
    let q : FieldPatch :=
      { name := some "m", label := some "", attributes := some (.number { min := .clear }) }
    let new : Field :=
      { id := "a", name := "m", required := true, attributes := .number { max := some .one } }
    p.Fits f ∧ q.Fits f ∧ (∀ m, ¬ (p.Sets m ∧ q.Sets m)) ∧ f.patch (p.andThen q) = .ok new ∧
      ∃ g, f.patch q = .ok g ∧ g.patch p = .ok new := by
  intro f p q new
  have hp : p.Fits f := fun a ha => by obtain rfl := Option.some.inj ha; rfl
  have hq : q.Fits f := fun a ha => by obtain rfl := Option.some.inj ha; rfl
  have hsets : ∀ m, ¬ (p.Sets m ∧ q.Sets m) := by
    intro m
    cases m <;> simp [p, q, FieldPatch.Sets, AttributesPatch.Sets]
  obtain ⟨hcompose, -, -, hcomm⟩ := patch_compose f
  obtain ⟨g, h, hg, hh, hpq⟩ := hcompose p q hp hq
  obtain ⟨_, g', h', hg₁, hh₁, hg', hh'⟩ := hcomm p q hp hq hsets
  have hnew : f.patch (p.andThen q) = .ok new := rfl
  obtain rfl := Except.ok.inj (hpq.symm.trans hnew)
  obtain rfl := Except.ok.inj (hg₁.symm.trans hg)
  obtain rfl := Except.ok.inj (hh₁.symm.trans hh)
  exact ⟨hp, hq, hsets, hnew, g', hg', hh'⟩

end Field
end FormBuilder
