import FormBuilder.Field.Basic

/-!
Partial updates of fields.  A patch never changes the kind: one with attributes of
another kind is refused as a whole.
-/

namespace FormBuilder

/-- What a patch does to an attribute that may be unset. -/
inductive Change (α : Type) where
  | keep
  | clear
  | set (a : α)
  deriving DecidableEq

def Change.apply {α : Type} : Change α → Option α → Option α
  | keep, old => old
  | clear, _ => none
  | set a, _ => some a

structure TextPatch where
  placeholder : Change String := .keep
  initial : Change String := .keep
  deriving DecidableEq

structure NumberPatch where
  min : Change Binary64 := .keep
  max : Change Binary64 := .keep
  step : Change Binary64 := .keep
  initial : Change Binary64 := .keep
  deriving DecidableEq

structure TextAreaPatch where
  rows : Change UInt32 := .keep
  placeholder : Change String := .keep
  initial : Change String := .keep
  deriving DecidableEq

/-- Options are replaced as a list or kept. -/
structure ChoicePatch where
  options : Option (List Choice) := none
  initial : Change String := .keep
  deriving DecidableEq

structure TogglePatch where
  checked : Change Bool := .keep
  deriving DecidableEq

structure DatePatch where
  min : Change String := .keep
  max : Change String := .keep
  initial : Change String := .keep
  deriving DecidableEq

def TextPatch.apply (p : TextPatch) (t : TextInput) : TextInput :=
  ⟨p.placeholder.apply t.placeholder, p.initial.apply t.initial⟩

def NumberPatch.apply (p : NumberPatch) (n : NumberInput) : NumberInput :=
  ⟨p.min.apply n.min, p.max.apply n.max, p.step.apply n.step, p.initial.apply n.initial⟩

def TextAreaPatch.apply (p : TextAreaPatch) (t : TextArea) : TextArea :=
  ⟨p.rows.apply t.rows, p.placeholder.apply t.placeholder, p.initial.apply t.initial⟩

def ChoicePatch.apply (p : ChoicePatch) (c : ChoiceList) : ChoiceList :=
  ⟨p.options.getD c.options, p.initial.apply c.initial⟩

def TogglePatch.apply (p : TogglePatch) (t : Toggle) : Toggle := ⟨p.checked.apply t.checked⟩

def DatePatch.apply (p : DatePatch) (d : DateInput) : DateInput :=
  ⟨p.min.apply d.min, p.max.apply d.max, p.initial.apply d.initial⟩

inductive AttributesPatch where
  | text (p : TextPatch)
  | number (p : NumberPatch)
  | textarea (p : TextAreaPatch)
  | select (p : ChoicePatch)
  | radio (p : ChoicePatch)
  | checkbox (p : TogglePatch)
  | switch (p : TogglePatch)
  | date (p : DatePatch)
  deriving DecidableEq

namespace AttributesPatch

def kind : AttributesPatch → Kind
  | text _ => .text
  | number _ => .number
  | textarea _ => .textarea
  | select _ => .select
  | radio _ => .radio
  | checkbox _ => .checkbox
  | switch _ => .switch
  | date _ => .date

/-- Replaces the options of a select or radio field. -/
def replaceOptions? (kind : Kind) (options : List Choice) : Option AttributesPatch :=
  match kind with
  | .select => some (.select { options := some options })
  | .radio => some (.radio { options := some options })
  | _ => none

/-- The attributes after a patch, if it is of their kind. -/
def applyTo? : AttributesPatch → Attributes → Option Attributes
  | text p, .text t => some (.text (p.apply t))
  | number p, .number n => some (.number (p.apply n))
  | textarea p, .textarea t => some (.textarea (p.apply t))
  | select p, .select c => some (.select (p.apply c))
  | radio p, .radio c => some (.radio (p.apply c))
  | checkbox p, .checkbox t => some (.checkbox (p.apply t))
  | switch p, .switch t => some (.switch (p.apply t))
  | date p, .date d => some (.date (p.apply d))
  | _, _ => none

theorem isSome_applyTo? (p : AttributesPatch) (a : Attributes) :
    (p.applyTo? a).isSome ↔ p.kind = a.kind := by
  cases p <;> cases a <;> simp [applyTo?, kind, Attributes.kind]

end AttributesPatch

structure FieldPatch where
  name : Option String := none
  label : Option String := none
  required : Option Bool := none
  attributes : Option AttributesPatch := none
  deriving DecidableEq

inductive PatchError where
  | kindMismatch (expected got : Kind)
  | optionOutOfBounds (index length : Nat)
  deriving DecidableEq

def PatchError.message : PatchError → String
  | kindMismatch expected got =>
    s!"Patch for a {got.name} field cannot be applied to a {expected.name} field"
  | optionOutOfBounds index length =>
    s!"Option index {index} is out of bounds for {length} options"

namespace FieldPatch

/-- An empty name is no name. -/
def newName (p : FieldPatch) (old : String) : String :=
  match p.name with
  | some name => if name = "" then old else name
  | none => old

/-- An empty label is no label. -/
def newLabel (p : FieldPatch) (old : Option String) : Option String :=
  match p.label with
  | some label => if label = "" then none else some label
  | none => old

end FieldPatch

/-- The field after a patch. -/
def Field.patch (f : Field) (p : FieldPatch) : Except PatchError Field :=
  let changed (attributes : Attributes) : Field :=
    { f with
      name := p.newName f.name
      label := p.newLabel f.label
      required := p.required.getD f.required
      attributes }
  match p.attributes with
  | none => .ok (changed f.attributes)
  | some a =>
    match a.applyTo? f.attributes with
    | some attributes => .ok (changed attributes)
    | none => .error (.kindMismatch f.kind a.kind)

end FormBuilder
