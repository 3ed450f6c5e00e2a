import FormBuilder.Field.Kind
import FormBuilder.Number.Binary64

/-!
Form fields.  The attributes of a field decide its kind; an attribute that is not
set is `none`.
-/

namespace FormBuilder

/-- One of the options of a select or radio field. -/
structure Choice where
  label : String
  value : String
  deriving DecidableEq

structure TextInput where
  placeholder : Option String := none
  initial : Option String := none
  deriving DecidableEq

structure NumberInput where
  min : Option Binary64 := none
  max : Option Binary64 := none
  step : Option Binary64 := none
  initial : Option Binary64 := none
  deriving DecidableEq

structure TextArea where
  rows : Option UInt32 := none
  placeholder : Option String := none
  initial : Option String := none
  deriving DecidableEq

structure ChoiceList where
  options : List Choice := []
  initial : Option String := none
  deriving DecidableEq

structure Toggle where
  checked : Option Bool := none
  deriving DecidableEq

/-- Dates are texts `YYYY-MM-DD`, kept as they are. -/
structure DateInput where
  min : Option String := none
  max : Option String := none
  initial : Option String := none
  deriving DecidableEq

/-- The step between numbers when none is set. -/
def NumberInput.stepOrDefault (n : NumberInput) : Binary64 := n.step.getD .one

/-- The height of a text area when none is set. -/
def TextArea.rowsOrDefault (t : TextArea) : UInt32 := t.rows.getD 4

inductive Attributes where
  | text (t : TextInput)
  | number (n : NumberInput)
  | textarea (t : TextArea)
  | select (c : ChoiceList)
  | radio (c : ChoiceList)
  | checkbox (t : Toggle)
  | switch (t : Toggle)
  | date (d : DateInput)
  deriving DecidableEq

namespace Attributes

def kind : Attributes → Kind
  | text _ => .text
  | number _ => .number
  | textarea _ => .textarea
  | select _ => .select
  | radio _ => .radio
  | checkbox _ => .checkbox
  | switch _ => .switch
  | date _ => .date

/-- The options of a select or radio field. -/
def options? : Attributes → Option (List Choice)
  | select c | radio c => some c.options
  | _ => none

end Attributes

/-- The name of a field within one form. -/
abbrev FieldId := String

structure Field where
  id : FieldId
  name : String
  label : Option String := none
  required : Bool := false
  attributes : Attributes
  deriving DecidableEq

namespace Field

def kind (f : Field) : Kind := f.attributes.kind

/-- The label, or the name when the label is missing or empty. -/
def displayLabel (f : Field) : String :=
  match f.label with
  | some label => if label = "" then f.name else label
  | none => f.name

/-- The text beside the control.  A star marks a required field. -/
def caption (f : Field) : String :=
  if f.required then f.displayLabel ++ " *" else f.displayLabel

end Field

/-- The names that occur more than once, each once, in the order in which they
occur for the second time. -/
def duplicateNames (fields : List Field) : List String :=
  go [] [] (fields.map Field.name)
where
  go (seen found : List String) : List String → List String
    | [] => found
    | n :: rest =>
      if n ∈ seen ∧ n ∉ found then go seen (found ++ [n]) rest
      else go (n :: seen) found rest

end FormBuilder
