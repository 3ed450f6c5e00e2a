import FormBuilder.Field.Document
import FormBuilder.Preview.Form

/-!
What a preview shows: a control for each field, in order, and a button to submit
them if there are any.
-/

namespace FormBuilder

structure ChoiceView where
  label : String
  value : String
  checked : Bool
  deriving DecidableEq

inductive Control where
  | textInput (value placeholder : String)
  | numberInput (value : String) (min max : Option Binary64) (step : Binary64)
  | textArea (value : String) (rows : UInt32) (placeholder : String)
  | select (value : String) (options : List ChoiceView)
  | radioGroup (options : List ChoiceView)
  | checkbox (checked : Bool)
  | switch (checked : Bool)
  | dateInput (value : String) (min max : Option String)
  deriving DecidableEq

structure ControlView where
  id : FieldId
  kind : Kind
  name : String
  caption : String
  control : Control
  errors : List String
  deriving DecidableEq

structure PreviewView where
  controls : List ControlView
  submitVisible : Bool
  deriving DecidableEq

namespace Control

def choices (v : Value) (options : List Choice) : List ChoiceView :=
  options.map fun c => ⟨c.label, c.value, decide (v = .text c.value)⟩

/-- An empty bound is no bound. -/
def bound (date : Option String) : Option String := date.filter (· ≠ "")

/-- The control of a field that holds a value. -/
def ofField (f : Field) (v : Value) : Control :=
  match f.attributes with
  | .text t => .textInput v.display (t.placeholder.getD "")
  | .number n => .numberInput v.display n.min n.max n.stepOrDefault
  | .textarea t => .textArea v.display t.rowsOrDefault (t.placeholder.getD "")
  | .select c => .select v.display (choices v c.options)
  | .radio c => .radioGroup (choices v c.options)
  | .checkbox _ => .checkbox (!v.isFalsy)
  | .switch _ => .switch (!v.isFalsy)
  | .date d => .dateInput v.display (bound d.min) (bound d.max)

end Control

namespace PreviewForm

def controlView (form : PreviewForm) (f : Field) : ControlView where
  id := f.id
  kind := f.kind
  name := f.name
  caption := f.caption
  control := .ofField f (form.current f)
  errors := ((form.error f.name).map FieldError.message).toList

def render (form : PreviewForm) (fields : List Field) : PreviewView where
  controls := fields.map form.controlView
  submitVisible := !fields.isEmpty

end PreviewForm

/-! ## JSON -/

def orNull {α : Type} (toJson : α → Json) : Option α → Json
  | none => .null
  | some a => toJson a

def ChoiceView.toJson (c : ChoiceView) : Json :=
  .object [("label", .string c.label), ("value", .string c.value), ("checked", .bool c.checked)]

namespace Control

def typeName : Control → String
  | textInput .. => "text_input"
  | numberInput .. => "number_input"
  | textArea .. => "text_area"
  | select .. => "select"
  | radioGroup .. => "radio_group"
  | checkbox .. => "checkbox"
  | switch .. => "switch"
  | dateInput .. => "date_input"

def toMembers : Control → List (String × Json)
  | textInput value placeholder => [("value", .string value), ("placeholder", .string placeholder)]
  | numberInput value min max step =>
    [("value", .string value), ("min", orNull .float min), ("max", orNull .float max),
      ("step", .float step)]
  | textArea value rows placeholder =>
    [("value", .string value), ("rows", .int rows.toNat), ("placeholder", .string placeholder)]
  | select value options =>
    [("value", .string value), ("options", .array (options.map ChoiceView.toJson))]
  | radioGroup options => [("options", .array (options.map ChoiceView.toJson))]
  | checkbox checked | switch checked => [("checked", .bool checked)]
  | dateInput value min max =>
    [("value", .string value), ("min", orNull .string min), ("max", orNull .string max)]

def toJson (c : Control) : Json := .object (("type", .string c.typeName) :: c.toMembers)

end Control

def ControlView.toJson (c : ControlView) : Json :=
  .object
    [("id", .string c.id), ("kind", .string c.kind.name), ("name", .string c.name),
      ("caption", .string c.caption), ("control", c.control.toJson),
      ("errors", .array (c.errors.map .string))]

def PreviewView.toJson (v : PreviewView) : Json :=
  .object
    [("controls", .array (v.controls.map ControlView.toJson)),
      ("submit_visible", .bool v.submitVisible)]

/-- The view of a form nobody has touched yet, as an indented text. -/
def previewJson (fields : List Field) : String :=
  ((PreviewForm.start fields).render fields).toJson.pretty

end FormBuilder
