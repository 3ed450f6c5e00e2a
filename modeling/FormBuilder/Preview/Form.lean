import FormBuilder.Field.Rule

/-!
The live form of a preview.  Values and errors hang on field names, so fields of
one name share them, and renaming a field is replacing it.  Both are functions of
the name: two forms are the same when they agree on every name, and each step is a
change at some names only.
-/

namespace FormBuilder

structure PreviewForm where
  /-- The value bound to a name. -/
  value : String → Option Value := fun _ => none
  /-- The error shown for a name. -/
  error : String → Option FieldError := fun _ => none

/-- Why a change is refused. -/
inductive PreviewError where
  | unboundName (name : String)
  deriving DecidableEq

def PreviewError.message : PreviewError → String
  | unboundName name => s!"No field is bound to '{name}'"

/-- The last field of a name. -/
def lastNamed? (name : String) (fields : List Field) : Option Field :=
  fields.reverse.find? (·.name = name)

namespace PreviewForm

/-- Each name starts with the initial value of the last field so named. -/
def start (fields : List Field) : PreviewForm where
  value name := (lastNamed? name fields).map Field.initialValue

/-- The value that a field shows. -/
def current (form : PreviewForm) (f : Field) : Value := (form.value f.name).getD .absent

/-- Follows a change of the field list.  A name keeps its value unless that is
absent; errors are forgotten. -/
def sync (form : PreviewForm) (fields : List Field) : PreviewForm where
  value name :=
    (lastNamed? name fields).map fun f =>
      match form.value name with
      | some v => if v.isAbsent then f.initialValue else v
      | none => f.initialValue

def setAt {α : Type} (name : String) (a : α) (old : String → α) : String → α :=
  fun other => if other = name then a else old other

/-- The first error that a value causes in the fields of a name. -/
def firstError (name : String) (v : Value) (fields : List Field) : Option FieldError :=
  (fields.filter (·.name = name)).findSome? (·.validate v)

/-- Sets the value of a name and validates it at once. -/
def change (form : PreviewForm) (fields : List Field) (name : String) (v : Value) :
    Except PreviewError PreviewForm :=
  if fields.any (·.name = name) then
    .ok
      { value := setAt name (some v) form.value
        error := setAt name (firstError name v fields) form.error }
  else .error (.unboundName name)

/-- One error for each name that has a field which refuses its value, in the order
of the first such fields. -/
def failures (form : PreviewForm) : List Field → List FieldError
  | [] => []
  | f :: rest =>
    match f.validate (form.current f) with
    | none => failures form rest
    | some e => e :: (failures form rest).filter (·.field ≠ e.field)

/-- A member of a list of members, in the place of the one with its name, if any. -/
def putMember (name : String) (v : Json) : List (String × Json) → List (String × Json)
  | [] => [(name, v)]
  | (other, old) :: rest =>
    if other = name then (name, v) :: rest else (other, old) :: putMember name v rest

/-- The values that are not absent, in the order of the first field of each name. -/
def members (form : PreviewForm) (fields : List Field) : List (String × Json) :=
  fields.foldl (fun out f =>
    match (form.current f).toJson? with
    | some v => putMember f.name v out
    | none => out) []

/-- Validates every field.  The submitted values, or all errors, with the form that
then shows exactly these errors. -/
def submit (form : PreviewForm) (fields : List Field) :
    Except (List FieldError) (List (String × Json)) × PreviewForm :=
  let errors := form.failures fields
  let shown := { form with error := fun name => errors.find? (·.field = name) }
  if errors = [] then (.ok (form.members fields), shown) else (.error errors, shown)

end PreviewForm
end FormBuilder
