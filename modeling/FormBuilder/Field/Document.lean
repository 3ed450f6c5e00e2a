import FormBuilder.Field.Basic
import FormBuilder.Json.Shape

/-!
The JSON form of fields.  The members `id`, `name`, `label` and `required` are
checked one by one as they come.  The others are set aside; once all are there,
`kind` is looked for among them, and the rest must be attributes of that kind.
-/

namespace FormBuilder

open Json (Mismatch)

/-! ## Kinds and options -/

/-- A kind is given by its name or by its index. -/
def Kind.ofJson : Json → Except Mismatch Kind
  | .string name =>
    match ofName? name with
    | some kind => .ok kind
    | none => .error (.unknownVariant name names)
  | .int (.ofNat n) =>
    match all[n]? with
    | some kind => .ok kind
    | none => .error (.wrongValue (.int (.ofNat n)) "variant index 0 <= i < 8")
  | v => v.wrongType "variant identifier"

namespace Choice

def toJson (c : Choice) : Json :=
  .object [("label", .string c.label), ("value", .string c.value)]

/-- An option of which not all members have been read. -/
structure Draft where
  label : Option String := none
  value : Option String := none

namespace Draft

def isMember (name : String) : Bool := name = "label" || name = "value"

/-- A member may come once. -/
def checkNew (d : Draft) (name : String) : Except Mismatch Unit :=
  if (name = "label" ∧ d.label.isSome) ∨ (name = "value" ∧ d.value.isSome) then
    .error (.duplicateMember name)
  else .ok ()

def add (d : Draft) (name : String) (v : Json) : Except Mismatch Draft :=
  if name = "label" then do .ok { d with label := some (← v.asString) }
  else if name = "value" then do .ok { d with value := some (← v.asString) }
  else .ok d

def finish (d : Draft) : Except Mismatch Choice :=
  match d.label, d.value with
  | none, _ => .error (.missingMember "label")
  | _, none => .error (.missingMember "value")
  | some label, some value => .ok ⟨label, value⟩

end Draft

def typeName : String := "struct FieldOption"

def tooShort (n : Nat) : Mismatch := .wrongLength n (typeName ++ " with 2 elements")

def ofMembers (members : List (String × Json)) : Except Mismatch Choice := do
  let draft ← members.foldlM (fun (d : Draft) (name, v) => do
    d.checkNew name
    d.add name v) {}
  draft.finish

def ofItems : List Json → Except Mismatch Choice
  | [] => .error (tooShort 0)
  | [label] => do
    let _ ← label.asString
    .error (tooShort 1)
  | label :: value :: rest => do
    let c : Choice := ⟨← label.asString, ← value.asString⟩
    if rest = [] then .ok c
    else .error (.wrongLength (rest.length + 2) "2 elements in sequence")

/-- An option is an object, or an array of its label and its value. -/
def ofJson : Json → Except Mismatch Choice
  | .object members => ofMembers members
  | .array items => ofItems items
  | v => v.wrongType typeName

end Choice

/-! ## Attributes -/

namespace Kind

/-- The attributes that fields of a kind may have. -/
def attributeNames : Kind → List String
  | text => ["placeholder", "defaultValue"]
  | number => ["min", "max", "step", "defaultValue"]
  | textarea => ["rows", "placeholder", "defaultValue"]
  | select | radio => ["options", "defaultValue"]
  | checkbox | switch => ["defaultChecked"]
  | date => ["min", "max", "defaultValue"]

/-- Attributes of which none is set. -/
def blank : Kind → Attributes
  | text => .text {}
  | number => .number {}
  | textarea => .textarea {}
  | select => .select {}
  | radio => .radio {}
  | checkbox => .checkbox {}
  | switch => .switch {}
  | date => .date {}

end Kind

namespace Attributes

open Json (optionalMember asOptional)

def toMembers : Attributes → List (String × Json)
  | text t =>
    optionalMember "placeholder" .string t.placeholder ++
    optionalMember "defaultValue" .string t.initial
  | number n =>
    optionalMember "min" .float n.min ++
    optionalMember "max" .float n.max ++
    optionalMember "step" .float n.step ++
    optionalMember "defaultValue" .float n.initial
  | textarea t =>
    optionalMember "rows" (fun rows => .int rows.toNat) t.rows ++
    optionalMember "placeholder" .string t.placeholder ++
    optionalMember "defaultValue" .string t.initial
  | select c | radio c =>
    ("options", .array (c.options.map Choice.toJson)) ::
    optionalMember "defaultValue" .string c.initial
  | checkbox t | switch t => optionalMember "defaultChecked" .bool t.checked
  | date d =>
    optionalMember "min" .string d.min ++
    optionalMember "max" .string d.max ++
    optionalMember "defaultValue" .string d.initial

def unknown (kind : Kind) (name : String) : Except Mismatch Attributes :=
  .error (.unknownMember name kind.attributeNames)

def optionsOfJson (v : Json) : Except Mismatch (List Choice) := do
  (← v.asArray).mapM Choice.ofJson

def setText (t : TextInput) (name : String) (v : Json) : Except Mismatch Attributes :=
  match name with
  | "placeholder" => do .ok (text { t with placeholder := ← asOptional Json.asString v })
  | "defaultValue" => do .ok (text { t with initial := ← asOptional Json.asString v })
  | _ => unknown .text name

def setNumber (n : NumberInput) (name : String) (v : Json) : Except Mismatch Attributes :=
  match name with
  | "min" => do .ok (number { n with min := ← asOptional Json.asDouble v })
  | "max" => do .ok (number { n with max := ← asOptional Json.asDouble v })
  | "step" => do .ok (number { n with step := ← asOptional Json.asDouble v })
  | "defaultValue" => do .ok (number { n with initial := ← asOptional Json.asDouble v })
  | _ => unknown .number name

def setTextArea (t : TextArea) (name : String) (v : Json) : Except Mismatch Attributes :=
  match name with
  | "rows" => do .ok (textarea { t with rows := ← asOptional Json.asWord32 v })
  | "placeholder" => do .ok (textarea { t with placeholder := ← asOptional Json.asString v })
  | "defaultValue" => do .ok (textarea { t with initial := ← asOptional Json.asString v })
  | _ => unknown .textarea name

def setChoice (kind : Kind) (wrap : ChoiceList → Attributes) (c : ChoiceList) (name : String)
    (v : Json) : Except Mismatch Attributes :=
  match name with
  | "options" => do .ok (wrap { c with options := ← optionsOfJson v })
  | "defaultValue" => do .ok (wrap { c with initial := ← asOptional Json.asString v })
  | _ => unknown kind name

def setToggle (kind : Kind) (wrap : Toggle → Attributes) (name : String) (v : Json) :
    Except Mismatch Attributes :=
  match name with
  | "defaultChecked" => do .ok (wrap { checked := ← asOptional Json.asBool v })
  | _ => unknown kind name

def setDate (d : DateInput) (name : String) (v : Json) : Except Mismatch Attributes :=
  match name with
  | "min" => do .ok (date { d with min := ← asOptional Json.asString v })
  | "max" => do .ok (date { d with max := ← asOptional Json.asString v })
  | "defaultValue" => do .ok (date { d with initial := ← asOptional Json.asString v })
  | _ => unknown .date name

/-- The attributes with one of them read from its member. -/
def set (name : String) (v : Json) : Attributes → Except Mismatch Attributes
  | text t => setText t name v
  | number n => setNumber n name v
  | textarea t => setTextArea t name v
  | select c => setChoice .select select c name v
  | radio c => setChoice .radio radio c name v
  | checkbox _ => setToggle .checkbox checkbox name v
  | switch _ => setToggle .switch switch name v
  | date d => setDate d name v

/-- Reads members one after another; `seen` are the names of those before them. -/
def addMembers (seen : List String) (a : Attributes) :
    List (String × Json) → Except Mismatch Attributes
  | [] => .ok a
  | (name, v) :: rest =>
    if name ∈ seen then .error (.duplicateMember name)
    else do addMembers (name :: seen) (← a.set name v) rest

end Attributes

/-! ## Fields -/

/-- The kind among the members set aside, and the members without it. -/
def splitKind (found : Option Kind) (others : List (String × Json)) :
    List (String × Json) → Except Mismatch (Kind × List (String × Json))
  | [] =>
    match found with
    | some kind => .ok (kind, others)
    | none => .error (.missingMember "kind")
  | (name, v) :: rest =>
    if name = "kind" then
      if found.isSome then .error (.duplicateMember "kind")
      else do splitKind (some (← Kind.ofJson v)) others rest
    else splitKind found (others ++ [(name, v)]) rest

namespace Field

def typeName : String := "struct FieldDefinition"

def toMembers (f : Field) : List (String × Json) :=
  [("id", .string f.id), ("name", .string f.name)] ++
  Json.optionalMember "label" .string f.label ++
  [("required", .bool f.required), ("kind", .string f.kind.name)] ++
  f.attributes.toMembers

def toJson (f : Field) : Json := .object f.toMembers

/-- A field of which not all members have been read. -/
structure Draft where
  id : Option String := none
  name : Option String := none
  label : Option (Option String) := none
  required : Option Bool := none
  others : List (String × Json) := []

namespace Draft

/-- What a member must be, if it is not set aside. -/
def wanted? : String → Option String
  | "id" | "name" | "label" => some "a string"
  | "required" => some "a boolean"
  | _ => none

def has (d : Draft) : String → Bool
  | "id" => d.id.isSome
  | "name" => d.name.isSome
  | "label" => d.label.isSome
  | "required" => d.required.isSome
  | _ => false

/-- A member that is not set aside may come once. -/
def checkNew (d : Draft) (name : String) : Except Mismatch Unit :=
  if d.has name then .error (.duplicateMember name) else .ok ()

def add (d : Draft) (name : String) (v : Json) : Except Mismatch Draft :=
  match name with
  | "id" => do .ok { d with id := some (← v.asString) }
  | "name" => do .ok { d with name := some (← v.asString) }
  | "label" => do .ok { d with label := some (← Json.asOptional Json.asString v) }
  | "required" => do .ok { d with required := some (← v.asBool) }
  | _ => .ok { d with others := d.others ++ [(name, v)] }

def finish (d : Draft) : Except Mismatch Field :=
  match d.id, d.name with
  | none, _ => .error (.missingMember "id")
  | _, none => .error (.missingMember "name")
  | some id, some name => do
    let (kind, members) ← splitKind none [] d.others
    let attributes ← kind.blank.addMembers [] members
    .ok
      { id, name, attributes
        label := d.label.join
        required := d.required.getD false }

end Draft

def ofMembers (members : List (String × Json)) : Except Mismatch Field := do
  let draft ← members.foldlM (fun (d : Draft) (name, v) => do
    d.checkNew name
    d.add name v) {}
  draft.finish

def ofJson : Json → Except Mismatch Field
  | .object members => ofMembers members
  | v => v.wrongType typeName

end Field

def fieldsToJson (fields : List Field) : Json := .array (fields.map Field.toJson)

def fieldsOfJson (v : Json) : Except Mismatch (List Field) := do
  (← v.asArray).mapM Field.ofJson

end FormBuilder
