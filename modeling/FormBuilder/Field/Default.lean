import FormBuilder.Field.Basic

/-!
What a new field starts with.
-/

namespace FormBuilder

namespace Choice

/-- The option that is appended to a list. -/
def new : Choice := ⟨"New", "new"⟩

end Choice

/-- The attributes of a new field. -/
def Kind.defaultAttributes : Kind → Attributes
  | text => .text { placeholder := some "Enter text", initial := some "" }
  | number => .number { step := some .one }
  | textarea =>
    .textarea { rows := some 4, placeholder := some "Enter details", initial := some "" }
  | select =>
    .select { options := [⟨"Option A", "a"⟩, ⟨"Option B", "b"⟩], initial := some "a" }
  | radio => .radio { options := [⟨"Yes", "yes"⟩, ⟨"No", "no"⟩], initial := some "yes" }
  | checkbox => .checkbox { checked := some false }
  | switch => .switch { checked := some false }
  | date => .date { initial := some "" }

theorem Kind.kind_defaultAttributes (k : Kind) : k.defaultAttributes.kind = k := by
  cases k <;> rfl

/-- The label of a new field: the name of its kind in capitals. -/
def Kind.title (k : Kind) : String := String.ofList (k.name.toList.map Char.toUpper)

/-- A new field, named after its kind and the first characters of its id. -/
def Field.new (id : FieldId) (kind : Kind) (suffixLength : Nat) : Field where
  id
  name := kind.name ++ "_" ++ String.ofList (id.toList.take suffixLength)
  label := some kind.title
  required := false
  attributes := kind.defaultAttributes

end FormBuilder
