import FormBuilder.Field.Value

/-!
Which values a field refuses.
-/

namespace FormBuilder

/-- Why a value is refused. -/
inductive Refusal where
  | required
  deriving DecidableEq

def Refusal.message : Refusal → String
  | required => "Required"

def Refusal.name : Refusal → String
  | required => "required"

/-- A refusal, with the name of the field that refused. -/
structure FieldError where
  field : String
  cause : Refusal
  deriving DecidableEq

namespace FieldError

/-- The text under the control. -/
def message (e : FieldError) : String := e.cause.message

/-- The text where no control shows which field is meant. -/
def text (e : FieldError) : String := s!"{e.field}: {e.cause.message}"

def toJson (e : FieldError) : Json :=
  .object [("kind", .string e.cause.name), ("field", .string e.field)]

end FieldError

inductive Rule where
  | required
  deriving DecidableEq

namespace Rule

def message : Rule → String
  | required => Refusal.required.message

/-- A required field refuses what counts as false, but takes zero. -/
def check : Rule → Value → Option Refusal
  | required, v => if v.isFalsy ∧ ¬ v.isZero then some .required else none

end Rule

namespace Field

def rule? (f : Field) : Option Rule := if f.required then some .required else none

/-- The error that a value causes in a field. -/
def validate (f : Field) (v : Value) : Option FieldError :=
  f.rule?.bind fun rule => (rule.check v).map fun cause => ⟨f.name, cause⟩

end Field
end FormBuilder
