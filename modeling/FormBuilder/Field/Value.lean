import FormBuilder.Field.Basic
import FormBuilder.Json.Printer

/-!
The values that fields hold while a form is filled in.
-/

namespace FormBuilder

/-- The double next to a millionth. -/
def Magnitude.millionth : Magnitude := ⟨⟨0x3EB0C6F7A0B5ED8D, by decide⟩⟩

/-- The double `10 ^ 21`. -/
def Magnitude.sextillion : Magnitude := ⟨⟨0x444B1AE4D6E2EF50, by decide⟩⟩

/-- `absent` is the state of a number field that is empty. -/
inductive Value where
  | bool (b : Bool)
  | number (x : Binary64)
  | text (s : String)
  | absent
  deriving DecidableEq

namespace Value

/-- Numbers as a form shows them: without an exponent from a millionth up to below
`10 ^ 21`, whole numbers without a point, zeros without a sign. -/
def numberStyle : NumberStyle where
  tie := .up
  positional := fun m _ => decide (.millionth ≤ m) && decide (m < .sextillion)
  wholeMark := []
  signedZero := false

def formatNumber : Binary64 → List Char
  | .nan => ['N', 'a', 'N']
  | .infinite false => ['I', 'n', 'f', 'i', 'n', 'i', 't', 'y']
  | .infinite true => ['-', 'I', 'n', 'f', 'i', 'n', 'i', 't', 'y']
  | .finite negative m => numberStyle.finite negative m

def isAbsent : Value → Bool
  | absent => true
  | _ => false

/-- Does the value count as false in a condition? -/
def isFalsy : Value → Bool
  | bool b => !b
  | number x => x.isZero || x.isNaN
  | text s => s = ""
  | absent => true

def isZero : Value → Bool
  | number x => x.isZero
  | _ => false

/-- The text that a control shows. -/
def display : Value → String
  | bool true => "true"
  | bool false => "false"
  | number x => String.ofList (formatNumber x)
  | text s => s
  | absent => ""

/-- What is submitted, unless the value is absent. -/
def toJson? : Value → Option Json
  | bool b => some (.bool b)
  | number x => some (if x.isFinite then .float x else .null)
  | text s => some (.string s)
  | absent => none

def ofJson? : Json → Option Value
  | .null => some .absent
  | .bool b => some (.bool b)
  | .int n => some (.number ((Decimal.mk n.natAbs 0).toBinary64 (decide (n < 0))))
  | .float x => some (.number x)
  | .string s => some (.text s)
  | _ => none

end Value

/-- The value that a field starts with. -/
def Field.initialValue (f : Field) : Value :=
  match f.attributes with
  | .text t => .text (t.initial.getD "")
  | .textarea t => .text (t.initial.getD "")
  | .number n =>
    match n.initial with
    | some x => .number x
    | none => .absent
  | .select c | .radio c =>
    .text ((c.initial.or (c.options.head?.map Choice.value)).getD "")
  | .checkbox t | .switch t => .bool (t.checked.getD false)
  | .date d => .text (d.initial.getD "")

end FormBuilder
