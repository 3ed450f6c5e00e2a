import FormBuilder.Json.Reader

/-!
Taking a value for what it should be.
-/

namespace FormBuilder
namespace Json

def wrongType {α : Type} (v : Json) (wanted : String) : Except Mismatch α :=
  .error (.wrongType v.glimpse wanted)

def asString : Json → Except Mismatch String
  | .string s => .ok s
  | v => v.wrongType "a string"

def asBool : Json → Except Mismatch Bool
  | .bool b => .ok b
  | v => v.wrongType "a boolean"

/-- Every number is a double, integers too. -/
def asDouble : Json → Except Mismatch Binary64
  | .float x => .ok x
  | .int n => .ok ((Decimal.mk n.natAbs 0).toBinary64 (decide (n < 0)))
  | v => v.wrongType "f64"

/-- An integer below `bound`.  Numbers with a point are none, whatever their value. -/
def asNatBelow (bound : Nat) (wanted : String) : Json → Except Mismatch Nat
  | .int (.ofNat n) =>
    if n < bound then .ok n else .error (.wrongValue (.int (.ofNat n)) wanted)
  | .int n => .error (.wrongValue (.int n) wanted)
  | v => v.wrongType wanted

def asWord32 (v : Json) : Except Mismatch UInt32 :=
  (v.asNatBelow UInt32.size "u32").map UInt32.ofNat

def asSize (v : Json) : Except Mismatch Nat := v.asNatBelow UInt64.size "usize"

def asArray : Json → Except Mismatch (List Json)
  | .array items => .ok items
  | v => v.wrongType "a sequence"

/-- `null` stands for a value that is not there. -/
def asOptional {α : Type} (as : Json → Except Mismatch α) : Json → Except Mismatch (Option α)
  | .null => .ok none
  | v => (as v).map some

/-- A member that is left out when there is nothing to write. -/
def optionalMember {α : Type} (name : String) (toJson : α → Json) :
    Option α → List (String × Json)
  | none => []
  | some a => [(name, toJson a)]

def orMismatch {α : Type} : Except Mismatch α → Except Error α
  | .ok a => .ok a
  | .error why => .error (.mismatch why)

/-- The complaint about a value that is not of the wanted shape.  A scalar is read
first, and may be malformed. -/
def refuse (wanted : String) (s : List Char) : Error :=
  match readFlat wanted s with
  | .ok (v, _) => .mismatch (.wrongType v.glimpse wanted)
  | .error e => e

end Json
end FormBuilder
