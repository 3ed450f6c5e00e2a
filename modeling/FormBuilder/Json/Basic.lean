import FormBuilder.Number.Binary64

/-!
JSON values.  Members keep their order and their repetitions.  Integers that fit
64 bits, signed or not, are kept apart from the other numbers, which are doubles.
-/

namespace FormBuilder

inductive Json where
  | null
  | bool (b : Bool)
  | int (n : Int)
  | float (x : Binary64)
  | string (s : String)
  | array (items : List Json)
  | object (members : List (String × Json))

namespace Json

/-- The range of the integers that are not read as doubles. -/
def isInteger (n : Int) : Bool := -0x8000000000000000 ≤ n && n < 0x10000000000000000

/-- The value of the first member so named. -/
def member? (key : String) : Json → Option Json
  | .object members => members.lookup key
  | _ => none

end Json
end FormBuilder
