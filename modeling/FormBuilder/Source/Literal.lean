import FormBuilder.Field.Value
import FormBuilder.Json.Quoted

/-!
Values as they stand in generated source.
-/

namespace FormBuilder
namespace Source

/-- A literal in double quotes.  Quotes, backslashes and line breaks of the text
are escaped, so the literal ends where it seems to. -/
def string (s : String) : List Char := Quoted.encode s.toList

def braces (code : List Char) : List Char := '\x7b' :: (code ++ ['\x7d'])

/-- A string literal where markup stands. -/
def expression (s : String) : List Char := braces (string s)

def value : Value → List Char
  | .bool true => ['t', 'r', 'u', 'e']
  | .bool false => ['f', 'a', 'l', 's', 'e']
  | .number x => Value.formatNumber x
  | .text s => string s
  | .absent => "undefined".toList

end Source
end FormBuilder
