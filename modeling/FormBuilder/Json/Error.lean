import FormBuilder.Json.Printer
import FormBuilder.Text.Visible

/-!
Why a JSON text, or a value of it, is refused.
-/

namespace FormBuilder
namespace Json

/-- Text that is not JSON. -/
inductive Malformed where
  | expectedValue
  | expectedIdent
  | invalidNumber
  | numberOutOfRange
  | invalidEscape
  | endOfHexEscape
  | loneSurrogate
  | controlCharacter
  | keyNotString
  | expectedColon
  | expectedCommaOrBrace
  | expectedCommaOrBracket
  | trailingComma
  | trailingCharacters
  | tooDeep
  deriving DecidableEq

def Malformed.message : Malformed → String
  | expectedValue => "expected value"
  | expectedIdent => "expected ident"
  | invalidNumber => "invalid number"
  | numberOutOfRange => "number out of range"
  | invalidEscape => "invalid escape"
  | endOfHexEscape => "unexpected end of hex escape"
  | loneSurrogate => "lone leading surrogate in hex escape"
  | controlCharacter => "control character (\\u0000-\\u001F) found while parsing a string"
  | keyNotString => "key must be a string"
  | expectedColon => "expected `:`"
  | expectedCommaOrBrace => "expected `,` or `\x7d`"
  | expectedCommaOrBracket => "expected `,` or `]`"
  | trailingComma => "trailing comma"
  | trailingCharacters => "trailing characters"
  | tooDeep => "recursion limit exceeded"

/-- What the text ends in the middle of. -/
inductive Unfinished where
  | value
  | array
  | object
  | string
  deriving DecidableEq

def Unfinished.message : Unfinished → String
  | value => "EOF while parsing a value"
  | array => "EOF while parsing a list"
  | object => "EOF while parsing an object"
  | string => "EOF while parsing a string"

/-- As much of a value as a complaint about it names. -/
inductive Glimpse where
  | null
  | bool (b : Bool)
  | int (n : Int)
  | float (x : Binary64)
  | string (s : String)
  | sequence
  | map
  deriving DecidableEq

def glimpse : Json → Glimpse
  | .null => .null
  | .bool b => .bool b
  | .int n => .int n
  | .float x => .float x
  | .string s => .string s
  | .array _ => .sequence
  | .object _ => .map

def Glimpse.message : Glimpse → String
  | null => "null"
  | bool b => s!"boolean `{b}`"
  | int n => s!"integer `{String.ofList (intText n)}`"
  | float x => s!"floating point `{String.ofList (floatText x)}`"
  | string s => s!"string {Visible.quote s}"
  | sequence => "sequence"
  | map => "map"

/-- A value of the wrong shape. -/
inductive Mismatch where
  | wrongType (got : Glimpse) (wanted : String)
  | wrongValue (got : Glimpse) (wanted : String)
  | wrongLength (got : Nat) (wanted : String)
  | missingMember (name : String)
  | duplicateMember (name : String)
  | unknownMember (name : String) (known : List String)
  | unknownVariant (name : String) (known : List String)
  | noVariant (type : String)
  deriving DecidableEq

/-- A choice of names: one, two, or a list of more. -/
def oneOf : List String → String
  | [a] => s!"`{a}`"
  | [a, b] => s!"`{a}` or `{b}`"
  | names => "one of " ++ ", ".intercalate (names.map fun name => s!"`{name}`")

def Mismatch.message : Mismatch → String
  | wrongType got wanted => s!"invalid type: {got.message}, expected {wanted}"
  | wrongValue got wanted => s!"invalid value: {got.message}, expected {wanted}"
  | wrongLength got wanted => s!"invalid length {got}, expected {wanted}"
  | missingMember name => s!"missing field `{name}`"
  | duplicateMember name => s!"duplicate field `{name}`"
  | unknownMember name known => s!"unknown field `{name}`, expected {oneOf known}"
  | unknownVariant name known => s!"unknown variant `{name}`, expected {oneOf known}"
  | noVariant type => s!"data did not match any variant of untagged enum {type}"

inductive Error where
  | malformed (why : Malformed)
  | unfinished (what : Unfinished)
  | mismatch (why : Mismatch)
  deriving DecidableEq

def Error.message : Error → String
  | malformed why => why.message
  | unfinished what => what.message
  | mismatch why => why.message

end Json
end FormBuilder
