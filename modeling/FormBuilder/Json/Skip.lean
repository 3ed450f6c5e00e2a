import FormBuilder.Json.Reader

/-!
Passing over the value of a member that nothing asks for.  It has to be JSON, but
its depth, its surrogates and the size of its numbers are free, and a comma
before a closing bracket is met as a missing value or key.
-/

namespace FormBuilder
namespace Json

def skipString : List Char → Except Error (List Char)
  | [] => .error (.unfinished .string)
  | '"' :: rest => .ok rest
  | ['\\'] => .error (.unfinished .string)
  | '\\' :: 'u' :: a :: b :: c :: d :: rest => do
    let _ ← hexUnit a b c d
    skipString rest
  | '\\' :: 'u' :: rest => .error (shortHex rest)
  | '\\' :: e :: rest =>
    match escapedChar? e with
    | none => .error (.malformed .invalidEscape)
    | some _ => skipString rest
  | c :: rest =>
    if c.toNat < 0x20 then .error (.malformed .controlCharacter) else skipString rest

def skipExponent (s : List Char) : Except Error (List Char) :=
  match Numeral.spanDigits (Numeral.splitSign s).2 with
  | ([], _) => .error (.malformed .invalidNumber)
  | (_, rest) => .ok rest

def skipFraction : List Char → Except Error (List Char)
  | '.' :: s =>
    match Numeral.spanDigits s with
    | ([], _) => .error (.malformed .invalidNumber)
    | (_, 'e' :: rest) | (_, 'E' :: rest) => skipExponent rest
    | (_, rest) => .ok rest
  | 'e' :: s | 'E' :: s => skipExponent s
  | rest => .ok rest

/-- Passes over a number after its sign. -/
def skipNumber (s : List Char) : Except Error (List Char) :=
  match Numeral.spanDigits s with
  | ([], _) | ('0' :: _ :: _, _) => .error (.malformed .invalidNumber)
  | (_, rest) => skipFraction rest

/-- An array or an object that is still open. -/
inductive Frame where
  | array
  | object
  deriving DecidableEq

def Frame.closing : Frame → Char
  | array => ']'
  | object => '\x7d'

def Frame.unfinished : Frame → Error
  | array => .unfinished .array
  | object => .unfinished .object

def Frame.expectedComma : Frame → Error
  | array => .malformed .expectedCommaOrBracket
  | object => .malformed .expectedCommaOrBrace

/-- Passes over a key and its colon. -/
def skipKey (s : List Char) : Except Error (List Char) :=
  match skipBlank s with
  | [] => .error (.unfinished .object)
  | '"' :: rest => do readColon (← skipString rest)
  | _ => .error (.malformed .keyNotString)

def skipScalar : List Char → Except Error (List Char)
  | [] => .error (.unfinished .value)
  | 'n' :: rest => readWord ['u', 'l', 'l'] rest
  | 't' :: rest => readWord ['r', 'u', 'e'] rest
  | 'f' :: rest => readWord ['a', 'l', 's', 'e'] rest
  | '"' :: rest => skipString rest
  | '-' :: rest => skipNumber rest
  | c :: rest =>
    if c.isDigit then skipNumber (c :: rest) else .error (.malformed .expectedValue)

mutual

/-- A value comes next, inside the frames `outer`, the innermost first. -/
def skipOpen (outer : List Frame) : Nat → List Char → Except Error (List Char)
  | 0, _ => .error (.unfinished .value)
  | fuel + 1, s =>
    match skipBlank s with
    | '[' :: rest => skipRest true (.array :: outer) fuel rest
    | '{' :: rest => skipRest true (.object :: outer) fuel rest
    | s => do skipRest false outer fuel (← skipScalar s)

/-- The innermost frame has just been opened, or a value in it has ended. -/
def skipRest (opened : Bool) : List Frame → Nat → List Char → Except Error (List Char)
  | [], _, s => .ok s
  | _, 0, _ => .error (.unfinished .value)
  | frame :: outer, fuel + 1, s =>
    match skipBlank s with
    | [] => .error frame.unfinished
    | c :: rest =>
      if c = frame.closing then skipRest false outer fuel rest
      else if opened then skipEntry (frame :: outer) frame fuel (c :: rest)
      else if c = ',' then skipEntry (frame :: outer) frame fuel rest
      else .error frame.expectedComma

/-- An item comes next, or a key and its value. -/
def skipEntry (outer : List Frame) : Frame → Nat → List Char → Except Error (List Char)
  | _, 0, _ => .error (.unfinished .value)
  | .array, fuel + 1, s => skipOpen outer fuel s
  | .object, fuel + 1, s => do skipOpen outer fuel (← skipKey s)

end

/-- Every character takes at most three steps. -/
def skipValue (s : List Char) : Except Error (List Char) :=
  skipOpen [] (3 * s.length + 3) s

end Json
end FormBuilder
