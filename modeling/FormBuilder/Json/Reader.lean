import FormBuilder.Json.Error
import FormBuilder.Number.Decimal

/-!
Strict reading of JSON text from left to right.  A reader takes the characters
still unread and returns a value with those it left; the first problem met is
the one reported.  `nextItem` and `nextKey` hold the rules for commas and closing
brackets, and everything that reads an array or an object goes through them.
-/

namespace FormBuilder
namespace Json

/-- A value that has been read, and the characters after it. -/
abbrev Read (α : Type) := α × List Char

abbrev Reader (α : Type) := List Char → Except Error (Read α)

def isBlank (c : Char) : Bool := c = ' ' || c = '\t' || c = '\n' || c = '\r'

def skipBlank (s : List Char) : List Char := s.dropWhile isBlank

/-! ## Words and numbers -/

/-- Reads the rest of a word whose first letter has been seen. -/
def readWord : List Char → List Char → Except Error (List Char)
  | [], s => .ok s
  | _ :: _, [] => .error (.unfinished .value)
  | c :: word, d :: s =>
    if c = d then readWord word s else .error (.malformed .expectedIdent)

/-- The value of a numeral without point and exponent.  Only doubles have a
negative zero. -/
def ofInteger (negative : Bool) (digits : List Char) : Except Error Json :=
  let n := Nat.ofDigitChars 10 digits 0
  let signed : Int := if negative then -n else n
  if (negative ∧ n = 0) ∨ ¬ isInteger signed then
    match (Decimal.mk n 0).magnitude? with
    | some m => .ok (.float (.finite negative m))
    | none => .error (.malformed .numberOutOfRange)
  else .ok (.int signed)

def ofDecimal (negative : Bool) (d : Decimal) : Except Error Json :=
  match d.magnitude? with
  | some m => .ok (.float (.finite negative m))
  | none => .error (.malformed .numberOutOfRange)

/-- Reads what follows the exponent mark. -/
def readExponent (negative : Bool) (whole fraction s : List Char) : Except Error (Read Json) := do
  let (down, s) := Numeral.splitSign s
  let (digits, rest) := Numeral.spanDigits s
  if digits = [] then
    .error (if s = [] then .unfinished .value else .malformed .invalidNumber)
  else
    let v ← ofDecimal negative
      (Decimal.ofParts whole fraction (Numeral.signedExponent down digits))
    .ok (v, rest)

/-- Reads what follows the digits before the point. -/
def readFraction (negative : Bool) (whole : List Char) : List Char → Except Error (Read Json)
  | '.' :: s => do
    let (fraction, rest) := Numeral.spanDigits s
    if fraction = [] then
      .error (if rest = [] then .unfinished .value else .malformed .invalidNumber)
    else match rest with
      | 'e' :: s | 'E' :: s => readExponent negative whole fraction s
      | rest =>
        let v ← ofDecimal negative (Decimal.ofParts whole fraction 0)
        .ok (v, rest)
  | 'e' :: s | 'E' :: s => readExponent negative whole [] s
  | rest => do
    let v ← ofInteger negative whole
    .ok (v, rest)

/-- Reads a number after its sign.  A leading zero stands alone. -/
def readNumber (negative : Bool) (s : List Char) : Except Error (Read Json) :=
  match Numeral.spanDigits s with
  | ([], []) => .error (.unfinished .value)
  | ([], _) => .error (.malformed .invalidNumber)
  | ('0' :: _ :: _, _) => .error (.malformed .invalidNumber)
  | (whole, rest) => readFraction negative whole rest

/-! ## Strings -/

def hexDigit? (c : Char) : Option Nat :=
  if c.isDigit then some (c.toNat - '0'.toNat)
  else if 'a' ≤ c ∧ c ≤ 'f' then some (c.toNat - 'a'.toNat + 10)
  else if 'A' ≤ c ∧ c ≤ 'F' then some (c.toNat - 'A'.toNat + 10)
  else none

def hexUnit (a b c d : Char) : Except Error Nat :=
  match hexDigit? a, hexDigit? b, hexDigit? c, hexDigit? d with
  | some a, some b, some c, some d => .ok (((a * 16 + b) * 16 + c) * 16 + d)
  | _, _, _, _ => .error (.malformed .invalidEscape)

/-- Fewer than four characters follow.  The text is cut short only when they are
fewer than four bytes, too. -/
def shortHex (s : List Char) : Error :=
  if (String.ofList s).utf8ByteSize < 4 then .unfinished .string else .malformed .invalidEscape

def isLeading (n : Nat) : Bool := 0xD800 ≤ n && n < 0xDC00

def isTrailing (n : Nat) : Bool := 0xDC00 ≤ n && n < 0xE000

def pairChar (leading trailing : Nat) : Char :=
  Char.ofNat (0x10000 + (leading - 0xD800) * 0x400 + (trailing - 0xDC00))

/-- What is wrong where the second half of a pair should stand. -/
def brokenPair : List Char → Error
  | [] | ['\\'] => .unfinished .string
  | '\\' :: 'u' :: rest => shortHex rest
  | _ => .malformed .endOfHexEscape

def escapedChar? : Char → Option Char
  | '"' => some '"'
  | '\\' => some '\\'
  | '/' => some '/'
  | 'b' => some '\x08'
  | 'f' => some '\x0c'
  | 'n' => some '\n'
  | 'r' => some '\r'
  | 't' => some '\t'
  | _ => none

/-- Reads a string after its opening quote. -/
def readString : List Char → Except Error (Read (List Char))
  | [] => .error (.unfinished .string)
  | '"' :: rest => .ok ([], rest)
  | ['\\'] => .error (.unfinished .string)
  | '\\' :: 'u' :: a :: b :: c :: d :: rest => do
    let n ← hexUnit a b c d
    if isTrailing n then .error (.malformed .loneSurrogate)
    else if isLeading n then
      match rest with
      | '\\' :: 'u' :: a :: b :: c :: d :: rest => do
        let m ← hexUnit a b c d
        if isTrailing m then
          let (s, rest) ← readString rest
          .ok (pairChar n m :: s, rest)
        else .error (.malformed .loneSurrogate)
      | rest => .error (brokenPair rest)
    else
      let (s, rest) ← readString rest
      .ok (Char.ofNat n :: s, rest)
  | '\\' :: 'u' :: rest => .error (shortHex rest)
  | '\\' :: e :: rest =>
    match escapedChar? e with
    | none => .error (.malformed .invalidEscape)
    | some c => do
      let (s, rest) ← readString rest
      .ok (c :: s, rest)
  | c :: rest =>
    if c.toNat < 0x20 then .error (.malformed .controlCharacter)
    else do
      let (s, rest) ← readString rest
      .ok (c :: s, rest)

/-! ## Arrays and objects -/

/-- Either the array ends, or an item stands at the front. -/
inductive Next where
  | close (rest : List Char)
  | item (rest : List Char)

def nextItem (first : Bool) (s : List Char) : Except Error Next :=
  match skipBlank s with
  | [] => .error (.unfinished .array)
  | ']' :: rest => .ok (.close rest)
  | c :: rest =>
    if first then .ok (.item (c :: rest))
    else if c = ',' then
      match skipBlank rest with
      | [] => .error (.unfinished .value)
      | ']' :: _ => .error (.malformed .trailingComma)
      | rest => .ok (.item rest)
    else .error (.malformed .expectedCommaOrBracket)

/-- Either the object ends, or a key has been read. -/
inductive NextKey where
  | close (rest : List Char)
  | key (name : String) (rest : List Char)

def readKey (s : List Char) : Except Error NextKey := do
  let (name, rest) ← readString s
  .ok (.key (String.ofList name) rest)

def nextKey (first : Bool) (s : List Char) : Except Error NextKey :=
  match skipBlank s with
  | [] => .error (.unfinished .object)
  | '}' :: rest => .ok (.close rest)
  | c :: rest =>
    if first then
      if c = '"' then readKey rest else .error (.malformed .keyNotString)
    else if c = ',' then
      match skipBlank rest with
      | [] => .error (.unfinished .value)
      | '"' :: rest => readKey rest
      | '}' :: _ => .error (.malformed .trailingComma)
      | _ => .error (.malformed .keyNotString)
    else .error (.malformed .expectedCommaOrBrace)

def readColon (s : List Char) : Except Error (List Char) :=
  match skipBlank s with
  | [] => .error (.unfinished .object)
  | ':' :: rest => .ok rest
  | _ => .error (.malformed .expectedColon)

/-- Every item takes a character, so the length of the text bounds the loop. -/
def foldItems {σ : Type} (step : σ → Reader σ) :
    Nat → Bool → σ → List Char → Except Error (Read σ)
  | 0, _, _, _ => .error (.unfinished .array)
  | fuel + 1, first, acc, s => do
    match ← nextItem first s with
    | .close rest => .ok (acc, rest)
    | .item rest =>
      let (acc, rest) ← step acc rest
      foldItems step fuel false acc rest

def foldMembers {σ : Type} (step : σ → String → Reader σ) :
    Nat → Bool → σ → List Char → Except Error (Read σ)
  | 0, _, _, _ => .error (.unfinished .object)
  | fuel + 1, first, acc, s => do
    match ← nextKey first s with
    | .close rest => .ok (acc, rest)
    | .key name rest =>
      let (acc, rest) ← step acc name rest
      foldMembers step fuel false acc rest

/-- Reads an array after its opening bracket; `step` reads one item. -/
def readItems {σ : Type} (step : σ → Reader σ) (start : σ) (s : List Char) :
    Except Error (Read σ) :=
  foldItems step (s.length + 1) true start s

/-- Reads an object after its opening brace; `step` reads a colon and a value. -/
def readMembers {σ : Type} (step : σ → String → Reader σ) (start : σ)
    (s : List Char) : Except Error (Read σ) :=
  foldMembers step (s.length + 1) true start s

/-- After the last item that is wanted the array has to end. -/
def endItems (s : List Char) : Except Error (List Char) :=
  match skipBlank s with
  | [] => .error (.unfinished .array)
  | ']' :: rest => .ok rest
  | ',' :: rest =>
    match skipBlank rest with
    | ']' :: _ => .error (.malformed .trailingComma)
    | _ => .error (.malformed .trailingCharacters)
  | _ => .error (.malformed .trailingCharacters)

/-! ## Values -/

/-- Reads a value that is no array and no object, from its first character. -/
def readScalar : List Char → Except Error (Read Json)
  | [] => .error (.unfinished .value)
  | 'n' :: rest => do .ok (.null, ← readWord ['u', 'l', 'l'] rest)
  | 't' :: rest => do .ok (.bool true, ← readWord ['r', 'u', 'e'] rest)
  | 'f' :: rest => do .ok (.bool false, ← readWord ['a', 'l', 's', 'e'] rest)
  | '"' :: rest => do
    let (s, rest) ← readString rest
    .ok (.string (String.ofList s), rest)
  | '-' :: rest => readNumber true rest
  | c :: rest =>
    if c.isDigit then readNumber false (c :: rest)
    else .error (.malformed .expectedValue)

/-- Where a scalar is wanted, an array or an object is refused at its opening
bracket, before anything inside it is looked at. -/
def readFlat (wanted : String) (s : List Char) : Except Error (Read Json) :=
  match skipBlank s with
  | '[' :: _ => .error (.mismatch (.wrongType .sequence wanted))
  | '{' :: _ => .error (.mismatch (.wrongType .map wanted))
  | s => readScalar s

def readItem (value : Reader Json) (items : List Json) (s : List Char) :
    Except Error (Read (List Json)) := do
  let (v, rest) ← value s
  .ok (items ++ [v], rest)

def readMember (value : Reader Json) (members : List (String × Json))
    (name : String) (s : List Char) : Except Error (Read (List (String × Json))) := do
  let (v, rest) ← value (← readColon s)
  .ok (members ++ [(name, v)], rest)

/-- Reads any value; `inner` reads what stands inside brackets, unless they are
too deep already. -/
def readAny (inner : Option (Reader Json)) (s : List Char) : Except Error (Read Json) :=
  match skipBlank s, inner with
  | '[' :: rest, some value => do
    let (items, rest) ← readItems (readItem value) [] rest
    .ok (.array items, rest)
  | '{' :: rest, some value => do
    let (members, rest) ← readMembers (readMember value) [] rest
    .ok (.object members, rest)
  | '[' :: _, none | '{' :: _, none => .error (.malformed .tooDeep)
  | s, _ => readScalar s

/-- Reads a value with at most `depth` arrays and objects around each other. -/
def readValue : Nat → List Char → Except Error (Read Json)
  | 0 => readAny none
  | depth + 1 => readAny (some (readValue depth))

/-- How deep arrays and objects may nest in a text. -/
def maxDepth : Nat := 127

def endText (s : List Char) : Except Error Unit :=
  if skipBlank s = [] then .ok () else .error (.malformed .trailingCharacters)

/-- Reads a whole text with `reader`. -/
def readText {α : Type} (reader : Reader α) (text : String) : Except Error α := do
  let (a, rest) ← reader text.toList
  endText rest
  .ok a

/-- The value that a text spells. -/
def parse (text : String) : Except Error Json := readText (readValue maxDepth) text

end Json
end FormBuilder
