import FormBuilder.Field.Document
import FormBuilder.Field.Value
import FormBuilder.Json.Skip

/-!
Reading fields, options and values straight from text.  The rules are those for
values that have been read already, applied to each member as soon as it is there,
so a fault further left is reported before one further right, whatever they are.
-/

namespace FormBuilder

open Json

namespace Field

/-- Reads the colon and the value of one member.  `depth` bounds the brackets
inside a member that is set aside. -/
def readMember (depth : Nat) (d : Draft) (name : String) (s : List Char) :
    Except Error (Read Draft) := do
  orMismatch (d.checkNew name)
  let s ← readColon s
  let (v, rest) ← match Draft.wanted? name with
    | some wanted => readFlat wanted s
    | none => readValue depth s
  .ok (← orMismatch (d.add name v), rest)

def read (depth : Nat) (s : List Char) : Except Error (Read Field) :=
  match skipBlank s with
  | '{' :: rest => do
    let (d, rest) ← readMembers (readMember depth) {} rest
    .ok (← orMismatch d.finish, rest)
  | s => .error (refuse typeName s)

/-- Reads one more field of a list.  The list and the field are two brackets. -/
def readItem (fields : List Field) (s : List Char) : Except Error (Read (List Field)) := do
  let (f, rest) ← read (maxDepth - 2) s
  .ok (fields ++ [f], rest)

def readList (s : List Char) : Except Error (Read (List Field)) :=
  match skipBlank s with
  | '[' :: rest => readItems readItem [] rest
  | s => .error (refuse "a sequence" s)

end Field

/-- The fields of a document. -/
def parseFields (text : String) : Except Error (List Field) := readText Field.readList text

namespace Choice

def readMember (d : Draft) (name : String) (s : List Char) : Except Error (Read Draft) := do
  orMismatch (d.checkNew name)
  let s ← readColon s
  if Draft.isMember name then
    let (v, rest) ← readFlat "a string" s
    .ok (← orMismatch (d.add name v), rest)
  else .ok (d, ← skipValue s)

def readString (s : List Char) : Except Error (Read String) := do
  let (v, rest) ← readFlat "a string" s
  .ok (← orMismatch v.asString, rest)

/-- Reads one of two strings in an array, `index` being the number before it. -/
def readElement (index : Nat) (s : List Char) : Except Error (Read String) := do
  match ← nextItem (index = 0) s with
  | .close _ => .error (.mismatch (tooShort index))
  | .item rest => readString rest

def read (s : List Char) : Except Error (Read Choice) :=
  match skipBlank s with
  | '{' :: rest => do
    let (d, rest) ← readMembers readMember {} rest
    .ok (← orMismatch d.finish, rest)
  | '[' :: rest => do
    let (label, rest) ← readElement 0 rest
    let (value, rest) ← readElement 1 rest
    .ok (⟨label, value⟩, ← endItems rest)
  | s => .error (refuse typeName s)

def parse (text : String) : Except Error Choice := readText read text

end Choice

namespace Value

def read (s : List Char) : Except Error (Read Value) := do
  let (v, rest) ← readValue maxDepth s
  match ofJson? v with
  | some v => .ok (v, rest)
  | none => .error (.mismatch (.noVariant "FieldValue"))

def parse (text : String) : Except Error Value := readText read text

end Value
end FormBuilder
