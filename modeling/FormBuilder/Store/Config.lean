import FormBuilder.Json.Shape
import FormBuilder.Json.Skip

/-!
How ids and names of new fields are made.
-/

namespace FormBuilder

structure StoreConfig where
  idLength : Nat := 8
  nameSuffixLength : Nat := 4
  deriving DecidableEq

namespace StoreConfig

open Json

def minIdLength : Nat := 4

def maxIdLength : Nat := 64

/-- Shorter ids would soon be used up. -/
def isValid (c : StoreConfig) : Bool := minIdLength ≤ c.idLength && c.idLength ≤ maxIdLength

/-- A name cannot take more from an id than there is. -/
def suffixLength (c : StoreConfig) : Nat := min c.nameSuffixLength c.idLength

def typeName : String := "struct StoreConfiguration"

/-- A configuration of which not all members have been read. -/
structure Draft where
  idLength : Option Nat := none
  nameSuffixLength : Option Nat := none

namespace Draft

def has (d : Draft) : String → Bool
  | "id_length" => d.idLength.isSome
  | "name_suffix_length" => d.nameSuffixLength.isSome
  | _ => false

def isMember (name : String) : Bool := name = "id_length" || name = "name_suffix_length"

def checkNew (d : Draft) (name : String) : Except Mismatch Unit :=
  if d.has name then .error (.duplicateMember name) else .ok ()

def add (d : Draft) (name : String) (v : Json) : Except Mismatch Draft :=
  match name with
  | "id_length" => do .ok { d with idLength := some (← v.asSize) }
  | "name_suffix_length" => do .ok { d with nameSuffixLength := some (← v.asSize) }
  | _ => .ok d

def finish (d : Draft) : StoreConfig :=
  let base : StoreConfig := {}
  ⟨d.idLength.getD base.idLength, d.nameSuffixLength.getD base.nameSuffixLength⟩

end Draft

def readSize (s : List Char) : Except Error (Read Nat) := do
  let (v, rest) ← readFlat "usize" s
  .ok (← orMismatch v.asSize, rest)

def readMember (d : Draft) (name : String) (s : List Char) : Except Error (Read Draft) := do
  orMismatch (d.checkNew name)
  let s ← readColon s
  if Draft.isMember name then
    let (v, rest) ← readFlat "usize" s
    .ok (← orMismatch (d.add name v), rest)
  else .ok (d, ← skipValue s)

/-- Reads up to two lengths after an opening bracket. -/
def readElements (s : List Char) : Except Error (Read StoreConfig) := do
  match ← nextItem true s with
  | .close rest => .ok ({}, rest)
  | .item s =>
    let (idLength, s) ← readSize s
    match ← nextItem false s with
    | .close rest => .ok ({ idLength }, rest)
    | .item s =>
      let (nameSuffixLength, s) ← readSize s
      .ok ({ idLength, nameSuffixLength }, ← endItems s)

/-- A configuration is an object, or an array of its lengths. -/
def read (s : List Char) : Except Error (Read StoreConfig) :=
  match skipBlank s with
  | '{' :: rest => do
    let (d, rest) ← readMembers readMember {} rest
    .ok (d.finish, rest)
  | '[' :: rest => readElements rest
  | s => .error (refuse typeName s)

def parse (text : String) : Except Error StoreConfig := readText read text

/-- The configuration that an object holds. -/
def ofMembers (members : List (String × Json)) : Except Mismatch StoreConfig := do
  let draft ← members.foldlM (fun (d : Draft) (name, v) => do
    d.checkNew name
    d.add name v) {}
  .ok draft.finish

/-- The configuration that an array of lengths holds. -/
def ofItems : List Json → Except Mismatch StoreConfig
  | [] => .ok {}
  | [idLength] => do .ok { idLength := ← idLength.asSize }
  | idLength :: nameSuffixLength :: rest => do
    let c : StoreConfig := ⟨← idLength.asSize, ← nameSuffixLength.asSize⟩
    if rest.isEmpty then .ok c
    else .error (.wrongLength (rest.length + 2) "fewer elements in array")

def ofJson : Json → Except Mismatch StoreConfig
  | .object members => ofMembers members
  | .array items => ofItems items
  | v => v.wrongType typeName

end StoreConfig
end FormBuilder
