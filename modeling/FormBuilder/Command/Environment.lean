import FormBuilder.Field.Value
import FormBuilder.Store.Basic

/-!
Settings from environment variables.  A variable with the prefix, in either case,
names a path: keys separated by `__` or a dot, each with positions in brackets after
it if it holds a list.  Its text becomes a truth value or a number if it spells one.
-/

namespace FormBuilder

/-- Rounds to a whole number, a half away from zero, and into the range of 64-bit
lengths; what is negative or no number becomes zero. -/
def Binary64.toSize : Binary64 → Nat
  | .nan | .infinite true | .finite true _ => 0
  | .infinite false => UInt64.size - 1
  | .finite false m =>
    min ((2 * m.units + Magnitude.unitsOfOne) / (2 * Magnitude.unitsOfOne)) (UInt64.size - 1)

namespace Command

/-- The text of a variable, taken for what it spells. -/
inductive Setting where
  | flag (b : Bool)
  | int (n : Int)
  | float (x : Binary64)
  | text (s : String)
  deriving DecidableEq

namespace Setting

/-- A signed integer of 64 bits. -/
def integer? (s : List Char) : Option Int :=
  let (negative, digits) := Numeral.splitSign s
  let n := Numeral.signedExponent negative digits
  if digits ≠ [] ∧ digits.all Char.isDigit ∧
      -0x8000000000000000 ≤ n ∧ n < 0x8000000000000000 then some n
  else none

def lower (s : String) : String := String.ofList (s.toList.map Char.toLower)

def ofText (s : String) : Setting :=
  if lower s = "true" then .flag true
  else if lower s = "false" then .flag false
  else match integer? s.toList with
    | some n => .int n
    | none =>
      match Binary64.ofText? s.toList with
      | some x => .float x
      | none => .text s

/-- Numbers in texts never show an exponent. -/
def numberStyle : NumberStyle where
  tie := .up
  positional := fun _ _ => true
  wholeMark := []
  signedZero := true

def toText : Setting → String
  | flag true => "true"
  | flag false => "false"
  | int n => String.ofList (Json.intText n)
  | float .nan => "NaN"
  | float (.infinite false) => "inf"
  | float (.infinite true) => "-inf"
  | float (.finite negative m) => String.ofList (numberStyle.finite negative m)
  | text s => s

/-- A setting as a length.  Words for yes and no count one and nothing. -/
def size? : Setting → Option Nat
  | flag b => some b.toNat
  | int (.ofNat n) => some n
  | int _ => none
  | float x => some x.toSize
  | text s =>
    if lower s ∈ ["on", "yes"] then some 1
    else if lower s ∈ ["off", "no"] then some 0
    else none

end Setting

/-- A step from a setting into what it holds: into a table by key, or into a list by
position, counted from the end if negative. -/
inductive Step where
  | key (name : String)
  | position (n : Int)
  deriving DecidableEq

/-- Settings by path. -/
inductive Tree where
  /-- A place in a list that nothing was put into. -/
  | gap
  | leaf (s : Setting)
  | table (entries : List (String × Tree))
  | list (items : List Tree)

namespace Tree

def entries : Tree → List (String × Tree)
  | table entries => entries
  | _ => []

def items : Tree → List Tree
  | list items => items
  | _ => []

/-- Items with room at a position, and where that room is.  A position before the first
item makes room in front of it. -/
def room (items : List Tree) : Int → List Tree × Nat
  | .ofNat n => (items ++ List.replicate (n + 1 - items.length) gap, n)
  | .negSucc n =>
    (List.replicate (n + 1 - items.length) gap ++ items, items.length - (n + 1))

/-- Puts a setting at the end of a path.  Whatever does not fit a step on the way is
replaced by what does. -/
def insert (s : Setting) : List Step → Tree → Tree
  | [], _ => leaf s
  | .key name :: path, t =>
    let old := (t.entries.lookup name).getD gap
    table ((name, insert s path old) :: t.entries.filter (·.1 ≠ name))
  | .position n :: path, t =>
    let (items, place) := room t.items n
    list (items.modify place (insert s path))

end Tree

/-! ## Variables -/

def envPrefix : List Char := "formsmith_".toList

/-- The lower case of a letter in a name.  Of the letters that no key has, only the
Kelvin sign has one that keys have. -/
def lowerLetter (c : Char) : Char := if c = '\u212a' then 'k' else c.toLower

/-- Two underscores in a row stand for a dot. -/
def dotted : List Char → List Char
  | '_' :: '_' :: rest => '.' :: dotted rest
  | c :: rest => c :: dotted rest
  | [] => []

def isKey (s : List Char) : Bool :=
  s ≠ [] && s.all fun c => c.isAlphanum || c = '_' || c = '-'

def isBlank (c : Char) : Bool := c = ' ' || c = '\t'

/-- The position in a text such as `0]` or ` -1 ]`, which follows an opening bracket. -/
def position? (s : List Char) : Option Step :=
  let number := (s.dropLast.dropWhile isBlank).reverse.dropWhile isBlank |>.reverse
  if s.getLast? = some ']' ∧ number.head? ≠ some '+' then
    (Setting.integer? number).map .position
  else none

/-- A key and the positions after it, each in brackets. -/
def segment? (s : List Char) : Option (List Step) :=
  match s.splitOn '[' with
  | [] => none
  | key :: positions =>
    if isKey key then
      (positions.mapM position?).map (.key (String.ofList key) :: ·)
    else none

/-- The path that a variable names, if it has the prefix. -/
def path? (name : String) : Option (List Step) :=
  let name := name.toList.map lowerLetter
  if name.take envPrefix.length = envPrefix then
    (((dotted (name.drop envPrefix.length)).splitOn '.').mapM segment?).map List.flatten
  else none

/-- Adds one variable.  An empty one counts as not set. -/
def addVariable (t : Tree) (entry : String × String) : Tree :=
  match path? entry.1 with
  | some path => if entry.2 = "" then t else t.insert (.ofText entry.2) path
  | none => t

structure Settings where
  store : StoreConfig
  log : Option String
  deriving DecidableEq

inductive SettingsError where
  /-- The setting at this path cannot be used. -/
  | unusable (path : String)
  | store (why : StoreError)
  deriving DecidableEq

/-- The length that a part of the store's settings gives. -/
def lengthSetting (path : String) (default : Nat) :
    Option Tree → Except SettingsError Nat
  | none => .ok default
  | some (.leaf s) => match s.size? with
    | some n => .ok n
    | none => .error (.unusable path)
  | some _ => .error (.unusable path)

/-- The store's settings: by name, or in order, and then what follows them does not
count. -/
def storeSetting (t : Tree) : Except SettingsError StoreConfig := do
  let base : StoreConfig := {}
  let (idLength, nameSuffixLength) ← match t.entries.lookup "store" with
    | none => .ok (none, none)
    | some (.table entries) =>
      .ok (entries.lookup "id_length", entries.lookup "name_suffix_length")
    | some (.list items) => .ok (items[0]?, items[1]?)
    | some _ => .error (.unusable "store")
  .ok ⟨← lengthSetting "store.id_length" base.idLength idLength,
    ← lengthSetting "store.name_suffix_length" base.nameSuffixLength nameSuffixLength⟩

def logSetting (t : Tree) : Except SettingsError (Option String) :=
  match t.entries.lookup "log" with
  | none => .ok none
  | some (.leaf s) => .ok (some s.toText)
  | some _ => .error (.unusable "log")

/-- The settings in an environment, the later of two variables for one path
winning. -/
def Settings.load (env : List (String × String)) : Except SettingsError Settings := do
  let t := env.foldl addVariable (.table [])
  let config ← storeSetting t
  let settings : Settings := ⟨config, ← logSetting t⟩
  match config.validate with
  | .ok () => .ok settings
  | .error why => .error (.store why)

end Command
end FormBuilder
