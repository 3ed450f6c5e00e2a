/-!
The kinds of fields and their names.
-/

namespace FormBuilder

inductive Kind where
  | text
  | number
  | textarea
  | select
  | radio
  | checkbox
  | switch
  | date
  deriving DecidableEq, Repr

namespace Kind

/-- All kinds, in the order of their indices. -/
def all : List Kind := [text, number, textarea, select, radio, checkbox, switch, date]

def name : Kind → String
  | text => "text"
  | number => "number"
  | textarea => "textarea"
  | select => "select"
  | radio => "radio"
  | checkbox => "checkbox"
  | switch => "switch"
  | date => "date"

def names : List String := all.map name

def index (k : Kind) : Nat := all.idxOf k

def ofName? (name : String) : Option Kind := all.find? (·.name = name)

theorem mem_all (k : Kind) : k ∈ all := by cases k <;> decide

theorem ofName?_name (k : Kind) : ofName? k.name = some k := by cases k <;> decide

theorem getElem?_index (k : Kind) : all[k.index]? = some k := by cases k <;> decide

/-- What is said of a name that no kind has. -/
def unknownMessage (name : String) : String := s!"Unknown field kind '{name}'"

end Kind
end FormBuilder
