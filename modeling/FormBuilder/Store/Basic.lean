import FormBuilder.Field.Default
import FormBuilder.Field.Patch
import FormBuilder.Store.Config
import FormBuilder.Store.Id

/-!
The store: fields in order, of which one may be selected.  An operation either
returns the new store or the reason why it is refused; a refused operation leaves
no trace.  What draws random bytes also returns the supply after it, because
draws are used up by refused operations, too.
-/

namespace FormBuilder

inductive StoreError where
  | unknownField (id : FieldId)
  | duplicateId (id : FieldId)
  | invalidIdLength (length : Nat)
  | idsExhausted
  | indexOutOfBounds (index length : Nat)
  | noOptions (kind : Kind)
  | patch (why : PatchError)
  deriving DecidableEq

structure Store where
  config : StoreConfig := {}
  fields : List Field := []
  selected : Option FieldId := none
  deriving DecidableEq

namespace Store

/-- How many ids are tried before giving up. -/
def maxAttempts : Nat := 32

end Store

def StoreError.message : StoreError → String
  | unknownField id => s!"No field with id '{id}'"
  | duplicateId id => s!"Field id '{id}' is used more than once"
  | invalidIdLength length =>
    s!"Id length {length} is outside {StoreConfig.minIdLength}..={StoreConfig.maxIdLength}"
  | idsExhausted => s!"No free field id after {Store.maxAttempts} attempts"
  | indexOutOfBounds index length => s!"Index {index} is out of bounds for {length} fields"
  | noOptions kind => s!"A {kind.name} field has no options"
  | patch why => s!"Patch: {why.message}"

def StoreConfig.validate (c : StoreConfig) : Except StoreError Unit :=
  if c.isValid then .ok () else .error (.invalidIdLength c.idLength)

namespace Store

def ids (s : Store) : List FieldId := s.fields.map Field.id

def find? (s : Store) (id : FieldId) : Option Field := s.fields.find? (·.id = id)

/-- The first id that one of `seen` or an earlier field has. -/
def firstRepeated (seen : List FieldId) : List Field → Option FieldId
  | [] => none
  | f :: rest => if f.id ∈ seen then some f.id else firstRepeated (f.id :: seen) rest

/-- A store that holds the given fields, nothing selected. -/
def ofFields (config : StoreConfig) (fields : List Field) : Except StoreError Store :=
  match firstRepeated [] fields with
  | some id => .error (.duplicateId id)
  | none => .ok { config, fields }

/-! ## New fields -/

/-- The first id that is not taken, of at most `attempts`. -/
def drawId (length : Nat) (taken : List FieldId) : Nat → Entropy → Option FieldId × Entropy
  | 0, e => (none, e)
  | attempts + 1, e =>
    let (id, e) := FieldId.generate length e
    if id ∈ taken then drawId length taken attempts e else (some id, e)

def allocateId (s : Store) (e : Entropy) : Except StoreError FieldId × Entropy :=
  match s.config.validate with
  | .error why => (.error why, e)
  | .ok () =>
    match drawId s.config.idLength s.ids maxAttempts e with
    | (some id, e) => (.ok id, e)
    | (none, e) => (.error .idsExhausted, e)

/-- A new field that is not in the store yet.  Its id is not reserved. -/
def create (s : Store) (kind : Kind) (e : Entropy) : Except StoreError Field × Entropy :=
  match s.allocateId e with
  | (.ok id, e) => (.ok (Field.new id kind s.config.suffixLength), e)
  | (.error why, e) => (.error why, e)

/-- Appends a field, unless its id is taken. -/
def insert (s : Store) (f : Field) : Except StoreError Store :=
  if f.id ∈ s.ids then .error (.duplicateId f.id)
  else .ok { s with fields := s.fields ++ [f] }

/-- Appends a new field. -/
def add (s : Store) (kind : Kind) (e : Entropy) : Except StoreError (Field × Store) × Entropy :=
  match s.create kind e with
  | (.ok f, e) => (.ok (f, { s with fields := s.fields ++ [f] }), e)
  | (.error why, e) => (.error why, e)

/-! ## Changes -/

/-- Takes a field out.  If it was selected, nothing is selected any more. -/
def remove (s : Store) (id : FieldId) : Except StoreError (Field × Store) :=
  match s.find? id with
  | none => .error (.unknownField id)
  | some f =>
    .ok (f,
      { s with
        fields := s.fields.eraseP (·.id = id)
        selected := if s.selected = some id then none else s.selected })

/-- Puts `new` into the place of the first field with its id. -/
def replaceField (new : Field) : List Field → List Field
  | [] => []
  | f :: rest => if f.id = new.id then new :: rest else f :: replaceField new rest

/-- Changes one field in its place. -/
def edit (s : Store) (id : FieldId) (change : Field → Except StoreError Field) :
    Except StoreError Store :=
  match s.find? id with
  | none => .error (.unknownField id)
  | some f => do
    let new ← change f
    .ok { s with fields := replaceField new s.fields }

def patchField (p : FieldPatch) (f : Field) : Except StoreError Field :=
  (f.patch p).mapError .patch

def patch (s : Store) (id : FieldId) (p : FieldPatch) : Except StoreError Store :=
  s.edit id (patchField p)

/-- Changes the options of a field by way of a patch. -/
def editOptions (change : List Choice → Except PatchError (List Choice)) (f : Field) :
    Except StoreError Field :=
  match f.attributes.options? with
  | none => .error (.noOptions f.kind)
  | some options => do
    let options ← (change options).mapError .patch
    match AttributesPatch.replaceOptions? f.kind options with
    | none => .error (.noOptions f.kind)
    | some p => patchField { attributes := some p } f

/-- Appends an option for the user to fill in. -/
def addOption (s : Store) (id : FieldId) : Except StoreError Store :=
  s.edit id (editOptions fun options => .ok (options ++ [.new]))

/-- Sets what is given of an option. -/
def updateChoice (index : Nat) (label value : Option String) (options : List Choice) :
    Except PatchError (List Choice) :=
  match options[index]? with
  | none => .error (.optionOutOfBounds index options.length)
  | some c => .ok (options.set index ⟨label.getD c.label, value.getD c.value⟩)

def updateOption (s : Store) (id : FieldId) (index : Nat) (label value : Option String) :
    Except StoreError Store :=
  s.edit id (editOptions (updateChoice index label value))

/-- The list with the element at `source` taken out and put back at `target`. -/
def moveElement {α : Type} (source target : Nat) (xs : List α) : List α :=
  match xs[source]? with
  | none => xs
  | some x => (xs.eraseIdx source).insertIdx target x

def checkIndex (s : Store) (index : Nat) : Except StoreError Unit :=
  if index < s.fields.length then .ok ()
  else .error (.indexOutOfBounds index s.fields.length)

/-- Moves one field; the others keep their order. -/
def reorder (s : Store) (source target : Nat) : Except StoreError Store := do
  s.checkIndex source
  s.checkIndex target
  .ok { s with fields := moveElement source target s.fields }

/-! ## Selection -/

def select (s : Store) (id : Option FieldId) : Except StoreError Store :=
  match id with
  | none => .ok { s with selected := none }
  | some id =>
    if id ∈ s.ids then .ok { s with selected := some id } else .error (.unknownField id)

def selectedField (s : Store) : Option Field := s.selected.bind s.find?

end Store
end FormBuilder
