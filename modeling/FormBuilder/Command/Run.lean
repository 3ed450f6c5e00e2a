import FormBuilder.Command.Arguments
import FormBuilder.Command.Environment
import FormBuilder.Command.Folder
import FormBuilder.Field.Reader
import FormBuilder.Preview.View
import FormBuilder.Source.Form

/-!
What a command does, step by step, on any machine that has files, variables, random bytes
and an output.  `run` is a whole run on a machine that consists of a folder and a text.
-/

namespace FormBuilder
namespace Command

/-- Why a command fails. -/
inductive Failure where
  | settings (path : String)
  | file (why : FileError)
  | document (why : Json.Error)
  | store (why : StoreError)
  deriving DecidableEq

def Failure.message : Failure → String
  | settings path => s!"Configuration: {path} cannot be used"
  | file why => s!"I/O: {why.message}"
  | document why => s!"Field document: {why.message}"
  | store why => s!"Store: {why.message}"

def Failure.ofSettings : SettingsError → Failure
  | .unusable path => .settings path
  | .store why => .store why

def decodeText (content : ByteArray) : Except Failure String :=
  match String.fromUTF8? content with
  | some text => .ok text
  | none => .error (.file .notText)

/-- A store with the fields of a document. -/
def loadStore (config : StoreConfig) (content : ByteArray) : Except Failure Store := do
  let text ← decodeText content
  let fields ← (parseFields text).mapError .document
  (Store.ofFields config fields).mapError .store

/-- New fields of the given kinds, in order. -/
def scaffold (config : StoreConfig) (kinds : List Kind) (e : Entropy) :
    Except StoreError (List Field) :=
  go { config } e kinds
where
  go (s : Store) (e : Entropy) : List Kind → Except StoreError (List Field)
    | [] => .ok s.fields
    | kind :: rest =>
      match s.add kind e with
      | (.ok (_, s), e) => go s e rest
      | (.error why, _) => .error why

/-- How many random bytes an invocation takes at most. -/
def Invocation.demand (config : StoreConfig) : Invocation → Nat
  | scaffold kinds => kinds.length * (Store.maxAttempts * FieldId.blockLength config.idLength)
  | _ => 0

def versionText : String := "formsmith 0.1.0\n"

def helpText : String :=
  "Form definitions to form component source\n\n" ++
  "Usage: formsmith <COMMAND>\n\n" ++
  "Commands:\n" ++
  "  generate  Print or write the generated form component\n" ++
  "  preview   Print the initial preview state as JSON\n" ++
  "  scaffold  Print a field list with default attributes for the given kinds\n" ++
  "  help      Print this message or the help of the given subcommand(s)\n"

/-- What is printed instead of doing anything. -/
def Stop.text : Stop → String
  | help => helpText
  | version => versionText
  | _ => ""

/-! ## Commands -/

/-- What a command asks of the machine that it runs on. -/
structure Host (m : Type → Type) where
  environment : m (List (String × String))
  /-- A supply of random bytes, enough for a number of them. -/
  supply : Nat → m Entropy
  read : String → m ByteArray
  write : String → String → m Unit
  print : String → m Unit

section Commands

variable {m : Type → Type} [Monad m] [MonadExcept Failure m] (host : Host m)

/-- A text on a line of its own. -/
def printLine (text : String) : m Unit := host.print (text ++ "\n")

def loadFile (config : StoreConfig) (path : String) : m Store := do
  let content ← host.read path
  MonadExcept.ofExcept (loadStore config content)

def execute (config : StoreConfig) (e : Entropy) : Invocation → m Unit
  | .generate input output => do
    let store ← loadFile host config input
    let source := Source.generate store.fields
    match output with
    | some path => host.write path source
    | none => printLine host source
  | .preview input => do
    let store ← loadFile host config input
    printLine host (previewJson store.fields)
  | .scaffold kinds => do
    let fields ← MonadExcept.ofExcept ((scaffold config kinds e).mapError .store)
    printLine host (fieldsToJson fields).pretty

def invoke (i : Invocation) : m Unit := do
  let settings ← MonadExcept.ofExcept ((Settings.load (← host.environment)).mapError .ofSettings)
  let e ← host.supply (i.demand settings.store)
  execute host settings.store e i

end Commands

/-! ## Runs -/

/-- What a run changes: the files, and what it has printed. -/
structure Machine where
  folder : Folder
  stdout : String := ""

/-- A part of a run.  If it fails, what it has done until then stays done. -/
abbrev Action := ExceptT Failure (StateM Machine)

/-- A folder as a machine, with the given variables and random bytes. -/
def simulated (env : List (String × String)) (e : Entropy) : Host Action where
  environment := pure env
  supply _ := pure e
  read path := do
    let machine ← get
    MonadExcept.ofExcept ((machine.folder.read path).mapError .file)
  write path text := do
    let machine ← get
    let folder ← MonadExcept.ofExcept ((machine.folder.write path text.toUTF8).mapError .file)
    set { machine with folder }
  print text := modify fun machine => { machine with stdout := machine.stdout ++ text }

structure Outcome where
  exitCode : UInt32
  stdout : String := ""
  failure : Option Failure := none
  folder : Folder

def run (d : Folder) (args : List String) (env : List (String × String)) (e : Entropy) :
    Outcome :=
  match parse args with
  | .error stop => { exitCode := stop.exitCode, stdout := stop.text, folder := d }
  | .ok i =>
    match (invoke (simulated env e) i).run.run { folder := d } with
    | (.ok (), machine) => { exitCode := 0, stdout := machine.stdout, folder := machine.folder }
    | (.error why, machine) =>
      { exitCode := 1, stdout := machine.stdout, failure := some why, folder := machine.folder }

end Command
end FormBuilder
