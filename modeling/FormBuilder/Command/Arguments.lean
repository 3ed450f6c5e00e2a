import FormBuilder.Field.Kind

/-!
The arguments of the command line.  Options may stand in any order, as `-i x`,
`-ix`, `-i=x`, `--input x` or `--input=x`.  An option that waits for its value is
settled when the next option or the end is reached; only then is its value looked
at.
-/

namespace FormBuilder
namespace Command

/-- What the program is asked to do. -/
inductive Invocation where
  | generate (input : String) (output : Option String)
  | preview (input : String)
  | scaffold (kinds : List Kind)
  deriving DecidableEq

/-- Why nothing is done. -/
inductive Stop where
  | help
  | version
  | missingSubcommand
  | invalidSubcommand
  | unknownArgument
  | missingArgument
  | invalidValue
  | valueValidation
  | tooManyValues
  | argumentConflict
  deriving DecidableEq

/-- Asking for help or for the version is no error. -/
def Stop.exitCode : Stop → UInt32
  | help | version => 0
  | _ => 2

/-! ## The shape of one argument -/

inductive Shape where
  /-- `--`, after which nothing is an option any more. -/
  | separator
  | long (name : String) (value : Option String)
  | short (letter : Char) (rest : List Char)
  | plain

/-- The parts of a text before and after its first `=`. -/
def splitValue (s : List Char) : String × Option String :=
  match s.dropWhile (· ≠ '=') with
  | [] => (String.ofList s, none)
  | _ :: value => (String.ofList (s.takeWhile (· ≠ '=')), some (String.ofList value))

def shapeOf (arg : String) : Shape :=
  match arg.toList with
  | ['-', '-'] => .separator
  | '-' :: '-' :: rest => .long (splitValue rest).1 (splitValue rest).2
  | '-' :: c :: rest => .short c rest
  | _ => .plain

/-- What follows the letter of an option, in the same argument. -/
def attached? : List Char → Option String
  | [] => none
  | '=' :: value => some (String.ofList value)
  | value => some (String.ofList value)

/-! ## Options with a value -/

inductive Key where
  | input
  | output
  deriving DecidableEq

def Key.ofLong? : String → Option Key
  | "input" => some .input
  | "output" => some .output
  | _ => none

def Key.ofShort? : Char → Option Key
  | 'i' => some .input
  | 'o' => some .output
  | _ => none

structure Options where
  input : Option String := none
  output : Option String := none
  /-- The last option, when its value is not part of its argument. -/
  pending : Option (Key × Option String) := none

namespace Options

def get? (o : Options) : Key → Option String
  | .input => o.input
  | .output => o.output

def set (o : Options) (value : String) : Key → Options
  | .input => { o with input := some value }
  | .output => { o with output := some value }

/-- An option may be given once, and its value is not empty. -/
def assign (o : Options) (key : Key) (value : String) : Except Stop Options :=
  if (o.get? key).isSome then .error .argumentConflict
  else if value = "" then .error .invalidValue
  else .ok (o.set value key)

def settle (o : Options) : Except Stop Options :=
  match o.pending with
  | none => .ok o
  | some (_, none) => .error .invalidValue
  | some (key, some value) => { o with pending := none }.assign key value

/-- An option has been met, perhaps with its value. -/
def meet (o : Options) (key : Key) (value : Option String) : Except Stop Options := do
  let o ← o.settle
  match value with
  | some value => o.assign key value
  | none => .ok { o with pending := some (key, none) }

/-- What is not an option is the value of the one before. -/
def give (o : Options) (value : String) : Except Stop Options :=
  match o.pending with
  | some (key, none) => .ok { o with pending := some (key, some value) }
  | _ => .error .unknownArgument

/-- Help is shown once the option before is settled. -/
def help (o : Options) : Except Stop Options := do
  let _ ← o.settle
  .error .help

/-- Reads one argument of a subcommand that knows the given keys. -/
def step (known : List Key) (o : Options) (arg : String) : Except Stop Options :=
  match shapeOf arg with
  | .separator | .plain => o.give arg
  | .long "help" none => o.help
  | .long "help" (some _) => .error .tooManyValues
  | .long name value =>
    match (Key.ofLong? name).filter (· ∈ known) with
    | some key => o.meet key value
    | none => .error .unknownArgument
  | .short 'h' _ => o.help
  | .short letter rest =>
    match (Key.ofShort? letter).filter (· ∈ known) with
    | some key => o.meet key (attached? rest)
    | none => .error .unknownArgument

/-- Nothing may follow `--`, since no argument goes without an option. -/
def read (known : List Key) (o : Options) : List String → Except Stop Options
  | [] => o.settle
  | "--" :: [] => o.settle
  | "--" :: _ :: _ => .error .unknownArgument
  | arg :: rest => do read known (← o.step known arg) rest

def inputOrStop (o : Options) : Except Stop String :=
  match o.input with
  | some input => .ok input
  | none => .error .missingArgument

end Options

/-! ## Lists of kinds -/

def readKind (name : String) : Except Stop Kind :=
  match Kind.ofName? name with
  | some kind => .ok kind
  | none => .error .valueValidation

/-- The names among the arguments.  They are looked at when all are there. -/
def kindNames (names : List String) : List String → Except Stop (List String)
  | [] => .ok names
  | arg :: rest =>
    match shapeOf arg with
    | .separator => .ok (names ++ rest)
    | .plain => kindNames (names ++ [arg]) rest
    | .long "help" none | .short 'h' _ => do
      let _ ← names.mapM readKind
      .error .help
    | .long "help" (some _) => .error .tooManyValues
    | .long _ _ | .short _ _ => .error .unknownArgument

def readKinds (args : List String) : Except Stop (List Kind) := do
  let names ← kindNames [] args
  if names = [] then .error .missingArgument else names.mapM readKind

/-! ## Subcommands -/

def subcommands : List String := ["generate", "preview", "scaffold", "help"]

def helpFor : List String → Except Stop Invocation
  | [] => .error .help
  | [name] => .error (if name ∈ subcommands then .help else .invalidSubcommand)
  | _ => .error .invalidSubcommand

/-- The flags in front of a subcommand. -/
def readFlag (arg : String) (rest : List String) : Stop :=
  match shapeOf arg with
  | .separator =>
    match rest with
    | [] => .missingSubcommand
    | name :: _ => if name ∈ subcommands then .unknownArgument else .invalidSubcommand
  | .long "help" none | .short 'h' _ => .help
  | .long "version" none | .short 'V' _ => .version
  | .long "help" (some _) | .long "version" (some _) => .tooManyValues
  | .long _ _ | .short _ _ => .unknownArgument
  | .plain => .invalidSubcommand

def parse : List String → Except Stop Invocation
  | [] => .error .missingSubcommand
  | "generate" :: rest => do
    let o ← Options.read [.input, .output] {} rest
    .ok (.generate (← o.inputOrStop) o.output)
  | "preview" :: rest => do
    let o ← Options.read [.input] {} rest
    .ok (.preview (← o.inputOrStop))
  | "scaffold" :: rest => do .ok (.scaffold (← readKinds rest))
  | "help" :: rest => helpFor rest
  | arg :: rest => .error (readFlag arg rest)

end Command
end FormBuilder
