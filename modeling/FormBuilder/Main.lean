import FormBuilder.Command.Run

/-!
The program itself: the arguments, variables, files and random bytes of the machine
that it runs on.  Everything it decides is decided in `Command`.
-/

namespace FormBuilder
namespace Command

/-- The number of a system error.  Some calls report it negated. -/
def errorNumber (code : UInt32) : Nat := min code.toNat (0 - code).toNat

def FileError.ofNumber (text : String) : Nat → FileError
  | 2 => .notFound
  | 20 => .notDirectory
  | 21 => .isDirectory
  | 36 => .nameTooLong
  | n => .other s!"{text} (os error {n})"

def FileError.ofSystem : IO.Error → FileError
  | .noFileOrDirectory _ code text | .permissionDenied _ code text
  | .inappropriateType _ code text | .invalidArgument _ code text
  | .resourceExhausted _ code text | .otherError code text => .ofNumber text (errorNumber code)
  | why => .other (toString why)

/-- A variable from its form `name=value`. -/
def entry? (bytes : List UInt8) : Option (String × String) := do
  let text ← String.fromUTF8? (ByteArray.mk bytes.toArray)
  match splitValue text.toList with
  | (name, some value) => some (name, value)
  | (_, none) => none

/-- The variables of the process.  Where they cannot be listed there are none. -/
def environment : BaseIO (List (String × String)) := do
  match ← (IO.FS.readBinFile "/proc/self/environ").toBaseIO with
  | .ok bytes => return (bytes.toList.splitOn 0).filterMap entry?
  | .error _ => return []

/-- The system that the program runs on. -/
def system : Host (ExceptT Failure IO) where
  environment := (environment : IO (List (String × String)))
  supply n := do
    let bytes ← IO.getRandomBytes n.toUSize
    return .ofBytes bytes.data
  read path := do
    let content ← (IO.FS.readBinFile path).toBaseIO
    MonadExcept.ofExcept (content.mapError fun why => .file (.ofSystem why))
  write path text := do
    let written ← (IO.FS.writeBinFile path text.toUTF8).toBaseIO
    MonadExcept.ofExcept (written.mapError fun why => .file (.ofSystem why))
  print text := IO.print text

/-- Runs the program and returns its exit code. -/
def program (args : List String) : IO UInt32 := do
  match parse args with
  | .error stop =>
    if stop.exitCode = 0 then IO.print stop.text else IO.eprint helpText
    return stop.exitCode
  | .ok i =>
    match ← (invoke system i).run with
    | .ok () => return 0
    | .error why =>
      IO.eprintln s!"formsmith: {why.message}"
      return 1

end Command
end FormBuilder

def main (args : List String) : IO UInt32 := FormBuilder.Command.program args
