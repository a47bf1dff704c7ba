import Uncomment.Command.Run

/-!
# The program

The command on the files of the system, with its arguments, the environment variable `RUST_LOG` as
log setting, and its outcome on the standard streams.
-/

namespace Uncomment

/-- What a refusal of the system is here, by its number where it has one that matters; the system
    gives some numbers with a minus sign. -/
def OsError.ofSystem (e : IO.Error) : OsError :=
  let is (number code : UInt32) : Bool := code = number ∨ code = -number
  match e with
  | .noFileOrDirectory _ _ _ => .notFound
  | .inappropriateType _ code _ =>
    if is 20 code then .notDirectory else if is 21 code then .isDirectory else .other e.toString
  | .invalidArgument _ code _ => if is 36 code then .nameTooLong else .other e.toString
  | _ => .other e.toString

/-- Does an action on a file; a path that no file can have is refused without asking the system. -/
def refusing {α : Type} (path : String) (action : IO α) : IO (Except OsError α) := do
  match FileTree.pathFault? path with
  | some fault => pure (.error fault)
  | none =>
    try
      pure (.ok (← action))
    catch e =>
      pure (.error (.ofSystem e))

/-- Access to the files of the system. -/
def systemFiles : FileAccess IO where
  read path := refusing path do
    let content ← IO.FS.readBinFile path
    pure content.data.toList
  write path content := refusing path do
    IO.FS.writeBinFile path ⟨content.toArray⟩

end Uncomment

open Uncomment in
def main (words : List String) : IO UInt32 := do
  let outcome ← Command.run systemFiles (← IO.getEnv "RUST_LOG") words
  IO.print outcome.stdout
  IO.eprint outcome.stderr
  pure outcome.code.toUInt32
