import Folio.Command.Run
import Folio.Program.Palette

/-! The program: the commands over the files of the system, with its library for highlighting. -/

namespace Folio

def fileError : IO.Error → FileError
  | .noFileOrDirectory .. => .notFound
  | .alreadyExists .. => .exists
  | .inappropriateType _ code _ => if code = 21 then .isDirectory else .notDirectory
  | e => .other (toString e)

def attempt {α : Type} (x : IO α) : IO (Except FileError α) := do
  try return .ok (← x)
  catch e => return .error (fileError e)

def systemFiles : FileAccess IO where
  present path := do
    match ← attempt (IO.FS.readFile path) with
    | .error .notFound => return false
    | _ => return true
  read path := attempt (IO.FS.readFile path)
  makeDirectory path := attempt (IO.FS.createDirAll path)
  write path text := attempt (IO.FS.writeFile path text)

/-- More steps than the walk through any document takes. -/
def stepLimit : Nat := 1000000000

end Folio

def main (arguments : List String) : IO UInt32 := do
  let environment ← IO.getEnv Folio.Command.configVariable
  let outcome ← Folio.Command.run Folio.Program.library Folio.systemFiles Folio.stepLimit environment
    arguments
  IO.print outcome.output
  if outcome.exit = 2 then
    IO.eprint (Folio.Command.Level.top.helpText environment)
  else if outcome.report ≠ "" then
    IO.eprintln outcome.report
  return outcome.exit.toUInt32
