import Std.Time.DateTime.Timestamp
import WorkflowGraph.CommandLine.Run

/-!
# The program

Runs the command that the arguments ask for, with the files on disk, the environment variables and
the clock.
-/

namespace WorkflowGraph.Program

open CommandLine

/-- The fault of a failed access to a file. -/
def faultOf (path : Path) : IO.Error → Fault
  | .noFileOrDirectory .. | .noSuchThing .. => FileProblem.missing.fault path
  | .alreadyExists .. => FileProblem.taken.fault path
  | .inappropriateType _ _ details =>
    if details = FileProblem.isAFolder.reason then FileProblem.isAFolder.fault path
    else FileProblem.notAFolder.fault path
  | .permissionDenied _ number details => fileFault number.toNat details path.text
  | error => .file error.toString

/-- An access to what a path leads to, with a fault if it fails. -/
def attempt {α : Type} (path : Path) (action : IO α) : IO (Except Fault α) := do
  try
    pure (.ok (← action))
  catch error => pure (.error (faultOf path error))

/-- The files on disk. -/
def disk : FileAccess IO where
  read name := do
    let path := Path.ofText name
    if path.hasNull then pure (.error .nullInName)
    else attempt path (IO.FS.readFile path.text)
  write name text := do
    let path := Path.ofText name
    if path.hasNull then return .error .nullInName
    let folder := path.parent
    match ← attempt folder (IO.FS.createDirAll folder.text) with
    | .error fault => pure (.error fault)
    | .ok () => attempt path (IO.FS.writeFile path.text text)

/-- The environment variables for settings, under names in upper or lower case. -/
def environment : IO (List (String × String)) := do
  let names := ({} : Settings).toJson.fields?.getD []
  let spellings := names.flatMap fun f =>
    let name := Settings.variablePrefix ++ f.1
    [name.toUpper, name]
  let found ← spellings.mapM fun name => do
    pure ((← IO.getEnv name).map fun value => (name, value))
  pure (found.filterMap fun v => v)

/-- The clock, and twelve random digits. -/
def surroundings : IO Surroundings := do
  let now ← Std.Time.Timestamp.now
  let microseconds := now.toNanosecondsSinceUnixEpoch.val / 1000
  let bytes ← IO.getRandomBytes 6
  pure {
    now := (Timestamp.ofEpoch? microseconds).getD ⟨1970, 1, 1, 0, 0, 0, 0, some 0⟩
    idSuffix := String.join (bytes.toList.map fun byte => Text.hex 2 byte.toNat) }

/-- Shows what became of a run and gives its status. -/
def report (outcome : Outcome) : IO UInt32 := do
  for line in outcome.errors do IO.eprintln line
  for line in outcome.output do IO.println line
  match outcome.ending with
  | .finished status => pure status.toUInt32
  | .stopped (.help grammar) => do
    IO.println grammar.usage
    pure 0
  | .stopped stop => do
    IO.eprintln stop.usage
    IO.eprintln stop.line
    pure stop.status.toUInt32
  | .broken fault => do
    IO.eprintln fault.text
    pure 1

end WorkflowGraph.Program

open WorkflowGraph in
/-- Runs the command that the arguments ask for. -/
def main (arguments : List String) : IO UInt32 := do
  let surroundings ← Program.surroundings
  let environment ← Program.environment
  Program.report (← CommandLine.run Program.disk surroundings environment arguments)
