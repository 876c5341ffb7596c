import WorkflowGraph.CommandLine.Command
import WorkflowGraph.CommandLine.Files
import WorkflowGraph.Document.Reader
import WorkflowGraph.Document.Writer
import WorkflowGraph.Json.Indented
import WorkflowGraph.Spec.OfWorkflow
import WorkflowGraph.Text.UpperCase
import WorkflowGraph.Workflow.Check
import WorkflowGraph.Workflow.Edit

/-!
# Running commands

A command reads a document, makes something of it, and writes a file or tells what it found. Log
records are shown from the configured level on. Faults with a report, and those of files, are told
to the user; others break the command off.
-/

namespace WorkflowGraph.CommandLine

/-! ## What is shown -/

/-- The levels of log records that can be configured, with their ranks. -/
def levelRanks : List (String × Nat) :=
  [("CRITICAL", 50), ("FATAL", 50), ("ERROR", 40), ("WARN", Level.warning.rank),
    ("WARNING", Level.warning.rank), ("INFO", 20), ("DEBUG", Level.debug.rank), ("NOTSET", 0)]

/-- The rank of a configured level, whose name may be in lower case. -/
def rankOf (level : String) : Except Fault Nat :=
  let name := Text.upperCase level
  match levelRanks.lookup name with
  | some rank => .ok rank
  | none => .error (.unknownLevel name)

/-- The rank from which on log records are shown. -/
def Invocation.leastRank (i : Invocation) (settings : Except Fault Settings) : Except Fault Nat :=
  if i.verbose then .ok Level.debug.rank
  else do rankOf (← settings).logLevel

/-- The lines of the log records from a rank on. -/
def shownLines (least : Nat) (log : List Record) : List String :=
  (log.filter fun r => least ≤ r.level.rank).map Record.line

/-- The fault is told to the user. -/
def isTold : Fault → Bool
  | .file _ => true
  | fault => fault.report?.isSome

/-- How a run ended. -/
inductive Ending where
  /-- The arguments stopped it. -/
  | stopped (stop : Stop)
  /-- It ended with a status. -/
  | finished (status : Nat)
  /-- A fault broke it off. -/
  | broken (fault : Fault)

/-- What became of a run. -/
structure Outcome where
  /-- How it ended. -/
  ending : Ending
  /-- The lines of its output. -/
  output : List String := []
  /-- The lines about log records and errors. -/
  errors : List String := []

/-- The outcome of a run that failed. -/
def Outcome.ofFault (errors : List String) (fault : Fault) : Outcome :=
  if isTold fault then { ending := .finished 2, errors := errors ++ ["Error: " ++ fault.text] }
  else { ending := .broken fault, errors }

/-! ## What a command makes of a document -/

/-- What a command makes of a document. -/
structure Product where
  /-- A file to be written, by name and text. -/
  file : Option (String × String) := none
  /-- What is told. -/
  lines : List String
  status : Nat

namespace Command

/-- The name of the file that is read. -/
def input : Command → String
  | compile input _ _ => input
  | convert input _ => input
  | check input => input

/-- Settings that a command needs before it reads anything: none for a check. -/
def requireSettings (settings : Except Fault Settings) : Command → Except Fault Unit
  | check _ => .ok ()
  | _ => do let _ ← settings

/-- The text of a file that holds a value. -/
def fileText (settings : Settings) (value : Json) : Except Fault String := do
  let text ← value.toIndentedText (.int settings.jsonIndent) false
  pure (text ++ "\n")

/-- The record for a reference that names no node. -/
def warnOfUnresolved (unresolved : String × String × Json) : Logged Unit :=
  let (node, port, reference) := unresolved
  Logged.warn .commands
    s!"Node '{node}' port '{port}' references unknown node: {reference.inSentence}"

/-- What is told of the problems of a workflow. -/
def verdict (w : Workflow) : Product :=
  match w.problems with
  | [] => { lines := [s!"  ✓ '{w.name}' is valid"], status := 0 }
  | problems =>
    { lines := problems.map (fun problem => s!"  ✗ {problem}") ++
        [s!"{problems.length} problem(s) found in '{w.name}'"]
      status := 1 }

/-- The name of the file to be written; nothing can be written to a file without name. -/
def requireOutput (output : Option String) : Except Fault String :=
  match output with
  | some name => .ok name
  | none => .error .wrongType

/-- What a command makes of a workflow. -/
def productOf (s : Surroundings) (settings : Except Fault Settings) (w : Workflow) :
    Command → Attempt Product
  | compile _ output shape => do
    let settings ← Attempt.ofExcept settings
    let document ← w.toSpecDocument s.now settings (shape.getD settings.defaultShape)
    let output ← Attempt.ofExcept (requireOutput output)
    let text ← Attempt.ofExcept (fileText settings document)
    pure {
      file := some (output, text)
      lines := [s!"Exported '{w.name}' ({w.nodes.length} nodes) to {output}"]
      status := 0 }
  | convert _ output => do
    let settings ← Attempt.ofExcept settings
    let document ← Attempt.ofExcept w.document
    let output ← Attempt.ofExcept (requireOutput output)
    let text ← Attempt.ofExcept (fileText settings document)
    pure {
      file := some (output, text)
      lines := [s!"Imported '{w.name}' ({w.nodes.length} nodes, {w.edges.length} edges) " ++
        s!"to {output}"]
      status := 0 }
  | check _ => do
    let _ ← Attempt.ofLogged (Logged.mapList warnOfUnresolved w.unresolved)
    pure (verdict w)

/-- A text with each line break written as one character. -/
def plainBreaks : List Char → List Char
  | '\r' :: '\n' :: rest => '\n' :: plainBreaks rest
  | '\r' :: rest => '\n' :: plainBreaks rest
  | c :: rest => c :: plainBreaks rest
  | [] => []

/-- What a command makes of the text of its file. -/
def make (s : Surroundings) (settings : Except Fault Settings) (command : Command)
    (text : String) : Attempt Product := do
  let document ← Attempt.ofExcept (Json.parse (String.ofList (plainBreaks text.toList)))
  let w ← Workflow.ofDocument s settings document
  command.productOf s settings w

end Command

/-! ## Runs -/

variable {m : Type → Type} [Monad m]

/-- The product is written, if it is a file, and told. -/
def deliver (access : FileAccess m) (errors : List String) (p : Product) : m Outcome := do
  let written ←
    match p.file with
    | some (name, text) => access.write name text
    | none => pure (.ok ())
  match written with
  | .ok () => pure { ending := .finished p.status, output := p.lines, errors }
  | .error fault => pure (.ofFault errors fault)

/-- The run of a command, with log records shown from a rank on. -/
def Command.run (access : FileAccess m) (s : Surroundings) (settings : Except Fault Settings)
    (least : Nat) (command : Command) : m Outcome :=
  match command.requireSettings settings with
  | .error fault => pure (.ofFault [] fault)
  | .ok () => do
    match ← access.read command.input with
    | .error fault => pure (.ofFault [] fault)
    | .ok text =>
      let made := (command.make s settings text).outcome
      let errors := shownLines least made.log
      match made.value with
      | .ok product => deliver access errors product
      | .error fault => pure (.ofFault errors fault)

/-- The run that arguments and environment variables ask for. -/
def run (access : FileAccess m) (s : Surroundings) (environment : List (String × String))
    (arguments : List String) : m Outcome :=
  match Invocation.ofArguments arguments with
  | .error stop => pure { ending := .stopped stop }
  | .ok invocation =>
    let settings := Settings.resolve [] environment
    match invocation.leastRank settings with
    | .error fault => pure { ending := .broken fault }
    | .ok least => invocation.command.run access s settings least

end WorkflowGraph.CommandLine
