import WorkflowGraph.CommandLine.Arguments
import WorkflowGraph.Kind

/-!
# Commands

What the program can be told to do: to compile a document to a spec, to convert a document to a
graph, or to check one.
-/

namespace WorkflowGraph.CommandLine

/-- The things to do. -/
inductive Task where
  /-- A document is compiled to a spec. -/
  | compile
  /-- A document is converted to a graph. -/
  | convert
  /-- A document is checked. -/
  | check
  deriving DecidableEq

namespace Task

/-- The word for a task. -/
def name : Task → String
  | compile => "export"
  | convert => "import"
  | check => "validate"

/-- All tasks. -/
def all : List Task := [compile, convert, check]

/-- The task of a word. -/
def ofName? (s : String) : Option Task :=
  all.find? (·.name == s)

@[simp] theorem ofName?_name (t : Task) : ofName? t.name = some t := by
  cases t <;> decide

end Task

/-- What is done with which files. -/
inductive Command where
  /-- The document in a file is compiled to a spec of a shape, the configured one if none is
  given. The file for the spec may not have been named. -/
  | compile (input : String) (output : Option String) (shape : Option Shape)
  /-- The document in a file is converted to a graph, for which a file may not have been named. -/
  | convert (input : String) (output : Option String)
  /-- The document in a file is checked. -/
  | check (input : String)
  deriving DecidableEq

/-- A command and how much is told of it. -/
structure Invocation where
  /-- All log records are shown. -/
  verbose : Bool
  /-- The command. -/
  command : Command
  deriving DecidableEq

/-! ## Grammars -/

/-- The name of the program. -/
def programName : String := "flowgraph"

/-- The option that shows how a program is used. -/
def helpSwitch : Switch := ⟨["-h", "--help"], .help⟩

/-- The option by which all log records are shown. -/
def verboseSwitch : Switch := ⟨["-v", "--verbose"], .flag⟩

/-- The option for the shape of specs. -/
def shapeSwitch : Switch := ⟨["--shape"], .choice (Shape.all.map Shape.name)⟩

/-- The name of the word that says what to do. -/
def taskWord : String := "command"

/-- The arguments of the program. -/
def programGrammar : Grammar where
  program := programName
  switches := [helpSwitch, verboseSwitch]
  words := [taskWord]
  passesOn := true

/-- The arguments of a task. -/
def Task.grammar (t : Task) : Grammar where
  program := s!"{programName} {t.name}"
  switches := if t = .compile then [helpSwitch, shapeSwitch] else [helpSwitch]
  words := if t = .check then ["input"] else ["input", "output"]

/-! ## Reading -/

/-- The shape that is asked for last. -/
def shapeOf (options : List (Switch × Option String)) : Option Shape :=
  (options.reverse.find? (·.1 == shapeSwitch)).bind fun o => o.2.bind Shape.ofName?

/-- The command of a task whose arguments have been read. -/
def Task.commandOf (t : Task) (reading : Reading) : Command :=
  let input := (reading.words.getD 0 none).getD ""
  let output := reading.words.getD 1 none
  match t with
  | .compile => .compile input output (shapeOf reading.options)
  | .convert => .convert input output
  | .check => .check input

/-- The task that a word names. -/
def taskOf (word : String) : Except Stop Task :=
  match Task.ofName? word with
  | some task => .ok task
  | none => programGrammar.misuse (invalidChoice taskWord word (Task.all.map Task.name))

/-- What the arguments of the program ask for. -/
def Invocation.ofArguments (arguments : List String) : Except Stop Invocation := do
  let whole ← programGrammar.read arguments
  let task ← taskOf ((whole.words.getD 0 none).getD "")
  let reading ← task.grammar.read whole.following
  match whole.unexpected ++ reading.unexpected with
  | [] =>
    pure {
      verbose := whole.options.any (·.1 == verboseSwitch)
      command := task.commandOf reading }
  | unexpected =>
    let texts := " ".intercalate unexpected
    programGrammar.misuse s!"unrecognized arguments: {texts}"

end WorkflowGraph.CommandLine
