/-!
# Kinds and types

The closed sets of names that graphs and specs use: types of ports, bindings of ports, kinds of
nodes and of edges, shapes of specs, and forms of documents. Each set lists its members and gives
each a name; a name is read back by searching the list.
-/

namespace WorkflowGraph

/-- The declared type of a port. -/
inductive DataType where
  | string
  | number
  | boolean
  | object
  | array
  | file
  | any
  /-- A value that only another node can give. -/
  | foreign
  deriving DecidableEq

namespace DataType

/-- The name of a type. -/
def name : DataType → String
  | string => "string"
  | number => "number"
  | boolean => "boolean"
  | object => "object"
  | array => "array"
  | file => "file"
  | any => "any"
  | foreign => "foreign"

/-- All types. -/
def all : List DataType := [string, number, boolean, object, array, file, any, foreign]

/-- The type of a name. -/
def ofName? (s : String) : Option DataType :=
  all.find? (·.name == s)

@[simp] theorem ofName?_name (t : DataType) : ofName? t.name = some t := by
  cases t <;> decide

end DataType

/-- What the value of an input port is. -/
inductive Binding where
  /-- A value of its own. -/
  | literal
  /-- A reference to the output of a node. -/
  | connection
  /-- A reference to a setting that is filled in at deployment. -/
  | template
  deriving DecidableEq

namespace Binding

/-- The name of a binding. -/
def name : Binding → String
  | literal => "literal"
  | connection => "connection"
  | template => "template"

/-- All bindings. -/
def all : List Binding := [literal, connection, template]

/-- The binding of a name. -/
def ofName? (s : String) : Option Binding :=
  all.find? (·.name == s)

@[simp] theorem ofName?_name (b : Binding) : ofName? b.name = some b := by
  cases b <;> decide

end Binding

/-- The kinds of nodes whose meaning is known. Nodes of other kinds are kept under their name. -/
inductive NodeKind where
  /-- Where a run begins. -/
  | start
  /-- Where a run ends. -/
  | finish
  /-- A call of a language model. -/
  | llm
  /-- A call of a tool. -/
  | tool
  /-- A pause for an answer. -/
  | interrupt
  /-- A form to be filled in. -/
  | userInput
  deriving DecidableEq

namespace NodeKind

/-- The name of a kind. -/
def name : NodeKind → String
  | start => "start"
  | finish => "end"
  | llm => "llm"
  | tool => "tool"
  | interrupt => "interrupt"
  | userInput => "userInput"

/-- All known kinds. -/
def all : List NodeKind := [start, finish, llm, tool, interrupt, userInput]

/-- The kind of a name. -/
def ofName? (s : String) : Option NodeKind :=
  all.find? (·.name == s)

@[simp] theorem ofName?_name (k : NodeKind) : ofName? k.name = some k := by
  cases k <;> decide

/-- A name under which older specs list nodes of kind `interrupt`. -/
def formerInterruptName : String := "input"

/-- The present name of a kind. -/
def currentName (kind : String) : String :=
  if kind = formerInterruptName then interrupt.name else kind

end NodeKind

/-- The kinds of edges. -/
inductive EdgeKind where
  /-- Always followed. -/
  | plain
  /-- Followed if a condition holds. -/
  | conditional
  /-- One of several branches that run at once. -/
  | parallel
  /-- Goes back, a limited number of times. -/
  | looping
  deriving DecidableEq

namespace EdgeKind

/-- The name of a kind. -/
def name : EdgeKind → String
  | plain => "default"
  | conditional => "conditional"
  | parallel => "parallel"
  | looping => "looping"

/-- All kinds. -/
def all : List EdgeKind := [plain, conditional, parallel, looping]

/-- The kind of a name. -/
def ofName? (s : String) : Option EdgeKind :=
  all.find? (·.name == s)

@[simp] theorem ofName?_name (k : EdgeKind) : ofName? k.name = some k := by
  cases k <;> decide

end EdgeKind

/-- The shapes in which a graph is written as a spec. -/
inductive Shape where
  /-- Start and end nodes are kept, with the positions of nodes. -/
  | simple
  /-- Start and end nodes are left out. -/
  | backend
  /-- As `backend`, with metadata from which the graph can be restored. -/
  | enhanced
  deriving DecidableEq

namespace Shape

/-- The name of a shape. -/
def name : Shape → String
  | simple => "simple"
  | backend => "backend"
  | enhanced => "enhanced"

/-- All shapes. -/
def all : List Shape := [simple, backend, enhanced]

/-- The shape of a name. -/
def ofName? (s : String) : Option Shape :=
  all.find? (·.name == s)

@[simp] theorem ofName?_name (shape : Shape) : ofName? shape.name = some shape := by
  cases shape <;> decide

end Shape

/-- The forms of documents that can be loaded. -/
inductive DocumentForm where
  | spec
  /-- A graph with everything an editor keeps. -/
  | graph
  deriving DecidableEq

/-- The name of a form. -/
def DocumentForm.name : DocumentForm → String
  | spec => "spec"
  | graph => "graph"

end WorkflowGraph
