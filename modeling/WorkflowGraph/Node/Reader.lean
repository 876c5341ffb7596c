import WorkflowGraph.Node.Basic
import WorkflowGraph.Port.Listing

/-!
# Reading and storing nodes

A node is read from an object whose ports are listed in any form. Ports that are not listed are
those of the kind. A change of a node is read the same way, from its own fields with the changes set
over them, so that a changed node is held to the same rules as a new one.
-/

namespace WorkflowGraph

namespace Position

/-- A position read from the fields of an object. -/
def ofFields (fields : Json.Fields) : Checked Position :=
  let base : Position := {}
  Position.mk
    <$> Schema.optional fields ["x"] base.x Schema.number
    <*> Schema.optional fields ["y"] base.y Schema.number

/-- A position read from a value. -/
def ofJson : Json → Checked Position :=
  Schema.record "Position" ofFields

/-- The position as an object. -/
def toJson (p : Position) : Json :=
  .obj [("x", .float p.x), ("y", .float p.y)]

/-- A position given as a pair of numbers is read as an object. -/
def ofPair : Json → Json
  | .arr [x, y] => .obj [("x", x), ("y", y)]
  | value => value

/-- The position that the fields of a node give; the default if it is `null` or missing. -/
def ofNodeFields (fields : Json.Fields) : Checked Position :=
  match fields.getD "position" with
  | .null => .valid default
  | value => Checked.under (.key "position") (ofJson (ofPair value))

end Position

namespace Node

/-- Defaults can be looked up by a kind that is a scalar. -/
def requireScalar (kind : Json) : Attempt Unit :=
  if kind.isScalar then pure () else throw .wrongType

/-- The input ports of a node: those listed, or those of the kind if none are. -/
def listedInputs (kind raw : Json) : Attempt (Checked (Listing Port)) :=
  if raw = .null then do
    requireScalar kind
    pure (.valid (Listing.ofTable (defaultInputs kind.inSentence)))
  else Listing.inputs raw

/-- The output ports of a node: those listed, or those of the kind if none are. -/
def listedOutputs (kind raw : Json) : Attempt (Listing DataType) :=
  if raw = .null then do
    requireScalar kind
    pure (Listing.ofTable (defaultOutputs kind.inSentence))
  else Listing.outputs raw

/-- The records written when the configuration of a node is made. -/
def announceConfig (kind data : Json) : Attempt Unit :=
  if data = .null then pure ()
  else do
    requireScalar kind
    let _ ← Attempt.ofLogged (configured kind.inSentence data)

/-- The fields of a node whose ports have been read. -/
def check (fields : Json.Fields) (inputs : Listing Port) (outputs : Listing DataType) :
    Checked Node :=
  (fun id kind position label description inputs outputs =>
      (make id kind position label description (fields.getD "config") inputs outputs).value)
    <$> Schema.required fields ["id"] Schema.text
    <*> Schema.required fields ["kind"] Schema.text
    <*> Position.ofNodeFields fields
    <*> Schema.optional fields ["label"] "" Schema.text
    <*> Schema.optional fields ["description"] "" Schema.text
    <*> Checked.under (.key "inputs") inputs.toTable
    <*> Checked.under (.key "outputs") outputs.toTable

/-- A node read from the fields of an object. A stored port with violations ends the reading. -/
def ofFields (fields : Json.Fields) : Attempt (Checked Node) := do
  let kind := fields.getD "kind"
  match ← listedInputs kind (fields.getD "inputs") with
  | .invalid violations => pure (.invalid violations)
  | .valid inputs =>
    let outputs ← listedOutputs kind (fields.getD "outputs")
    announceConfig kind (fields.getD "config")
    pure (check fields inputs outputs)

/-- A node read from a value. -/
def read : Json → Attempt (Checked Node)
  | .obj fields => ofFields fields
  | _ => pure (.broken (.record "Node"))

/-- A node read from a value, or a fault. -/
def ofJson (value : Json) : Attempt Node :=
  Attempt.validated "Node" (read value)

/-! ## Storing -/

/-- A table as an object. -/
def tableJson {α : Type} (toJson : α → Json) (table : Table α) : Json :=
  .obj (table.entries.map fun e => (e.1, toJson e.2))

/-- The fields of a node, from which it can be read again. -/
def toFields (n : Node) : Json.Fields :=
  [("id", .str n.id), ("kind", .str n.kind), ("position", n.position.toJson),
    ("label", .str n.label), ("description", .str n.description),
    ("config", (n.config.map fun c => Json.obj (c.toFields .stored)).getD .null),
    ("inputs", tableJson Port.toJson n.inputs),
    ("outputs", tableJson (fun type => .str type.name) n.outputs)]

/-- The node without infinite and undefined numbers in values of ports and parameters of tools. -/
def storable (n : Node) : Node :=
  { n with
    config := n.config.map NodeConfig.storable
    inputs := n.inputs.map fun _ port => port.storable
    config_kind := fun c h => by
      obtain ⟨d, hd, rfl⟩ := Option.map_eq_some_iff.1 h
      rw [← n.config_kind d hd]
      cases d <;> rfl }

/-- The node as it is stored. -/
def toJson (n : Node) : Json :=
  .obj n.storable.toFields

/-- The node can be stored. -/
def isStorable (n : Node) : Bool :=
  n.config.all NodeConfig.isStorable && n.inputs.entries.all fun e => e.2.isStorable

/-- The node with some of its fields changed. -/
def update (n : Node) (changes : Json.Fields) : Attempt Node :=
  Attempt.validated "Node" (ofFields (n.toFields.merge changes))

end Node

end WorkflowGraph
