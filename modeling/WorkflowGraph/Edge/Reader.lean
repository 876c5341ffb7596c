import WorkflowGraph.Edge.Basic
import WorkflowGraph.Json.Display

/-!
# Reading and storing edges

An edge is read from an object. Label, condition and settings are the fields of its payload, which
is an object, or a list of pairs. As with nodes, a change is read from the fields of the edge with
the changes set over them.
-/

namespace WorkflowGraph

namespace Edge

/-! ## The payload -/

/-- Key and value of an item of a list of pairs: a list, a text or an object of two parts. The
number of parts if there are not two, nothing if the item has no parts. -/
def pair? : Json → Option (Except Nat (Json × Json))
  | .arr [k, v] => some (.ok (k, v))
  | .arr items => some (.error items.length)
  | .str s =>
    match s.toList with
    | [k, v] => some (.ok (.str (String.singleton k), .str (String.singleton v)))
    | cs => some (.error cs.length)
  | .obj [(k, _), (v, _)] => some (.ok (.str k, .str v))
  | .obj fields => some (.error fields.length)
  | _ => none

/-- Why an item of a list of pairs is refused. -/
def notAPair (position length : Nat) : Rule :=
  .refused s!"dictionary update sequence element #{position} has length {length}; 2 is required"

/-- The fields that a list of pairs denotes, from a position on. Keys that are not texts name no
field. -/
def ofPairs (position : Nat) (read : Json.Fields) : List Json → Attempt (Checked Json.Fields)
  | [] => pure (.valid read)
  | item :: rest =>
    match pair? item with
    | none => throw .wrongType
    | some (.error length) => pure (.broken (notAPair position length))
    | some (.ok (key, value)) =>
      if !key.isScalar then throw .wrongType
      else
        ofPairs (position + 1) ((key.text?.map fun k => read.set k value).getD read) rest

/-- The fields of the payload. -/
def payload (data : Json) : Attempt (Checked Json.Fields) :=
  if data.isVoid then pure (.valid [])
  else
    match data with
    | .obj fields => pure (.valid fields)
    | .arr items => ofPairs 0 [] items
    | .str s => ofPairs 0 [] (s.toList.map fun c => .str (String.singleton c))
    | _ => throw .wrongType

/-! ## Reading -/

/-- The kind of an edge, so far as the settings depend on it; an edge without one is plain. -/
def preparedKind (raw : Json) : Checked EdgeKind :=
  if raw.isVoid then .valid .plain
  else
    match raw.text?.bind EdgeKind.ofName? with
    | some kind => .valid kind
    | none => .broken (.refused s!"{raw.display} is not a valid EdgeKind")

/-- A field of the payload. -/
def ofPayload {α : Type} (payload : Json.Fields) (key : String) (default : α)
    (check : Json → Checked α) : Checked α :=
  Checked.under (.key "data") (Schema.optional payload [key] default check)

/-- The fields of an edge whose payload has been read. -/
def check (fields payload : Json.Fields) : Checked Edge :=
  (fun id source target kind label condition animated style =>
      (make id source target kind label condition (payload.getD "config") animated style).value)
    <$> Schema.required fields ["id"] Schema.text
    <*> Schema.required fields ["source"] Schema.text
    <*> Schema.required fields ["target"] Schema.text
    <*> Schema.optional fields ["kind"] .plain
      (Schema.choice EdgeKind.ofName? (EdgeKind.all.map EdgeKind.name))
    <*> ofPayload payload "label" none (Schema.nullable Schema.text)
    <*> ofPayload payload "condition" none (Schema.nullable Schema.text)
    <*> Schema.optional fields ["animated"] false Schema.boolean
    <*> Schema.optional fields ["style"] [] Schema.object

/-- An edge read from the fields of an object. -/
def ofFields (fields : Json.Fields) : Attempt (Checked Edge) :=
  match preparedKind (fields.getD "kind") with
  | .invalid violations => pure (.invalid violations)
  | .valid kind => do
    match ← payload (fields.getD "data") with
    | .invalid violations => pure (.invalid violations)
    | .valid payload =>
      let _ ← Attempt.ofLogged
        (configured kind (payload.getD "condition") (payload.getD "config"))
      pure (check fields payload)

/-- An edge read from a value. -/
def read : Json → Attempt (Checked Edge)
  | .obj fields => ofFields fields
  | _ => pure (.broken (.record "Edge"))

/-- An edge read from a value, or a fault. -/
def ofJson (value : Json) : Attempt Edge :=
  Attempt.validated "Edge" (read value)

/-! ## Storing -/

/-- The fields of an edge, from which it can be read again. -/
def toFields (e : Edge) : Json.Fields :=
  [("id", .str e.id), ("source", .str e.source), ("target", .str e.target),
    ("kind", .str e.kind.name),
    ("data", .obj [
      ("label", .ofText? e.label),
      ("condition", .ofText? e.condition),
      ("config", (e.config.map fun c => Json.obj (c.toFields .stored)).getD .null)]),
    ("animated", .bool e.animated), ("style", .obj e.style)]

/-- The edge without infinite and undefined numbers in its style. -/
def storable (e : Edge) : Edge :=
  { e with style := Json.storableFields e.style }

/-- The edge as it is stored. -/
def toJson (e : Edge) : Json :=
  .obj e.storable.toFields

/-- The edge can be stored. -/
def isStorable (e : Edge) : Bool :=
  e.style.areStorable

/-- The edge with some of its fields changed. -/
def update (e : Edge) (changes : Json.Fields) : Attempt Edge :=
  Attempt.validated "Edge" (ofFields (e.toFields.merge changes))

end Edge

end WorkflowGraph
