import WorkflowGraph.Port.Basic

/-!
# Port listings

Ports are listed in several forms: as an object from names to entries, or as a list of entries that
carry their names. An entry of an input port is a value, a description of a port (value, reference,
type and the like), or a stored port; an entry of an output port is a type or a description of one.
All forms are read here into one, a listing. Names in it are those that were given, so they need not
be texts; `Listing.toTable` tells whether they are.
-/

namespace WorkflowGraph

/-- Ports under the names they were given, in order. -/
abbrev Listing (α : Type) := List (Json × α)

namespace Listing

variable {α : Type}

/-- The listing with a port under a name: in the place of the port of an equal name, if there is
one. -/
def put (listing : Listing α) (name : Json) (port : α) : Listing α :=
  if listing.any (·.1.same name) then
    listing.map fun e => if e.1.same name then (e.1, port) else e
  else listing ++ [(name, port)]

/-- The step on a path that a name makes. -/
def pathItem : Json → PathItem
  | .str s => .key s
  | .bool b => .index (if b then 1 else 0)
  | .int n => if Schema.isMachineSize n then .index n else .key (toString n)
  | name => .key name.display

/-- The names and ports of a listing whose names are texts. -/
def checkedNames : Listing α → Checked (List (String × α))
  | [] => .valid []
  | (name, port) :: rest =>
    Checked.both
      (Checked.map (fun s entries => (s, port) :: entries)
        (Checked.under (pathItem name) (Checked.under (.key "[key]") (Schema.text name))))
      (checkedNames rest)

/-- The table of a listing whose names are texts. -/
def toTable (listing : Listing α) : Checked (Table α) :=
  Checked.map Table.ofList (checkedNames listing)

/-- Names and entries of either form. Entries without a name are skipped, and so is all that has
neither form. -/
def entries (role : String) : Json → Logged (List (Json × Json))
  | .null => pure []
  | .obj fields => pure (fields.map fun f => (.str f.1, f.2))
  | .arr items => ofItems items
  | raw => do
    Logged.warn .ports s!"Ignoring {role} ports of unsupported shape {raw.typeName}"
    pure []
where
  /-- Names and entries of the items of a list. -/
  ofItems : List Json → Logged (List (Json × Json))
    | [] => pure []
    | .str name :: rest => do
      pure ((.str name, .null) :: (← ofItems rest))
    | item :: rest => do
      let name := (item.fields?.map (Json.Fields.getD · "name")).getD .null
      if name.isVoid then
        Logged.warn .ports s!"Skipping {role} port entry without a name: {item.display}"
        ofItems rest
      else pure ((name, item) :: (← ofItems rest))

end Listing

/-! ## Entries -/

/-- The type that the description of a port declares. -/
def DataType.declared? (fields : Json.Fields) : Logged (Option DataType) :=
  match (fields.get? "dataType").getD (fields.getD "data_type") with
  | .null => pure none
  | raw => do pure (some (← DataType.coerce raw))

/-- The type that an entry of an output port gives. -/
def DataType.ofEntry : Json → Logged DataType
  | .null => pure .any
  | .obj fields => do
    match ← DataType.declared? fields with
    | some type => pure type
    | none =>
      match Json.Fields.get? fields "type" with
      | some raw => DataType.coerce raw
      | none => pure .any
  | raw => DataType.coerce raw

namespace Port

/-- The keys by which the description of a port is told from a value. -/
def descriptionKeys : List String :=
  ["value", "reference", "connectedTo", "dataType", "data_type", "isTemplate", "defaultValue"]

/-- The port that a description denotes. A reference comes first, then the value, then the default
value; what is empty counts as not given. -/
def ofDescription (fields : Json.Fields) : Logged Port := do
  let type? ← DataType.declared? fields
  let reference := (fields.getD "reference").orElse (fields.getD "connectedTo")
  let own := fields.getD "value"
  let value := if own.isBlank then fields.getD "defaultValue" else own
  if reference.text?.any (· ≠ "") then pure (ofRaw reference type?)
  else if !(fields.getD "isTemplate").isVoid && value.text?.any (· ≠ "") then
    pure (template value (type?.getD .string))
  else if value.isBlank then pure (unset (type?.getD .string))
  else pure (ofRaw value type?)

/-- The port that an entry denotes. Only a stored port can have violations. -/
def ofEntry : Json → Logged (Checked Port)
  | .null => pure (.valid (unset .string))
  | .obj fields =>
    if Json.Fields.has fields "binding" then pure (ofFields fields)
    else if descriptionKeys.any (Json.Fields.has fields) then Checked.valid <$> ofDescription fields
    else pure (.valid (ofRaw (.obj fields) none))
  | value => pure (.valid (ofRaw value none))

end Port

/-! ## Reading -/

namespace Listing

/-- The input ports of a listing. The first violation ends the reading. -/
def inputs (raw : Json) : Attempt (Checked (Listing Port)) := do
  go [] (← Attempt.ofLogged (entries "input" raw))
where
  /-- The input ports of the entries that remain, after those read. -/
  go (read : Listing Port) : List (Json × Json) → Attempt (Checked (Listing Port))
    | [] => pure (.valid read)
    | (name, entry) :: rest => do
      match ← Attempt.ofLogged (Port.ofEntry entry) with
      | .invalid violations => pure (.invalid violations)
      | .valid port =>
        if name.isScalar then go (read.put name port) rest else throw .wrongType

/-- The output ports of a listing. -/
def outputs (raw : Json) : Attempt (Listing DataType) := do
  go [] (← Attempt.ofLogged (entries "output" raw))
where
  /-- The output ports of the entries that remain, after those read. -/
  go (read : Listing DataType) : List (Json × Json) → Attempt (Listing DataType)
    | [] => pure read
    | (name, entry) :: rest => do
      let type ← Attempt.ofLogged (DataType.ofEntry entry)
      if name.isScalar then go (read.put name type) rest else throw .wrongType

/-- The listing of a table. -/
def ofTable {α : Type} (table : Table α) : Listing α :=
  table.entries.map fun e => (.str e.1, e.2)

end Listing

/-- The output ports that an object lists under their names. -/
def DataType.ofFields (fields : Json.Fields) : Logged (Table DataType) := do
  let types ← Logged.mapList (fun f => do pure (f.1, ← DataType.ofEntry f.2)) fields
  pure (Table.ofList types)

end WorkflowGraph
