import WorkflowGraph.Fault
import WorkflowGraph.Json.Display
import WorkflowGraph.Kind
import WorkflowGraph.Reference
import WorkflowGraph.Schema
import WorkflowGraph.Table

/-!
# Input ports

An input port holds a value of its own, a reference to an output of a node, or a reference to a
setting. Ports are made directly, or from a value alone by the form of it (`Port.ofRaw`), or from an
input of a spec (`Port.ofWire`), where the bare name of a type stands for a port that is not set.
-/

namespace WorkflowGraph

/-! ## Types of values -/

/-- The type that a value has by its form. -/
def DataType.infer : Json → DataType
  | .bool _ => .boolean
  | .int _ | .float _ => .number
  | .str _ => .string
  | .obj _ => .object
  | .arr _ => .array
  | .null => .any

/-- The type that a value names; `any`, with a warning, if it names none. -/
def DataType.coerce (raw : Json) : Logged DataType :=
  match raw.text?.bind DataType.ofName? with
  | some type => pure type
  | none => do
    if raw ≠ .null then
      Logged.warn .ports s!"Unknown data type {raw.display}, treating it as 'any'"
    pure .any

/-- The value is the bare name of a type. -/
def DataType.ofPlaceholder? (value : Json) : Option DataType :=
  value.text?.bind DataType.ofName?

/-- The value is a reference to a setting. -/
def Json.isTemplate (value : Json) : Bool :=
  value.text?.any Reference.isTemplate

/-- The head of a value that has the form of a reference. -/
def Json.referenceHead? (value : Json) : Option String :=
  value.text?.bind Reference.head?

/-! ## Ports -/

/-- What an input port holds. -/
structure Port where
  /-- What the value is. -/
  binding : Binding
  /-- The value itself, or the reference. -/
  value : Json
  /-- The declared type. -/
  dataType : DataType
  deriving DecidableEq

namespace Port

/-- A port without a value. -/
def unset (type : DataType) : Port :=
  ⟨.literal, .null, type⟩

/-- A port with a value of its own, of the given type or of the type that the value has. -/
def literal (value : Json) (type? : Option DataType) : Except Fault Port :=
  let type := type?.getD (.infer value)
  if type = .foreign then .error (.foreignLiteral value) else .ok ⟨.literal, value, type⟩

/-- A port bound to a reference. -/
def connection (reference : Json) (type : DataType) : Port :=
  ⟨.connection, reference, type⟩

/-- A port bound to an output of a node. -/
def connectTo (node output : String) (type : DataType) : Port :=
  connection (.str (Reference.make node output)) type

/-- A port bound to a setting, given by its key or by a reference to it. -/
def template (key : Json) (type : DataType) : Port :=
  ⟨.template,
    if key.isTemplate then key else .str (Reference.templatePrefix ++ key.inSentence), type⟩

/-- The binding that the form of a value gives. -/
def bindingOf (value : Json) : Binding :=
  if value.isTemplate then .template
  else if value.referenceHead?.isSome then .connection
  else .literal

/-- The type of a port whose type is not declared, by its binding and its value. -/
def typeOf (value : Json) : Binding → DataType
  | .template => .string
  | .connection => .any
  | .literal => .infer value

/-- The port that holds a value, bound as the form of the value says. -/
def ofRaw (value : Json) (type? : Option DataType) : Port :=
  ⟨bindingOf value, value, type?.getD (typeOf value (bindingOf value))⟩

/-- The port that an input of a spec denotes. -/
def ofWire (value : Json) : Port :=
  match DataType.ofPlaceholder? value with
  | some type => unset type
  | none => ofRaw value none

/-- The names of all types. -/
def typeNames : List String := DataType.all.map DataType.name

/-- The type of a port that cannot do without one. -/
def requireType : Option DataType → Except Fault DataType
  | some type => .ok type
  | none => .error (.invalid "PortValue" [⟨[.key "data_type"], .choice typeNames⟩])

/-- The port has no value. -/
def isUnset (p : Port) : Bool :=
  p.binding = .literal && p.value.isBlank

/-- The reference that a port is bound to. -/
def reference (p : Port) : Json :=
  if p.binding = .literal then .null else p.value

/-- The port bound to another reference. -/
def withReference (p : Port) (reference : Json) : Port :=
  { p with value := reference }

/-- The input of a spec that denotes the port. -/
def toWire (p : Port) : Json :=
  if p.isUnset then .str p.dataType.name else p.value

/-- What stands after the length of a template prefix in the value of a template. -/
def templateKey (p : Port) : Except Fault Json :=
  if p.binding ≠ .template then .ok .null
  else
    let n := Reference.templateChars.length
    match p.value with
    | .str s => .ok (.str (String.ofList (s.toList.drop n)))
    | .arr items => .ok (.arr (items.drop n))
    | _ => .error .wrongType

/-- What is wrong with the port of a name. -/
def problems (name : String) (p : Port) : List String :=
  if p.dataType = .foreign && p.binding ≠ .connection then
    [s!"Port '{name}' of type foreign must hold a connection reference"]
  else []

/-! ## Stored ports -/

/-- A port read from the fields of an object. -/
def ofFields (fields : Json.Fields) : Checked Port :=
  Port.mk
    <$> Schema.optional fields ["binding"] .literal
      (Schema.choice Binding.ofName? (Binding.all.map Binding.name))
    <*> Schema.optional fields ["value"] .null Checked.valid
    <*> Schema.optional fields ["data_type"] .any
      (Schema.choice DataType.ofName? typeNames)

/-- A port read from a value. -/
def ofJson : Json → Checked Port :=
  Schema.record "PortValue" ofFields

/-- The port as an object. -/
def toJson (p : Port) : Json :=
  .obj [("binding", .str p.binding.name), ("value", p.value), ("data_type", .str p.dataType.name)]

/-- The port without infinite and undefined numbers in its value. -/
def storable (p : Port) : Port :=
  { p with value := p.value.storable }

/-- The port can be stored. -/
def isStorable (p : Port) : Bool :=
  p.value.isStorable

end Port

end WorkflowGraph
