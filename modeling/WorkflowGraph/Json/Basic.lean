import WorkflowGraph.Float64.Rounding

/-!
# JSON values

Integers of any size and doubles are kept apart, as they are in the text. The fields of an object
are in order and each key occurs once: `Fields.set` and `Fields.ofList` keep it so, a later value
replacing an earlier one in its place.
-/

namespace WorkflowGraph

/-- A JSON value. -/
inductive Json where
  | null
  | bool (value : Bool)
  /-- A number without fraction and exponent. -/
  | int (value : Int)
  /-- A number with a fraction or an exponent. -/
  | float (value : Float64)
  | str (value : String)
  /-- A list of values. -/
  | arr (items : List Json)
  /-- An object, as its fields in order. -/
  | obj (fields : List (String × Json))

instance : Inhabited Json := ⟨.null⟩

namespace Json

/-- The fields of an object. -/
abbrev Fields := List (String × Json)

/-! ## Deciding equality -/

mutual

/-- Two values have the same form. -/
def decEq : (a b : Json) → Decidable (a = b)
  | .null, .null => isTrue rfl
  | .bool a, .bool b =>
    if h : a = b then isTrue (h ▸ rfl) else isFalse fun e => h (by injection e)
  | .int a, .int b =>
    if h : a = b then isTrue (h ▸ rfl) else isFalse fun e => h (by injection e)
  | .float a, .float b =>
    if h : a = b then isTrue (h ▸ rfl) else isFalse fun e => h (by injection e)
  | .str a, .str b =>
    if h : a = b then isTrue (h ▸ rfl) else isFalse fun e => h (by injection e)
  | .arr a, .arr b =>
    match decEqItems a b with
    | isTrue h => isTrue (h ▸ rfl)
    | isFalse h => isFalse fun e => h (by injection e)
  | .obj a, .obj b =>
    match decEqFields a b with
    | isTrue h => isTrue (h ▸ rfl)
    | isFalse h => isFalse fun e => h (by injection e)
  | .null, .bool _ | .null, .int _ | .null, .float _ | .null, .str _ | .null, .arr _
  | .null, .obj _ | .bool _, .null | .bool _, .int _ | .bool _, .float _ | .bool _, .str _
  | .bool _, .arr _ | .bool _, .obj _ | .int _, .null | .int _, .bool _ | .int _, .float _
  | .int _, .str _ | .int _, .arr _ | .int _, .obj _ | .float _, .null | .float _, .bool _
  | .float _, .int _ | .float _, .str _ | .float _, .arr _ | .float _, .obj _ | .str _, .null
  | .str _, .bool _ | .str _, .int _ | .str _, .float _ | .str _, .arr _ | .str _, .obj _
  | .arr _, .null | .arr _, .bool _ | .arr _, .int _ | .arr _, .float _ | .arr _, .str _
  | .arr _, .obj _ | .obj _, .null | .obj _, .bool _ | .obj _, .int _ | .obj _, .float _
  | .obj _, .str _ | .obj _, .arr _ => isFalse nofun

/-- Two lists of values have the same form. -/
def decEqItems : (a b : List Json) → Decidable (a = b)
  | [], [] => isTrue rfl
  | x :: a, y :: b =>
    match decEq x y, decEqItems a b with
    | isTrue h, isTrue h' => isTrue (h ▸ h' ▸ rfl)
    | isFalse h, _ => isFalse fun e => h (by injection e)
    | _, isFalse h => isFalse fun e => h (by injection e)
  | [], _ :: _ | _ :: _, [] => isFalse nofun

/-- Two lists of fields have the same form. -/
def decEqFields : (a b : List (String × Json)) → Decidable (a = b)
  | [], [] => isTrue rfl
  | (k, x) :: a, (l, y) :: b =>
    match decEq x y, decEqFields a b with
    | isTrue h, isTrue h' =>
      if hk : k = l then isTrue (h ▸ h' ▸ hk ▸ rfl)
      else isFalse fun e => hk (by injection e with e; injection e)
    | isFalse h, _ => isFalse fun e => h (by injection e with e; injection e)
    | _, isFalse h => isFalse fun e => h (by injection e)
  | [], _ :: _ | _ :: _, [] => isFalse nofun

end

instance : DecidableEq Json := decEq

/-! ## Fields -/

/-- The value under a key. -/
def Fields.get? (fields : Fields) (key : String) : Option Json :=
  (fields.find? (·.1 == key)).map (·.2)

/-- The value under a key, `null` if there is none. -/
def Fields.getD (fields : Fields) (key : String) : Json :=
  (fields.get? key).getD .null

/-- The key occurs. -/
def Fields.has (fields : Fields) (key : String) : Bool :=
  fields.any (·.1 == key)

/-- The fields with a key set, in its place if it occurs and at the end if not. -/
def Fields.set (fields : Fields) (key : String) (value : Json) : Fields :=
  if fields.has key then fields.map fun f => if f.1 == key then (key, value) else f
  else fields ++ [(key, value)]

/-- The fields with each key once: the last value, at the place of the first. -/
def Fields.ofList (fields : List (String × Json)) : Fields :=
  fields.foldl (fun acc f => Fields.set acc f.1 f.2) []

/-- The fields with those of a second list set over them. -/
def Fields.merge (fields changes : Fields) : Fields :=
  changes.foldl (fun acc f => Fields.set acc f.1 f.2) fields

/-- The fields of an object. -/
def fields? : Json → Option Fields
  | .obj fields => some fields
  | _ => none

/-- The items of a list. -/
def items? : Json → Option (List Json)
  | .arr items => some items
  | _ => none

/-- A text. -/
def text? : Json → Option String
  | .str s => some s
  | _ => none

/-- A text or `null`. -/
def ofText? : Option String → Json
  | some s => .str s
  | none => .null

/-! ## Presence -/

/-- `null`, `false`, zero, or empty. Where documents are read leniently such a value counts as not
given. -/
def isVoid : Json → Bool
  | .null => true
  | .bool b => !b
  | .int n => n == 0
  | .float x => x.same (.finite false .zero)
  | .str s => s.isEmpty
  | .arr items => items.isEmpty
  | .obj fields => fields.isEmpty

/-- The value, or another if it counts as not given. -/
def orElse (value other : Json) : Json :=
  if value.isVoid then other else value

/-- Lists and objects cannot be looked up by: they name no kind, port or type. -/
def isScalar : Json → Bool
  | .arr _ | .obj _ => false
  | _ => true

/-- The value is `null` or the empty text. -/
def isBlank : Json → Bool
  | .null => true
  | .str s => s.isEmpty
  | _ => false

/-! ## Equality of values -/

/-- The number a value denotes: `true` and `false` count as one and zero. -/
def number? : Json → Option (Int ⊕ Float64)
  | .bool b => some (.inl (if b then 1 else 0))
  | .int n => some (.inl n)
  | .float x => some (.inr x)
  | _ => none

/-- Equality of numbers across the two forms, exact and without rounding. -/
def sameNumber : Int ⊕ Float64 → Int ⊕ Float64 → Bool
  | .inl a, .inl b => a == b
  | .inl a, .inr y => y.toInt? == some a
  | .inr x, .inl b => x.toInt? == some b
  | .inr x, .inr y => x.same y

mutual

/-- Equality of values: numbers by value, objects without regard to the order of their fields. -/
def same : Json → Json → Bool
  | .null, .null => true
  | .str a, .str b => a == b
  | .arr a, .arr b => sameItems a b
  | .obj a, .obj b => a.length == b.length && sameFields a b
  | .bool a, b => (b.number?.map (sameNumber (.inl (if a then 1 else 0)))).getD false
  | .int a, b => (b.number?.map (sameNumber (.inl a))).getD false
  | .float x, b => (b.number?.map (sameNumber (.inr x))).getD false
  | _, _ => false

/-- Equality of lists, item by item. -/
def sameItems : List Json → List Json → Bool
  | [], [] => true
  | x :: a, y :: b => same x y && sameItems a b
  | _, _ => false

/-- Each field of the first list has an equal one in the second. -/
def sameFields : List (String × Json) → Fields → Bool
  | [], _ => true
  | (k, x) :: a, b => b.any (fun f => f.1 == k && same x f.2) && sameFields a b

end

/-! ## Nesting -/

mutual

/-- How many values lie one inside the other, the value itself included. -/
def height : Json → Nat
  | .arr items => heightOfItems items + 1
  | .obj fields => heightOfFields fields + 1
  | _ => 1

/-- The greatest height of some values. -/
def heightOfItems : List Json → Nat
  | [] => 0
  | x :: items => max (height x) (heightOfItems items)

/-- The greatest height of the values of some fields. -/
def heightOfFields : List (String × Json) → Nat
  | [] => 0
  | (_, x) :: fields => max (height x) (heightOfFields fields)

end

/-- The greatest height of a value that is stored. -/
def maxStoredHeight : Nat := 255

/-- The value can be stored under this many values that hold it. -/
def isStorableUnder (outer : Nat) (value : Json) : Bool :=
  outer + value.height ≤ maxStoredHeight

/-- The value can be stored. -/
def isStorable (value : Json) : Bool :=
  value.isStorableUnder 0

/-- The values of all fields can be stored. -/
def Fields.areStorable (fields : Fields) : Bool :=
  fields.all fun f => f.2.isStorable

/-! ## Storable values -/

mutual

/-- The value with `null` in place of infinite and undefined numbers, which JSON text cannot hold.
-/
def storable : Json → Json
  | .float x => if x.isFinite then .float x else .null
  | .arr items => .arr (storableItems items)
  | .obj fields => .obj (storableFields fields)
  | value => value

/-- `storable` on each item. -/
def storableItems : List Json → List Json
  | [] => []
  | x :: items => storable x :: storableItems items

/-- `storable` on the value of each field. -/
def storableFields : List (String × Json) → List (String × Json)
  | [] => []
  | (k, x) :: fields => (k, storable x) :: storableFields fields

end

/-! ## Names of types -/

/-- The name under which messages mention the type of a value. -/
def typeName : Json → String
  | .null => "NoneType"
  | .bool _ => "bool"
  | .int _ => "int"
  | .float _ => "float"
  | .str _ => "str"
  | .arr _ => "list"
  | .obj _ => "dict"

end Json

end WorkflowGraph
