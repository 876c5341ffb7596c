import WorkflowGraph.Json.Basic
import WorkflowGraph.Timestamp.Problem

/-!
# Violations

What is wrong with a value that was read as a record: where in it, and which rule is broken. Checks
of the fields of a record are combined so that all violations are found, in the order of the fields.
-/

namespace WorkflowGraph

/-- One step on the way into a value. -/
inductive PathItem where
  /-- The field of an object. -/
  | key (name : String)
  /-- The item of a list. -/
  | index (position : Int)
  deriving DecidableEq

/-- A rule that a value breaks. -/
inductive Rule where
  /-- A required field is missing. -/
  | missing
  | text
  | integer
  /-- A text that is no integer. -/
  | integerText
  /-- A number with a fraction in place of an integer. -/
  | integerFraction
  /-- An integer that is too large to be read. -/
  | integerSize
  /-- Infinity or NaN in place of an integer. -/
  | finiteNumber
  | number
  /-- A text that is no number. -/
  | numberText
  | boolean
  /-- A text or an integer that is no truth value. -/
  | booleanText
  | object
  | list
  /-- Not an object that could be the named record. -/
  | record (name : String)
  /-- None of the names that may be chosen. -/
  | choice (names : List String)
  | timestamp
  /-- A number that is no timestamp, or a timestamp that no calendar has. -/
  | timestampNumber (problem : DateProblem)
  /-- A text that is no timestamp. -/
  | timestampText (problem : DateProblem)
  /-- A value that could not be prepared for reading. -/
  | refused (reason : String)
  deriving DecidableEq

/-- Quoted names, the last two joined by `or`. -/
def alternatives (names : List String) : String :=
  let quoted := names.map fun name => s!"'{name}'"
  match quoted.reverse with
  | [] => ""
  | [only] => only
  | last :: others => ", ".intercalate others.reverse ++ " or " ++ last

/-- The short name of a rule. -/
def Rule.code : Rule → String
  | missing => "missing"
  | text => "string_type"
  | integer => "int_type"
  | integerText => "int_parsing"
  | integerFraction => "int_from_float"
  | integerSize => "int_parsing_size"
  | finiteNumber => "finite_number"
  | number => "float_type"
  | numberText => "float_parsing"
  | boolean => "bool_type"
  | booleanText => "bool_parsing"
  | object => "dict_type"
  | list => "list_type"
  | record _ => "model_type"
  | choice _ => "enum"
  | timestamp => "datetime_type"
  | timestampNumber _ => "datetime_parsing"
  | timestampText _ => "datetime_from_date_parsing"
  | refused _ => "value_error"

/-- What a rule asks for. -/
def Rule.message : Rule → String
  | missing => "Field required"
  | text => "Input should be a valid string"
  | integer => "Input should be a valid integer"
  | integerText => "Input should be a valid integer, unable to parse string as an integer"
  | integerFraction => "Input should be a valid integer, got a number with a fractional part"
  | integerSize => "Unable to parse input string as an integer, exceeded maximum size"
  | finiteNumber => "Input should be a finite number"
  | number => "Input should be a valid number"
  | numberText => "Input should be a valid number, unable to parse string as a number"
  | boolean => "Input should be a valid boolean"
  | booleanText => "Input should be a valid boolean, unable to interpret input"
  | object => "Input should be a valid dictionary"
  | list => "Input should be a valid list"
  | record name => s!"Input should be a valid dictionary or instance of {name}"
  | choice names => s!"Input should be {alternatives names}"
  | timestamp => "Input should be a valid datetime"
  | timestampNumber problem => s!"Input should be a valid datetime, {problem.message}"
  | timestampText problem => s!"Input should be a valid datetime or date, {problem.message}"
  | refused reason => s!"Value error, {reason}"

/-- A broken rule and where. -/
structure Violation where
  /-- The way from the whole value to the part that breaks the rule. -/
  path : List PathItem
  rule : Rule
  deriving DecidableEq

/-- A value that was checked, or everything that is wrong with it. -/
inductive Checked (α : Type) where
  /-- Nothing is wrong. -/
  | valid (value : α)
  /-- The violations found. -/
  | invalid (violations : List Violation)

namespace Checked

variable {α β : Type}

/-- A single violation of the whole value. -/
def broken (rule : Rule) : Checked α :=
  .invalid [⟨[], rule⟩]

/-- A function of the checked value. -/
def map (f : α → β) : Checked α → Checked β
  | valid a => valid (f a)
  | invalid vs => invalid vs

/-- Two checks side by side: the violations of both are kept. -/
def both (f : Checked (α → β)) (x : Checked α) : Checked β :=
  match f, x with
  | valid f, valid a => valid (f a)
  | valid _, invalid vs => invalid vs
  | invalid us, valid _ => invalid us
  | invalid us, invalid vs => invalid (us ++ vs)

instance : Functor Checked where
  map := map

instance : Applicative Checked where
  pure := valid
  seq f x := both f (x ())

/-- The violations found one step further in. -/
def under (item : PathItem) : Checked α → Checked α
  | valid a => valid a
  | invalid vs => invalid (vs.map fun v => ⟨item :: v.path, v.rule⟩)

/-- The violations; none for a valid value. -/
def violations : Checked α → List Violation
  | valid _ => []
  | invalid vs => vs

/-- The items of a list, each checked at its position. -/
def list (check : α → Checked β) : List α → Checked (List β) :=
  go 0
where
  /-- The check from a position on. -/
  go (position : Nat) : List α → Checked (List β)
    | [] => valid []
    | a :: as => both (map List.cons (under (.index position) (check a))) (go (position + 1) as)

@[simp] theorem map_valid (f : α → β) (a : α) : f <$> (valid a : Checked α) = valid (f a) := rfl

@[simp] theorem seq_valid (f : α → β) (a : α) :
    (valid f : Checked (α → β)) <*> valid a = valid (f a) := rfl

/-- A valid image is the image of a valid value. -/
theorem exists_of_map {f : α → β} {x : Checked α} {b : β} (h : f <$> x = valid b) :
    ∃ a, x = valid a ∧ b = f a := by
  cases x with
  | valid a => exact ⟨a, rfl, (Checked.valid.inj h).symm⟩
  | invalid vs => cases h

/-- Two checks side by side are valid if each is. -/
theorem exists_of_seq {f : Checked (α → β)} {x : Checked α} {b : β} (h : f <*> x = valid b) :
    ∃ g a, f = valid g ∧ x = valid a ∧ b = g a := by
  cases f with
  | valid g =>
    cases x with
    | valid a => exact ⟨g, a, rfl, rfl, (Checked.valid.inj h).symm⟩
    | invalid vs => cases h
  | invalid us =>
    cases x with
    | valid a => cases h
    | invalid vs => cases h

theorem eq_valid_of_under {item : PathItem} {x : Checked α} {a : α}
    (h : under item x = valid a) : x = valid a := by
  cases x with
  | valid b => exact h
  | invalid vs => cases h

@[simp] theorem under_valid (item : PathItem) (a : α) : under item (valid a) = valid a := rfl

end Checked

end WorkflowGraph
