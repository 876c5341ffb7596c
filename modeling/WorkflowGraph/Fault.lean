import WorkflowGraph.Json.Reader
import WorkflowGraph.Log
import WorkflowGraph.Violation

/-!
# Faults

Everything that can go wrong, by cause. `Attempt` is a computation that writes log records and may
end in a fault; the records written before the fault are kept. A value is read by an attempt whose
result is checked: violations are collected, while a fault ends the reading at once.
-/

namespace WorkflowGraph

/-- Why something could not be done. -/
inductive Fault where
  /-- A workflow has no node of this id. -/
  | unknownNode (id : Json) (workflow : String)
  /-- A workflow has no edge of this id. -/
  | unknownEdge (id : Json) (workflow : String)
  /-- The id of a node is taken. -/
  | duplicateNode (id : String)
  /-- A second node of a kind that may occur once. -/
  | secondSingleton (kind id : String)
  /-- The id of an edge is taken. -/
  | duplicateEdge (id : String)
  /-- A port of type `foreign` was given a value of its own. -/
  | foreignLiteral (value : Json)
  /-- A workflow was required to be valid and is not. -/
  | invalidWorkflow (id : String) (problems : List String)
  /-- A spec is not an object. -/
  | specNotObject (value : Json)
  /-- A spec lacks one of its lists. -/
  | specMissing (key : String)
  /-- A spec breaks the rules of its records. -/
  | specInvalid (violations : List Violation)
  /-- A document is not an object. -/
  | documentNotObject (value : Json)
  /-- A text is not JSON. -/
  | unreadableText (error : Json.ReadError)
  /-- A value breaks the rules of the record it should be. -/
  | invalid (record : String) (violations : List Violation)
  /-- A value is none of the names of a closed set. -/
  | notAMember (value : Json) (set : String)
  /-- A number has more digits than are read. -/
  | tooManyDigits (count : Nat)
  /-- A log level has no meaning. -/
  | unknownLevel (name : String)
  /-- Lists and objects of a text, or folders to be made, lie deeper one inside the other than is
  followed. -/
  | tooNested
  /-- A value holds more values one inside the other than are stored. -/
  | tooDeep
  /-- The name of a file holds U+0000. -/
  | nullInName
  /-- A number is larger than the machine can count with. -/
  | overflow
  /-- A text is longer than memory holds. -/
  | outOfMemory
  /-- A text is to be indented by something that is neither a number nor a text. -/
  | indentType (value : Json)
  /-- A key was looked up that is not there. -/
  | missingKey (key : Json)
  /-- A value is of a type that the operation cannot take. -/
  | wrongType
  /-- A value has no fields. -/
  | noFields
  /-- A list is too short. -/
  | outOfRange
  /-- A file could not be read or written. -/
  | file (message : String)

/-- The fault of a text that is not read as JSON. -/
def Fault.ofReadError (e : Json.ReadError) : Fault :=
  match e.problem with
  | .tooManyDigits count => tooManyDigits count
  | .tooNested => tooNested
  | _ => unreadableText e

/-- The value that a text denotes, or the fault that it denotes none. -/
def Json.parse (s : String) : Except Fault Json :=
  (Json.ofText s).mapError Fault.ofReadError

/-- What is stored, if it is not nested too deep for it. -/
def storedIf {α : Type} (isStorable : Bool) (stored : α) : Except Fault α :=
  if isStorable then .ok stored else .error .tooDeep

/-- A computation that writes log records and may end in a fault. -/
abbrev Attempt := ExceptT Fault Logged

namespace Attempt

variable {α β : Type}

/-- A computation that cannot fail. -/
def ofLogged (x : Logged α) : Attempt α :=
  ExceptT.lift x

/-- A computation that writes no records. -/
def ofExcept : Except Fault α → Attempt α
  | .ok a => pure a
  | .error fault => throw fault

/-- What became of an attempt: its result or its fault, with the records written. -/
def outcome (x : Attempt α) : Logged (Except Fault α) :=
  ExceptT.run x

/-- The result of an attempt or its fault, whatever was written. -/
def result (x : Attempt α) : Except Fault α :=
  x.outcome.value

/-- A step applied to the items of a list in turn. -/
def mapList (f : α → Attempt β) : List α → Attempt (List β)
  | [] => pure []
  | a :: as => do
    let b ← f a
    let bs ← mapList f as
    pure (b :: bs)

/-- A checked value as the result of an attempt; violations are a fault. -/
def ofChecked (record : String) : Checked α → Attempt α
  | .valid a => pure a
  | .invalid violations => throw (.invalid record violations)

/-- A value that was read, if it has no violations. -/
def validated (record : String) (x : Attempt (Checked α)) : Attempt α := do
  ofChecked record (← x)

/-- The items of a list, each read at its position, with the violations of all. -/
def checkedList (read : α → Attempt (Checked β)) (items : List α) : Attempt (Checked (List β)) :=
  go 0 items
where
  /-- The reading from a position on. -/
  go (position : Nat) : List α → Attempt (Checked (List β))
    | [] => pure (.valid [])
    | a :: as => do
      let b ← read a
      let bs ← go (position + 1) as
      pure (Checked.both (Checked.map List.cons (Checked.under (.index position) b)) bs)

/-! ## Results -/

@[simp] theorem result_pure (a : α) : (pure a : Attempt α).result = .ok a := rfl

@[simp] theorem result_throw (fault : Fault) : (throw fault : Attempt α).result = .error fault :=
  rfl

@[simp] theorem result_ofLogged (x : Logged α) : (ofLogged x).result = .ok x.value := rfl

@[simp] theorem result_ofExcept (x : Except Fault α) : (ofExcept x).result = x := by
  cases x <;> rfl

theorem result_bind (x : Attempt α) (f : α → Attempt β) :
    (x >>= f).result = x.result >>= fun a => (f a).result := by
  unfold result outcome
  simp only [ExceptT.run_bind, Logged.value_bind]
  cases (ExceptT.run x).value <;> rfl

/-- A sequence of two steps has a result if each step has one. -/
@[simp] theorem result_bind_eq_ok_iff {x : Attempt α} {f : α → Attempt β} {b : β} :
    (x >>= f).result = .ok b ↔ ∃ a, x.result = .ok a ∧ (f a).result = .ok b := by
  rw [result_bind]
  cases x.result with
  | ok a =>
    constructor
    · exact fun h => ⟨a, rfl, h⟩
    · rintro ⟨a', ha, h⟩
      cases ha
      exact h
  | error fault =>
    constructor
    · exact fun h => by cases h
    · rintro ⟨a, ha, -⟩
      cases ha

theorem result_map (f : α → β) (x : Attempt α) : (f <$> x).result = x.result.map f := by
  change result (ExceptT.map f x) = _
  simp only [result, outcome, ExceptT.map, ExceptT.run, ExceptT.mk, Logged.value_bind]
  cases Logged.value x <;> rfl

@[simp] theorem result_map_eq_ok_iff {f : α → β} {x : Attempt α} {b : β} :
    (f <$> x).result = .ok b ↔ ∃ a, x.result = .ok a ∧ f a = b := by
  rw [result_map]
  cases x.result with
  | ok a => simp [Except.map]
  | error fault => simp [Except.map]

/-- A step is taken for all items of a list if it can be taken for each. -/
theorem result_mapList_eq_ok_iff {f : α → Attempt β} {p : α → Bool} {g : α → β}
    (h : ∀ a b, (f a).result = .ok b ↔ p a = true ∧ b = g a) {as : List α} {bs : List β} :
    (mapList f as).result = .ok bs ↔ as.all p = true ∧ bs = as.map g := by
  induction as generalizing bs with
  | nil => simp [mapList, eq_comm]
  | cons a as ih =>
    simp only [mapList, result_bind_eq_ok_iff, result_pure, h, ih, Except.ok.injEq, List.all_cons,
      Bool.and_eq_true, List.map_cons]
    constructor
    · rintro ⟨_, ⟨hp, rfl⟩, _, ⟨hall, rfl⟩, rfl⟩
      exact ⟨⟨hp, hall⟩, rfl⟩
    · rintro ⟨⟨hp, hall⟩, rfl⟩
      exact ⟨_, ⟨hp, rfl⟩, _, ⟨hall, rfl⟩, rfl⟩

end Attempt

/-- What is not nested too deep is stored as it is. -/
@[simp] theorem storedIf_eq_ok_iff {α : Type} {b : Bool} {a c : α} :
    storedIf b a = .ok c ↔ b = true ∧ a = c := by
  cases b <;> simp [storedIf]

end WorkflowGraph
