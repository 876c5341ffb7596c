/-!
# Log records

Functions that meet something worth telling give their result together with the records they
wrote, in order. A `Logged` value is read through two views, `value` and `log`; the lemmas below say
what sequencing does to each.
-/

namespace WorkflowGraph

/-- How urgent a record is. -/
inductive Level where
  /-- Tells what is being done. -/
  | debug
  /-- Tells that something in the input was odd. -/
  | warning
  deriving DecidableEq

/-- The name of a level in a record. -/
def Level.name : Level → String
  | debug => "DEBUG"
  | warning => "WARNING"

/-- The rank of a level. -/
def Level.rank : Level → Nat
  | debug => 10
  | warning => 30

/-- The part of the system that a record comes from. -/
inductive Channel where
  /-- Ports read from raw data. -/
  | ports
  /-- Configurations. -/
  | configurations
  /-- References between nodes. -/
  | references
  /-- Graphs compiled to specs. -/
  | exports
  /-- Specs read as graphs. -/
  | imports
  /-- Graph documents. -/
  | documents
  /-- The command line. -/
  | commands
  deriving DecidableEq

/-- The name of a channel in a record. -/
def Channel.name : Channel → String
  | ports => "flowgraph.spec.port_models"
  | configurations => "flowgraph.spec.config_models"
  | references => "flowgraph.converters.reference_resolver"
  | exports => "flowgraph.converters.spec_exporter"
  | imports => "flowgraph.converters.spec_importer"
  | documents => "flowgraph.converters.document_io"
  | commands => "flowgraph.cli"

/-- One log record. -/
structure Record where
  /-- How urgent it is. -/
  level : Level
  channel : Channel
  message : String
  deriving DecidableEq

/-- The line that shows a record. -/
def Record.line (r : Record) : String :=
  s!"{r.level.name} {r.channel.name}: {r.message}"

/-- A value and the records written on the way to it. -/
structure Logged (α : Type) where
  value : α
  /-- The records, in order. -/
  log : List Record

namespace Logged

variable {α β : Type}

instance : Monad Logged where
  pure a := ⟨a, []⟩
  bind x f := ⟨(f x.value).value, x.log ++ (f x.value).log⟩

/-- Writes one record. -/
def write (level : Level) (channel : Channel) (message : String) : Logged Unit :=
  ⟨(), [⟨level, channel, message⟩]⟩

/-- Writes a warning. -/
def warn (channel : Channel) (message : String) : Logged Unit :=
  write .warning channel message

/-- Writes a debugging record. -/
def debug (channel : Channel) (message : String) : Logged Unit :=
  write .debug channel message

/-- A function applied to the items of a list in turn. -/
def mapList (f : α → Logged β) : List α → Logged (List β)
  | [] => pure []
  | a :: as => do
    let b ← f a
    let bs ← mapList f as
    pure (b :: bs)

@[simp] theorem value_pure (a : α) : (pure a : Logged α).value = a := rfl

@[simp] theorem log_pure (a : α) : (pure a : Logged α).log = [] := rfl

@[simp] theorem value_bind (x : Logged α) (f : α → Logged β) :
    (x >>= f).value = (f x.value).value := rfl

@[simp] theorem log_bind (x : Logged α) (f : α → Logged β) :
    (x >>= f).log = x.log ++ (f x.value).log := rfl

@[simp] theorem value_map (f : α → β) (x : Logged α) : (f <$> x).value = f x.value := rfl

@[simp] theorem value_mapList (f : α → Logged β) (as : List α) :
    (mapList f as).value = as.map fun a => (f a).value := by
  induction as with
  | nil => rfl
  | cons a as ih => simp [mapList, ih]

end Logged

end WorkflowGraph
