import Mathlib.Logic.Relation
import WorkflowGraph.Proofs.Factory
import WorkflowGraph.Proofs.Stored
import WorkflowGraph.Proofs.Update

/-!
# Kinds and configurations that stay together

Whenever a node or an edge is read, its configuration is made for its kind: from the settings that are
given, or else from those that it had under its former kind. Plain copies change neither. So along
every run of changes the configuration is that of the kind. Main statement: `configs_follow_kinds`.
-/

namespace WorkflowGraph

open Relation

/-! ## Nodes -/

namespace Node

/-- The configuration for a kind, made from the settings that are given; none if `null` is given. -/
def configFor (kind : String) (given : ConfigSource) : Option NodeConfig :=
  if given.data = .null then none else (NodeConfig.ofSource kind given).value

theorem value_configured_data (kind : String) (given : ConfigSource) :
    (configured kind given.data).value = configFor kind given := by
  unfold configured configFor
  split
  · rfl
  · rw [NodeConfig.ofSource_eq_create]

/-- There is no configuration, or it has the form for the kind. -/
def FollowsKind (n : Node) : Prop :=
  n.config = none ∨ ∃ variant, n.kind = variant.kind.name ∧ n.config.map NodeConfig.variant = some variant

/-- The node with fields changed and settings given. -/
def configure (n : Node) (changes : Json.Fields) (given : ConfigSource) : Attempt Node :=
  n.update (changes.set "config" given.data)

/-- The node comes from the other by a change of one of these sorts. -/
inductive Changes (n : Node) : Node → Prop
  | update (changes : Json.Fields) {m : Node} (h : (n.update changes).result = .ok m) : Changes n m
  | configure (changes : Json.Fields) (given : ConfigSource) {m : Node}
      (h : (n.configure changes given).result = .ok m) : Changes n m
  | moveTo (position : Position) : Changes n (n.moveTo position)
  | withInput (name : String) (port : Port) : Changes n (n.withInput name port)
  | redirectReferences (old new : String) : Changes n (n.redirectReferences old new)

variable {fields changes : Json.Fields} {n m : Node}

/-- A configuration that was made for the kind of the node has the form for it. -/
theorem followsKind_of_configured {data : Json} (h : n.config = (configured n.kind data).value) :
    n.FollowsKind := by
  cases hc : n.config with
  | none => exact Or.inl hc
  | some c =>
    rw [hc, configured] at h
    split at h
    · cases h
    · have hvariant := NodeConfig.variant_create n.kind data
      rw [← h, Option.map_some] at hvariant
      refine Or.inr ⟨c.variant, ?_, congrArg (Option.map _) hc⟩
      exact (NodeConfig.kind_of_ofKind? hvariant.symm).symm

theorem followsKind_of_ofFields (h : (ofFields fields).result = .ok (.valid n)) : n.FollowsKind :=
  followsKind_of_configured (fields_of_ofFields h).2.2

theorem config_update (h : (n.update changes).result = .ok m) :
    m.config = (configured m.kind ((n.toFields.merge changes).getD "config")).value :=
  (fields_of_ofFields (Attempt.eq_valid_of_validated h)).2.2

/-- A change of other fields leaves the configuration to be made anew for the kind. -/
theorem config_update_of_kept (h : (n.update changes).result = .ok m)
    (hconfig : changes.has "config" = false) :
    m.config = n.config.bind fun c => (NodeConfig.ofSource m.kind (.node c)).value := by
  rw [config_update h, Json.Fields.getD, Json.Fields.get?_merge hconfig]
  cases hc : n.config with
  | none =>
    simp only [toFields, hc]
    rfl
  | some c =>
    simp only [toFields, hc]
    exact value_configured_data m.kind (.node c)

/-- Settings that are given make the configuration for the kind. -/
theorem config_configure {given : ConfigSource} (h : (n.configure changes given).result = .ok m) :
    m.config = configFor m.kind given := by
  rw [config_update h, Json.Fields.getD, Json.Fields.get?_merge_set, Option.getD_some,
    value_configured_data]

theorem FollowsKind.change (h : n.FollowsKind) (hm : Changes n m) : m.FollowsKind := by
  cases hm with
  | update changes h => exact followsKind_of_ofFields (Attempt.eq_valid_of_validated h)
  | configure changes given h => exact followsKind_of_ofFields (Attempt.eq_valid_of_validated h)
  | moveTo position => exact h
  | withInput name port => exact h
  | redirectReferences old new => exact h

theorem FollowsKind.run (h : n.FollowsKind) (hm : ReflTransGen Changes n m) : m.FollowsKind := by
  induction hm with
  | refl => exact h
  | tail _ hchange ih => exact ih.change hchange

theorem result_update_nil (n : Node) : (n.update []).result = .ok n :=
  Attempt.result_validated_of_valid "Node" (result_ofFields_toFields n)

end Node

/-! ## Edges -/

namespace Edge

/-- The configuration for a kind, made from the settings that are given, or else from the condition. -/
def configFor (kind : EdgeKind) (condition : Option String) (given : ConfigSource) : Option EdgeConfig :=
  if given.data = .null then (configured kind (.ofText? condition) .null).value
  else (EdgeConfig.ofSource kind.name given).value

theorem value_configured_data (kind : EdgeKind) (condition : Option String) (given : ConfigSource) :
    (configured kind (.ofText? condition) given.data).value = configFor kind condition given := by
  unfold configFor
  split
  · next hnull => rw [hnull]
  · next hnull => rw [configured, configData, if_pos hnull, EdgeConfig.ofSource_eq_create]

/-- A plain edge has no configuration, and any other has one of the form for its kind. -/
def FollowsKind (e : Edge) : Prop :=
  e.kind = .plain ∧ e.config = none ∨
    ∃ variant, e.kind = variant.kind ∧ e.config.map EdgeConfig.variant = some variant

/-- The edge with fields changed and settings given, among the fields of a payload. -/
def configure (e : Edge) (changes payload : Json.Fields) (given : ConfigSource) : Attempt Edge :=
  e.update (changes.set "data" (.obj (payload.set "config" given.data)))

/-- The edge comes from the other by a change of one of these sorts. -/
inductive Changes (e : Edge) : Edge → Prop
  | update (changes : Json.Fields) {f : Edge} (h : (e.update changes).result = .ok f) : Changes e f
  | configure (changes payload : Json.Fields) (given : ConfigSource) {f : Edge}
      (h : (e.configure changes payload given).result = .ok f) : Changes e f
  | withEndpoints (source target : String) : Changes e (e.withEndpoints source target)

variable {fields changes : Json.Fields} {e f : Edge}

theorem followsKind_of_ofFields (h : (ofFields fields).result = .ok (.valid e)) : e.FollowsKind := by
  obtain ⟨_, -, hcheck⟩ := exists_check_of_ofFields h
  obtain ⟨-, -, -, hconfig⟩ := fields_of_check hcheck
  have hvariant := EdgeConfig.variant_create e.kind.name
    (configData e.kind (.ofText? e.condition) (Json.Fields.getD ‹_› "config"))
  rw [← configured, ← hconfig] at hvariant
  unfold FollowsKind
  rw [hvariant]
  cases hkind : e.kind with
  | plain =>
    rw [hkind] at hvariant
    exact Or.inl ⟨rfl, Option.map_eq_none_iff.1 hvariant⟩
  | conditional => exact Or.inr ⟨.conditional, rfl, rfl⟩
  | parallel => exact Or.inr ⟨.parallel, rfl, rfl⟩
  | looping => exact Or.inr ⟨.looping, rfl, rfl⟩

theorem result_payload_obj {data : Json.Fields} (hne : data ≠ []) :
    (payload (.obj data)).result = .ok (.valid data) := by
  have hvoid : (Json.obj data).isVoid = false := List.isEmpty_eq_false_iff.2 hne
  rw [payload, hvoid]
  rfl

/-- The configuration that an edge has from a payload that is an object. -/
theorem config_of_ofFields {data : Json.Fields} (h : (ofFields fields).result = .ok (.valid e))
    (hdata : fields.getD "data" = .obj data) (hne : data ≠ []) :
    ofPayload data "condition" none (Schema.nullable Schema.text) = .valid e.condition ∧
      e.config = (configured e.kind (.ofText? e.condition) (data.getD "config")).value := by
  obtain ⟨read, hread, hcheck⟩ := exists_check_of_ofFields h
  rw [hdata, result_payload_obj hne] at hread
  cases hread
  obtain ⟨-, -, hcondition, hconfig⟩ := fields_of_check hcheck
  exact ⟨hcondition, hconfig⟩

/-- A change of other fields leaves the configuration to be made anew for the kind, or from the
condition if there was none. -/
theorem config_update_of_kept (h : (e.update changes).result = .ok f)
    (hdata : changes.has "data" = false) :
    f.config = configFor f.kind e.condition ((e.config.map .edge).getD (.value .null)) := by
  have hfields : (e.toFields.merge changes).getD "data" = e.toFields.getD "data" := by
    rw [Json.Fields.getD, Json.Fields.get?_merge hdata, Json.Fields.getD]
  obtain ⟨hcondition, hconfig⟩ := config_of_ofFields (Attempt.eq_valid_of_validated h)
    (hfields.trans rfl) (List.cons_ne_nil _ _)
  rw [ofPayload, Schema.optional_of_get? rfl (nullable_ofText? e.condition)] at hcondition
  rw [hconfig, ← Checked.valid.inj hcondition, ← value_configured_data]
  cases hc : e.config <;> rfl

/-- Settings that are given make the configuration for the kind. -/
theorem config_configure {payload : Json.Fields} {given : ConfigSource}
    (h : (e.configure changes payload given).result = .ok f) :
    f.config = configFor f.kind f.condition given := by
  have hfields : (e.toFields.merge
      (changes.set "data" (.obj (payload.set "config" given.data)))).getD "data"
        = .obj (payload.set "config" given.data) := by
    rw [Json.Fields.getD, Json.Fields.get?_merge_set, Option.getD_some]
  have hget := Json.Fields.get?_set_self payload "config" given.data
  have hne : payload.set "config" given.data ≠ [] := by
    intro hnil
    rw [hnil] at hget
    cases hget
  obtain ⟨-, hconfig⟩ := config_of_ofFields (Attempt.eq_valid_of_validated h) hfields hne
  rw [hconfig, Json.Fields.getD, hget, Option.getD_some, value_configured_data]

theorem FollowsKind.change (h : e.FollowsKind) (hf : Changes e f) : f.FollowsKind := by
  cases hf with
  | update changes h => exact followsKind_of_ofFields (Attempt.eq_valid_of_validated h)
  | configure changes payload given h =>
    exact followsKind_of_ofFields (Attempt.eq_valid_of_validated h)
  | withEndpoints source target => exact h

theorem FollowsKind.run (h : e.FollowsKind) (hf : ReflTransGen Changes e f) : f.FollowsKind := by
  induction hf with
  | refl => exact h
  | tail _ hchange ih => exact ih.change hchange

theorem result_update_nil (e : Edge) : (e.update []).result = .ok e :=
  Attempt.result_validated_of_valid "Edge" (result_ofFields_toFields e)

end Edge

/-! ## Main statement -/

/-- Along every run of changes of a node or an edge that was read, the configuration has the form for
the kind; and reading it again without a change gives the same node or edge. A change that gives no
settings makes the configuration for the new kind from the former one, and a change that gives some
makes it from these. -/
theorem configs_follow_kinds :
    (∀ value n m, (Node.ofJson value).result = .ok n → ReflTransGen Node.Changes n m →
      m.FollowsKind ∧ (m.update []).result = .ok m) ∧
    (∀ value e f, (Edge.ofJson value).result = .ok e → ReflTransGen Edge.Changes e f →
      f.FollowsKind ∧ (f.update []).result = .ok f) ∧
    (∀ (n m : Node) changes,
      ((n.update changes).result = .ok m → changes.has "config" = false →
        m.config = n.config.bind fun c => (NodeConfig.ofSource m.kind (.node c)).value) ∧
      ∀ given, (n.configure changes given).result = .ok m → m.config = Node.configFor m.kind given) ∧
    ∀ (e f : Edge) changes,
      ((e.update changes).result = .ok f → changes.has "data" = false →
        f.config = Edge.configFor f.kind e.condition ((e.config.map .edge).getD (.value .null))) ∧
      ∀ payload given, (e.configure changes payload given).result = .ok f →
        f.config = Edge.configFor f.kind f.condition given := by
  refine ⟨fun value n m hn hm => ⟨?_, m.result_update_nil⟩,
    fun value e f he hf => ⟨?_, f.result_update_nil⟩,
    fun n m changes => ⟨Node.config_update_of_kept, fun given => Node.config_configure⟩,
    fun e f changes => ⟨Edge.config_update_of_kept, fun payload given => Edge.config_configure⟩⟩
  · have hread := Attempt.eq_valid_of_validated hn
    unfold Node.read at hread
    split at hread
    · exact (Node.followsKind_of_ofFields hread).run hm
    · cases hread
  · have hread := Attempt.eq_valid_of_validated he
    unfold Edge.read at hread
    split at hread
    · exact (Edge.followsKind_of_ofFields hread).run hf
    · cases hread

/-- A tool that is called "search". -/
def searching : Json :=
  .obj [("id", .str "a"), ("kind", .str "tool"), ("config", .obj [("toolName", .str "search")])]

/-- A plain edge that states a condition. -/
def stated : Json :=
  .obj [("id", .str "e"), ("source", .str "a"), ("target", .str "b"),
    ("data", .obj [("condition", .str "done")])]

/-- A tool that becomes a pause and is moved has the settings of a pause, and a plain edge that states
a condition and becomes conditional has it as its settings. -/
theorem configs_follow_kinds_changed :
    (∃ n m, (Node.ofJson searching).result = .ok n ∧ ReflTransGen Node.Changes n m ∧
      m.FollowsKind ∧ m.kind = "interrupt" ∧ m.config = some (.interrupt {})) ∧
    ∃ e f, (Edge.ofJson stated).result = .ok e ∧ ReflTransGen Edge.Changes e f ∧
      f.FollowsKind ∧ f.kind = .conditional ∧ f.config = some (.conditional ⟨"done"⟩) := by
  obtain ⟨hnodes, hedges, -⟩ := configs_follow_kinds
  constructor
  · obtain ⟨n, m, hn, hm, hkind, hconfig⟩ : ∃ n m, (Node.ofJson searching).result = .ok n ∧
        (n.update [("kind", .str "interrupt")]).result = .ok m ∧ m.kind = "interrupt" ∧
        m.config = some (.interrupt {}) := ⟨_, _, rfl, rfl, rfl, rfl⟩
    have hrun : ReflTransGen Node.Changes n (m.moveTo default) :=
      (ReflTransGen.single (.update _ hm)).tail (.moveTo default)
    exact ⟨n, m.moveTo default, hn, hrun, (hnodes searching n _ hn hrun).1, hkind, hconfig⟩
  · obtain ⟨e, f, he, hf, hkind, hconfig⟩ : ∃ e f, (Edge.ofJson stated).result = .ok e ∧
        (e.update [("kind", .str "conditional")]).result = .ok f ∧ f.kind = .conditional ∧
        f.config = some (.conditional ⟨"done"⟩) := ⟨_, _, rfl, rfl, rfl, rfl⟩
    have hrun : ReflTransGen Edge.Changes e f := .single (.update _ hf)
    exact ⟨e, f, he, hrun, (hedges stated e f he hrun).1, hkind, hconfig⟩

end WorkflowGraph
