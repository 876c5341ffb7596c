import WorkflowGraph.Proofs.Edit
import WorkflowGraph.Proofs.Partition
import WorkflowGraph.Proofs.Soundness

/-!
# Conditions that are checked and conditions that are written

A conditional edge may state its condition twice, in its settings and apart from them. The settings are
what is checked, and what is stated apart from them comes first where the edge is written. So what is
written is what was checked as long as the two agree. Main statement: `branches_of_checked`.
-/

namespace WorkflowGraph

/-! ## Edges -/

namespace Edge

variable {e f : Edge} {checked : String} {changes : Json.Fields}

/-- The condition in the settings of an edge, which is the one that is checked. -/
def checkedCondition? (e : Edge) : Option String :=
  match e.config with
  | some (.conditional settings) => some settings.condition
  | _ => none

/-- The condition that the edge states apart from its settings, if it states one, is that of its
settings. -/
def AgreesOnCondition (e : Edge) : Prop :=
  ∀ own ∈ e.condition, e.checkedCondition? = some own

instance : DecidablePred AgreesOnCondition :=
  fun e => inferInstanceAs (Decidable (∀ own ∈ e.condition, e.checkedCondition? = some own))

/-- A conditional edge that has no problems has a condition that is not blank in its settings. -/
theorem exists_checkedCondition (hc : e.isConditional = true) (h : e.problems = []) :
    ∃ checked, e.checkedCondition? = some checked ∧ Text.isBlankText checked = false := by
  have hvariant : e.config.map EdgeConfig.variant = some .conditional := by
    rw [e.config_kind, of_decide_eq_true hc]
    rfl
  obtain ⟨config, hconfig, hform⟩ := Option.map_eq_some_iff.1 hvariant
  cases config with
  | conditional settings =>
    refine ⟨settings.condition, by rw [checkedCondition?, hconfig], ?_⟩
    have hproblem := problems_eq_nil_iff.1 h _ hconfig
    rw [EdgeConfig.problem?, ConditionalConfig.problem?] at hproblem
    by_contra hblank
    rw [if_pos (Bool.not_eq_false _ ▸ hblank)] at hproblem
    cases hproblem
  | parallel settings => cases hform
  | looping settings => cases hform

/-- What the edge states apart from its settings is written, and else the condition of these. -/
theorem writtenCondition_eq (settings : Settings) (h : e.checkedCondition? = some checked)
    (hblank : Text.isBlankText checked = false) : Spec.writtenCondition settings e =
      (e.condition.map (Workflow.statedCondition settings)).getD checked := by
  rw [← Spec.conditionOf_eq]
  cases hown : e.condition with
  | some own => exact Workflow.conditionOf_of_condition hown
  | none =>
    have heffective : e.effectiveCondition = some checked := by
      rw [← h, effectiveCondition, checkedCondition?, hown]
      cases e.config with
      | none => rfl
      | some config => cases config <;> rfl
    rw [Spec.conditionOf, heffective]
    exact if_neg (Bool.not_eq_true _ ▸ hblank)

/-- What is written is what was checked exactly if the two conditions agree, or if a blank one is
replaced and the condition in its place happens to be the same. -/
theorem checkedCondition?_eq_writtenCondition_iff (settings : Settings)
    (h : e.checkedCondition? = some checked) (hblank : Text.isBlankText checked = false) :
    e.checkedCondition? = some (Spec.writtenCondition settings e) ↔
      e.AgreesOnCondition ∨ e.condition.any Text.isBlankText = true ∧
        e.checkedCondition? = some settings.defaultCondition := by
  rw [AgreesOnCondition, writtenCondition_eq settings h hblank, h]
  cases e.condition with
  | none => simp
  | some own =>
    simp only [Option.map_some, Option.getD_some, Option.mem_def, Option.some.injEq, forall_eq',
      Option.any_some, Workflow.statedCondition]
    split
    · next hown =>
      refine ⟨fun heq => Or.inr ⟨hown, heq⟩, ?_⟩
      rintro (rfl | ⟨-, heq⟩)
      · rw [hblank] at hown
        cases hown
      · exact heq
    · next hown => simp [hown]

/-! ## Changes of edges -/

theorem agreesOnCondition_of_config_eq (hc : e.isConditional = true)
    (h : e.config = (configured e.kind (.ofText? e.condition) .null).value) :
    e.AgreesOnCondition := by
  intro own hown
  rw [checkedCondition?, h, Option.mem_def.1 hown, of_decide_eq_true hc]
  rfl

/-- The payload gives the condition of an edge once at most: apart from its settings, or in them. -/
def GivesConditionOnce (payload : Json.Fields) : Prop :=
  payload.getD "condition" = .null ∨ payload.getD "config" = .null

theorem agreesOnCondition_of_check {fields payload : Json.Fields} (h : check fields payload = .valid e)
    (hc : e.isConditional = true) (hpayload : GivesConditionOnce payload) : e.AgreesOnCondition := by
  obtain ⟨-, -, hcondition, hconfig⟩ := fields_of_check h
  -- without a condition of its own the edge agrees; without settings these are made of the condition
  rcases hpayload with hnull | hnull
  · have hnone : ofPayload payload "condition" none (Schema.nullable Schema.text) = .valid none := by
      rw [Json.Fields.getD] at hnull
      unfold ofPayload Schema.optional Schema.lookup?
      cases hget : payload.get? "condition" with
      | none => rfl
      | some value =>
        rw [hget] at hnull
        obtain rfl : value = .null := hnull
        rfl
    intro own hown
    rw [hnone, Option.mem_def.1 hown] at hcondition
    cases hcondition
  · rw [hnull] at hconfig
    exact agreesOnCondition_of_config_eq hc hconfig

/-- The change gives the condition of the edge once at most. Where it gives no data, the edge keeps the
condition that it states apart from its settings, and then it must not become conditional with the
settings of another kind. -/
def KeepsCondition (e : Edge) (changes : Json.Fields) : Prop :=
  if changes.has "data" then
    ∀ data, ("data", data) ∈ changes → ∀ read, (payload data).result = .ok (.valid read) →
      GivesConditionOnce read
  else
    ("kind", .str EdgeKind.conditional.name) ∈ changes → e.condition ≠ none →
      e.config = none ∨ e.isConditional = true

theorem eq_name_of_choice {value : Json} {kind : EdgeKind} {names : List String}
    (h : Schema.choice EdgeKind.ofName? names value = .valid kind) : value = .str kind.name := by
  cases value with
  | str s =>
    rw [Schema.choice] at h
    cases hname : EdgeKind.ofName? s with
    | none => simp [hname, Checked.broken] at h
    | some other =>
      rw [hname] at h
      obtain rfl : other = kind := Checked.valid.inj h
      unfold EdgeKind.ofName? at hname
      have hsame := List.find?_some hname
      rw [beq_iff_eq.1 hsame]
  | _ => cases h

/-- Without data in the change, condition and settings are read from those of the edge as it was. -/
theorem fields_of_update (hf : (e.update changes).result = .ok f) (hdata : changes.has "data" = false) :
    f.condition = e.condition ∧
      f.config = (configured f.kind (.ofText? f.condition)
        ((e.config.map fun c => Json.obj (c.toFields .stored)).getD .null)).value ∧
      (f.kind = e.kind ∨ ("kind", .str f.kind.name) ∈ changes) := by
  obtain ⟨read, hread, hcheck⟩ := exists_check_of_ofFields (Attempt.eq_valid_of_validated hf)
  obtain ⟨-, hkind, hcondition, hconfig⟩ := fields_of_check hcheck
  obtain rfl : [("label", .ofText? e.label), ("condition", .ofText? e.condition),
      ("config", (e.config.map fun c => Json.obj (c.toFields .stored)).getD .null)] = read := by
    rw [Json.Fields.getD, Json.Fields.get?_merge hdata] at hread
    exact Checked.valid.inj (Except.ok.inj hread)
  refine ⟨?_, hconfig, ?_⟩
  · have hsame : Schema.nullable Schema.text (.ofText? e.condition) = .valid e.condition :=
      nullable_ofText? e.condition
    exact Checked.valid.inj (hcondition.symm.trans
      (congrArg (Checked.under (.key "data")) (congrArg (Checked.under (.key "condition")) hsame)))
  · unfold Schema.optional Schema.lookup? at hkind
    cases hhas : changes.has "kind" with
    | true =>
      obtain ⟨value, hmem, hget⟩ := Json.Fields.exists_get?_merge e.toFields hhas
      rw [hget] at hkind
      rw [← eq_name_of_choice (Checked.eq_valid_of_under hkind)]
      exact Or.inr hmem
    | false =>
      have hget : e.toFields.get? "kind" = some (.str e.kind.name) := rfl
      rw [Json.Fields.get?_merge hhas, hget] at hkind
      exact Or.inl (Checked.valid.inj ((Checked.eq_valid_of_under hkind).symm.trans (choice_name _)))

/-- An edge that is changed in this way agrees with itself if it did before. -/
theorem AgreesOnCondition.update (h : e.isConditional = true → e.AgreesOnCondition)
    (hchanges : e.KeepsCondition changes) (hf : (e.update changes).result = .ok f)
    (hc : f.isConditional = true) : f.AgreesOnCondition := by
  rw [KeepsCondition] at hchanges
  split at hchanges
  · next hdata =>
    obtain ⟨read, hread, hcheck⟩ := exists_check_of_ofFields (Attempt.eq_valid_of_validated hf)
    obtain ⟨data, hmem, hget⟩ := Json.Fields.exists_get?_merge e.toFields hdata
    rw [Json.Fields.getD, hget] at hread
    exact agreesOnCondition_of_check hcheck hc (hchanges data hmem read hread)
  · next hdata =>
    obtain ⟨hcondition, hconfig, hkept⟩ := fields_of_update hf (Bool.not_eq_true _ ▸ hdata)
    intro own hown
    have hstated : e.condition = some own := hcondition ▸ hown
    -- the settings are made of the condition, or they are those of the edge as it was
    have hsource : e.config = none ∨ f.kind = e.kind := by
      rcases hkept with hkept | hmem
      · exact Or.inr hkept
      · rw [of_decide_eq_true hc] at hmem
        refine (hchanges hmem (by simp [hstated])).imp_right fun hce => ?_
        rw [of_decide_eq_true hc, of_decide_eq_true hce]
    rcases hsource with hnone | hkind
    · rw [hnone] at hconfig
      exact agreesOnCondition_of_config_eq hc hconfig own hown
    · have hsame : f.config = e.config := by
        rw [hconfig, hkind]
        exact value_configured .stored _ e
      have hce : e.isConditional = true := by
        rw [isConditional, ← hkind]
        exact hc
      rw [checkedCondition?, hsame]
      exact h hce own hstated

end Edge

/-! ## Workflows -/

namespace Workflow

variable {w r : Workflow}

/-- Every conditional edge agrees with itself on its condition. -/
def AgreesOnConditions (w : Workflow) : Prop :=
  ∀ e ∈ w.edges, e.isConditional = true → e.AgreesOnCondition

instance : DecidablePred AgreesOnConditions :=
  fun w => inferInstanceAs (Decidable (∀ e ∈ w.edges, e.isConditional = true → e.AgreesOnCondition))

/-- The branch is a conditional edge as a spec writes it. -/
structure WritesBranch (settings : Settings) (w : Workflow) (e : Edge) (b : Spec.Branch) : Prop where
  node_eq : b.node = Spec.writtenTarget w e.target
  /-- Only what the edge states apart from its settings stands in the place of what was checked, and
  only where that is blank the condition of all conditions does. -/
  condition_eq : ∃ checked, e.checkedCondition? = some checked ∧ Text.isBlankText checked = false ∧
    b.condition = (e.condition.map (statedCondition settings)).getD checked
  checked_iff : e.checkedCondition? = some b.condition ↔ e.AgreesOnCondition ∨
    e.condition.any Text.isBlankText = true ∧ e.checkedCondition? = some settings.defaultCondition

/-- The workflow comes from the other by a change of the fields of an edge that gives its condition
once at most. -/
inductive ChangesEdge (w : Workflow) : Workflow → Prop
  | updateEdge (now : Timestamp) (id : String) (changes : Json.Fields) {r : Workflow}
      (hchanges : ∀ e ∈ w.edges, e.id = id → e.KeepsCondition changes)
      (hr : (w.updateEdge now id changes).result = .ok r) : ChangesEdge w r

theorem writesBranch (settings : Settings) (hw : w.problems = []) {e : Edge} (he : e ∈ w.edges)
    (hc : e.isConditional = true) : WritesBranch settings w e
      ⟨Spec.writtenCondition settings e, Spec.writtenTarget w e.target⟩ := by
  have hproblems : e.problems = [] := (problems_eq_nil_iff.1 hw).edges_sound e he
  obtain ⟨checked, hchecked, hblank⟩ := Edge.exists_checkedCondition hc hproblems
  exact ⟨rfl, ⟨checked, hchecked, hblank, Edge.writtenCondition_eq settings hchecked hblank⟩,
    Edge.checkedCondition?_eq_writtenCondition_iff settings hchecked hblank⟩

theorem AgreesOnConditions.change (h : w.AgreesOnConditions) (hr : ChangesEdge w r) :
    r.AgreesOnConditions := by
  obtain ⟨now, id, changes, hchanges, hr⟩ := hr
  unfold updateEdge at hr
  split at hr
  · cases hr
  · obtain ⟨edges, hedges, hr⟩ := Attempt.result_bind_eq_ok_iff.1 hr
    cases hr
    intro f hf hc
    obtain ⟨e, he, hread⟩ := Attempt.exists_of_mem_mapList hedges hf
    split at hread
    · next hid => exact Edge.AgreesOnCondition.update (h e he) (hchanges e he hid) hread hc
    · obtain rfl : e = f := Except.ok.inj hread
      exact h e he hc

theorem AgreesOnConditions.run (h : w.AgreesOnConditions) (hr : Relation.ReflTransGen ChangesEdge w r) :
    r.AgreesOnConditions := by
  induction hr with
  | refl => exact h
  | tail _ hchange ih => exact ih.change hchange

/-- The document of a workflow without problems writes each conditional edge under the condition that
was checked, exactly if the edge states no other condition apart from its settings; and that no edge
does is kept by every change of an edge that gives its condition once at most. -/
theorem branches_of_checked (w : Workflow) :
    (∀ now settings shape document, w.problems = [] →
      (w.toSpecDocument now settings shape).result = .ok document →
      ∃ spec order, Spec.ofDocument document = .ok spec ∧ Spec.IsGroupOrder w order ∧
        List.Forall₂ (fun source g => List.Forall₂ (WritesBranch settings w)
          ((w.edgesFrom source).filter (·.isConditional)) (g.targets.branches.getD []))
          order spec.groups) ∧
      (w.AgreesOnConditions →
        ∀ r, Relation.ReflTransGen ChangesEdge w r → r.AgreesOnConditions) := by
  refine ⟨fun now settings shape document hw h => ?_, fun h r hr => h.run hr⟩
  refine ⟨_, Spec.orderedSources w, ofDocument_of_toSpecDocument h, Spec.isGroupOrder_orderedSources w,
    (Spec.lists_groupsOf shape settings w).imp fun source g hg => ?_⟩
  rw [hg.targets_list.branches_eq, Spec.branchesFrom, List.forall₂_map_right_iff, List.forall₂_same]
  intro e he
  obtain ⟨hfrom, hc⟩ := List.mem_filter.1 he
  exact writesBranch settings hw (List.mem_filter.1 hfrom).1 hc

/-- The questions where the way to the answer states a condition and has one in its settings. -/
def restated (condition : String) (config : Json) : Workflow :=
  { questions with
    edges := questions.edges.map fun e =>
      if e.id = "e2" then (Edge.make e.id e.source e.target e.kind none condition config false []).value
      else e
    updatedAt := noon }

/-- The condition is stated, and the settings are made of it. -/
def guarded : Workflow :=
  restated "value == 'go'" .null

/-- A blank condition is stated beside that of the settings. -/
def unguarded : Workflow :=
  restated " " (.obj [("condition", .str "value != 'stop'")])

/-- A condition that is given without settings is checked and written, and agreed on. -/
theorem branches_of_checked_guarded :
    questions.AgreesOnConditions ∧ ChangesEdge questions guarded ∧ guarded.AgreesOnConditions ∧
      guarded.problems = [] ∧
      ∃ document spec order, (guarded.toSpecDocument noon {} .backend).result = .ok document ∧
        Spec.ofDocument document = .ok spec ∧ Spec.IsGroupOrder guarded order ∧
        List.Forall₂ (fun source g => List.Forall₂ (WritesBranch {} guarded)
          ((guarded.edgesFrom source).filter (·.isConditional)) (g.targets.branches.getD []))
          order spec.groups := by
  have hchange : ChangesEdge questions guarded := by
    refine .updateEdge noon "e2" [("data", .obj [("condition", .str "value == 'go'")])] ?_ rfl
    intro e _ _ data hdata read hread
    cases List.mem_singleton.1 hdata
    cases hread
    exact Or.inr rfl
  have hquestions : questions.AgreesOnConditions := by decide
  have hproblems : guarded.problems = [] := by decide +kernel
  have hwritable : guarded.IsWritable := by decide
  obtain ⟨document, hdocument⟩ := hwritable.exists_document noon {} .backend
  obtain ⟨spec, order, hspec⟩ :=
    (branches_of_checked _).1 noon {} .backend document hproblems hdocument
  exact ⟨hquestions, hchange, (branches_of_checked questions).2 hquestions _ (.single hchange),
    hproblems, document, spec, order, hdocument, hspec⟩

/-- A blank condition beside the settings is no problem, but the branch is written under the condition
that always holds, and not under the one that was checked. -/
theorem not_checked_unguarded :
    (questions.updateEdge noon "e2" [("data", .obj [("condition", .str " "),
        ("config", .obj [("condition", .str "value != 'stop'")])])]).result = .ok unguarded ∧
      unguarded.problems = [] ∧
      (∃ e ∈ unguarded.edges, e.source = "ask" ∧ e.target = "answer" ∧ e.isConditional = true ∧
        e.checkedCondition? = some "value != 'stop'") ∧
      ∃ document spec, (unguarded.toSpecDocument noon {} .backend).result = .ok document ∧
        Spec.ofDocument document = .ok spec ∧
        ∃ g ∈ spec.groups, g.source = "ask" ∧ g.targets.branches = some [⟨"true", "answer"⟩] := by
  have hwritable : unguarded.IsWritable := by decide
  obtain ⟨document, hdocument⟩ := hwritable.exists_document noon {} .backend
  refine ⟨rfl, by decide +kernel, by decide +kernel, document, _, hdocument,
    ofDocument_of_toSpecDocument hdocument, ?_⟩
  decide +kernel

end Workflow

end WorkflowGraph
