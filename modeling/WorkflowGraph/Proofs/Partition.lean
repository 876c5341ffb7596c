import WorkflowGraph.Proofs.RoundTrip

/-!
# Groups as a partition of the edges

The groups of a spec part the edges of its workflow by source. Each group lists the edges of its
source in their order, the conditional ones as branches and all others as plain targets or, if there
is a single one, as the fallback of the branches. No edge is lost, none is listed twice, and the only
target that is no edge is the end as the fallback of the simple shape. Main statement:
`groups_part_edges`.
-/

namespace WorkflowGraph

namespace Spec

/-! ## The targets of a group -/

/-- The targets list some branches and some plain targets, each once and in order. -/
structure Targets.Lists (shape : Shape) (branches : List Branch) (plain : List String)
    (t : Targets) : Prop where
  branches_eq : t.branches.getD [] = branches
  /-- The fallback of the simple shape is never a plain target. -/
  plain_eq : t.nodes.getD [] ++ (if shape = .simple then [] else t.fallback.toList) = plain
  nodes_or_fallback : t.nodes = none ∨ t.fallback = none
  /-- In the simple shape branches by themselves fall back to the end; in all others they fall back
  to the only plain target, unless that is the end. -/
  fallback_iff : ∀ target, t.fallback = some target ↔ branches ≠ [] ∧
    if shape = .simple then plain = [] ∧ target = endSentinel
    else plain = [target] ∧ target ≠ endSentinel
  not_empty : t.isEmpty = false

theorem lists_assemble {shape : Shape} {branches : List Branch} {plain : List String}
    (h : branches ≠ [] ∨ plain ≠ []) :
    (assemble shape branches plain).Lists shape branches plain := by
  have hempty : (assemble shape branches plain).isEmpty = false := by
    rw [isEmpty_assemble]
    rcases h with h | h
    · rw [List.isEmpty_eq_false_iff.2 h, Bool.false_and]
    · rw [List.isEmpty_eq_false_iff.2 h, Bool.and_false]
  cases branches with
  | nil =>
    obtain ⟨p, plain, rfl⟩ := List.exists_cons_of_ne_nil (h.resolve_left fun hne => hne rfl)
    refine ⟨rfl, ?_, Or.inr rfl, fun target => ?_, hempty⟩
    · cases shape <;> simp [assemble]
    · simp [assemble]
  | cons b branches =>
    match plain with
    | [] =>
      refine ⟨rfl, ?_, Or.inl rfl, fun target => ?_, hempty⟩
      · cases shape <;> rfl
      · cases shape <;> simp [assemble, Shape.requiresFallback, eq_comm]
    | [only] =>
      -- only here may a plain target leave its list for the fallback
      by_cases hc : (shape.collapsesFallback && only != endSentinel) = true
      · have hassemble : assemble shape (b :: branches) [only] =
            { branches := some (b :: branches), fallback := some only } := if_pos hc
        rw [Bool.and_eq_true, bne_iff_ne] at hc
        have hshape : shape ≠ .simple := of_decide_eq_true hc.1
        rw [hassemble] at hempty ⊢
        refine ⟨rfl, ?_, Or.inl rfl, fun target => ?_, hempty⟩
        · rw [if_neg hshape]
          rfl
        · rw [if_neg hshape]
          constructor
          · rintro ⟨⟩
            exact ⟨List.cons_ne_nil _ _, rfl, hc.2⟩
          · rintro ⟨-, ⟨⟩, -⟩
            rfl
      · have hassemble : assemble shape (b :: branches) [only] =
            { branches := some (b :: branches), nodes := some [only] } := if_neg hc
        rw [hassemble] at hempty ⊢
        refine ⟨rfl, ?_, Or.inr rfl, fun target => ⟨fun hnone => ?_, ?_⟩, hempty⟩
        · cases shape <;> rfl
        · cases hnone
        · rintro ⟨-, htarget⟩
          split at htarget
          · cases htarget.1
          · next hshape =>
            obtain ⟨⟨⟩, hend⟩ := htarget
            exact absurd (Bool.and_eq_true _ _ ▸ ⟨decide_eq_true hshape, bne_iff_ne.2 hend⟩) hc
    | p :: q :: plain =>
      refine ⟨rfl, ?_, Or.inr rfl, fun target => ?_, hempty⟩
      · cases shape <;> simp [assemble]
      · cases shape <;> simp [assemble]

/-! ## The edges of a group -/

/-- A target as a spec writes it: an end node is named by the sentinel. -/
def writtenTarget (w : Workflow) (target : String) : String :=
  if ∃ n ∈ w.nodes, n.isEnd = true ∧ n.id = target then endSentinel else target

/-- The condition of an edge as a spec writes it: one that is missing or blank is that of the
settings. -/
def writtenCondition (settings : Settings) (e : Edge) : String :=
  (e.effectiveCondition.filter fun c => !Text.isBlankText c).getD settings.defaultCondition

/-- The branches that the conditional edges of a source are. -/
def branchesFrom (settings : Settings) (w : Workflow) (source : String) : List Branch :=
  ((w.edgesFrom source).filter (·.isConditional)).map fun e =>
    ⟨writtenCondition settings e, writtenTarget w e.target⟩

/-- The targets of all other edges of a source. -/
def plainTargetsFrom (w : Workflow) (source : String) : List String :=
  ((w.edgesFrom source).filter (!·.isConditional)).map fun e => writtenTarget w e.target

/-- The group lists the edges of a source. -/
structure Group.Lists (shape : Shape) (settings : Settings) (w : Workflow) (source : String)
    (g : Group) : Prop where
  /-- The group of the first start node is named by the sentinel. -/
  source_eq : g.source = if startId? w = some source then startSentinel else source
  targets_list : g.targets.Lists shape (branchesFrom settings w source) (plainTargetsFrom w source)

theorem targetId_endIds (w : Workflow) (target : String) :
    targetId (endIds w) target = writtenTarget w target := by
  have hmem : (endIds w).contains target = true ↔ ∃ n ∈ w.nodes, n.isEnd = true ∧ n.id = target := by
    rw [List.contains_iff_mem, endIds, List.mem_map]
    constructor
    · rintro ⟨n, hn, hid⟩
      obtain ⟨hn, hend⟩ := List.mem_filter.1 hn
      exact ⟨n, hn, hend, hid⟩
    · rintro ⟨n, hn, hend, hid⟩
      exact ⟨n, List.mem_filter.2 ⟨hn, hend⟩, hid⟩
  rw [targetId, writtenTarget]
  simp only [hmem]

theorem conditionOf_eq (settings : Settings) (e : Edge) :
    conditionOf settings e = writtenCondition settings e := by
  rw [conditionOf, writtenCondition]
  cases e.effectiveCondition with
  | none => rfl
  | some condition =>
    cases hblank : Text.isBlankText condition with
    | true => simp [Option.filter_some, hblank]
    | false => simp [Option.filter_some, hblank]

theorem branchesOf_eq (settings : Settings) (w : Workflow) (source : String) :
    branchesOf settings (endIds w) (w.edgesFrom source) = branchesFrom settings w source := by
  simp only [branchesOf, branchesFrom, conditionOf_eq, targetId_endIds]

theorem plainTargetsOf_eq (w : Workflow) (source : String) :
    plainTargetsOf (endIds w) (w.edgesFrom source) = plainTargetsFrom w source := by
  simp only [plainTargetsOf, plainTargetsFrom, targetId_endIds]

theorem lists_groupOf (shape : Shape) (settings : Settings) {w : Workflow} {source : String}
    (hs : source ∈ sources w) :
    (groupOf shape settings w (sourceName (startId? w) source) source).Lists shape settings w
      source := by
  constructor
  · rw [groupOf, sourceName]
    simp only [eq_comm]
  · have hne : branchesFrom settings w source ≠ [] ∨ plainTargetsFrom w source ≠ [] := by
      obtain ⟨e, he⟩ := List.exists_mem_of_ne_nil _ (edgesFrom_ne_nil hs)
      cases hc : e.isConditional with
      | true =>
        exact Or.inl (List.ne_nil_of_mem (List.mem_map_of_mem (List.mem_filter.2 ⟨he, hc⟩)))
      | false =>
        have hplain : (!e.isConditional) = true := by rw [hc]; rfl
        exact Or.inr (List.ne_nil_of_mem (List.mem_map_of_mem (List.mem_filter.2 ⟨he, hplain⟩)))
    rw [groupOf, targetsOf, branchesOf_eq, plainTargetsOf_eq]
    exact lists_assemble hne

/-! ## All groups -/

/-- Some sources are those of the edges of a workflow, each once, in the order in which they first
occur, but that the first start node comes first. -/
structure IsGroupOrder (w : Workflow) (order : List String) : Prop where
  nodup : order.Nodup
  mem_iff : ∀ s, s ∈ order ↔ ∃ e ∈ w.edges, e.source = s
  start_first : ∀ s ∈ order, startId? w = some s → order.head? = some s
  others_eq : (order.filter fun s => startId? w ≠ some s) =
    ((w.edges.map (·.source)).eraseDups).filter fun s => startId? w ≠ some s

theorem isGroupOrder_orderedSources (w : Workflow) : IsGroupOrder w (orderedSources w) := by
  refine ⟨nodup_orderedSources w, fun s => ?_, fun s hs hstart => ?_, ?_⟩
  · rw [mem_orderedSources, mem_sources]
  · have hfirst : startSource? w = some s :=
      startSource?_eq_some_iff.2 ⟨hstart, mem_orderedSources.1 hs⟩
    rw [orderedSources, hfirst]
    rfl
  · -- leaving out the start leaves out the head of the order, and nothing else is moved
    have hfirst : ((startSource? w).toList.filter fun s => startId? w ≠ some s) = [] := by
      refine List.filter_eq_nil_iff.2 fun s hs => ?_
      have hstart := (startSource?_eq_some_iff.1 (Option.mem_toList.1 hs)).1
      simp [hstart]
    rw [orderedSources, List.filter_append, hfirst, List.nil_append, List.filter_filter]
    refine List.filter_congr fun s hs => ?_
    by_cases hstart : startId? w = some s
    · simp [hstart]
    · have hother : some s ≠ startSource? w :=
        fun h => hstart (startSource?_eq_some_iff.1 h.symm).1
      simp [hstart, hother]

theorem perm_flatMap_edgesFrom (w : Workflow) :
    ((orderedSources w).flatMap w.edgesFrom).Perm w.edges := by
  have hblock : ∀ s ∈ orderedSources w,
      (w.edgesFrom s).Perm (arranged .simple {} (endIds w) (w.edgesFrom s)) :=
    fun s _ => (perm_of_filter_eq (filter_arranged _ _ _ _)).symm
  exact (List.Perm.flatMap_left _ hblock).trans (perm_arrangedEdges .simple {} w)

theorem lists_groupsOf (shape : Shape) (settings : Settings) (w : Workflow) :
    List.Forall₂ (Group.Lists shape settings w) (orderedSources w) (groupsOf shape settings w) := by
  rw [groupsOf_eq, List.forall₂_map_right_iff, List.forall₂_same]
  exact fun s hs => lists_groupOf shape settings (mem_orderedSources.1 hs)

end Spec

namespace Workflow

/-- What a document of a workflow is read as. -/
theorem ofDocument_of_toSpecDocument {now : Timestamp} {settings : Settings} {shape : Shape}
    {w : Workflow} {document : Json}
    (h : (w.toSpecDocument now settings shape).result = .ok document) :
    Spec.ofDocument document = .ok (w.compiled now settings shape).storable := by
  obtain ⟨-, -, rfl⟩ := result_toSpecDocument_eq_ok_iff.1 h
  exact Spec.ofDocument_toJson _

/-- The groups of a document part the edges of its workflow by source: there is a group for each
source, in their order, and it lists the edges of that source. -/
theorem groups_part_edges (now : Timestamp) (settings : Settings) (shape : Shape) {w : Workflow}
    {document : Json} (h : (w.toSpecDocument now settings shape).result = .ok document) :
    ∃ spec order, Spec.ofDocument document = .ok spec ∧ Spec.IsGroupOrder w order ∧
      List.Forall₂ (Spec.Group.Lists shape settings w) order spec.groups ∧
      (order.flatMap w.edgesFrom).Perm w.edges :=
  ⟨_, Spec.orderedSources w, ofDocument_of_toSpecDocument h, Spec.isGroupOrder_orderedSources w,
    Spec.lists_groupsOf shape settings w, Spec.perm_flatMap_edgesFrom w⟩

/-- The groups of the questions: the end is a plain target beside the branch, never its fallback. -/
example : Spec.groupsOf .backend {} questions = [
    ⟨"__start__", { nodes := some ["ask"] }⟩,
    ⟨"ask", { nodes := some ["__end__"], branches := some [⟨"value != 'stop'", "answer"⟩] }⟩,
    ⟨"answer", { nodes := some ["ask"] }⟩] := by
  decide +kernel

/-- A question with a way back to the start: edges of several sources in turn, a blank condition, a
second start and a second end, and an edge from a node that is not there. -/
def detour : Workflow where
  id := "detour"
  name := "Detour"
  description := ""
  nodes := [
    (Node.make "begin" "start" default "" "" .null .empty .empty).value,
    (Node.make "again" "start" default "" "" .null .empty .empty).value,
    (Node.make "ask" "interrupt" default "Ask" "" (.obj []) .empty .empty).value,
    (Node.make "stop" "end" default "" "" .null .empty .empty).value,
    (Node.make "quit" "end" default "" "" .null .empty .empty).value]
  edges := [
    (Edge.make "e1" "ask" "stop" .conditional none (some " ") .null false []).value,
    (Edge.make "e2" "begin" "ask" .plain none none .null false []).value,
    (Edge.make "e3" "ask" "begin" .conditional none (some "value == 'restart'") .null false []).value,
    (Edge.make "e4" "lost" "quit" .plain none none .null false []).value,
    (Edge.make "e5" "again" "ask" .plain none none .null false []).value,
    (Edge.make "e6" "ask" "ask" .looping none none .null false []).value]
  createdAt := noon
  updatedAt := noon

/-- The document of the way back has a group for each of its four sources. -/
theorem groups_part_edges_detour :
    ∃ document spec order, (detour.toSpecDocument noon {} .backend).result = .ok document ∧
      Spec.ofDocument document = .ok spec ∧ Spec.IsGroupOrder detour order ∧
      List.Forall₂ (Spec.Group.Lists .backend {} detour) order spec.groups ∧
      (order.flatMap detour.edgesFrom).Perm detour.edges := by
  have hwritable : detour.IsWritable := by decide
  obtain ⟨document, hdocument⟩ := hwritable.exists_document noon {} .backend
  obtain ⟨spec, order, hspec⟩ := groups_part_edges noon {} .backend hdocument
  exact ⟨document, spec, order, hdocument, hspec⟩

end Workflow

end WorkflowGraph
