import WorkflowGraph.Proofs.Check
import WorkflowGraph.Proofs.Partition

/-!
# Closed specs

A spec is closed if every source is the sentinel of the start or a node that it lists, and every
target the sentinel of the end or such a node. The backend spec of a workflow without problems lists
neither the start nor the end node, and there are sentinels for edges that leave the start and for
edges that enter the end only: it is closed exactly if no edge goes the other way at either. Main
statement: `isClosed_backend`.
-/

namespace WorkflowGraph

namespace Spec

/-- All ids that targets name. -/
def Targets.ids (t : Targets) : List String :=
  t.nodes.getD [] ++ (t.branches.getD []).map (·.node) ++ t.fallback.toList

/-- The name is a sentinel, or the spec lists a node of that id. -/
def Knows (spec : Spec) (sentinel name : String) : Prop :=
  name = sentinel ∨ ∃ n ∈ spec.nodes, n.id = name

/-- The spec lists every node that its groups name. -/
@[mk_iff]
structure IsClosed (spec : Spec) : Prop where
  sources_known : ∀ g ∈ spec.groups, spec.Knows startSentinel g.source
  targets_known : ∀ g ∈ spec.groups, ∀ id ∈ g.targets.ids, spec.Knows endSentinel id

instance (spec : Spec) (sentinel name : String) : Decidable (spec.Knows sentinel name) :=
  inferInstanceAs (Decidable (name = sentinel ∨ ∃ n ∈ spec.nodes, n.id = name))

instance (spec : Spec) : Decidable spec.IsClosed :=
  decidable_of_iff' _ (isClosed_iff spec)

/-! ## What the groups name -/

theorem Targets.Lists.mem_ids_iff {shape : Shape} {branches : List Branch} {plain : List String}
    {t : Targets} (h : t.Lists shape branches plain) (hshape : shape ≠ .simple) {id : String} :
    id ∈ t.ids ↔ id ∈ branches.map (·.node) ∨ id ∈ plain := by
  have hplain := h.plain_eq
  rw [if_neg hshape] at hplain
  rw [ids, List.mem_append, List.mem_append, h.branches_eq, ← hplain, List.mem_append]
  rw [or_right_comm, or_comm]

/-- A group of a source names what the edges of the source lead to. -/
theorem Group.Lists.mem_ids_iff {shape : Shape} {settings : Settings} {w : Workflow}
    {source : String} {g : Group} (h : g.Lists shape settings w source) (hshape : shape ≠ .simple)
    {id : String} : id ∈ g.targets.ids ↔ ∃ e ∈ w.edgesFrom source, writtenTarget w e.target = id := by
  rw [h.targets_list.mem_ids_iff hshape, branchesFrom, plainTargetsFrom, List.map_map, List.mem_map,
    List.mem_map]
  constructor
  · rintro (⟨e, he, hid⟩ | ⟨e, he, hid⟩)
    · exact ⟨e, (List.mem_filter.1 he).1, hid⟩
    · exact ⟨e, (List.mem_filter.1 he).1, hid⟩
  · rintro ⟨e, he, hid⟩
    cases hc : e.isConditional with
    | true => exact Or.inl ⟨e, List.mem_filter.2 ⟨he, hc⟩, hid⟩
    | false => exact Or.inr ⟨e, List.mem_filter.2 ⟨he, by rw [hc]; rfl⟩, hid⟩

theorem sourceName_eq_or (start? : Option String) (source : String) :
    sourceName start? source = startSentinel ∨ sourceName start? source = source := by
  unfold sourceName
  split
  · exact Or.inl rfl
  · exact Or.inr rfl

theorem writtenTarget_eq_or (w : Workflow) (target : String) :
    writtenTarget w target = endSentinel ∨ writtenTarget w target = target := by
  unfold writtenTarget
  split
  · exact Or.inl rfl
  · exact Or.inr rfl

theorem forall_source_iff {settings : Settings} {w : Workflow} {shape : Shape} {p : String → Prop} :
    (∀ g ∈ groupsOf shape settings w, p g.source) ↔
      ∀ e ∈ w.edges, p (sourceName (startId? w) e.source) := by
  rw [groupsOf_eq]
  constructor
  · intro h e he
    have hs : e.source ∈ orderedSources w := mem_orderedSources.2 (mem_sources.2 ⟨e, he, rfl⟩)
    exact h _ (List.mem_map_of_mem hs)
  · intro h g hg
    obtain ⟨s, hs, rfl⟩ := List.mem_map.1 hg
    obtain ⟨e, he, rfl⟩ := mem_sources.1 (mem_orderedSources.1 hs)
    exact h e he

theorem forall_ids_iff {settings : Settings} {w : Workflow} {shape : Shape}
    (hshape : shape ≠ .simple) {p : String → Prop} :
    (∀ g ∈ groupsOf shape settings w, ∀ id ∈ g.targets.ids, p id) ↔
      ∀ e ∈ w.edges, p (writtenTarget w e.target) := by
  rw [groupsOf_eq]
  constructor
  · intro h e he
    have hs : e.source ∈ sources w := mem_sources.2 ⟨e, he, rfl⟩
    refine h _ (List.mem_map_of_mem (mem_orderedSources.2 hs)) _
      (((lists_groupOf shape settings hs).mem_ids_iff hshape).2 ⟨e, ?_, rfl⟩)
    exact List.mem_filter.2 ⟨he, beq_self_eq_true _⟩
  · intro h g hg id hid
    obtain ⟨s, hs, rfl⟩ := List.mem_map.1 hg
    obtain ⟨e, he, rfl⟩ :=
      ((lists_groupOf shape settings (mem_orderedSources.1 hs)).mem_ids_iff hshape).1 hid
    exact h e (List.mem_filter.1 he).1

end Spec

namespace Workflow

/-- The edge comes from an end node. -/
def LeavesEnd (w : Workflow) (e : Edge) : Prop :=
  ∃ n ∈ w.nodes, n.isEnd = true ∧ n.id = e.source

/-- The edge leads to a start node. -/
def EntersStart (w : Workflow) (e : Edge) : Prop :=
  ∃ n ∈ w.nodes, n.isStart = true ∧ n.id = e.target

instance (w : Workflow) (e : Edge) : Decidable (w.LeavesEnd e) :=
  inferInstanceAs (Decidable (∃ n ∈ w.nodes, n.isEnd = true ∧ n.id = e.source))

instance (w : Workflow) (e : Edge) : Decidable (w.EntersStart e) :=
  inferInstanceAs (Decidable (∃ n ∈ w.nodes, n.isStart = true ∧ n.id = e.target))

variable {w : Workflow} {now : Timestamp} {settings : Settings}

/-- The nodes that the backend spec lists are those that are neither start nor end nodes. -/
theorem knows_backend_iff {sentinel name : String} :
    (w.compiled now settings .backend).storable.Knows sentinel name ↔
      name = sentinel ∨ ∃ n ∈ w.inner, n.id = name := by
  have hnodes : (w.compiled now settings .backend).storable.nodes =
      (w.inner.map (Spec.Node.compiled w.nodes false)).map Spec.Node.storable := rfl
  rw [Spec.Knows, hnodes, List.map_map]
  refine or_congr Iff.rfl ⟨?_, ?_⟩
  · rintro ⟨m, hm, rfl⟩
    obtain ⟨n, hn, rfl⟩ := List.mem_map.1 hm
    exact ⟨n, hn, rfl⟩
  · rintro ⟨n, hn, rfl⟩
    exact ⟨_, List.mem_map_of_mem hn, rfl⟩

/-! ## Nodes told by their ids -/

variable {n : Node}

theorem exists_inner_of_id_iff (hnd : w.nodeIds.Nodup) (hn : n ∈ w.nodes) :
    (∃ m ∈ w.inner, m.id = n.id) ↔ n.isTerminal = false := by
  rw [← Bool.not_eq_true', ← exists_of_key_iff hnd hn fun m => !m.isTerminal]
  simp only [inner, List.mem_filter, and_assoc]

theorem startId?_eq_some_iff (hnd : w.nodeIds.Nodup) (hstarts : w.starts.length ≤ 1)
    (hn : n ∈ w.nodes) : Spec.startId? w = some n.id ↔ n.isStart = true := by
  constructor
  · intro h
    obtain ⟨m, hm, hid⟩ := Option.map_eq_some_iff.1 h
    obtain ⟨hm, hstart⟩ := List.mem_filter.1 (List.mem_of_mem_head? hm)
    exact (exists_of_key_iff hnd hn (·.isStart)).1 ⟨m, hm, hstart, hid⟩
  · intro h
    have hmem : n ∈ w.starts := List.mem_filter.2 ⟨hn, h⟩
    rw [Spec.startId?, start?, eq_singleton_of_mem hstarts hmem]
    rfl

/-- Of the sources, a backend spec does not know end nodes. -/
theorem knows_source_iff (hw : w.IsSound) (hids : w.HasPlainIds) (hn : n ∈ w.nodes) :
    (w.compiled now settings .backend).storable.Knows Spec.startSentinel
      (Spec.sourceName (Spec.startId? w) n.id) ↔ n.isEnd = false := by
  have hstart := startId?_eq_some_iff hw.nodeIds_nodup hw.starts_le_one hn
  rw [knows_backend_iff, Spec.sourceName]
  split
  · next h =>
    have hend : n.isEnd = false := by
      cases hend : n.isEnd with
      | false => rfl
      | true =>
        have hno := isStart_eq_false_of_isEnd hend
        rw [hstart.1 h.symm] at hno
        cases hno
    exact iff_of_true (Or.inl rfl) hend
  · next h =>
    -- the only start node is written as the sentinel, so that this node must be listed or an end
    have hno : n.isStart = false := Bool.eq_false_iff.2 fun hyes => h (hstart.2 hyes).symm
    rw [or_iff_right (hids n hn).1, exists_inner_of_id_iff hw.nodeIds_nodup hn, Node.isTerminal, hno,
      Bool.false_or]

/-- Of the targets, a backend spec does not know start nodes. -/
theorem knows_target_iff (hw : w.IsSound) (hids : w.HasPlainIds) (hn : n ∈ w.nodes) :
    (w.compiled now settings .backend).storable.Knows Spec.endSentinel
      (Spec.writtenTarget w n.id) ↔ n.isStart = false := by
  have hend := exists_of_key_iff hw.nodeIds_nodup hn (·.isEnd)
  rw [knows_backend_iff, Spec.writtenTarget]
  split
  · next h => exact iff_of_true (Or.inl rfl) (isStart_eq_false_of_isEnd (hend.1 h))
  · next h =>
    have hno : n.isEnd = false := Bool.eq_false_iff.2 fun hyes => h (hend.2 hyes)
    rw [or_iff_right (hids n hn).2, exists_inner_of_id_iff hw.nodeIds_nodup hn, Node.isTerminal, hno,
      Bool.or_false]

/-! ## Closed specs -/

theorem knows_source_of_edge_iff (hw : w.IsSound) (hids : w.HasPlainIds) {e : Edge}
    (he : e ∈ w.edges) :
    (w.compiled now settings .backend).storable.Knows Spec.startSentinel
      (Spec.sourceName (Spec.startId? w) e.source) ↔ ¬w.LeavesEnd e := by
  obtain ⟨n, hn, hid⟩ := List.mem_map.1 (hw.source_mem e he)
  have hleaves : w.LeavesEnd e ↔ n.isEnd = true := by
    rw [LeavesEnd, ← hid]
    exact exists_of_key_iff hw.nodeIds_nodup hn (·.isEnd)
  rw [← hid, knows_source_iff hw hids hn, hleaves, Bool.not_eq_true]

theorem knows_target_of_edge_iff (hw : w.IsSound) (hids : w.HasPlainIds) {e : Edge}
    (he : e ∈ w.edges) :
    (w.compiled now settings .backend).storable.Knows Spec.endSentinel
      (Spec.writtenTarget w e.target) ↔ ¬w.EntersStart e := by
  obtain ⟨n, hn, hid⟩ := List.mem_map.1 (hw.target_mem e he)
  have henters : w.EntersStart e ↔ n.isStart = true := by
    rw [EntersStart, ← hid]
    exact exists_of_key_iff hw.nodeIds_nodup hn (·.isStart)
  rw [← hid, knows_target_iff hw hids hn, henters, Bool.not_eq_true]

/-- The backend spec of a sound workflow is closed exactly if no edge leaves an end node and none
enters a start node. -/
theorem isClosed_compiled_iff (hw : w.IsSound) (hids : w.HasPlainIds) :
    (w.compiled now settings .backend).storable.IsClosed ↔
      ∀ e ∈ w.edges, ¬w.LeavesEnd e ∧ ¬w.EntersStart e := by
  have hgroups : (w.compiled now settings .backend).storable.groups =
      Spec.groupsOf .backend settings w := rfl
  have hsources : (∀ g ∈ Spec.groupsOf .backend settings w,
      (w.compiled now settings .backend).storable.Knows Spec.startSentinel g.source) ↔
        ∀ e ∈ w.edges, ¬w.LeavesEnd e := by
    rw [Spec.forall_source_iff]
    exact forall₂_congr fun e he => knows_source_of_edge_iff hw hids he
  have htargets : (∀ g ∈ Spec.groupsOf .backend settings w, ∀ id ∈ g.targets.ids,
      (w.compiled now settings .backend).storable.Knows Spec.endSentinel id) ↔
        ∀ e ∈ w.edges, ¬w.EntersStart e := by
    rw [Spec.forall_ids_iff (by decide)]
    exact forall₂_congr fun e he => knows_target_of_edge_iff hw hids he
  constructor
  · rintro ⟨hs, ht⟩ e he
    rw [hgroups] at hs ht
    exact ⟨hsources.1 hs e he, htargets.1 ht e he⟩
  · intro h
    refine ⟨?_, ?_⟩
    · rw [hgroups]
      exact hsources.2 fun e he => (h e he).1
    · rw [hgroups]
      exact htargets.2 fun e he => (h e he).2

/-- A source that a backend spec does not know is an end node that an edge leaves. -/
theorem knows_source_or (hw : w.IsSound) (hids : w.HasPlainIds) :
    ∀ g ∈ Spec.groupsOf .backend settings w,
      (w.compiled now settings .backend).storable.Knows Spec.startSentinel g.source ∨
        ∃ e ∈ w.edges, w.LeavesEnd e ∧ e.source = g.source := by
  rw [Spec.forall_source_iff (p := fun name =>
    (w.compiled now settings .backend).storable.Knows Spec.startSentinel name ∨
      ∃ e ∈ w.edges, w.LeavesEnd e ∧ e.source = name)]
  intro e he
  rcases Spec.sourceName_eq_or (Spec.startId? w) e.source with hname | hname
  · exact Or.inl (Or.inl hname)
  · refine or_iff_not_imp_left.2 fun hno => ⟨e, he, ?_, hname.symm⟩
    exact Classical.not_not.1 fun hleaves => hno ((knows_source_of_edge_iff hw hids he).2 hleaves)

/-- A target that a backend spec does not know is a start node that an edge enters. -/
theorem knows_target_or (hw : w.IsSound) (hids : w.HasPlainIds) :
    ∀ g ∈ Spec.groupsOf .backend settings w, ∀ id ∈ g.targets.ids,
      (w.compiled now settings .backend).storable.Knows Spec.endSentinel id ∨
        ∃ e ∈ w.edges, w.EntersStart e ∧ e.target = id := by
  rw [Spec.forall_ids_iff (by decide) (p := fun id =>
    (w.compiled now settings .backend).storable.Knows Spec.endSentinel id ∨
      ∃ e ∈ w.edges, w.EntersStart e ∧ e.target = id)]
  intro e he
  rcases Spec.writtenTarget_eq_or w e.target with hname | hname
  · exact Or.inl (Or.inl hname)
  · refine or_iff_not_imp_left.2 fun hno => ⟨e, he, ?_, hname.symm⟩
    exact Classical.not_not.1 fun henters => hno ((knows_target_of_edge_iff hw hids he).2 henters)

/-- The document of a workflow without problems names no node that it does not list, but end nodes
that edges leave and start nodes that edges enter; it is closed exactly if there are no such edges. A
workflow that can be written has a document. -/
theorem isClosed_backend (hvalid : w.problems = []) (hids : w.HasPlainIds) (now : Timestamp)
    (settings : Settings) :
    (∀ document, (w.toSpecDocument now settings .backend).result = .ok document →
      ∃ spec, Spec.ofDocument document = .ok spec ∧
        (∀ g ∈ spec.groups, spec.Knows Spec.startSentinel g.source ∨
          ∃ e ∈ w.edges, w.LeavesEnd e ∧ e.source = g.source) ∧
        (∀ g ∈ spec.groups, ∀ id ∈ g.targets.ids, spec.Knows Spec.endSentinel id ∨
          ∃ e ∈ w.edges, w.EntersStart e ∧ e.target = id) ∧
        (spec.IsClosed ↔ ∀ e ∈ w.edges, ¬w.LeavesEnd e ∧ ¬w.EntersStart e)) ∧
    (w.IsWritable → ∃ document, (w.toSpecDocument now settings .backend).result = .ok document) := by
  have hw := problems_eq_nil_iff.1 hvalid
  refine ⟨fun document h => ?_, fun h => h.exists_document now settings .backend⟩
  exact ⟨_, ofDocument_of_toSpecDocument h, knows_source_or hw hids, knows_target_or hw hids,
    isClosed_compiled_iff hw hids⟩

theorem isClosed_backend_questions :
    ∃ document spec, (questions.toSpecDocument noon {} .backend).result = .ok document ∧
      Spec.ofDocument document = .ok spec ∧ spec.IsClosed := by
  have h := isClosed_backend (by decide +kernel : questions.problems = [])
    (by decide : questions.HasPlainIds) noon {}
  obtain ⟨document, hdocument⟩ := h.2 (by decide)
  obtain ⟨spec, hspec, -, -, hclosed⟩ := h.1 document hdocument
  exact ⟨document, spec, hdocument, hspec, hclosed.2 (by decide)⟩

/-- The questions, begun anew after each answer. -/
def restarting : Workflow :=
  { questions with
    edges := questions.edges ++
      [(Edge.make "e5" "answer" "start" .looping none none .null false []).value] }

/-- A workflow without problems whose document is not closed: an edge back to the start has a target
that no node has. -/
theorem not_isClosed_restarting :
    restarting.problems = [] ∧ restarting.HasPlainIds ∧
      ∃ document spec, (restarting.toSpecDocument noon {} .backend).result = .ok document ∧
        Spec.ofDocument document = .ok spec ∧ ¬spec.IsClosed := by
  have hvalid : restarting.problems = [] := by decide +kernel
  have hids : restarting.HasPlainIds := by decide
  have hwritable : restarting.IsWritable := by decide
  obtain ⟨document, hdocument⟩ := hwritable.exists_document noon {} .backend
  -- the edge from the answer to the start is the one that does not fit
  refine ⟨hvalid, hids, document, _, hdocument, ofDocument_of_toSpecDocument hdocument, ?_⟩
  rw [isClosed_compiled_iff (problems_eq_nil_iff.1 hvalid) hids]
  decide

end Workflow

end WorkflowGraph
