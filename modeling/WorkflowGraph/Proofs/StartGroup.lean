import WorkflowGraph.Proofs.Partition
import WorkflowGraph.Workflow.Edit

/-!
# The group of the start

A spec names the group of the start node by the sentinel, and the group lists the targets of the
edges that leave this node. An edge may come from the sentinel itself: a spec without a start node is
restored with such edges, and they stay as they are when a start node is added. They are written as a
second group of the same name. Main statement: `startGroups_of_starts`.
-/

namespace WorkflowGraph

namespace Spec

/-- The targets that stand for edges, which the end as the fallback of the simple shape does not. -/
def Targets.edgeTargets (shape : Shape) (t : Targets) : List String :=
  t.nodes.getD [] ++ (t.branches.getD []).map (·.node) ++
    t.fallback.toList.filter fun id => shape ≠ .simple ∨ id ≠ endSentinel

/-- The groups that have the name of the start. -/
def startGroups (spec : Spec) : List Group :=
  spec.groups.filter fun g => g.source == startSentinel

/-- The targets of the edges of a source, as a spec writes them. -/
def targetsFrom (w : Workflow) (source : String) : List String :=
  (w.edgesFrom source).map fun e => writtenTarget w e.target

instance (w : Workflow) : Decidable (ResolvesStart w) :=
  inferInstanceAs (Decidable (∀ e ∈ w.edges, e.source = startSentinel →
    ∀ id ∈ startId? w, id = startSentinel))

/-! ## Targets that stand for edges -/

theorem edgeTargets_perm {shape : Shape} {branches : List Branch} {plain : List String}
    {t : Targets} (h : t.Lists shape branches plain) :
    (t.edgeTargets shape).Perm (branches.map (·.node) ++ plain) := by
  have hfallback : (t.fallback.toList.filter fun id => shape ≠ .simple ∨ id ≠ endSentinel) =
      if shape = .simple then [] else t.fallback.toList := by
    by_cases hshape : shape = .simple
    · rw [if_pos hshape, List.filter_eq_nil_iff]
      intro target htarget
      have hend := ((h.fallback_iff target).1 (Option.mem_toList.1 htarget)).2
      rw [if_pos hshape] at hend
      simp [hshape, hend.2]
    · rw [if_neg hshape, List.filter_eq_self]
      intro target _
      simp [hshape]
  rw [Targets.edgeTargets, hfallback, h.branches_eq, ← h.plain_eq, ← List.append_assoc]
  exact List.perm_append_comm.append_right _

/-- The targets of a group are those of the edges of its source. -/
theorem edgeTargets_perm_targetsFrom {shape : Shape} {settings : Settings} {w : Workflow}
    {source : String} {g : Group} (h : g.Lists shape settings w source) :
    (g.targets.edgeTargets shape).Perm (targetsFrom w source) := by
  have hsplit : ((w.edgesFrom source).filter (·.isConditional) ++
      (w.edgesFrom source).filter (!·.isConditional)).Perm (w.edgesFrom source) :=
    List.filter_append_perm _ _
  have hmap := hsplit.map fun e => writtenTarget w e.target
  rw [List.map_append] at hmap
  refine (edgeTargets_perm h.targets_list).trans ?_
  rw [branchesFrom, List.map_map]
  exact hmap

/-! ## Groups named as the start -/

theorem sentinel_mem_sources {w : Workflow} {id : String} (hstart : startId? w = some id)
    (h : ¬ResolvesStart w) : startSentinel ∈ sources w ∧ id ≠ startSentinel := by
  simp only [ResolvesStart, not_forall] at h
  obtain ⟨e, he, hsource, id', hid', hne⟩ := h
  rw [hstart] at hid'
  cases hid'
  exact ⟨mem_sources.2 ⟨e, he, hsource⟩, hne⟩

/-- The start comes first, then the sentinel, if edges come from it and it is not the start. -/
theorem filter_orderedSources {w : Workflow} {id : String} (hstart : startId? w = some id)
    (hid : id ∈ sources w) :
    ((orderedSources w).filter fun s => sourceName (startId? w) s == startSentinel) =
      id :: if ResolvesStart w then [] else [startSentinel] := by
  have hfirst : startSource? w = some id := startSource?_eq_some_iff.2 ⟨hstart, hid⟩
  have hothers : ((sources w).filter fun s => some s != some id).filter
      (fun s => sourceName (startId? w) s == startSentinel) =
        if ResolvesStart w then [] else [startSentinel] := by
    by_cases hresolves : ResolvesStart w
    · rw [if_pos hresolves, List.filter_eq_nil_iff]
      intro s hs hname
      obtain ⟨hs, hne⟩ := List.mem_filter.1 hs
      have hsid := (sourceName_eq_startSentinel_iff hresolves hstart hs).1 (beq_iff_eq.1 hname)
      exact absurd (congrArg some hsid) (bne_iff_ne.1 hne)
    · obtain ⟨hmem, hne⟩ := sentinel_mem_sources hstart hresolves
      have hcongr : ∀ s ∈ sources w,
          (sourceName (startId? w) s == startSentinel && some s != some id) =
            (s == startSentinel) := by
        intro s _
        rw [hstart, sourceName]
        by_cases hs : s = id
        · simp [hs, hne]
        · simp [hs]
      -- the sentinel is among the sources, and like all of them once
      have hnd : (sources w).Nodup := nodup_eraseDups _
      rw [if_neg hresolves, List.filter_filter, List.filter_congr hcongr, List.filter_beq,
        List.count_eq_one_of_mem hnd hmem]
      rfl
  rw [orderedSources, hfirst, List.filter_append, hothers]
  simp [hstart, sourceName]

/-- The groups with the name of the start are that of the start and, where edges come from the
sentinel by itself, one of these. -/
theorem startGroups_groupsOf (shape : Shape) (settings : Settings) {w : Workflow} {id : String}
    (hstart : startId? w = some id) (hid : id ∈ sources w) :
    ((groupsOf shape settings w).filter fun g => g.source == startSentinel) =
      groupOf shape settings w startSentinel id ::
        if ResolvesStart w then [] else [groupOf shape settings w startSentinel startSentinel] := by
  have hsentinel : sourceName (startId? w) startSentinel = startSentinel := by
    rw [sourceName]
    split <;> rfl
  have hname : sourceName (startId? w) id = startSentinel := if_pos hstart.symm
  have hfilter : ∀ s, (groupOf shape settings w (sourceName (startId? w) s) s).source =
      sourceName (startId? w) s := fun _ => rfl
  rw [groupsOf_eq, List.filter_map]
  simp only [Function.comp_def, hfilter]
  rw [filter_orderedSources hstart hid, List.map_cons, hname]
  split
  · rfl
  · rw [List.map_singleton, hsentinel]

end Spec

namespace Workflow

variable {w : Workflow} {start : Node}

theorem startId?_of_starts (h : w.starts = [start]) : Spec.startId? w = some start.id := by
  rw [Spec.startId?, start?, h]
  rfl

theorem mem_sources_of_edgesFrom {id : String} (h : w.edgesFrom id ≠ []) : id ∈ Spec.sources w := by
  obtain ⟨e, he⟩ := List.exists_mem_of_ne_nil _ h
  exact Spec.mem_sources.2 ⟨e, (List.mem_filter.1 he).1, Spec.source_of_mem_edgesFrom he⟩

/-- A spec has one group with the name of the start, for the edges of the only start node, exactly if
no edge comes from the sentinel by itself; otherwise it has a second one for these. A workflow that
can be written has such a spec. -/
theorem startGroups_of_starts (hstart : w.starts = [start]) (hedges : w.edgesFrom start.id ≠ [])
    (now : Timestamp) (settings : Settings) (shape : Shape) :
    (∀ document, (w.toSpecDocument now settings shape).result = .ok document →
      ∃ spec g rest, Spec.ofDocument document = .ok spec ∧ spec.startGroups = g :: rest ∧
        (g.targets.edgeTargets shape).Perm (Spec.targetsFrom w start.id) ∧
        ((∀ e ∈ w.edges, e.source = Spec.startSentinel → start.id = Spec.startSentinel) →
          rest = []) ∧
        ∀ e ∈ w.edges, e.source = Spec.startSentinel → start.id ≠ Spec.startSentinel →
          ∃ g', rest = [g'] ∧
            (g'.targets.edgeTargets shape).Perm (Spec.targetsFrom w Spec.startSentinel)) ∧
    (w.IsWritable → ∃ document, (w.toSpecDocument now settings shape).result = .ok document) := by
  refine ⟨fun document h => ?_, fun h => h.exists_document now settings shape⟩
  have hid := startId?_of_starts hstart
  have hsource := mem_sources_of_edgesFrom hedges
  have hlists := fun {s : String} (hs : s ∈ Spec.sources w) =>
    Spec.edgeTargets_perm_targetsFrom (Spec.lists_groupOf shape settings hs)
  refine ⟨_, _, _, ofDocument_of_toSpecDocument h,
    Spec.startGroups_groupsOf shape settings hid hsource, hlists hsource, ?_, ?_⟩
  · intro hresolves
    refine if_pos fun e he hsentinel id hmem => ?_
    rw [hid] at hmem
    cases hmem
    exact hresolves e he hsentinel
  · intro e he hsentinel hne
    refine ⟨_, if_neg fun hresolves => hne ?_, ?_⟩
    · exact hresolves e he hsentinel start.id hid
    · exact hlists (Spec.mem_sources.2 ⟨e, he, hsentinel⟩)

theorem startGroups_of_starts_questions :
    ∃ start document spec g, questions.starts = [start] ∧ questions.edgesFrom start.id ≠ [] ∧
      (questions.toSpecDocument noon {} .simple).result = .ok document ∧
      Spec.ofDocument document = .ok spec ∧ spec.startGroups = [g] ∧
      (g.targets.edgeTargets .simple).Perm (Spec.targetsFrom questions start.id) := by
  obtain ⟨start, hstart⟩ : ∃ start, questions.starts = [start] := ⟨_, rfl⟩
  have hid : Spec.startId? questions = some start.id := startId?_of_starts hstart
  have hedges : questions.edgesFrom start.id ≠ [] :=
    (by decide : ∀ id ∈ Spec.startId? questions, questions.edgesFrom id ≠ []) _ hid
  have hresolves : ∀ e ∈ questions.edges, e.source ≠ Spec.startSentinel := by decide
  have h := startGroups_of_starts hstart hedges noon {} .simple
  obtain ⟨document, hdocument⟩ := h.2 (by decide)
  obtain ⟨spec, g, rest, hspec, hgroups, htargets, hrest, -⟩ := h.1 document hdocument
  rw [hrest fun e he hsource => absurd hsource (hresolves e he)] at hgroups
  exact ⟨start, document, spec, g, hstart, hedges, hdocument, hspec, hgroups, htargets⟩

/-- A start node for a workflow that has none. -/
def opening : Node :=
  (Node.make "begin" "start" default "" "" .null .empty .empty).value

/-- An end node for a workflow that has none. -/
def closing : Node :=
  (Node.make "finish" "end" default "" "" .null .empty .empty).value

/-- An edge from the new start node. -/
def openingEdge : Edge :=
  (Edge.make "opening" "begin" "ask" .plain none none .null false []).value

/-- The questions as they are restored from their backend spec, with a start node, its edge and an end
node. -/
def reopened : Workflow :=
  let r := questions.restored ⟨noon, "0001"⟩ noon {} .backend
  { r with nodes := r.nodes ++ [opening, closing], edges := r.edges ++ [openingEdge] }

/-- The new start node has a group of its own beside the group of the edge that kept the sentinel. -/
theorem two_startGroups_reopened :
    ∃ document r, (questions.toSpecDocument noon {} .backend).result = .ok document ∧
      (ofSpecDocument ⟨noon, "0001"⟩ (.ok {}) document).result = .ok r ∧
      (do (← (← r.addNode noon opening).addNode noon closing).addEdge noon openingEdge) =
        .ok reopened ∧
      reopened.starts = [opening] ∧ reopened.ends = [closing] ∧
      reopened.edgesFrom opening.id = [openingEdge] ∧
      ∃ written spec, (reopened.toSpecDocument noon {} .backend).result = .ok written ∧
        Spec.ofDocument written = .ok spec ∧ spec.startGroups.length = 2 := by
  have hwritable : questions.IsWritable := by decide
  obtain ⟨document, hdocument⟩ := hwritable.exists_document noon {} .backend
  have hrestored : (ofSpecDocument ⟨noon, "0001"⟩ (.ok {}) document).result =
      .ok (questions.restored ⟨noon, "0001"⟩ noon {} .backend) := by
    obtain ⟨-, -, rfl⟩ := result_toSpecDocument_eq_ok_iff.1 hdocument
    exact result_ofSpecDocument ⟨noon, "0001"⟩ noon {} .backend questions
  have hreopened : reopened.IsWritable := by decide
  obtain ⟨written, hwritten⟩ := hreopened.exists_document noon {} .backend
  exact ⟨document, _, hdocument, hrestored, rfl, rfl, rfl, rfl, written, _, hwritten,
    ofDocument_of_toSpecDocument hwritten, rfl⟩

end Workflow

end WorkflowGraph
