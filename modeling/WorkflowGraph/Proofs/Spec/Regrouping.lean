import WorkflowGraph.Proofs.Spec.Groups

/-!
# Groups told from what they list

If no two sources have groups of the same name, the groups of a workflow follow from the names and
targets that its edges have in a spec, and from the order of the names. Main statement:
`groupsOf_congr`, the edges of a workflow in the order of its groups make the same groups again, in
whatever workflow they stand.
-/

namespace WorkflowGraph.Spec

/-! ## One group -/

/-- The name of the group that a target is in, and whether it is a branch. -/
def wireClass (x : String × Arrow) : String × Bool :=
  (x.1, x.2.condition.isSome)

/-- The group of a name among named targets. -/
def groupNamed (shape : Shape) (arrows : List (String × Arrow)) (name : String) : Group where
  source := name
  targets := assemble shape
    ((arrows.filter fun x => wireClass x == (name, true)).map fun x =>
      ⟨x.2.condition.getD "", x.2.target⟩)
    ((arrows.filter fun x => wireClass x == (name, false)).map fun x => x.2.target)

theorem wireClass_wireArrow (settings : Settings) (w : Workflow) (e : Edge) :
    wireClass (wireArrow settings w e) =
      (sourceName (startId? w) e.source, e.isConditional) := by
  unfold wireClass wireArrow arrowOf
  cases e.isConditional <;> rfl

/-- The edges that come from a source under a name, and are conditional or not. -/
theorem filter_wireClass {w : Workflow} (h : HasDistinctNames w) (settings : Settings) {s : String}
    (hs : s ∈ sources w) (b : Bool) :
    ((w.edges.map (wireArrow settings w)).filter fun x =>
      wireClass x == (sourceName (startId? w) s, b)) =
        ((w.edgesFrom s).filter fun e => e.isConditional == b).map (wireArrow settings w) := by
  rw [List.filter_map, Workflow.edgesFrom, List.filter_filter]
  refine congrArg (List.map _) (List.filter_congr fun e he => ?_)
  rw [Function.comp_apply, wireClass_wireArrow, Bool.and_comm]
  exact congrArg (· && e.isConditional == b) (sourceName_beq h hs he)

/-- The group of a source follows from what the edges of the workflow are in a spec. -/
theorem groupOf_eq_groupNamed {w : Workflow} (h : HasDistinctNames w) (shape : Shape)
    (settings : Settings) {s : String} (hs : s ∈ sources w) :
    groupOf shape settings w (sourceName (startId? w) s) s =
      groupNamed shape (w.edges.map (wireArrow settings w)) (sourceName (startId? w) s) := by
  have hbranches : branchesOf settings (endIds w) (w.edgesFrom s) =
      (((w.edgesFrom s).filter fun e => e.isConditional == true).map (wireArrow settings w)).map
        fun x => ⟨x.2.condition.getD "", x.2.target⟩ := by
    rw [branchesOf, List.map_map]
    simp only [beq_true]
    refine List.map_congr_left fun e he => ?_
    simp [wireArrow, arrowOf, (List.mem_filter.1 he).2]
  have hplain : plainTargetsOf (endIds w) (w.edgesFrom s) =
      (((w.edgesFrom s).filter fun e => e.isConditional == false).map (wireArrow settings w)).map
        fun x => x.2.target := by
    rw [plainTargetsOf, List.map_map]
    simp only [beq_false]
    exact List.map_congr_left fun e _ => rfl
  rw [groupOf, groupNamed, filter_wireClass h settings hs, filter_wireClass h settings hs,
    targetsOf, hbranches, hplain]

/-! ## All groups -/

/-- The names of the groups of a workflow. -/
def groupNames (w : Workflow) : List String :=
  (orderedSources w).map (sourceName (startId? w))

theorem groupsOf_eq_groupNamed {w : Workflow} (h : HasDistinctNames w) (shape : Shape)
    (settings : Settings) :
    groupsOf shape settings w =
      (groupNames w).map (groupNamed shape (w.edges.map (wireArrow settings w))) := by
  rw [groupsOf_eq, groupNames, List.map_map]
  exact List.map_congr_left fun s hs => groupOf_eq_groupNamed h shape settings (mem_orderedSources.1 hs)

/-- The order of edges under different names does not matter to a group. -/
theorem groupNamed_arrangedEdges {w : Workflow} (h : HasDistinctNames w) (shape other : Shape)
    (settings : Settings) (name : String) :
    groupNamed shape ((arrangedEdges other settings w).map (wireArrow settings w)) name =
      groupNamed shape (w.edges.map (wireArrow settings w)) name := by
  have hclass : ∀ c, (((arrangedEdges other settings w).map (wireArrow settings w)).filter fun x =>
      wireClass x == c) = (w.edges.map (wireArrow settings w)).filter fun x => wireClass x == c := by
    intro c
    rw [List.filter_map, List.filter_map]
    simp only [Function.comp_def, wireClass_wireArrow]
    rw [filter_named_arrangedEdges h]
  rw [groupNamed, hclass, hclass, groupNamed]

/-! ## Names in order -/

/-- Sources that begin with that of the start, or hold none, are in the order of the groups. -/
theorem orderedSources_eq_sources {w : Workflow}
    (h : ∀ s, startSource? w = some s → (sources w).head? = some s) :
    orderedSources w = sources w := by
  rw [orderedSources]
  cases hstart : startSource? w with
  | none => simp
  | some s =>
    obtain ⟨rest, hrest⟩ := List.head?_eq_some_iff.1 (h s hstart)
    have hnd : (sources w).Nodup := nodup_eraseDups _
    rw [hrest, List.nodup_cons] at hnd
    rw [hrest, Option.toList_some, List.filter_cons_of_neg (by simp), List.filter_eq_self.2]
    · rfl
    · intro s' hs'
      rw [bne_iff_ne]
      intro heq
      exact hnd.1 (Option.some.inj heq ▸ hs')

/-- The first group is that of the start, if there is one. -/
theorem head?_groupNames {w : Workflow} {s : String} (h : startSource? w = some s) :
    (groupNames w).head? = some startSentinel := by
  have hname : sourceName (startId? w) s = startSentinel := by
    rw [sourceName_of_mem_sources (startSource?_eq_some_iff.1 h).2, h, if_pos rfl]
  rw [groupNames, orderedSources, h, Option.toList_some, List.map_append, List.map_singleton, hname]
  rfl

variable {w r : Workflow} {shape : Shape} {settings : Settings}

/-- Edges in the order of the groups have sources under the names of the groups, in order. -/
theorem map_sourceName_sources (hw : HasDistinctNames w) (hr : HasDistinctNames r)
    (h : r.edges.map (wireArrow settings r) =
      (arrangedEdges shape settings w).map (wireArrow settings w)) :
    (sources r).map (sourceName (startId? r)) = groupNames w := by
  have hnames : (r.edges.map (·.source)).map (sourceName (startId? r)) =
      ((arrangedEdges shape settings w).map (·.source)).map (sourceName (startId? w)) := by
    have hfst := congrArg (List.map Prod.fst) h
    simpa [List.map_map, Function.comp_def, wireArrow] using hfst
  have hmem : ∀ s ∈ (arrangedEdges shape settings w).map (·.source), s ∈ sources w := by
    intro s hs
    obtain ⟨e, he, rfl⟩ := List.mem_map.1 hs
    exact mem_sources.2 ⟨e, mem_arrangedEdges.1 he, rfl⟩
  rw [sources, ← eraseDups_map _ fun a ha b hb => hr a (List.mem_eraseDups.2 ha) b
      (List.mem_eraseDups.2 hb), hnames,
    eraseDups_map _ fun a ha b hb => hw a (hmem a ha) b (hmem b hb),
    eraseDups_source_arrangedEdges]
  rfl

/-- The edges of a workflow in the order of its groups have groups in the same order again. -/
theorem groupNames_congr (hw : ResolvesStart w) (hr : ResolvesStart r)
    (hstart : startId? r = none ∨ startId? r = startId? w)
    (h : r.edges.map (wireArrow settings r) =
      (arrangedEdges shape settings w).map (wireArrow settings w)) :
    groupNames r = groupNames w := by
  have hdistinct := hasDistinctNames_of_resolvesStart hr
  have hnames := map_sourceName_sources (hasDistinctNames_of_resolvesStart hw) hdistinct h
  have hordered : orderedSources r = sources r := by
    refine orderedSources_eq_sources fun st hst => ?_
    obtain ⟨hid, hmem⟩ := startSource?_eq_some_iff.1 hst
    have hst' : sourceName (startId? r) st = startSentinel :=
      (sourceName_eq_startSentinel_iff hr hid hmem).2 rfl
    have hidw : startId? w = some st := by
      rcases hstart with hnone | hsame
      · rw [hnone] at hid
        cases hid
      · rw [← hsame, hid]
    -- the start of `r` comes from an edge that `w` has under the sentinel, hence from its start
    have hgroup : startSentinel ∈ groupNames w := by
      rw [← hnames, ← hst']
      exact List.mem_map_of_mem hmem
    obtain ⟨s, hs, hname⟩ := List.mem_map.1 hgroup
    have hs := mem_orderedSources.1 hs
    obtain rfl := (sourceName_eq_startSentinel_iff hw hidw hs).1 hname
    have hhead := head?_groupNames (startSource?_eq_some_iff.2 ⟨hidw, hs⟩)
    rw [← hnames, List.head?_map, Option.map_eq_some_iff] at hhead
    obtain ⟨s', hs', hname'⟩ := hhead
    rw [hs', hdistinct s' (List.mem_of_mem_head? hs') s hmem (hname'.trans hst'.symm)]
  rw [groupNames, hordered, hnames]

/-- A workflow whose edges are those of another in the order of its groups has the same groups. -/
theorem groupsOf_congr (hw : ResolvesStart w) (hr : ResolvesStart r)
    (hstart : startId? r = none ∨ startId? r = startId? w)
    (h : r.edges.map (wireArrow settings r) =
      (arrangedEdges shape settings w).map (wireArrow settings w)) (other : Shape) :
    groupsOf other settings r = groupsOf other settings w := by
  have hdistinct := hasDistinctNames_of_resolvesStart hw
  rw [groupsOf_eq_groupNamed (hasDistinctNames_of_resolvesStart hr),
    groupsOf_eq_groupNamed hdistinct, groupNames_congr hw hr hstart h, h]
  exact List.map_congr_left fun name _ =>
    groupNamed_arrangedEdges hdistinct other shape settings name

end WorkflowGraph.Spec
