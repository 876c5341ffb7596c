import WorkflowGraph.Proofs.List
import WorkflowGraph.Spec.OfWorkflow
import WorkflowGraph.Spec.ToWorkflow

/-!
# The order of edges in the groups of a spec

The groups of a workflow list all of its edges, those of one source after the other, and among them
plain edges apart from conditional ones. `arrangedEdges` are the edges in that order. Main
statements: `wireArrows_groupsOf`, what the groups list; `filter_arrangedEdges` and
`perm_arrangedEdges`, edges of one source that are both conditional or both not keep their order, and
no edge is lost or listed twice.
-/

namespace WorkflowGraph.Spec

/-! ## The targets of one group -/

/-- A branch as a target. -/
def Branch.arrow (b : Branch) : Arrow := ⟨b.node, some b.condition⟩

/-- A plain target. -/
def plainArrow (id : String) : Arrow := ⟨id, none⟩

/-- The plain targets are a single one that is made the fallback of the branches. -/
def collapses (shape : Shape) (branches : List Branch) : List String → Bool
  | [only] => !branches.isEmpty && shape.collapsesFallback && only != endSentinel
  | _ => false

/-- The targets of a group list each branch and each plain target, in the order of either; a fallback
comes last. -/
theorem arrows_assemble {shape : Shape} {branches : List Branch} {plain : List String}
    (h : collapses shape branches plain = true → "" ∉ plain) :
    (assemble shape branches plain).arrows =
      if collapses shape branches plain then branches.map Branch.arrow ++ plain.map plainArrow
      else plain.map plainArrow ++ branches.map Branch.arrow := by
  cases branches with
  | nil =>
    have hno : collapses shape [] plain = false := by
      unfold collapses
      split <;> rfl
    rw [hno]
    cases plain with
    | nil => rfl
    | cons p plain => exact List.append_nil _
  | cons b branches =>
    match plain with
    | [] => cases shape <;> exact List.append_nil _
    | [only] =>
      have hassemble : assemble shape (b :: branches) [only] =
          if shape.collapsesFallback && only != endSentinel then
            { branches := some (b :: branches), fallback := some only }
          else { branches := some (b :: branches), nodes := some [only] } := rfl
      rw [hassemble]
      -- the only plain target may become the fallback, and is then listed after the branches
      by_cases hc : (shape.collapsesFallback && only != endSentinel) = true
      · have hyes : collapses shape (b :: branches) [only] = true := hc
        -- an empty fallback would be taken for none
        have hne : only ≠ "" := fun h' => h hyes (h' ▸ List.mem_cons_self)
        have hkept : (only != "" && only != endSentinel) = true := by
          rw [Bool.and_eq_true] at hc ⊢
          exact ⟨bne_iff_ne.2 hne, hc.2⟩
        rw [if_pos hc, if_pos hyes]
        simp only [Targets.arrows, Option.filter_some, hkept, ite_true]
        rfl
      · have hno : ¬collapses shape (b :: branches) [only] = true := hc
        rw [if_neg hc, if_neg hno]
        exact List.append_nil _
    | p :: q :: plain =>
      have hno : collapses shape (b :: branches) (p :: q :: plain) = false := rfl
      rw [hno]
      exact List.append_nil _

/-- Targets are empty only if there is neither a branch nor a plain target. -/
theorem isEmpty_assemble (shape : Shape) (branches : List Branch) (plain : List String) :
    (assemble shape branches plain).isEmpty = (branches.isEmpty && plain.isEmpty) := by
  cases branches with
  | nil => cases plain <;> rfl
  | cons b branches =>
    match plain with
    | [] => cases shape <;> rfl
    | [only] =>
      unfold assemble
      simp only [List.isEmpty_cons, Bool.false_eq_true, ite_false]
      split <;> rfl
    | p :: q :: plain => rfl

/-! ## The edges of one group -/

/-- An edge as a target. -/
def arrowOf (settings : Settings) (ends : List String) (e : Edge) : Arrow where
  target := targetId ends e.target
  condition := if e.isConditional then some (conditionOf settings e) else none

/-- The edges of a group in the order of its targets. -/
def arranged (shape : Shape) (settings : Settings) (ends : List String) (edges : List Edge) :
    List Edge :=
  if collapses shape (branchesOf settings ends edges) (plainTargetsOf ends edges) then
    edges.filter (·.isConditional) ++ edges.filter (!·.isConditional)
  else edges.filter (!·.isConditional) ++ edges.filter (·.isConditional)

/-- The edges have no targets without a name, or none of them is made a fallback. -/
def HaveTargets (shape : Shape) (edges : List Edge) : Prop :=
  shape.collapsesFallback = true → ∀ e ∈ edges, e.target ≠ ""

theorem targetId_ne_empty {ends : List String} {target : String} (h : target ≠ "") :
    targetId ends target ≠ "" := by
  unfold targetId
  split
  · decide
  · exact h

theorem collapsesFallback_of_collapses {shape : Shape} {branches : List Branch}
    {plain : List String} (h : collapses shape branches plain = true) :
    shape.collapsesFallback = true := by
  unfold collapses at h
  split at h
  · simp only [Bool.and_eq_true] at h
    exact h.1.2
  · cases h

theorem map_arrow_branchesOf (settings : Settings) (ends : List String) (edges : List Edge) :
    (branchesOf settings ends edges).map Branch.arrow =
      (edges.filter (·.isConditional)).map (arrowOf settings ends) := by
  rw [branchesOf, List.map_map]
  refine List.map_congr_left fun e he => ?_
  simp [Branch.arrow, arrowOf, (List.mem_filter.1 he).2]

theorem map_plainArrow_plainTargetsOf (settings : Settings) (ends : List String)
    (edges : List Edge) :
    (plainTargetsOf ends edges).map plainArrow =
      (edges.filter (!·.isConditional)).map (arrowOf settings ends) := by
  rw [plainTargetsOf, List.map_map]
  refine List.map_congr_left fun e he => ?_
  have hplain : e.isConditional = false := by simpa using (List.mem_filter.1 he).2
  simp [plainArrow, arrowOf, hplain]

/-- The targets of a group are its edges, arranged. -/
theorem arrows_targetsOf {shape : Shape} {settings : Settings} {ends : List String}
    {edges : List Edge} (h : HaveTargets shape edges) :
    (targetsOf shape settings ends edges).arrows =
      (arranged shape settings ends edges).map (arrowOf settings ends) := by
  rw [targetsOf, arrows_assemble, map_arrow_branchesOf, map_plainArrow_plainTargetsOf, arranged]
  · split <;> rw [List.map_append]
  · intro hc hmem
    obtain ⟨e, he, htarget⟩ := List.mem_map.1 hmem
    exact targetId_ne_empty (h (collapsesFallback_of_collapses hc) e (List.mem_filter.1 he).1)
      htarget

/-- Conditional edges keep their order, and so do all others. -/
theorem filter_arranged (shape : Shape) (settings : Settings) (ends : List String)
    (edges : List Edge) (b : Bool) :
    ((arranged shape settings ends edges).filter fun e => e.isConditional == b) =
      edges.filter fun e => e.isConditional == b := by
  have hcond : ((edges.filter (·.isConditional)).filter fun e => e.isConditional == b) =
      if b then edges.filter (·.isConditional) else [] := by
    cases b <;> simp [List.filter_filter]
  have hplain : ((edges.filter (!·.isConditional)).filter fun e => e.isConditional == b) =
      if b then [] else edges.filter (!·.isConditional) := by
    cases b <;> simp [List.filter_filter]
  unfold arranged
  split <;> rw [List.filter_append, hcond, hplain] <;> cases b <;> simp

theorem mem_arranged {shape : Shape} {settings : Settings} {ends : List String} {edges : List Edge}
    {e : Edge} : e ∈ arranged shape settings ends edges ↔ e ∈ edges := by
  have h := congrArg (e ∈ ·) (filter_arranged shape settings ends edges e.isConditional)
  simpa using h

/-! ## The order of the groups -/

/-- The id of the start node. -/
def startId? (w : Workflow) : Option String :=
  w.start?.map (·.id)

/-- The name of a source, given the id of the start node. -/
def sourceName (start? : Option String) (source : String) : String :=
  if some source = start? then startSentinel else source

/-- The sources of a workflow in the order of the groups. -/
def orderedSources (w : Workflow) : List String :=
  (startSource? w).toList ++ (sources w).filter fun s => some s != startSource? w

theorem mem_sources {w : Workflow} {s : String} : s ∈ sources w ↔ ∃ e ∈ w.edges, e.source = s := by
  rw [sources, List.mem_eraseDups, List.mem_map]

theorem startSource?_eq_some_iff {w : Workflow} {s : String} :
    startSource? w = some s ↔ startId? w = some s ∧ s ∈ sources w := by
  rw [startSource?, Option.filter_eq_some_iff, List.contains_iff_mem]
  rfl

theorem mem_orderedSources {w : Workflow} {s : String} : s ∈ orderedSources w ↔ s ∈ sources w := by
  rw [orderedSources, List.mem_append, Option.mem_toList, List.mem_filter, bne_iff_ne]
  constructor
  · rintro (h | h)
    · exact (startSource?_eq_some_iff.1 h).2
    · exact h.1
  · intro h
    by_cases hs : startSource? w = some s
    · exact Or.inl hs
    · exact Or.inr ⟨h, fun heq => hs heq.symm⟩

theorem nodup_orderedSources (w : Workflow) : (orderedSources w).Nodup := by
  rw [orderedSources, List.nodup_append]
  refine ⟨?_, (nodup_eraseDups _).filter _, ?_⟩
  · cases startSource? w with
    | none => exact .nil
    | some s => simp
  · intro a ha b hb
    rw [Option.mem_toList] at ha
    rw [List.mem_filter, bne_iff_ne] at hb
    rintro rfl
    exact hb.2 ha.symm

/-- The group of a source is named as the details name the source. -/
theorem sourceName_of_mem_sources {w : Workflow} {s : String} (hs : s ∈ sources w) :
    sourceName (startId? w) s = if some s = startSource? w then startSentinel else s := by
  rw [sourceName]
  by_cases h : some s = startId? w
  · rw [if_pos h, if_pos (startSource?_eq_some_iff.2 ⟨h.symm, hs⟩).symm]
  · rw [if_neg h, if_neg fun h' => h (startSource?_eq_some_iff.1 h'.symm).1.symm]

/-- The group of a source that edges come from has targets. -/
theorem isEmpty_targetsOf {edges : List Edge} (h : edges ≠ []) (shape : Shape) (settings : Settings)
    (ends : List String) : (targetsOf shape settings ends edges).isEmpty = false := by
  obtain ⟨e, edges, rfl⟩ := List.exists_cons_of_ne_nil h
  rw [targetsOf, isEmpty_assemble, branchesOf, plainTargetsOf, List.isEmpty_map, List.isEmpty_map]
  cases hc : e.isConditional with
  | true => simp [hc]
  | false => simp [hc]

theorem edgesFrom_ne_nil {w : Workflow} {s : String} (hs : s ∈ sources w) : w.edgesFrom s ≠ [] := by
  obtain ⟨e, he, hsource⟩ := mem_sources.1 hs
  exact List.ne_nil_of_mem (List.mem_filter.2 ⟨he, beq_iff_eq.2 hsource⟩)

/-- No group is left out. -/
theorem filter_otherGroups (shape : Shape) (settings : Settings) (w : Workflow) :
    ((otherGroups shape settings w).filter (!·.targets.isEmpty)) = otherGroups shape settings w := by
  refine List.filter_eq_self.2 fun g hg => ?_
  obtain ⟨s, hs, rfl⟩ := List.mem_map.1 hg
  have hne := edgesFrom_ne_nil (List.mem_filter.1 hs).1
  rw [groupOf, isEmpty_targetsOf hne]
  rfl

theorem groupsOf_eq (shape : Shape) (settings : Settings) (w : Workflow) :
    groupsOf shape settings w =
      (orderedSources w).map fun s => groupOf shape settings w (sourceName (startId? w) s) s := by
  have hname := fun (s : String) (hs : s ∈ orderedSources w) =>
    sourceName_of_mem_sources (mem_orderedSources.1 hs)
  rw [groupsOf, filter_otherGroups, otherGroups, orderedSources, List.map_append]
  congr 1
  · cases hstart : startSource? w with
    | none => rfl
    | some s =>
      have hs := hname s (by simp [orderedSources, hstart])
      rw [hstart, if_pos rfl] at hs
      simp [hs]
  · refine List.map_congr_left fun s hs => ?_
    have hne : ¬some s = startSource? w := by simpa using (List.mem_filter.1 hs).2
    rw [hname s (by simp only [orderedSources, List.mem_append, hs, or_true]), if_neg hne]

/-! ## All edges -/

/-- The edges of a workflow in the order in which its groups list them. -/
def arrangedEdges (shape : Shape) (settings : Settings) (w : Workflow) : List Edge :=
  (orderedSources w).flatMap fun s => arranged shape settings (endIds w) (w.edgesFrom s)

/-- The targets of some groups with the names of the groups. -/
def wireArrows (groups : List Group) : List (String × Arrow) :=
  groups.flatMap fun g => g.targets.arrows.map fun a => (g.source, a)

/-- An edge as the spec of its workflow states it. -/
def wireArrow (settings : Settings) (w : Workflow) (e : Edge) : String × Arrow :=
  (sourceName (startId? w) e.source, arrowOf settings (endIds w) e)

theorem source_of_mem_edgesFrom {w : Workflow} {s : String} {e : Edge} (h : e ∈ w.edgesFrom s) :
    e.source = s := by
  simpa using (List.mem_filter.1 h).2

/-- The groups of a workflow list its edges, arranged. -/
theorem wireArrows_groupsOf {shape : Shape} {settings : Settings} {w : Workflow}
    (h : HaveTargets shape w.edges) :
    wireArrows (groupsOf shape settings w) =
      (arrangedEdges shape settings w).map (wireArrow settings w) := by
  rw [groupsOf_eq, wireArrows, arrangedEdges, List.flatMap_map, List.map_flatMap]
  refine List.flatMap_congr fun s _ => ?_
  have hs : HaveTargets shape (w.edgesFrom s) := fun hc e he => h hc e (List.mem_filter.1 he).1
  rw [groupOf]
  simp only [arrows_targetsOf hs, List.map_map]
  refine List.map_congr_left fun e he => ?_
  rw [Function.comp_apply, wireArrow, source_of_mem_edgesFrom (mem_arranged.1 he)]

theorem source_of_mem_block {shape : Shape} {settings : Settings} {w : Workflow} {s : String}
    {e : Edge} (h : e ∈ arranged shape settings (endIds w) (w.edgesFrom s)) : e.source = s :=
  source_of_mem_edgesFrom (mem_arranged.1 h)

/-- The edges of a source are listed together. -/
theorem filter_source_arrangedEdges (shape : Shape) (settings : Settings) {w : Workflow}
    {s : String} (hs : s ∈ sources w) :
    ((arrangedEdges shape settings w).filter fun e => e.source == s) =
      arranged shape settings (endIds w) (w.edgesFrom s) :=
  filter_flatMap_blocks (nodup_orderedSources w) (fun _ _ _ he => source_of_mem_block he)
    (mem_orderedSources.2 hs)

theorem mem_arrangedEdges {shape : Shape} {settings : Settings} {w : Workflow} {e : Edge} :
    e ∈ arrangedEdges shape settings w ↔ e ∈ w.edges := by
  rw [arrangedEdges, List.mem_flatMap]
  constructor
  · rintro ⟨s, -, he⟩
    exact (List.mem_filter.1 (mem_arranged.1 he)).1
  · intro he
    refine ⟨e.source, mem_orderedSources.2 (mem_sources.2 ⟨e, he, rfl⟩), mem_arranged.2 ?_⟩
    exact List.mem_filter.2 ⟨he, beq_self_eq_true _⟩

/-- Edges of one source that are both conditional or both not keep their order. -/
theorem filter_arrangedEdges (shape : Shape) (settings : Settings) (w : Workflow)
    (c : String × Bool) :
    ((arrangedEdges shape settings w).filter fun e => (e.source, e.isConditional) == c) =
      w.edges.filter fun e => (e.source, e.isConditional) == c := by
  obtain ⟨s, b⟩ := c
  have hsplit : ∀ e : Edge, ((e.source, e.isConditional) == (s, b)) =
      (e.isConditional == b && e.source == s) := fun e => Bool.and_comm _ _
  simp only [hsplit, ← List.filter_filter]
  by_cases hs : s ∈ sources w
  · rw [filter_source_arrangedEdges shape settings hs, filter_arranged]
    rfl
  · have hno : ∀ e ∈ w.edges, ¬(e.source == s) = true := fun e he hes =>
      hs (mem_sources.2 ⟨e, he, beq_iff_eq.1 hes⟩)
    rw [List.filter_eq_nil_iff.2 fun e he => hno e (mem_arrangedEdges.1 he),
      List.filter_eq_nil_iff.2 hno]

/-- No edge is lost or listed twice. -/
theorem perm_arrangedEdges (shape : Shape) (settings : Settings) (w : Workflow) :
    (arrangedEdges shape settings w).Perm w.edges :=
  perm_of_filter_eq (filter_arrangedEdges shape settings w)

/-- The sources occur in the order of the groups. -/
theorem eraseDups_source_arrangedEdges (shape : Shape) (settings : Settings) (w : Workflow) :
    ((arrangedEdges shape settings w).map (·.source)).eraseDups = orderedSources w := by
  refine eraseDups_flatMap_blocks (nodup_orderedSources w) (fun s hs => ?_)
    fun _ _ _ he => source_of_mem_block he
  obtain ⟨e, he, hes⟩ := mem_sources.1 (mem_orderedSources.1 hs)
  have hmem : e ∈ arranged shape settings (endIds w) (w.edgesFrom s) :=
    mem_arranged.2 (List.mem_filter.2 ⟨he, beq_iff_eq.2 hes⟩)
  exact List.ne_nil_of_mem hmem

/-! ## Names of groups -/

/-- No two sources have groups of the same name. -/
def HasDistinctNames (w : Workflow) : Prop :=
  ∀ s ∈ sources w, ∀ s' ∈ sources w,
    sourceName (startId? w) s = sourceName (startId? w) s' → s = s'

/-- Where there is a start node, edges come from the sentinel only if it is the id of that node. -/
def ResolvesStart (w : Workflow) : Prop :=
  ∀ e ∈ w.edges, e.source = startSentinel → ∀ id ∈ startId? w, id = startSentinel

/-- Where there is an end node, edges lead to the sentinel only if it is the id of the first one. -/
def ResolvesEnd (w : Workflow) : Prop :=
  ∀ e ∈ w.edges, e.target = endSentinel → ∀ id ∈ (endIds w).head?, id = endSentinel

theorem resolvesStart_of_source_ne {w : Workflow} (h : ∀ e ∈ w.edges, e.source ≠ startSentinel) :
    ResolvesStart w :=
  fun e he hsource => absurd hsource (h e he)

/-- The group that has the sentinel as its name is that of the start node. -/
theorem sourceName_eq_startSentinel_iff {w : Workflow} (h : ResolvesStart w) {id s : String}
    (hid : startId? w = some id) (hs : s ∈ sources w) :
    sourceName (startId? w) s = startSentinel ↔ s = id := by
  rw [hid, sourceName]
  by_cases hstart : some s = some id
  · rw [if_pos hstart]
    exact iff_of_true rfl (Option.some.inj hstart)
  · rw [if_neg hstart]
    have hne : s ≠ id := fun heq => hstart (congrArg some heq)
    -- a source that is the sentinel itself is the id of the start node
    refine iff_of_false (fun hsentinel => hne ?_) hne
    obtain ⟨e, he, hes⟩ := mem_sources.1 hs
    rw [hsentinel, h e he (hes.trans hsentinel) id hid]

theorem hasDistinctNames_of_resolvesStart {w : Workflow} (h : ResolvesStart w) :
    HasDistinctNames w := by
  intro s hs s' hs' heq
  cases hid : startId? w with
  | none => simpa [sourceName, hid] using heq
  | some id =>
    have hiff := fun {t : String} (ht : t ∈ sources w) => sourceName_eq_startSentinel_iff h hid ht
    by_cases hstart : s = id
    · have hname := (hiff hs).2 hstart
      rw [heq] at hname
      rw [hstart, (hiff hs').1 hname]
    · have hstart' : s' ≠ id := fun h' => hstart ((hiff hs).1 (heq.trans ((hiff hs').2 h')))
      have hname : ∀ t, t ≠ id → sourceName (startId? w) t = t := fun t ht => by
        rw [hid, sourceName, if_neg fun h' => ht (Option.some.inj h')]
      rwa [hname s hstart, hname s' hstart'] at heq

/-- Only the sentinel itself could be taken for the name of the group of the start. -/
theorem hasDistinctNames_of_source_ne {w : Workflow}
    (h : ∀ e ∈ w.edges, e.source ≠ startSentinel) : HasDistinctNames w :=
  hasDistinctNames_of_resolvesStart (resolvesStart_of_source_ne h)

/-- Where groups have names of their own, an edge is under the name of a source only if it comes from
there. -/
theorem sourceName_beq {w : Workflow} (h : HasDistinctNames w) {s : String} (hs : s ∈ sources w)
    {e : Edge} (he : e ∈ w.edges) :
    (sourceName (startId? w) e.source == sourceName (startId? w) s) = (e.source == s) := by
  rw [Bool.eq_iff_iff, beq_iff_eq, beq_iff_eq]
  exact ⟨h _ (mem_sources.2 ⟨e, he, rfl⟩) _ hs, fun heq => heq ▸ rfl⟩

/-- Edges under one name that are both conditional or both not keep their order. -/
theorem filter_named_arrangedEdges {w : Workflow} (h : HasDistinctNames w) (shape : Shape)
    (settings : Settings) (c : String × Bool) :
    ((arrangedEdges shape settings w).filter fun e =>
      (sourceName (startId? w) e.source, e.isConditional) == c) =
        w.edges.filter fun e => (sourceName (startId? w) e.source, e.isConditional) == c := by
  obtain ⟨name, b⟩ := c
  by_cases hname : ∃ s ∈ sources w, sourceName (startId? w) s = name
  · obtain ⟨s, hs, rfl⟩ := hname
    have hclass : ∀ e ∈ w.edges,
        ((sourceName (startId? w) e.source, e.isConditional) == (sourceName (startId? w) s, b)) =
          ((e.source, e.isConditional) == (s, b)) :=
      fun e he => congrArg (· && e.isConditional == b) (sourceName_beq h hs he)
    rw [List.filter_congr fun e he => hclass e (mem_arrangedEdges.1 he),
      List.filter_congr hclass, filter_arrangedEdges]
  · have hno : ∀ e ∈ w.edges,
        ¬((sourceName (startId? w) e.source, e.isConditional) == (name, b)) = true := by
      intro e he heq
      exact hname ⟨e.source, mem_sources.2 ⟨e, he, rfl⟩, congrArg Prod.fst (beq_iff_eq.1 heq)⟩
    rw [List.filter_eq_nil_iff.2 fun e he => hno e (mem_arrangedEdges.1 he),
      List.filter_eq_nil_iff.2 hno]

end WorkflowGraph.Spec
