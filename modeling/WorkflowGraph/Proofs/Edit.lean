import WorkflowGraph.Proofs.Renaming
import WorkflowGraph.Proofs.Update

/-!
# Runs of changes

Whether ids are distinct and starts and ends are single depends on three lists of names: the ids of
nodes, the kinds of nodes and the ids of edges. Each change appends to such a list, takes names from
it, replaces one name in it or renames. What is new is looked up before it is added and before a node
is renamed, but not where fields of a node or an edge are changed; there it is for the one who makes
the change to be careful. Main statements: `isOrderly_apply_iff` for one change, and
`areCareful_iff_isOrderly` for a run of changes.
-/

namespace WorkflowGraph

/-! ## Names that occur once -/

/-- Each name of some form occurs once at most. -/
def OnceEach (form : String → Prop) (names : List String) : Prop :=
  ∀ s, form s → names.count s ≤ 1

namespace OnceEach

variable {form : String → Prop} {names pre post : List String} {x y : String}

theorem nodup_iff : names.Nodup ↔ OnceEach (fun _ => True) names := by
  rw [List.nodup_iff_count_le_one]
  exact forall_congr' fun _ => ⟨fun h _ => h, fun h => h trivial⟩

theorem append_singleton (h : OnceEach form names) (hx : form x → x ∉ names) :
    OnceEach form (names ++ [x]) := by
  intro s hs
  rw [List.count_append, List.count_singleton]
  by_cases hsx : x = s
  · rw [List.count_eq_zero.2 (hsx ▸ hx (hsx.symm ▸ hs))]
    split <;> omega
  · rw [if_neg (by simpa using hsx)]
    exact h s hs

theorem append_singleton_iff (h : OnceEach form names) :
    OnceEach form (names ++ [x]) ↔ (form x → x ∉ names) := by
  refine ⟨fun hall hx hmem => ?_, fun hx => h.append_singleton hx⟩
  have hcount := hall x hx
  rw [List.count_append, List.count_singleton_self] at hcount
  have hpos := List.count_pos_iff.2 hmem
  omega

theorem sublist {part : List String} (h : OnceEach form names) (hpart : part.Sublist names) :
    OnceEach form part :=
  fun s hs => le_trans (hpart.count_le s) (h s hs)

/-- A name may be put in the place of another exactly if it is that one or does not occur so far. -/
theorem replace_iff (h : OnceEach form (pre ++ x :: post)) :
    OnceEach form (pre ++ y :: post) ↔ y = x ∨ (form y → y ∉ pre ++ x :: post) := by
  by_cases hyx : y = x
  · rw [hyx]
    exact iff_of_true h (Or.inl rfl)
  · -- the rows differ at one place only, so what is beside it is counted alike in both
    have hcount : ∀ s z : String, (pre ++ z :: post).count s =
        pre.count s + post.count s + if z = s then 1 else 0 := by
      intro s z
      rw [List.count_append, List.count_cons, ← Nat.add_assoc]
      simp only [beq_iff_eq]
    have hfree : y ∉ pre ++ x :: post ↔ pre.count y + post.count y = 0 := by
      rw [← List.count_eq_zero, hcount, if_neg (Ne.symm hyx), Nat.add_zero]
    rw [hfree]
    constructor
    · intro hnew
      refine Or.inr fun hy => ?_
      have := hnew y hy
      rw [hcount, if_pos rfl] at this
      omega
    · rintro (heq | hnew) s hs
      · exact absurd heq hyx
      · rw [hcount]
        by_cases hys : y = s
        · rw [← hys, hnew (hys ▸ hs), if_pos rfl]
        · have := h s hs
          rw [hcount] at this
          rw [if_neg hys]
          omega

end OnceEach

/-! ## Orderly workflows -/

namespace Workflow

/-- The ids of nodes and those of edges are distinct, and there is one start and one end at most. -/
@[mk_iff]
structure IsOrderly (w : Workflow) : Prop where
  nodeIds_nodup : w.nodeIds.Nodup
  edgeIds_nodup : w.edgeIds.Nodup
  starts_le_one : w.starts.length ≤ 1
  ends_le_one : w.ends.length ≤ 1

instance (w : Workflow) : Decidable w.IsOrderly :=
  decidable_of_iff' _ (isOrderly_iff w)

/-- The kinds of the nodes. -/
def kinds (w : Workflow) : List String :=
  w.nodes.map (·.kind)

variable {w r : Workflow} {now : Timestamp}

theorem count_kinds (w : Workflow) (kind : String) :
    w.kinds.count kind = (w.nodes.filter (·.kind == kind)).length := by
  rw [kinds, List.count, List.countP_map, List.countP_eq_length_filter]
  rfl

theorem onceEach_kinds_iff (w : Workflow) :
    OnceEach (· ∈ singletonKinds) w.kinds ↔ w.starts.length ≤ 1 ∧ w.ends.length ≤ 1 := by
  simp only [OnceEach, singletonKinds, List.forall_mem_cons, List.not_mem_nil, false_implies,
    implies_true, and_true, count_kinds]
  rfl

/-- Whether a workflow is orderly is told by the names in it. -/
theorem isOrderly_iff_onceEach : w.IsOrderly ↔
    OnceEach (fun _ => True) w.nodeIds ∧ OnceEach (fun _ => True) w.edgeIds ∧
      OnceEach (· ∈ singletonKinds) w.kinds := by
  rw [← OnceEach.nodup_iff, ← OnceEach.nodup_iff, onceEach_kinds_iff]
  exact isOrderly_iff w

theorem isOrderly_of_empty (hnodes : w.nodes = []) (hedges : w.edges = []) : w.IsOrderly := by
  refine ⟨?_, ?_, ?_, ?_⟩ <;> simp [nodeIds, edgeIds, starts, ends, hnodes, hedges]

theorem canAdd_iff {kind : String} :
    w.canAdd kind = true ↔ (kind ∈ singletonKinds → kind ∉ w.kinds) := by
  simp only [canAdd, kinds, Bool.not_eq_true', Bool.and_eq_false_imp, List.contains_iff_mem,
    List.any_eq_false, beq_iff_eq, List.mem_map, not_exists, not_and]

/-! ## Nodes and edges that are added -/

theorem addNode_eq_ok_iff {n : Node} : w.addNode now n = .ok r ↔
    (n.id ∉ w.nodeIds ∧ w.canAdd n.kind = true) ∧
      r = { w with nodes := w.nodes ++ [n], updatedAt := now } := by
  have hfree : n.id ∉ w.nodeIds ↔ ¬(w.findNode? n.id).isSome = true := by
    simp [findNode?, nodeIds]
  rw [hfree, addNode]
  by_cases htaken : (w.findNode? n.id).isSome = true
  · rw [if_pos htaken]
    exact iff_of_false (fun h => by cases h) fun h => h.1.1 htaken
  · rw [if_neg htaken]
    by_cases hkind : w.canAdd n.kind = true
    · simp [hkind, htaken, eq_comm]
    · simp [hkind]

theorem addEdge_eq_ok_iff {e : Edge} : w.addEdge now e = .ok r ↔
    e.id ∉ w.edgeIds ∧ r = { w with edges := w.edges ++ [e], updatedAt := now } := by
  have hfree : e.id ∉ w.edgeIds ↔ ¬(w.findEdge? e.id).isSome = true := by
    simp [findEdge?, edgeIds]
  rw [hfree, addEdge]
  by_cases htaken : (w.findEdge? e.id).isSome = true
  · rw [if_pos htaken]
    exact iff_of_false (fun h => by cases h) fun h => h.1 htaken
  · simp [htaken, eq_comm]

theorem IsOrderly.addNode (h : w.IsOrderly) {n : Node} (hr : w.addNode now n = .ok r) :
    r.IsOrderly := by
  obtain ⟨⟨hid, hkind⟩, rfl⟩ := addNode_eq_ok_iff.1 hr
  obtain ⟨hnodes, hedges, hkinds⟩ := isOrderly_iff_onceEach.1 h
  refine isOrderly_iff_onceEach.2 ⟨?_, hedges, ?_⟩
  · rw [nodeIds, List.map_append]
    exact hnodes.append_singleton fun _ => hid
  · rw [kinds, List.map_append]
    exact hkinds.append_singleton (canAdd_iff.1 hkind)

theorem IsOrderly.addEdge (h : w.IsOrderly) {e : Edge} (hr : w.addEdge now e = .ok r) :
    r.IsOrderly := by
  obtain ⟨hid, rfl⟩ := addEdge_eq_ok_iff.1 hr
  obtain ⟨hnodes, hedges, hkinds⟩ := isOrderly_iff_onceEach.1 h
  refine isOrderly_iff_onceEach.2 ⟨hnodes, ?_, hkinds⟩
  rw [edgeIds, List.map_append]
  exact hedges.append_singleton fun _ => hid

/-! ## Nodes and edges that are removed -/

theorem IsOrderly.removeNode (h : w.IsOrderly) (now : Timestamp) (id : String) :
    (w.removeNode now id).IsOrderly := by
  obtain ⟨hnodes, hedges, hkinds⟩ := isOrderly_iff_onceEach.1 h
  exact isOrderly_iff_onceEach.2 ⟨hnodes.sublist (List.filter_sublist.map _),
    hedges.sublist (List.filter_sublist.map _), hkinds.sublist (List.filter_sublist.map _)⟩

theorem IsOrderly.removeEdge (h : w.IsOrderly) (now : Timestamp) (id : String) :
    (w.removeEdge now id).IsOrderly := by
  obtain ⟨hnodes, hedges, hkinds⟩ := isOrderly_iff_onceEach.1 h
  exact isOrderly_iff_onceEach.2 ⟨hnodes, hedges.sublist (List.filter_sublist.map _), hkinds⟩

/-! ## Nodes that are renamed -/

variable {old new : String}

theorem nodeIds_renamed (w : Workflow) (now : Timestamp) (old new : String) :
    (w.renamed now old new).nodeIds = w.nodeIds.map (renamedId old new) := by
  simp [nodeIds, renamed, Function.comp_def]

theorem kinds_renamed (w : Workflow) (now : Timestamp) (old new : String) :
    (w.renamed now old new).kinds = w.kinds := by
  simp [kinds, renamed, Function.comp_def]

theorem edgeIds_renamed (w : Workflow) (now : Timestamp) (old new : String) :
    (w.renamed now old new).edgeIds = w.edgeIds := by
  rw [edgeIds, renamed, List.map_map, edgeIds]
  rfl

theorem IsOrderly.renameNode (h : w.IsOrderly) (hr : w.renameNode now old new = .ok r) :
    r.IsOrderly := by
  obtain ⟨-, ⟨-, rfl⟩ | ⟨hnew, rfl⟩⟩ := renameNode_eq_ok_iff.1 hr
  · exact h
  · obtain ⟨-, hedges, hkinds⟩ := isOrderly_iff_onceEach.1 h
    rw [isOrderly_iff_onceEach, edgeIds_renamed, kinds_renamed, nodeIds_renamed,
      ← OnceEach.nodup_iff]
    refine ⟨h.nodeIds_nodup.map_on fun x hx y hy heq => ?_, hedges, hkinds⟩
    exact (renamedId_inj (ne_of_mem_of_not_mem hx hnew) (ne_of_mem_of_not_mem hy hnew)).1 heq

/-! ## Fields that are changed -/

section Fields

variable {α : Type} {key : α → String} {id : String} {change : α → Attempt α} {as bs : List α}

/-- Where only items of one key are changed, those of other keys are kept. -/
theorem result_mapList_of_ne (h : ∀ a ∈ as, key a ≠ id) :
    (Attempt.mapList (fun a => if key a = id then change a else pure a) as).result = .ok as := by
  have hkept : ∀ a ∈ as, (if key a = id then change a else pure a).result = .ok a := by
    intro a ha
    rw [if_neg (h a ha), Attempt.result_pure]
  have hall := Attempt.result_mapList_of_forall hkept
  rwa [List.map_id'] at hall

/-- Of items of distinct keys the one of a key is changed, in its place. -/
theorem exists_of_result_mapList (hnd : (as.map key).Nodup) {a : α} (ha : a ∈ as) (hid : key a = id)
    (h : (Attempt.mapList (fun a => if key a = id then change a else pure a) as).result = .ok bs) :
    ∃ pre post b, as = pre ++ a :: post ∧ (change a).result = .ok b ∧ bs = pre ++ b :: post := by
  induction as generalizing bs with
  | nil => cases ha
  | cons c as ih =>
    rw [List.map_cons, List.nodup_cons] at hnd
    obtain ⟨b, hb, cs, hcs, hbs⟩ : ∃ b, (if key c = id then change c else pure c).result = .ok b ∧
        ∃ cs, (Attempt.mapList (fun a => if key a = id then change a else pure a) as).result =
          .ok cs ∧ b :: cs = bs := by
      simpa [Attempt.mapList] using h
    -- the key occurs once: at the head, or in the rest
    rcases List.mem_cons.1 ha with rfl | hmem
    · have hrest : ∀ d ∈ as, key d ≠ id := fun d hd heq =>
        hnd.1 ((hid.trans heq.symm) ▸ List.mem_map_of_mem hd)
      rw [result_mapList_of_ne hrest] at hcs
      cases hcs
      rw [if_pos hid] at hb
      exact ⟨[], as, b, rfl, hb, hbs.symm⟩
    · have hne : key c ≠ id := fun heq => hnd.1 ((heq.trans hid.symm) ▸ List.mem_map_of_mem hmem)
      rw [if_neg hne, Attempt.result_pure] at hb
      cases hb
      obtain ⟨pre, post, d, rfl, hd, rfl⟩ := ih hnd.2 hmem hcs
      exact ⟨c :: pre, post, d, rfl, hd, hbs.symm⟩

/-- What holds of the item of a key and of what it is changed to holds of all items of that key. -/
theorem forall_changed_iff (hnd : (as.map key).Nodup) {a b : α} (ha : a ∈ as) (hid : key a = id)
    (hb : (change a).result = .ok b) {p : α → α → Prop} :
    (∀ c ∈ as, key c = id → ∀ d, (change c).result = .ok d → p c d) ↔ p a b := by
  constructor
  · exact fun hall => hall a ha hid b hb
  · rintro hp c hc hcid d hd
    obtain rfl := List.inj_on_of_nodup_map hnd hc ha (hcid.trans hid.symm)
    obtain rfl := Except.ok.inj (hd.symm.trans hb)
    exact hp

end Fields

variable {id : String} {changes : Json.Fields}

/-- A change of the fields of a node replaces it in its place. -/
theorem exists_of_updateNode (hnd : w.nodeIds.Nodup)
    (h : (w.updateNode now id changes).result = .ok r) :
    ∃ pre n post m, n.id = id ∧ (n.update changes).result = .ok m ∧ w.nodes = pre ++ n :: post ∧
      r = { w with nodes := pre ++ m :: post, updatedAt := now } := by
  unfold updateNode at h
  split at h
  · cases h
  · next hfound =>
    have hmem : ∃ n ∈ w.nodes, n.id = id := by simpa [findNode?] using hfound
    obtain ⟨n, hn, hid⟩ := hmem
    obtain ⟨nodes, hnodes, hr⟩ := Attempt.result_bind_eq_ok_iff.1 h
    obtain ⟨pre, post, m, hsplit, hm, rfl⟩ := exists_of_result_mapList hnd hn hid hnodes
    exact ⟨pre, n, post, m, hid, hm, hsplit, (Except.ok.inj hr).symm⟩

/-- A change of the fields of an edge replaces it in its place. -/
theorem exists_of_updateEdge (hnd : w.edgeIds.Nodup)
    (h : (w.updateEdge now id changes).result = .ok r) :
    ∃ pre e post f, e.id = id ∧ (e.update changes).result = .ok f ∧ w.edges = pre ++ e :: post ∧
      r = { w with edges := pre ++ f :: post, updatedAt := now } := by
  unfold updateEdge at h
  split at h
  · cases h
  · next hfound =>
    have hmem : ∃ e ∈ w.edges, e.id = id := by simpa [findEdge?] using hfound
    obtain ⟨e, he, hid⟩ := hmem
    obtain ⟨edges, hedges, hr⟩ := Attempt.result_bind_eq_ok_iff.1 h
    obtain ⟨pre, post, f, hsplit, hf, rfl⟩ := exists_of_result_mapList hnd he hid hedges
    exact ⟨pre, e, post, f, hid, hf, hsplit, (Except.ok.inj hr).symm⟩

end Workflow

/-! ## Careful changes -/

/-- Where the fields of a node or an edge are changed, it keeps its id or gets one that is free, and a
node keeps its kind or gets one of which a node may be added. -/
def Edit.IsCareful (w : Workflow) : Edit → Prop
  | updateNode id changes =>
    ∀ n ∈ w.nodes, n.id = id → ∀ m, (n.update changes).result = .ok m →
      (m.id = n.id ∨ m.id ∉ w.nodeIds) ∧ (m.kind = n.kind ∨ w.canAdd m.kind = true)
  | updateEdge id changes =>
    ∀ e ∈ w.edges, e.id = id → ∀ f, (e.update changes).result = .ok f →
      f.id = e.id ∨ f.id ∉ w.edgeIds
  | _ => True

namespace Workflow

variable {w r : Workflow} {now : Timestamp} {id : String} {changes : Json.Fields}

theorem isCareful_updateNode (hid : changes.has "id" = false) (hkind : changes.has "kind" = false) :
    (Edit.updateNode id changes).IsCareful w :=
  fun _ _ _ _ hm => ⟨Or.inl (Node.id_update hm hid), Or.inl (Node.kind_update hm hkind)⟩

theorem isCareful_updateEdge (hid : changes.has "id" = false) :
    (Edit.updateEdge id changes).IsCareful w :=
  fun _ _ _ _ hf => Or.inl (Edge.id_update hf hid)

theorem isOrderly_updateNode_iff (h : w.IsOrderly)
    (hr : (w.updateNode now id changes).result = .ok r) :
    r.IsOrderly ↔ (Edit.updateNode id changes).IsCareful w := by
  obtain ⟨pre, n, post, m, hid, hm, hsplit, rfl⟩ := exists_of_updateNode h.nodeIds_nodup hr
  obtain ⟨hnodes, hedges, hkinds⟩ := isOrderly_iff_onceEach.1 h
  have hn : n ∈ w.nodes := by simp [hsplit]
  have hcareful : (Edit.updateNode id changes).IsCareful w ↔
      (m.id = n.id ∨ m.id ∉ w.nodeIds) ∧ (m.kind = n.kind ∨ w.canAdd m.kind = true) :=
    forall_changed_iff h.nodeIds_nodup hn hid hm
  rw [nodeIds, hsplit, List.map_append, List.map_cons] at hnodes
  rw [kinds, hsplit, List.map_append, List.map_cons] at hkinds
  rw [hcareful, canAdd_iff, isOrderly_iff_onceEach, nodeIds, kinds, List.map_append,
    List.map_append, List.map_cons, List.map_cons, hnodes.replace_iff, hkinds.replace_iff, nodeIds,
    kinds, hsplit, List.map_append, List.map_append, List.map_cons, List.map_cons, true_implies]
  constructor
  · rintro ⟨hids, -, hkept⟩
    exact ⟨hids, hkept⟩
  · rintro ⟨hids, hkept⟩
    exact ⟨hids, hedges, hkept⟩

theorem isOrderly_updateEdge_iff (h : w.IsOrderly)
    (hr : (w.updateEdge now id changes).result = .ok r) :
    r.IsOrderly ↔ (Edit.updateEdge id changes).IsCareful w := by
  obtain ⟨pre, e, post, f, hid, hf, hsplit, rfl⟩ := exists_of_updateEdge h.edgeIds_nodup hr
  obtain ⟨hnodes, hedges, hkinds⟩ := isOrderly_iff_onceEach.1 h
  have he : e ∈ w.edges := by simp [hsplit]
  have hcareful : (Edit.updateEdge id changes).IsCareful w ↔
      f.id = e.id ∨ f.id ∉ w.edgeIds :=
    forall_changed_iff h.edgeIds_nodup he hid hf
  rw [edgeIds, hsplit, List.map_append, List.map_cons] at hedges
  rw [hcareful, isOrderly_iff_onceEach, edgeIds, List.map_append, List.map_cons,
    hedges.replace_iff, edgeIds, hsplit, List.map_append, List.map_cons, true_implies]
  exact ⟨fun hall => hall.2.1, fun hids => ⟨hnodes, hids, hkinds⟩⟩

/-- One change of an orderly workflow leaves an orderly one exactly if it is careful. -/
theorem isOrderly_apply_iff (h : w.IsOrderly) {edit : Edit}
    (hr : (edit.apply now w).result = .ok r) : r.IsOrderly ↔ edit.IsCareful w := by
  cases edit with
  | addNode n =>
    rw [Edit.apply, Attempt.result_ofExcept] at hr
    exact iff_of_true (h.addNode hr) trivial
  | removeNode id =>
    cases hr
    exact iff_of_true (h.removeNode now id) trivial
  | updateNode id changes => exact isOrderly_updateNode_iff h hr
  | renameNode old new =>
    rw [Edit.apply, Attempt.result_ofExcept] at hr
    exact iff_of_true (h.renameNode hr) trivial
  | addEdge e =>
    rw [Edit.apply, Attempt.result_ofExcept] at hr
    exact iff_of_true (h.addEdge hr) trivial
  | removeEdge id =>
    cases hr
    exact iff_of_true (h.removeEdge now id) trivial
  | updateEdge id changes => exact isOrderly_updateEdge_iff h hr

end Workflow

/-! ## Runs -/

/-- The workflow after changes one after the other, each at its time. -/
def Edit.applyAll (w : Workflow) : List (Timestamp × Edit) → Attempt Workflow
  | [] => pure w
  | (now, edit) :: rest => do
    let next ← edit.apply now w
    applyAll next rest

/-- Each change is careful in the workflow that it meets. -/
def Edit.AreCareful (w : Workflow) : List (Timestamp × Edit) → Prop
  | [] => True
  | (now, edit) :: rest =>
    edit.IsCareful w ∧ ∀ next, (edit.apply now w).result = .ok next → AreCareful next rest

namespace Workflow

variable {w r : Workflow} {edits : List (Timestamp × Edit)}

theorem result_applyAll_cons {now : Timestamp} {edit : Edit} {next : Workflow}
    (h : (edit.apply now w).result = .ok next) :
    (Edit.applyAll w ((now, edit) :: edits)).result = (Edit.applyAll next edits).result :=
  Attempt.result_bind_of_ok h _

/-- Along a run of changes all workflows are orderly exactly if each change is careful where it is
made. -/
theorem isOrderly_along_iff (h : w.IsOrderly) (hr : (Edit.applyAll w edits).result = .ok r) :
    (∀ part next, part <+: edits → (Edit.applyAll w part).result = .ok next → next.IsOrderly) ↔
      Edit.AreCareful w edits := by
  -- what is left of the run begins with the workflow that the first change leads to
  induction edits generalizing w with
  | nil =>
    refine iff_of_true (fun part next hpart hnext => ?_) trivial
    rw [List.prefix_nil] at hpart
    subst hpart
    cases hnext
    exact h
  | cons edit rest ih =>
    obtain ⟨now, edit⟩ := edit
    obtain ⟨first, hfirst, hrest⟩ := Attempt.result_bind_eq_ok_iff.1 hr
    constructor
    · intro hall
      have hord : first.IsOrderly :=
        hall [(now, edit)] first (List.cons_prefix_cons.2 ⟨rfl, List.nil_prefix⟩)
          ((result_applyAll_cons hfirst).trans rfl)
      refine ⟨(isOrderly_apply_iff h hfirst).1 hord, fun next hnext => ?_⟩
      obtain rfl := Except.ok.inj (hfirst.symm.trans hnext)
      refine (ih hord hrest).1 fun part next hpart hpartNext => ?_
      exact hall ((now, edit) :: part) next (List.cons_prefix_cons.2 ⟨rfl, hpart⟩)
        ((result_applyAll_cons hfirst).trans hpartNext)
    · rintro ⟨hcareful, hrestCareful⟩ part next hpart hnext
      have hord : first.IsOrderly := (isOrderly_apply_iff h hfirst).2 hcareful
      rcases List.prefix_cons_iff.1 hpart with rfl | ⟨part, rfl, hrestPart⟩
      · cases hnext
        exact h
      · rw [result_applyAll_cons hfirst] at hnext
        exact (ih hord hrest).2 (hrestCareful first hfirst) part next hrestPart hnext

/-- A workflow without nodes and edges. -/
def blank : Workflow :=
  ⟨"blank", unnamed, "", [], [], noon, noon⟩

/-- A node of a kind without ports and settings. -/
def bareNode (id kind : String) : Node :=
  (Node.make id kind default "" "" .null .empty .empty).value

/-- A start is followed by a step, which is labelled and then renamed. -/
def followed : List (Timestamp × Edit) :=
  [(noon, .addNode (bareNode "begin" "start")), (noon, .addNode (bareNode "step" "custom")),
    (noon, .addEdge (Edge.make "e1" "begin" "step" .plain none none .null false []).value),
    (noon, .updateNode "step" [("label", .str "Step")]), (noon, .renameNode "step" "first"),
    (noon, .updateEdge "e1" [("animated", .bool true)])]

theorem isOrderly_along_followed :
    ∃ r, (Edit.applyAll blank followed).result = .ok r ∧ r.IsOrderly := by
  obtain ⟨r, hr⟩ : ∃ r, (Edit.applyAll blank followed).result = .ok r := ⟨_, rfl⟩
  have hcareful : Edit.AreCareful blank followed :=
    ⟨trivial, fun _ _ => ⟨trivial, fun _ _ => ⟨trivial, fun _ _ => ⟨isCareful_updateNode rfl rfl,
      fun _ _ => ⟨trivial, fun _ _ => ⟨isCareful_updateEdge rfl, fun _ _ => trivial⟩⟩⟩⟩⟩⟩
  have hall := (isOrderly_along_iff (isOrderly_of_empty rfl rfl) hr).2 hcareful
  exact ⟨r, hr, hall followed r (List.prefix_refl _) hr⟩

/-- A start and another node, which is given the id and the kind of the start. -/
def doubled : List (Timestamp × Edit) :=
  [(noon, .addNode (bareNode "begin" "start")), (noon, .addNode (bareNode "again" "custom")),
    (noon, .updateNode "again" [("id", .str "begin"), ("kind", .str "start")])]

/-- The change of fields is not refused, so that one id belongs to two nodes, which both are starts. -/
theorem not_isOrderly_doubled :
    ∃ r, (Edit.applyAll blank doubled).result = .ok r ∧ r.nodeIds = ["begin", "begin"] ∧
      r.starts.length = 2 ∧ ¬r.IsOrderly := by
  refine ⟨_, rfl, rfl, rfl, fun h => ?_⟩
  exact absurd h.nodeIds_nodup (by decide)

end Workflow

end WorkflowGraph
