import WorkflowGraph.Proofs.Reference.Resolve

/-!
# References among nodes with the same outputs

All that resolving asks of the nodes is which outputs the node of an id has. Main statements:
`resolve_congr`, among nodes that agree on this a value is resolved to the same, with the same
warnings; and `resolve_resolved`, what was resolved is resolved as the value was.
-/

namespace WorkflowGraph.Reference

variable {nodes others : List Node}

/-- By each id a node is found among the nodes if one is among the others, and both have outputs of
the same names. -/
def HaveSameOutputs (nodes others : List Node) : Prop :=
  ∀ id, (nodeOf? nodes id).map Node.outputNames = (nodeOf? others id).map Node.outputNames

/-- A function that keeps the ids is applied before or after the look-up. -/
theorem nodeOf?_map {f : Node → Node} (hid : ∀ n, (f n).id = n.id) (nodes : List Node) (id : String) :
    nodeOf? (nodes.map f) id = (nodeOf? nodes id).map f := by
  simp only [nodeOf?, ← List.map_reverse, List.find?_map, Function.comp_def, hid]

theorem haveSameOutputs_map {f : Node → Node} (hid : ∀ n, (f n).id = n.id)
    (hout : ∀ n, (f n).outputNames = n.outputNames) (nodes : List Node) :
    HaveSameOutputs (nodes.map f) nodes := by
  intro id
  rw [nodeOf?_map hid, Option.map_map]
  exact congrArg (Option.map · _) (funext hout)

theorem HaveSameOutputs.haveOutputsOf (h : HaveSameOutputs others nodes) :
    HaveOutputsOf others nodes := by
  intro id n hn
  have hid := h id
  rw [hn, Option.map_some] at hid
  exact Option.map_eq_some_iff.1 hid.symm

theorem resolveNumbered_congr (h : HaveSameOutputs nodes others) (s : String) (r : Numbered) :
    resolveNumbered nodes s r = resolveNumbered others s r := by
  have hnode := h r.node
  unfold resolveNumbered
  cases hn : nodeOf? nodes r.node with
  | none =>
    rw [hn, Option.map_none, eq_comm, Option.map_eq_none_iff] at hnode
    rw [hnode]
  | some n =>
    rw [hn, Option.map_some, eq_comm, Option.map_eq_some_iff] at hnode
    obtain ⟨m, hm, hout⟩ := hnode
    simp only [hm, hout]

/-- Values are resolved alike among nodes with the same outputs. -/
theorem resolve_congr (h : HaveSameOutputs nodes others) (v : Json) :
    resolve nodes v = resolve others v := by
  cases v with
  | str s =>
    simp only [resolve, resolveText, resolveNumbered_congr h]
  | _ => rfl

/-! ## Resolving what was resolved -/

theorem HaveOutputsOf.refl (nodes : List Node) : HaveOutputsOf nodes nodes :=
  fun _ n hn => ⟨n, hn, rfl⟩

/-- A numbered reference to a known output is made one by name without a warning. -/
theorem resolveNumbered_of_nameOf? {s name : String} {r : Numbered}
    (hname : nameOf? nodes r = some name)
    (hdigits : ((nodeOf? nodes r.node).all fun n =>
      n.outputNames.contains r.place || r.digits.length ≤ maxPlaceDigits) = true) :
    resolveNumbered nodes s r = pure (make r.node name) := by
  obtain ⟨n, hn, hplace⟩ := Option.bind_eq_some_iff.1 hname
  rw [hn, Option.all_some, Bool.or_eq_true, decide_eq_true_eq] at hdigits
  split at hplace
  · cases hplace
  · next hnot =>
    have hlength := hdigits.resolve_left hnot
    unfold resolveNumbered
    simp only [hn, hnot, Nat.not_lt.2 hlength, hplace, Bool.false_eq_true, ite_false]

/-- A reference to an output of the name of its place is left as it is without a warning. -/
theorem resolveNumbered_of_contains {s : String} {r : Numbered}
    (h : ∀ n, nodeOf? nodes r.node = some n → n.outputNames.contains r.place = true)
    (hnode : nodeOf? nodes r.node ≠ none) : resolveNumbered nodes s r = pure s := by
  obtain ⟨n, hn⟩ := Option.ne_none_iff_exists'.1 hnode
  unfold resolveNumbered
  simp only [hn, h n hn, ite_true]

theorem resolveText_resolvedText (hnames : HaveReadableNames nodes) {s : String}
    (hs : isResolvableText nodes s = true) :
    resolveText nodes (resolvedText nodes s) = resolveText nodes s := by
  rcases resolvedText_eq nodes s with ⟨hsame, -⟩ | ⟨r, name, ht, hr, hname, hmade⟩
  · rw [hsame]
  · have hdot := dot_not_mem_head (Numbered.ofText?_eq_some hr).1
    have hdigits : ((nodeOf? nodes r.node).all fun n =>
        n.outputNames.contains r.place || r.digits.length ≤ maxPlaceDigits) = true := by
      simpa [isResolvableText, ht, hr] using hs
    have hformer : resolveText nodes s = pure (make r.node name) := by
      simp only [resolveText, ht, hr, Bool.false_eq_true, ite_false]
      exact resolveNumbered_of_nameOf? hname hdigits
    rw [hmade, hformer]
    unfold resolveText
    split
    · rfl
    · split
      · next r' hr' =>
        obtain ⟨hnode, -⟩ := place_of_ofText?_make hdot hr'
        refine resolveNumbered_of_contains (fun n hn => contains_place_of_nameOf?
          (HaveOutputsOf.refl nodes) hnames hdot hname hr' hn) ?_
        intro hnone
        rw [nameOf?, ← hnode, hnone] at hname
        cases hname
      · rfl

/-- A value that was resolved is resolved as before, and what is warned of is the same. -/
theorem resolve_resolved (hnames : HaveReadableNames nodes) {v : Json}
    (hv : isResolvable nodes v = true) : resolve nodes (resolved nodes v) = resolve nodes v := by
  cases v with
  | str s => exact congrArg (Json.str <$> ·) (resolveText_resolvedText hnames hv)
  | _ => rfl

/-! ## Unresolved references -/

/-- Whether a reference names one of the nodes is told from their ids. -/
theorem isForeign_congr (hid : nodes.map (·.id) = others.map (·.id)) {u v : Json}
    (hhead : u.referenceHead? = v.referenceHead?) : isForeign nodes u = isForeign others v := by
  have hany : ∀ head, nodes.any (·.id == head) = others.any (·.id == head) := by
    intro head
    have h := congrArg (List.any · (· == head)) hid
    simpa only [List.any_map, Function.comp_def] using h
  simp only [isForeign, hhead, hany]

/-- A reference that names none of the nodes is left as it is. -/
theorem resolved_of_isForeign_eq_false {v : Json} (h : isForeign nodes v = false) :
    resolved nodes v = v := by
  cases v with
  | str s =>
    rcases resolvedText_eq nodes s with ⟨heq, -⟩ | ⟨r, name, -, hr, hname, -⟩
    · exact congrArg Json.str heq
    · obtain ⟨n, hn, -⟩ := Option.bind_eq_some_iff.1 hname
      have hhead : (Json.str s).referenceHead? = some r.node := (Numbered.ofText?_eq_some hr).1
      have hid : n.id = r.node := by simpa using List.find?_some hn
      rw [isForeign, hhead, Option.any_some, List.any_eq_false] at h
      exact absurd (beq_iff_eq.2 hid) (h n (mem_of_nodeOf? hn))
  | _ => rfl

end WorkflowGraph.Reference
