import WorkflowGraph.Proofs.Config
import WorkflowGraph.Proofs.Spec.Groups

/-!
# Edges restored from the groups of a spec

The targets of all groups become edges one after the other, and each takes the first details that fit
it from those that are left. Whatever the details are, they do not change where an edge leads and
when it is followed (`route_restoreAll`). If they are those of the edges that the groups list, in
whatever order, each edge takes its own: the invariant is that of each form the details left are
those of the edges that remain. Main statement: `map_restoreAll_of_details`.
-/

namespace WorkflowGraph

/-- Where an edge leads and when it is followed. -/
structure Route where
  source : String
  target : String
  /-- It is followed only if a condition holds. -/
  isConditional : Bool
  /-- When it is followed, if that is stated apart from the settings. -/
  condition : Option String
  deriving DecidableEq

/-- The route of an edge. -/
def Edge.route (e : Edge) : Route :=
  ⟨e.source, e.target, e.isConditional, e.condition⟩

namespace Spec

variable {settings : Settings} {terminals : Terminals}

/-! ## One edge -/

/-- The edge that a target denotes, given its details. -/
def Arrow.edge (settings : Settings) (terminals : Terminals) (source : String) (index : Nat)
    (detail? : Option EdgeDetail) (a : Arrow) : Edge :=
  (Edge.make s!"{settings.edgeIdPrefix}-{index}" (resolveSentinel startSentinel terminals.start? source)
    (resolveSentinel endSentinel terminals.finish? a.target) (a.kindWith detail?)
    (detail?.bind (·.label)) a.condition (((detail?.bind (·.config)).map Json.obj).getD .null)
    (detail?.any (·.animated)) ((detail?.map (·.style)).getD [])).value

theorem Arrow.value_restore (settings : Settings) (terminals : Terminals) (source : String)
    (index : Nat) (details : List EdgeDetail) (a : Arrow) :
    (a.restore settings terminals source index details).value =
      (a.edge settings terminals source index (takeDetail source a details).1,
        (takeDetail source a details).2) := rfl

/-- What tells details and targets apart. -/
def EdgeDetail.key (d : EdgeDetail) : String × String × Bool :=
  (d.source, d.target, d.kind == EdgeKind.conditional.name)

/-- What tells the details of a target from others. -/
def Arrow.key (source : String) (a : Arrow) : String × String × Bool :=
  (source, a.target, a.condition.isSome)

theorem EdgeDetail.fits_eq (source : String) (a : Arrow) :
    EdgeDetail.fits source a = fun d => d.key == a.key source :=
  funext fun _ => Bool.and_assoc _ _ _

/-- The details make no edge conditional that is not so, nor the other way. -/
theorem Arrow.kindWith_eq_conditional_iff {source : String} {details : List EdgeDetail} {a : Arrow} :
    a.kindWith (takeDetail source a details).1 = .conditional ↔ a.condition.isSome = true := by
  unfold Arrow.kindWith Arrow.kind
  cases hc : a.condition with
  | some condition => simp
  | none =>
    simp only [Option.isSome_none, Bool.false_eq_true, ite_false, ite_true, iff_false]
    cases hd : (takeDetail source a details).1 with
    | none => simp
    | some d =>
      -- details are taken only by an arrow of the same form, so these are not conditional
      have hfits : d.fits source a = true := List.find?_some hd
      rw [EdgeDetail.fits_eq, beq_iff_eq] at hfits
      have hkind : (d.kind == EdgeKind.conditional.name) = false := by
        have h := congrArg (·.2.2) hfits
        simpa [EdgeDetail.key, Arrow.key, hc] using h
      intro h
      cases hname : EdgeKind.ofName? d.kind with
      | none => simp [hname] at h
      | some kind =>
        have hfind : EdgeKind.all.find? (·.name == d.kind) = some kind := hname
        have hk : kind.name = d.kind := by simpa using List.find?_some hfind
        have hc : kind = .conditional := by simpa [hname] using h
        rw [← hk, hc, beq_self_eq_true] at hkind
        cases hkind

/-- The route that a target of a group denotes. -/
def Arrow.route (terminals : Terminals) (source : String) (a : Arrow) : Route where
  source := resolveSentinel startSentinel terminals.start? source
  target := resolveSentinel endSentinel terminals.finish? a.target
  isConditional := a.condition.isSome
  condition := a.condition

/-- No details change the route of an edge. -/
theorem Arrow.route_edge (settings : Settings) (terminals : Terminals) (source : String)
    (index : Nat) (details : List EdgeDetail) (a : Arrow) :
    (a.edge settings terminals source index (takeDetail source a details).1).route =
      a.route terminals source := by
  have hcond : (a.edge settings terminals source index (takeDetail source a details).1).isConditional =
      a.condition.isSome := by
    rw [Bool.eq_iff_iff, ← Arrow.kindWith_eq_conditional_iff]
    exact decide_eq_true_iff
  rw [Edge.route, hcond]
  rfl

/-! ## All edges -/

/-- The edges of targets under the names of their groups, counted from an index. -/
def restoreAll (settings : Settings) (terminals : Terminals) :
    (index : Nat) → (details : List EdgeDetail) → List (String × Arrow) → List Edge
  | _, _, [] => []
  | index, details, (source, a) :: rest =>
    a.edge settings terminals source index (takeDetail source a details).1 ::
      restoreAll settings terminals (index + 1) (takeDetail source a details).2 rest

/-- The details that are left by some targets. -/
def leftBy (details : List EdgeDetail) (arrows : List (String × Arrow)) : List EdgeDetail :=
  arrows.foldl (fun details x => (takeDetail x.1 x.2 details).2) details

theorem restoreAll_append (arrows more : List (String × Arrow)) (index : Nat)
    (details : List EdgeDetail) :
    restoreAll settings terminals index details (arrows ++ more) =
      restoreAll settings terminals index details arrows ++
        restoreAll settings terminals (index + arrows.length) (leftBy details arrows) more := by
  -- the details that one target takes are not there for the next
  induction arrows generalizing index details with
  | nil => rfl
  | cons x arrows ih =>
    obtain ⟨source, a⟩ := x
    rw [List.cons_append, restoreAll, ih, restoreAll, List.length_cons, List.cons_append,
      Nat.add_assoc, Nat.add_comm 1]
    rfl

theorem value_restoreArrows (source : String) (arrows : List Arrow) (index : Nat)
    (details : List EdgeDetail) :
    (restoreArrows settings terminals source index details arrows).value =
      (restoreAll settings terminals index details (arrows.map fun a => (source, a)),
        leftBy details (arrows.map fun a => (source, a))) := by
  induction arrows generalizing index details with
  | nil => rfl
  | cons a arrows ih =>
    simp only [restoreArrows, Logged.value_bind, Logged.value_pure, Arrow.value_restore, ih]
    rfl

theorem wireArrows_cons (g : Group) (groups : List Group) :
    wireArrows (g :: groups) = (g.targets.arrows.map fun a => (g.source, a)) ++ wireArrows groups :=
  List.flatMap_cons

/-- The edges that are restored from some groups. -/
theorem value_restoreGroups (groups : List Group) (index : Nat) (details : List EdgeDetail) :
    (restoreGroups settings terminals index details groups).value =
      restoreAll settings terminals index details (wireArrows groups) := by
  induction groups generalizing index details with
  | nil => rfl
  | cons g groups ih =>
    simp only [restoreGroups, Logged.value_bind, Logged.value_pure, value_restoreArrows, ih]
    rw [wireArrows_cons, restoreAll_append, List.length_map]

/-- Each target becomes an edge of the route that the target denotes. -/
theorem route_restoreAll (arrows : List (String × Arrow)) (index : Nat) (details : List EdgeDetail) :
    (restoreAll settings terminals index details arrows).map Edge.route =
      arrows.map fun x => x.2.route terminals x.1 := by
  induction arrows generalizing index details with
  | nil => rfl
  | cons x arrows ih =>
    obtain ⟨source, a⟩ := x
    rw [restoreAll, List.map_cons, ih, Arrow.route_edge]
    rfl

/-! ## Details of the same edges -/

theorem find?_eq_head?_filter_key (source : String) (a : Arrow) (details : List EdgeDetail) :
    (takeDetail source a details).1 = (details.filter (·.key == a.key source)).head? := by
  rw [List.head?_filter, takeDetail, EdgeDetail.fits_eq]

/-- Taking details for a target leaves all of other forms, and all but the first of its form. -/
theorem filter_key_left (source : String) (a : Arrow) (details : List EdgeDetail)
    (k : String × String × Bool) :
    (takeDetail source a details).2.filter (·.key == k) =
      if k = a.key source then (details.filter (·.key == k)).tail else details.filter (·.key == k) := by
  have heq : (takeDetail source a details).2 = details.eraseP (·.key == a.key source) := by
    rw [takeDetail, EdgeDetail.fits_eq]
  rw [heq]
  split
  · next hk => rw [hk, filter_eraseP_self]
  · next hk =>
    refine filter_eraseP_of_disjoint (fun d hd => ?_) details
    rw [beq_iff_eq] at hd
    rw [hd, beq_eq_false_iff_ne]
    exact fun h => hk h.symm

/-- Among details that are those of the remaining edges, in an order that agrees with theirs for each
form, every edge finds its own. -/
theorem map_restoreAll_of_details {β : Type} {wire : Edge → String × Arrow}
    {detail : Edge → EdgeDetail} {view former : Edge → β} (edges : List Edge)
    (hkey : ∀ e ∈ edges, (detail e).key = (wire e).2.key (wire e).1)
    (hview : ∀ e ∈ edges, ∀ index, view ((wire e).2.edge settings terminals (wire e).1 index
      (some (detail e))) = former e)
    (index : Nat) (details : List EdgeDetail)
    (h : ∀ k, details.filter (·.key == k) = (edges.map detail).filter (·.key == k)) :
    (restoreAll settings terminals index details (edges.map wire)).map view = edges.map former := by
  induction edges generalizing index details with
  | nil => rfl
  | cons e edges ih =>
    -- Of the form of `e` the first details are its own, and those of the other edges are left.
    have hown : (takeDetail (wire e).1 (wire e).2 details).1 = some (detail e) := by
      rw [find?_eq_head?_filter_key, h, ← hkey e List.mem_cons_self, List.map_cons,
        List.filter_cons_of_pos (by simp), List.head?_cons]
    have hleft : ∀ k, (takeDetail (wire e).1 (wire e).2 details).2.filter (·.key == k) =
        (edges.map detail).filter (·.key == k) := by
      intro k
      rw [filter_key_left, h, List.map_cons, ← hkey e List.mem_cons_self]
      split
      · next hk => rw [List.filter_cons_of_pos (by simp [hk]), List.tail_cons]
      · next hk => rw [List.filter_cons_of_neg (by simpa using fun heq => hk heq.symm)]
    rw [List.map_cons, restoreAll, List.map_cons, List.map_cons, hown,
      hview e List.mem_cons_self index,
      ih (fun x hx => hkey x (List.mem_cons_of_mem _ hx))
        (fun x hx => hview x (List.mem_cons_of_mem _ hx)) _ _ hleft]

end Spec

end WorkflowGraph
