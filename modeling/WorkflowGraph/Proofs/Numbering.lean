import WorkflowGraph.Builder
import WorkflowGraph.Proofs.Table
import WorkflowGraph.Proofs.Update

/-!
# Edges that the builder numbers

An edge for which no id is given has the next number, and stands under the id of that number as any
other edge stands under its own. The numbers alone are never used twice, but an id of that form can be
given to an edge, and then the number is not skipped. The invariant of the steps of building is that
each edge is numbered, with a number that is used up, or has an id that was given (`AreNamed`). Main
statement: `connect_numbered`.
-/

namespace WorkflowGraph

/-! ## Ids -/

/-- Numbers after the same beginning are told apart by the whole texts. -/
theorem Text.numbered_injective (beginning : String) :
    Function.Injective fun n : Nat => s!"{beginning}-{n}" := by
  intro m n h
  have hdigits : Nat.toDigits 10 m = Nat.toDigits 10 n := by
    simpa [String.ext_iff, toString, Nat.repr] using h
  calc
    m = Nat.ofDigitChars 10 (Nat.toDigits 10 m) 0 := Nat.ofDigitChars_ten_toDigits.symm
    _ = Nat.ofDigitChars 10 (Nat.toDigits 10 n) 0 := by rw [hdigits]
    _ = n := Nat.ofDigitChars_ten_toDigits

namespace Builder

/-- The id of the edge of a number. -/
def numberedId (n : Nat) : String :=
  s!"{edgeIdBeginning}-{n}"

theorem numberedId_injective : Function.Injective numberedId :=
  Text.numbered_injective edgeIdBeginning

/-- The id that a call gives to an edge. -/
def Call.edgeId? : Call → Option String
  | .addEdge e => some e.id
  | .connect a => if a.id.isVoid then none else a.id.text?
  | _ => none

/-! ## Steps -/

theorem value_settle {α : Type} (b : Builder) (x : Attempt α) (f : α → Builder) :
    (settle b x f).value = match x.result with
      | .ok a => (f a, none)
      | .error fault => (b, some fault) := by
  unfold settle
  rw [Logged.value_bind, Attempt.result]
  cases x.outcome.value <;> rfl

/-- A number is used up for an edge for which no id is given. -/
def useUp (b : Builder) : Builder :=
  { b with numbered := b.numbered + 1 }

theorem perform_connect_of_isVoid (b : Builder) {a : EdgeArguments} (h : a.id.isVoid = true) :
    b.perform (.connect a) =
      settle b.useUp (makeEdge (.str (numberedId (b.numbered + 1))) a) b.useUp.putEdge := by
  have hclaim : b.claimId a.id = (.str (numberedId (b.numbered + 1)), b.useUp) := if_pos h
  simp only [perform, hclaim]

theorem perform_connect_of_not_isVoid (b : Builder) {a : EdgeArguments} (h : ¬a.id.isVoid = true) :
    b.perform (.connect a) = settle b (makeEdge a.id a) b.putEdge := by
  have hclaim : b.claimId a.id = (a.id, b) := if_neg h
  simp only [perform, hclaim]

/-- The binding of a port leaves the edges alone. -/
theorem edges_bind {b bound : Builder} {node port : Json} {source output : String}
    {type : Option DataType} (h : b.bind node port source output type = .ok bound) :
    bound.edges = b.edges ∧ bound.numbered = b.numbered := by
  unfold bind at h
  cases hnode : b.nodeOf node with
  | error fault => rw [hnode] at h; cases h
  | ok n =>
    cases htype : Port.requireType type with
    | error fault => rw [hnode, htype] at h; cases h
    | ok type =>
      cases hname : portName port with
      | error fault => rw [hnode, htype, hname] at h; cases h
      | ok name =>
        rw [hnode, htype, hname] at h
        cases h
        exact ⟨rfl, rfl⟩

theorem edges_foldl_putNode (nodes : List Node) (b : Builder) :
    (nodes.foldl putNode b).edges = b.edges ∧ (nodes.foldl putNode b).numbered = b.numbered := by
  induction nodes generalizing b with
  | nil => exact ⟨rfl, rfl⟩
  | cons n nodes ih => exact ih (b.putNode n)

/-! ## Where edges come from -/

/-- Each edge is numbered, with a number that is used up, or its id is one of those given. -/
def AreNamed (given : String → Prop) (b : Builder) : Prop :=
  ∀ name ∈ b.edges.names, (∃ n ≤ b.numbered, name = numberedId n) ∨ given name

namespace AreNamed

variable {given : String → Prop} {b b' : Builder}

theorem of_edges_eq (h : AreNamed given b) (he : b'.edges = b.edges ∧ b'.numbered = b.numbered) :
    AreNamed given b' := by
  unfold AreNamed
  rw [he.1, he.2]
  exact h

theorem dropNode (h : AreNamed given b) (id : String) : AreNamed given (b.dropNode id) := by
  intro name hname
  obtain ⟨e, he, rfl⟩ := List.mem_map.1 hname
  exact h e.1 (Table.mem_names_of_mem (List.mem_filter.1 he).1)

theorem useUp (h : AreNamed given b) : AreNamed given b.useUp := by
  intro name hname
  rcases h name hname with ⟨n, hn, rfl⟩ | hgiven
  · exact Or.inl ⟨n, Nat.le_succ_of_le hn, rfl⟩
  · exact Or.inr hgiven

theorem putEdge (h : AreNamed given b) {e : Edge}
    (he : (∃ n ≤ b.numbered, e.id = numberedId n) ∨ given e.id) : AreNamed given (b.putEdge e) := by
  intro name hname
  rw [← Table.has_iff_mem_names, Builder.putEdge, Table.has_insert, Bool.or_eq_true, beq_iff_eq,
    Table.has_iff_mem_names] at hname
  rcases hname with rfl | hname
  · exact he
  · exact h name hname

theorem settle {α : Type} {x : Attempt α} {f : α → Builder} (h : AreNamed given b)
    (hf : ∀ a, x.result = .ok a → AreNamed given (f a)) :
    AreNamed given (Builder.settle b x f).value.1 := by
  rw [value_settle]
  cases hx : x.result with
  | ok a => exact hf a hx
  | error fault => exact h

/-- A step keeps the edges named. -/
theorem perform (h : AreNamed given b) {c : Call} (hc : ∀ name ∈ c.edgeId?, given name) :
    AreNamed given (b.perform c).value.1 := by
  cases c with
  | withId id => exact h
  | withName name => exact h
  | withDescription description => exact h
  | addNode a => exact settle h fun n _ => of_edges_eq h ⟨rfl, rfl⟩
  | addNodes nodes => exact of_edges_eq h (edges_foldl_putNode nodes b)
  | bindInput id port source output type =>
    refine settle h fun bound hbound => ?_
    rw [Attempt.result_ofExcept] at hbound
    exact of_edges_eq h (edges_bind hbound)
  | removeNode id =>
    cases id with
    | str id => exact dropNode h id
    | _ => exact h
  | addEdge e => exact putEdge h (Or.inr (hc e.id rfl))
  | connect a =>
    by_cases hid : a.id.isVoid = true
    · rw [perform_connect_of_isVoid b hid]
      refine settle (useUp h) fun e he => putEdge (useUp h) (Or.inl ⟨_, Nat.le_refl _, ?_⟩)
      exact (Json.str.inj (Edge.eq_id_of_ofJson he)).symm
    · rw [perform_connect_of_not_isVoid b hid]
      refine settle h fun e he => putEdge h (Or.inr (hc e.id ?_))
      have hgiven := Edge.eq_id_of_ofJson he
      rw [Call.edgeId?, if_neg hid, hgiven]
      rfl

/-- A row of steps keeps the edges named. -/
theorem go (h : AreNamed given b) {calls : List Call}
    (hcalls : ∀ c ∈ calls, ∀ name ∈ c.edgeId?, given name) :
    AreNamed given (ofCalls.go b calls).value := by
  induction calls generalizing b with
  | nil => exact h
  | cons c calls ih =>
    have hstep := perform h (hcalls c List.mem_cons_self)
    exact ih hstep fun d hd => hcalls d (List.mem_cons_of_mem _ hd)

end AreNamed

/-- The builder after a row of steps. -/
def after (calls : List Call) : Builder :=
  (ofCalls.go {} calls).value

/-- An edge has a number that was used up, or an id that was given. -/
theorem areNamed_after (calls : List Call) :
    AreNamed (fun name => ∃ c ∈ calls, c.edgeId? = some name) (after calls) := by
  refine AreNamed.go ?_ fun c hc name hname => ⟨c, hc, hname⟩
  intro name hname
  cases hname

/-! ## Numbered edges -/

/-- An edge for which no id is given is put under the id of the next number. All edges are kept and it
is added to them exactly if there is none of that id; otherwise the edge of that id is lost, and that is
one to which the id was given. -/
theorem connect_numbered {calls : List Call} {a : EdgeArguments} {b : Builder}
    (hid : a.id.isVoid = true) (h : ((after calls).perform (.connect a)).value = (b, none)) :
    ∃ e : Edge, e.id = numberedId ((after calls).numbered + 1) ∧
      (makeEdge (.str e.id) a).result = .ok e ∧
      b = (after calls).useUp.putEdge e ∧
      (b.edges.entries = (after calls).edges.entries ++ [(e.id, e)] ↔
        e.id ∉ (after calls).edges.names) ∧
      (e.id ∈ (after calls).edges.names →
        b.edges.entries = Table.replaceEntries (after calls).edges.entries e.id e ∧
        ∃ c ∈ calls, c.edgeId? = some e.id) := by
  rw [perform_connect_of_isVoid _ hid, value_settle] at h
  cases hmade : (makeEdge (.str (numberedId ((after calls).numbered + 1))) a).result with
  | error fault => rw [hmade] at h; cases h
  | ok e =>
    have hnumber : e.id = numberedId ((after calls).numbered + 1) :=
      (Json.str.inj (Edge.eq_id_of_ofJson hmade)).symm
    rw [hmade] at h
    cases h
    refine ⟨e, hnumber, by rw [hnumber, hmade], rfl, ⟨fun hentries hmem => ?_, fun hmem => ?_⟩,
      fun hmem => ⟨Table.entries_insert_of_mem hmem e, ?_⟩⟩
    · -- put in the place of another the edge makes the row no longer
      have hplace : ((after calls).edges.insert e.id e).entries =
          Table.replaceEntries (after calls).edges.entries e.id e := Table.entries_insert_of_mem hmem e
      have hlength := congrArg List.length (hplace.symm.trans hentries)
      rw [Table.replaceEntries, List.length_map, List.length_append, List.length_singleton] at hlength
      omega
    · exact Table.entries_insert_of_not_mem hmem e
    · rcases areNamed_after calls e.id hmem with ⟨n, hn, hname⟩ | hgiven
      · -- the number is the next one, and so is not used up
        have hsame := numberedId_injective (hnumber.symm.trans hname)
        omega
      · exact hgiven

/-- What a plain edge between two nodes is made from. -/
def joined (source target : String) (id : Json) : EdgeArguments :=
  { kind := .plain, source := .str source, target := .str target, id }

/-- The first numbered edge is removed with its node and its id is given to another; the next number is
still free. -/
theorem connect_numbered_joined :
    ∃ b e, ((after [.connect (joined "a" "b" .null), .removeNode (.str "a"),
        .connect (joined "a" "b" (.str "edge-1"))]).perform
          (.connect (joined "b" "c" .null))).value = (b, none) ∧
      b.edges.entries.map Prod.fst = ["edge-1", "edge-2"] ∧ ("edge-2", e) ∈ b.edges.entries := by
  obtain ⟨b, hb⟩ : ∃ b, ((after [.connect (joined "a" "b" .null), .removeNode (.str "a"),
      .connect (joined "a" "b" (.str "edge-1"))]).perform
        (.connect (joined "b" "c" .null))).value = (b, none) := ⟨_, rfl⟩
  obtain ⟨e, hnumber, -, -, hkept, -⟩ := connect_numbered rfl hb
  have hid : e.id = "edge-2" := hnumber.trans (by decide)
  rw [hid] at hkept
  have hentries := hkept.2 (by decide)
  refine ⟨b, e, hb, ?_, ?_⟩
  · rw [hentries]
    rfl
  · rw [hentries]
    exact List.mem_append_right _ (List.mem_singleton_self _)

/-- An edge is lost to a number: it was given the id that the next edge gets. -/
theorem connect_numbered_lost :
    ∃ b, ((after [.connect (joined "a" "b" (.str "edge-1"))]).perform
        (.connect (joined "b" "c" .null))).value = (b, none) ∧
      (after [.connect (joined "a" "b" (.str "edge-1"))]).edges.entries.map
        (fun e => (e.1, e.2.source, e.2.target)) = [("edge-1", "a", "b")] ∧
      b.edges.entries.map (fun e => (e.1, e.2.source, e.2.target)) = [("edge-1", "b", "c")] :=
  ⟨_, rfl, rfl, rfl⟩

end Builder

end WorkflowGraph
