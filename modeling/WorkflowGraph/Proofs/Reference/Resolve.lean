import Mathlib.Data.List.Nodup
import Mathlib.Data.List.TakeWhile
import WorkflowGraph.Proofs.Json
import WorkflowGraph.Reference.Resolve

/-!
# Resolving a reference once

`resolved` is what a value is resolved to, stated without the warnings and without the limit on the
number of digits; `result_resolve_eq_ok_iff` says that resolving gives it, or fails at that limit.
Resolving changes what stands after the dot only, so that `bindingOf_resolved` holds. Main statement:
`resolved_resolved`, a value that was resolved among some nodes is left alone by resolving it again
among nodes that are some of them and have the same outputs.
-/

namespace WorkflowGraph.Reference

/-! ## The head of a reference -/

/-- A list that holds a dot is what stands before the first one, the dot, and the rest. -/
theorem split_at_dot {cs : List Char} (h : cs.dropWhile (· != '.') ≠ []) :
    cs = cs.takeWhile (· != '.') ++ '.' :: (cs.dropWhile (· != '.')).drop 1 := by
  obtain ⟨c, rest, hrest⟩ := List.exists_cons_of_ne_nil h
  have hc : c = '.' := by
    have hhead := List.head?_dropWhile_not (· != '.') cs
    rw [hrest] at hhead
    simpa using hhead
  subst hc
  rw [hrest, List.drop_one, List.tail_cons, ← hrest, List.takeWhile_append_dropWhile]

theorem dot_not_mem_takeWhile (cs : List Char) : '.' ∉ cs.takeWhile (· != '.') := by
  intro hmem
  simpa using List.mem_takeWhile_imp hmem

/-- A text has a head if it is a dollar sign, the head, which has no dot, a dot, and anything. -/
theorem head?_eq_some_iff {s h : String} :
    head? s = some h ↔ '.' ∉ h.toList ∧ ∃ rest, s.toList = '$' :: (h.toList ++ '.' :: rest) := by
  unfold head?
  constructor
  · intro hs
    split at hs
    · next body hbody =>
      split at hs
      · next hdot =>
        obtain rfl := Option.some.inj hs
        have hne : body.dropWhile (· != '.') ≠ [] := by
          rw [Ne, List.dropWhile_eq_nil_iff]
          intro hall
          simpa using hall '.' (by simpa using hdot)
        rw [String.toList_ofList, hbody]
        exact ⟨dot_not_mem_takeWhile body, _, congrArg (List.cons '$') (split_at_dot hne)⟩
      · cases hs
    · cases hs
  · rintro ⟨hdot, rest, hs⟩
    have hpos : ∀ c ∈ h.toList, (c != '.') = true := fun c hc => by
      rw [bne_iff_ne]
      exact fun hcd => hdot (hcd ▸ hc)
    rw [hs]
    simp only [List.contains_eq_mem, List.mem_append, List.mem_cons, true_or, or_true,
      decide_true, ite_true]
    rw [List.takeWhile_append_of_pos hpos]
    simp

/-- References to settings are those whose head is `config`. -/
theorem isTemplate_iff_head? {s : String} : isTemplate s = true ↔ head? s = some "config" := by
  rw [head?_eq_some_iff, isTemplate, List.isPrefixOf_iff_prefix]
  constructor
  · rintro ⟨rest, hrest⟩
    exact ⟨by decide, rest, hrest.symm⟩
  · rintro ⟨_, rest, hrest⟩
    exact ⟨rest, hrest.symm⟩

theorem toList_make (node output : String) :
    (make node output).toList = '$' :: (node.toList ++ '.' :: output.toList) := by
  simp [make]

theorem head?_make {node : String} (h : '.' ∉ node.toList) (output : String) :
    head? (make node output) = some node :=
  head?_eq_some_iff.2 ⟨h, _, toList_make node output⟩

theorem tail_make {node : String} (h : '.' ∉ node.toList) (output : String) :
    tail (make node output) = output := by
  have hpos : ∀ c ∈ '$' :: node.toList, (c != '.') = true := by
    intro c hc
    rw [bne_iff_ne]
    rintro rfl
    rcases List.mem_cons.1 hc with hc | hc
    · cases hc
    · exact h hc
  rw [tail, toList_make, ← List.cons_append, List.dropWhile_append_of_pos hpos]
  simp

/-! ## Numbered references -/

/-- The name is a row of digits with a line break at its end. A reference to an output of such a name
reads as a numbered one. -/
def isBrokenPlace (name : String) : Bool :=
  !(name.toList.takeWhile Text.isDigit).isEmpty && name.toList.dropWhile Text.isDigit == ['\n']

/-- A numbered reference has its node as its head, and digits after the dot. -/
theorem Numbered.ofText?_eq_some {s : String} {r : Numbered} (h : Numbered.ofText? s = some r) :
    head? s = some r.node ∧ r.digits = (tail s).toList.takeWhile Text.isDigit ∧ r.digits ≠ [] ∧
      ((tail s).toList.dropWhile Text.isDigit = [] ∨
        (tail s).toList.dropWhile Text.isDigit = ['\n']) := by
  unfold ofText? at h
  split at h
  · next body hbody =>
    have htail : (tail s).toList = (body.dropWhile (· != '.')).drop 1 := by
      rw [tail, String.toList_ofList, hbody, List.dropWhile_cons_of_pos (by decide)]
    simp only [← htail] at h
    split at h
    · cases h
    · next hcond =>
      obtain rfl := Option.some.inj h
      simp only [Bool.or_eq_true, Bool.not_eq_true', Bool.or_eq_false_iff, not_or, not_and_or,
        Bool.not_eq_false, List.isEmpty_iff, beq_iff_eq] at hcond
      obtain ⟨⟨-, hdigits⟩, hrest⟩ := hcond
      have hne : body.dropWhile (· != '.') ≠ [] := by
        intro hnil
        rw [htail, hnil] at hdigits
        exact hdigits rfl
      have hhead : head? s = some (String.ofList (body.takeWhile (· != '.'))) := by
        rw [head?_eq_some_iff, String.toList_ofList, hbody]
        exact ⟨dot_not_mem_takeWhile body, _, congrArg (List.cons '$') (split_at_dot hne)⟩
      exact ⟨hhead, rfl, hdigits, hrest⟩
  · cases h

/-- A reference by name that reads as a numbered one has the name of the output as its place, unless
the name ends in a line break. -/
theorem place_of_ofText?_make {node output : String} {r : Numbered} (hdot : '.' ∉ node.toList)
    (h : Numbered.ofText? (make node output) = some r) :
    r.node = node ∧ (r.place = output ∨ isBrokenPlace output = true) := by
  obtain ⟨hhead, hdigits, hne, hrest⟩ := Numbered.ofText?_eq_some h
  rw [head?_make hdot] at hhead
  rw [tail_make hdot] at hdigits hrest
  refine ⟨(Option.some.inj hhead).symm, ?_⟩
  rcases hrest with hrest | hrest
  · left
    have hall := List.takeWhile_append_dropWhile (p := Text.isDigit) (l := output.toList)
    rw [hrest, List.append_nil] at hall
    rw [Numbered.place, hdigits, hall, String.ofList_toList]
  · right
    rw [isBrokenPlace, hrest, ← hdigits]
    simpa using hne

/-! ## What a reference is resolved to -/

/-- The output by whose name a numbered reference is made to refer; none if it is left as it is. -/
def nameOf? (nodes : List Node) (r : Numbered) : Option String :=
  (nodeOf? nodes r.node).bind fun n =>
    if n.outputNames.contains r.place then none else n.outputNames[Text.natOfDigits r.digits]?

/-- What a text is resolved to. -/
def resolvedText (nodes : List Node) (s : String) : String :=
  if isTemplate s then s
  else ((Numbered.ofText? s).bind fun r => (nameOf? nodes r).map (make r.node)).getD s

/-- What a value is resolved to. -/
def resolved (nodes : List Node) : Json → Json
  | .str s => .str (resolvedText nodes s)
  | value => value

/-- The number of a reference is read, or need not be. -/
def isResolvableText (nodes : List Node) (s : String) : Bool :=
  isTemplate s || (Numbered.ofText? s).all fun r => (nodeOf? nodes r.node).all fun n =>
    n.outputNames.contains r.place || r.digits.length ≤ maxPlaceDigits

/-- The number of a value that is a reference is read, or need not be. -/
def isResolvable (nodes : List Node) : Json → Bool
  | .str s => isResolvableText nodes s
  | _ => true

/-- A value that is a numbered reference has no more digits than are read. -/
def isReadable : Json → Bool
  | .str s => (Numbered.ofText? s).all fun r => r.digits.length ≤ maxPlaceDigits
  | _ => true

theorem isResolvable_of_isReadable (nodes : List Node) {v : Json} (h : isReadable v = true) :
    isResolvable nodes v = true := by
  cases v with
  | str s =>
    simp only [isReadable, Option.all_eq_true, decide_eq_true_eq] at h
    simp only [isResolvable, isResolvableText, Bool.or_eq_true, Option.all_eq_true,
      decide_eq_true_eq]
    exact Or.inr fun r hr n _ => Or.inr (h r hr)
  | _ => rfl

theorem result_resolveNumbered_eq_ok_iff {nodes : List Node} {s t : String} {r : Numbered} :
    (resolveNumbered nodes s r).result = .ok t ↔
      ((nodeOf? nodes r.node).all fun n =>
        n.outputNames.contains r.place || r.digits.length ≤ maxPlaceDigits) = true ∧
      t = ((nameOf? nodes r).map (make r.node)).getD s := by
  unfold resolveNumbered nameOf?
  cases hn : nodeOf? nodes r.node with
  | none => simpa using eq_comm
  | some n =>
    simp only [Option.all_some, Option.bind_some]
    -- a name is looked for first, and only then are the digits read as a place
    by_cases hp : n.outputNames.contains r.place = true
    · simp only [hp, ite_true, Attempt.result_pure, Bool.true_or, Option.map_none, Option.getD_none,
        Except.ok.injEq, true_and]
      exact eq_comm
    · rw [if_neg hp, if_neg hp, Bool.not_eq_true] at *
      rw [hp, Bool.false_or, decide_eq_true_eq]
      by_cases hd : maxPlaceDigits < r.digits.length
      · rw [if_pos hd, Attempt.result_throw]
        have hd : ¬r.digits.length ≤ maxPlaceDigits := by omega
        simp [hd]
      · have hd : r.digits.length ≤ maxPlaceDigits := by omega
        rw [if_neg (by omega)]
        cases n.outputNames[Text.natOfDigits r.digits]? with
        | none => simpa [hd] using eq_comm
        | some name => simpa [hd] using eq_comm

theorem result_resolveText_eq_ok_iff {nodes : List Node} {s t : String} :
    (resolveText nodes s).result = .ok t ↔
      isResolvableText nodes s = true ∧ t = resolvedText nodes s := by
  unfold resolveText isResolvableText resolvedText
  by_cases ht : isTemplate s = true
  · simp [ht, eq_comm]
  · rw [if_neg ht, if_neg ht, Bool.not_eq_true] at *
    cases hr : Numbered.ofText? s with
    | none => simp [eq_comm]
    | some r => simpa [ht] using result_resolveNumbered_eq_ok_iff

/-- Resolving gives what `resolved` says, and fails exactly for a number of too many digits. -/
theorem result_resolve_eq_ok_iff {nodes : List Node} {v u : Json} :
    (resolve nodes v).result = .ok u ↔ isResolvable nodes v = true ∧ u = resolved nodes v := by
  cases v with
  | str s =>
    simp only [resolve, Attempt.result_map_eq_ok_iff, result_resolveText_eq_ok_iff, isResolvable,
      resolved]
    constructor
    · rintro ⟨_, ⟨h, rfl⟩, rfl⟩
      exact ⟨h, rfl⟩
    · rintro ⟨h, rfl⟩
      exact ⟨_, ⟨h, rfl⟩, rfl⟩
  | _ => simp [resolve, isResolvable, resolved, eq_comm]

/-! ## What resolving keeps -/

/-- A text without a head is no numbered reference. -/
theorem Numbered.ofText?_eq_none {s : String} (h : head? s = none) : Numbered.ofText? s = none := by
  cases hr : Numbered.ofText? s with
  | none => rfl
  | some r => cases h.symm.trans (Numbered.ofText?_eq_some hr).1

/-- A text is left as it is for want of a name, or it is a numbered reference that is made one by
name. -/
theorem resolvedText_eq (nodes : List Node) (s : String) :
    (resolvedText nodes s = s ∧
      ∀ r, isTemplate s = false → Numbered.ofText? s = some r → nameOf? nodes r = none) ∨
    ∃ r name, isTemplate s = false ∧ Numbered.ofText? s = some r ∧
      nameOf? nodes r = some name ∧ resolvedText nodes s = make r.node name := by
  unfold resolvedText
  by_cases ht : isTemplate s = true
  · exact Or.inl ⟨if_pos ht, fun r hf => by rw [ht] at hf; cases hf⟩
  · rw [if_neg ht, Bool.not_eq_true] at *
    cases hr : Numbered.ofText? s with
    | none => exact Or.inl ⟨rfl, fun r _ h => by cases h⟩
    | some r =>
      cases hn : nameOf? nodes r with
      | none =>
        refine Or.inl ⟨by simp [hn], ?_⟩
        rintro _ - ⟨⟩
        exact hn
      | some name => exact Or.inr ⟨r, name, ht, rfl, hn, by simp [hn]⟩

theorem dot_not_mem_head {s h : String} (hs : head? s = some h) : '.' ∉ h.toList :=
  (head?_eq_some_iff.1 hs).1

/-- Resolving keeps the node that a reference is to. -/
theorem head?_resolvedText (nodes : List Node) (s : String) :
    head? (resolvedText nodes s) = head? s := by
  rcases resolvedText_eq nodes s with ⟨h, -⟩ | ⟨r, name, -, hr, -, h⟩
  · rw [h]
  · have hhead := (Numbered.ofText?_eq_some hr).1
    rw [h, head?_make (dot_not_mem_head hhead), hhead]

theorem referenceHead?_resolved (nodes : List Node) (v : Json) :
    (resolved nodes v).referenceHead? = v.referenceHead? := by
  cases v with
  | str s => exact head?_resolvedText nodes s
  | _ => rfl

theorem isTemplate_resolved (nodes : List Node) (v : Json) :
    (resolved nodes v).isTemplate = v.isTemplate := by
  cases v with
  | str s =>
    show isTemplate (resolvedText nodes s) = isTemplate s
    rw [Bool.eq_iff_iff, isTemplate_iff_head?, isTemplate_iff_head?, head?_resolvedText]
  | _ => rfl

/-- Resolving keeps how a port of the value is bound. -/
theorem bindingOf_resolved (nodes : List Node) (v : Json) :
    Port.bindingOf (resolved nodes v) = Port.bindingOf v := by
  rw [Port.bindingOf, isTemplate_resolved, referenceHead?_resolved, Port.bindingOf]

/-- What is no reference is left as it is. -/
theorem resolved_of_referenceHead?_eq_none (nodes : List Node) {v : Json}
    (h : v.referenceHead? = none) : resolved nodes v = v := by
  cases v with
  | str s =>
    rcases resolvedText_eq nodes s with ⟨heq, -⟩ | ⟨r, name, -, hr, -, -⟩
    · exact congrArg Json.str heq
    · cases (Numbered.ofText?_eq_none h).symm.trans hr
  | _ => rfl

theorem isFinite_resolved (nodes : List Node) (v : Json) :
    (resolved nodes v).isFinite = v.isFinite := by
  cases v <;> rfl

theorem height_resolved (nodes : List Node) (v : Json) :
    (resolved nodes v).height = v.height := by
  cases v <;> rfl

/-! ## Resolving again -/

/-- Nodes that are found among some are found among others with the same outputs. -/
def HaveOutputsOf (part nodes : List Node) : Prop :=
  ∀ id n, nodeOf? part id = some n →
    ∃ m, nodeOf? nodes id = some m ∧ m.outputNames = n.outputNames

/-- No output of the nodes has a name that is a row of digits with a line break at its end. -/
def HaveReadableNames (nodes : List Node) : Prop :=
  ∀ n ∈ nodes, ∀ name ∈ n.outputNames, isBrokenPlace name = false

theorem mem_of_nodeOf? {nodes : List Node} {id : String} {n : Node}
    (h : nodeOf? nodes id = some n) : n ∈ nodes :=
  List.mem_reverse.1 (List.mem_of_find?_eq_some h)

/-- Among nodes of distinct ids each is found by its id. -/
theorem nodeOf?_id {nodes : List Node} (hnd : (nodes.map (·.id)).Nodup) {n : Node} (h : n ∈ nodes) :
    nodeOf? nodes n.id = some n := by
  cases hfind : nodeOf? nodes n.id with
  | none =>
    have hne := List.find?_eq_none.1 hfind n (List.mem_reverse.2 h)
    rw [beq_self_eq_true] at hne
    exact absurd rfl hne
  | some m =>
    have hid : m.id = n.id := by simpa using List.find?_some hfind
    rw [List.inj_on_of_nodup_map hnd (mem_of_nodeOf? hfind) h hid]

theorem haveOutputsOf_of_forall {part nodes : List Node} (hnd : (nodes.map (·.id)).Nodup)
    (h : ∀ n ∈ part, ∃ m ∈ nodes, m.id = n.id ∧ m.outputNames = n.outputNames) :
    HaveOutputsOf part nodes := by
  intro id n hn
  obtain ⟨m, hm, hid, hout⟩ := h n (mem_of_nodeOf? hn)
  have hnid : n.id = id := by simpa using List.find?_some hn
  rw [← hnid, ← hid]
  exact ⟨m, nodeOf?_id hnd hm, hout⟩

/-- The place of a reference that resolving made is the name of an output, so that it is not counted
to among nodes with the same outputs. -/
theorem contains_place_of_nameOf? {part nodes : List Node} (h : HaveOutputsOf part nodes)
    (hnames : HaveReadableNames nodes) {r r' : Numbered} {name : String} (hdot : '.' ∉ r.node.toList)
    (hname : nameOf? nodes r = some name) (hr' : Numbered.ofText? (make r.node name) = some r')
    {n : Node} (hn : nodeOf? part r'.node = some n) : n.outputNames.contains r'.place = true := by
  obtain ⟨hnode, hplace⟩ := place_of_ofText?_make hdot hr'
  obtain ⟨m, hm, hout⟩ := h _ _ hn
  rw [hnode] at hm
  simp only [nameOf?, hm, Option.bind_some] at hname
  split at hname
  · cases hname
  · have hmem : name ∈ m.outputNames := List.mem_of_getElem? hname
    have hgood := hnames m (mem_of_nodeOf? hm) name hmem
    rcases hplace with hplace | hbad
    · rw [← hout, List.contains_iff_mem, hplace]
      exact hmem
    · rw [hgood] at hbad
      cases hbad

/-- A numbered reference that is left as it is among some nodes is so among part of them. -/
theorem nameOf?_eq_none_of_part {part nodes : List Node} (h : HaveOutputsOf part nodes)
    {r : Numbered} (hr : nameOf? nodes r = none) : nameOf? part r = none := by
  unfold nameOf? at hr ⊢
  cases hn : nodeOf? part r.node with
  | none => rfl
  | some n =>
    obtain ⟨m, hm, hout⟩ := h _ _ hn
    rw [hm, Option.bind_some, hout] at hr
    exact hr

/-- What was resolved among some nodes has no number that could be counted to among part of them. -/
theorem nameOf?_part_resolvedText {part nodes : List Node} (h : HaveOutputsOf part nodes)
    (hnames : HaveReadableNames nodes) {s : String} {r : Numbered}
    (ht : isTemplate (resolvedText nodes s) = false)
    (hr : Numbered.ofText? (resolvedText nodes s) = some r) : nameOf? part r = none := by
  rcases resolvedText_eq nodes s with ⟨hsame, hnone⟩ | ⟨r', name, -, hr', hname, hmade⟩
  · rw [hsame] at ht hr
    exact nameOf?_eq_none_of_part h (hnone r ht hr)
  · rw [hmade] at hr
    have hdot := dot_not_mem_head (Numbered.ofText?_eq_some hr').1
    unfold nameOf?
    cases hn : nodeOf? part r.node with
    | none => rfl
    | some n =>
      have hplace := contains_place_of_nameOf? h hnames hdot hname hr hn
      rw [Option.bind_some, if_pos hplace]

/-- What was resolved among some nodes is left as it is among part of them. -/
theorem resolved_resolved {part nodes : List Node} (h : HaveOutputsOf part nodes)
    (hnames : HaveReadableNames nodes) (v : Json) :
    resolved part (resolved nodes v) = resolved nodes v := by
  cases v with
  | str s =>
    refine congrArg Json.str ?_
    rcases resolvedText_eq part (resolvedText nodes s) with ⟨heq, -⟩ | ⟨r, name, ht, hr, hname, -⟩
    · exact heq
    · rw [nameOf?_part_resolvedText h hnames ht hr] at hname
      cases hname
  | _ => rfl

/-- Where a value was resolved among some nodes, the result is resolved among part of them. -/
theorem isResolvable_resolved {part nodes : List Node} (h : HaveOutputsOf part nodes)
    (hnames : HaveReadableNames nodes) {v : Json} (hv : isResolvable nodes v = true) :
    isResolvable part (resolved nodes v) = true := by
  cases v with
  | str s =>
    simp only [isResolvable, isResolvableText, resolved, Bool.or_eq_true, Option.all_eq_true] at hv ⊢
    by_cases ht : isTemplate (resolvedText nodes s) = true
    · exact Or.inl ht
    · rw [Bool.not_eq_true] at ht
      refine Or.inr fun r hr n hn => ?_
      -- a text that stays has the digits that were read before; one that is made has a name
      rcases resolvedText_eq nodes s with ⟨hsame, hnone⟩ | ⟨r', name, -, hr', hname, hmade⟩
      · rw [hsame] at ht hr
        obtain ⟨m, hm, hout⟩ := h _ _ hn
        rw [← hout]
        refine hv.resolve_left ?_ r hr m hm
        rw [ht]
        exact Bool.false_ne_true
      · rw [hmade] at hr
        have hdot := dot_not_mem_head (Numbered.ofText?_eq_some hr').1
        exact Or.inl (contains_place_of_nameOf? h hnames hdot hname hr hn)
  | _ => rfl

end WorkflowGraph.Reference
