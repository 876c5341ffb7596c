import WorkflowGraph.Proofs.Reference.Redirect
import WorkflowGraph.Proofs.Reference.SameOutputs
import WorkflowGraph.Proofs.Reference.Written

/-!
# Resolving a reference twice

A reference that was made one by name is left alone where it is resolved again, but for one case: an
output may be named by digits and a line break, so that the reference by its name reads as one to a
place. Main statement: `resolve_again_iff`.
-/

namespace WorkflowGraph.Reference

variable {nodes : List Node}

/-! ## Names that read as places -/

/-- The digits with which a name begins. -/
def placeDigits (name : String) : List Char :=
  name.toList.takeWhile Text.isDigit

/-- The reference to an output of this name is mistaken for one to a place: the name is digits and a
line break, no output is named by the digits alone, and they count to an output of another name or are
more than are read. -/
def IsMistaken (names : List String) (name : String) : Prop :=
  isBrokenPlace name = true ∧ String.ofList (placeDigits name) ∉ names ∧
    (maxPlaceDigits < (placeDigits name).length ∨
      ∃ other, names[Text.natOfDigits (placeDigits name)]? = some other ∧ other ≠ name)

theorem digitsOf?_of_isBrokenPlace {name : String} (h : isBrokenPlace name = true) :
    digitsOf? name.toList = some (placeDigits name) := by
  rw [isBrokenPlace, Bool.and_eq_true, Bool.not_eq_true'] at h
  rw [digitsOf?, h.1, h.2, Bool.or_true]
  rfl

theorem Numbered.node_ne_empty {s : String} {r : Numbered} (h : Numbered.ofText? s = some r) :
    r.node ≠ "" := by
  unfold ofText? at h
  split at h
  · dsimp only at h
    split at h
    · cases h
    · next hcond =>
      obtain rfl := Option.some.inj h
      rw [Bool.or_eq_true, Bool.or_eq_true, not_or, not_or] at hcond
      exact fun hempty => hcond.1.1 (List.isEmpty_iff.2 (String.ofList_eq_empty_iff.1 hempty))
  · cases h

theorem make_right_injective {node a b : String} (h : make node a = make node b) : a = b := by
  rw [← String.toList_inj, toList_make, toList_make, List.cons.injEq] at h
  exact String.toList_inj.1 (List.cons.inj (List.append_cancel_left h.2)).2

/-! ## References by name -/

section ByName

variable {node name : String} {n : Node}

/-- The reference by a name that is no place with a line break is left alone. -/
theorem result_resolveText_make (hid : IsNameable node) (hn : nodeOf? nodes node = some n)
    (hname : name ∈ n.outputNames) (hbroken : isBrokenPlace name ≠ true) :
    (resolveText nodes (make node name)).result = .ok (make node name) := by
  rw [resolveText, isTemplate_make hid, if_neg Bool.false_ne_true]
  cases hr : Numbered.ofText? (make node name) with
  | none => rfl
  | some r =>
    obtain ⟨hnode, hplace⟩ := place_of_ofText?_make hid.1 hr
    -- the place that is read is the name itself, and there is an output of this name
    have hcontains : ∀ m, nodeOf? nodes r.node = some m → m.outputNames.contains r.place = true := by
      intro m hm
      rw [hnode, hn] at hm
      obtain rfl := Option.some.inj hm
      rw [hplace.resolve_right hbroken, List.contains_iff_mem]
      exact hname
    have hfound : nodeOf? nodes r.node ≠ none := by
      rw [hnode, hn]
      exact Option.some_ne_none n
    exact congrArg Attempt.result (resolveNumbered_of_contains hcontains hfound)

/-- The reference by a name that is a place with a line break is read as one to the place. -/
theorem result_resolveText_make_iff (hid : IsNameable node) (hne : node ≠ "")
    (hn : nodeOf? nodes node = some n) (hbroken : isBrokenPlace name = true) :
    (resolveText nodes (make node name)).result = .ok (make node name) ↔
      ¬IsMistaken n.outputNames name := by
  have hnumbered : Numbered.ofText? (make node name) = some ⟨node, placeDigits name⟩ := by
    rw [Numbered.ofText?_of_head hid.1 hne (toList_make node name), digitsOf?_of_isBrokenPlace hbroken]
    rfl
  rw [resolveText, isTemplate_make hid, if_neg Bool.false_ne_true, hnumbered]
  simp only [result_resolveNumbered_eq_ok_iff, nameOf?, hn, Option.all_some, Option.bind_some,
    Numbered.place, IsMistaken, hbroken, true_and, List.contains_iff_mem, Bool.or_eq_true,
    decide_eq_true_eq]
  by_cases hplace : String.ofList (placeDigits name) ∈ n.outputNames
  · simp [hplace]
  · rw [if_neg hplace]
    cases hother : n.outputNames[Text.natOfDigits (placeDigits name)]? with
    | none => simp [hplace]
    | some other =>
      have hmake : make node name = make node other ↔ other = name :=
        ⟨fun h => (make_right_injective h).symm, fun h => h ▸ rfl⟩
      simp [hplace, hmake]

/-- The reference to an output of a node by its name is left alone exactly if it is not mistaken. -/
theorem result_resolve_make_iff (hid : IsNameable node) (hne : node ≠ "")
    (hn : nodeOf? nodes node = some n) (hname : name ∈ n.outputNames) :
    (resolve nodes (.str (make node name))).result = .ok (.str (make node name)) ↔
      ¬IsMistaken n.outputNames name := by
  have htext : (resolve nodes (.str (make node name))).result = .ok (.str (make node name)) ↔
      (resolveText nodes (make node name)).result = .ok (make node name) := by
    simp [resolve]
  rw [htext]
  by_cases hbroken : isBrokenPlace name = true
  · exact result_resolveText_make_iff hid hne hn hbroken
  · exact iff_of_true (result_resolveText_make hid hn hname hbroken) fun h => hbroken h.1

end ByName

/-! ## Resolving again -/

/-- The value is a reference to the place of an output of a node, which has this name. -/
def CountsTo (nodes : List Node) (v : Json) (n : Node) (name : String) : Prop :=
  ∃ s r, v = .str s ∧ isTemplate s = false ∧ Numbered.ofText? s = some r ∧
    nodeOf? nodes r.node = some n ∧ nameOf? nodes r = some name

theorem mem_of_nameOf? {r : Numbered} {n : Node} {name : String} (hn : nodeOf? nodes r.node = some n)
    (hname : nameOf? nodes r = some name) : name ∈ n.outputNames := by
  rw [nameOf?, hn, Option.bind_some] at hname
  split at hname
  · cases hname
  · exact List.mem_of_getElem? hname

/-- What a value is resolved to is left alone where it is resolved again, exactly if the value counts
to no output whose name is mistaken. -/
theorem resolve_again_iff {v u : Json} (hu : (resolve nodes v).result = .ok u) :
    (resolve nodes u).result = .ok u ↔
      ∀ n name, CountsTo nodes v n name → ¬IsMistaken n.outputNames name := by
  cases v with
  | str s =>
    obtain ⟨hresolvable, rfl⟩ := result_resolve_eq_ok_iff.1 hu
    rw [resolved]
    rcases resolvedText_eq nodes s with ⟨hsame, hnone⟩ | ⟨r, name, hplain, hr, hname, hmade⟩
    · -- the text counts to nothing
      rw [resolved, hsame] at hu
      rw [hsame]
      refine iff_of_true hu ?_
      rintro n name ⟨t, r, ht, hplain, hr, -, hname⟩
      obtain rfl := Json.str.inj ht
      rw [hnone r hplain hr] at hname
      cases hname
    · -- the text counts to an output, and is made a reference by its name
      have hhead := (Numbered.ofText?_eq_some hr).1
      have hconfig : r.node ≠ "config" := by
        intro heq
        rw [heq, ← isTemplate_iff_head?, hplain] at hhead
        cases hhead
      obtain ⟨n, hn, -⟩ := Option.bind_eq_some_iff.1 hname
      rw [hmade, result_resolve_make_iff ⟨dot_not_mem_head hhead, hconfig⟩ (Numbered.node_ne_empty hr)
        hn (mem_of_nameOf? hn hname)]
      constructor
      · rintro hgood m other ⟨t, q, ht, -, hq, hm, hother⟩
        obtain rfl := Json.str.inj ht
        obtain rfl := Option.some.inj (hr.symm.trans hq)
        obtain rfl := Option.some.inj (hn.symm.trans hm)
        obtain rfl := Option.some.inj (hname.symm.trans hother)
        exact hgood
      · exact fun hall => hall n name ⟨s, r, rfl, hplain, hr, hn, hname⟩
  | _ =>
    cases hu
    refine iff_of_true rfl ?_
    rintro n name ⟨s, r, hs, -⟩
    cases hs

/-- The output of a question is counted to, and is not named by digits. -/
theorem resolve_again_questions :
    (resolve Workflow.questions.nodes (.str "$ask.0")).result = .ok (.str "$ask.value") ∧
      (resolve Workflow.questions.nodes (.str "$ask.value")).result = .ok (.str "$ask.value") := by
  have honce : (resolve Workflow.questions.nodes (.str "$ask.0")).result =
      .ok (.str "$ask.value") := rfl
  have hreadable : HaveReadableNames Workflow.questions.nodes := by decide
  refine ⟨honce, (resolve_again_iff honce).2 ?_⟩
  rintro n name ⟨s, r, -, -, -, hn, hname⟩ hmistaken
  have hgood := hreadable n (mem_of_nodeOf? hn) name (mem_of_nameOf? hn hname)
  rw [hmistaken.1] at hgood
  cases hgood

/-- A node with two outputs, the first of which has the place of the second and a line break as its
name. -/
def misleading : Node :=
  (Node.make "a" "custom" default "" "" .null .empty (.ofList [("1\n", .any), ("b", .any)])).value

/-- The reference to the first output by its place is made one by its name, and this is made one to
the second output. -/
theorem resolve_again_misleading :
    (resolve [misleading] (.str "$a.0")).result = .ok (.str "$a.1\n") ∧
      (resolve [misleading] (.str "$a.1\n")).result = .ok (.str "$a.b") :=
  ⟨rfl, rfl⟩

end WorkflowGraph.Reference
