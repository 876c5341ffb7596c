import WorkflowGraph.Proofs.Port
import WorkflowGraph.Workflow.Edit

/-!
# References to a node of another id

Where a node is renamed, references to it are redirected: their heads change and nothing else does.
Among the renamed nodes a redirected reference is resolved to what it was resolved to before,
redirected. Main statements: `resolved_redirect` and `isResolvable_redirect`.
-/

namespace WorkflowGraph

/-! ## Ids -/

/-- An id where one is replaced by another. -/
def renamedId (old new id : String) : String :=
  if id = old then new else id

theorem renamedId_self (old new : String) : renamedId old new old = new :=
  if_pos rfl

theorem renamedId_of_ne {old new id : String} (h : id ≠ old) : renamedId old new id = id :=
  if_neg h

/-- Ids are told apart as before, if the new one is not among them. -/
theorem renamedId_inj {old new x y : String} (hx : x ≠ new) (hy : y ≠ new) :
    renamedId old new x = renamedId old new y ↔ x = y := by
  unfold renamedId
  split
  · next hxo =>
    split
    · next hyo => simp [hxo, hyo]
    · next hyo => exact iff_of_false (fun h => hy h.symm) fun h => hyo (h ▸ hxo)
  · next hxo =>
    split
    · next hyo => exact iff_of_false hx fun h => hxo (h ▸ hyo)
    · exact Iff.rfl

/-- A name that is neither the old id nor the new one is told apart from all others. -/
theorem renamedId_eq_iff {old new x name : String} (hold : name ≠ old) (hnew : name ≠ new) :
    renamedId old new x = name ↔ x = name := by
  unfold renamedId
  split
  · next hxo => exact iff_of_false (fun h => hnew h.symm) fun h => hold (h.symm.trans hxo)
  · exact Iff.rfl

namespace Workflow

variable (old new : String) (n : Node)

@[simp] theorem id_renamedNode : (renamedNode old new n).id = renamedId old new n.id := by
  unfold renamedNode renamedId
  split <;> rfl

@[simp] theorem kind_renamedNode : (renamedNode old new n).kind = n.kind := by
  unfold renamedNode
  split <;> rfl

@[simp] theorem position_renamedNode : (renamedNode old new n).position = n.position := by
  unfold renamedNode
  split <;> rfl

@[simp] theorem label_renamedNode : (renamedNode old new n).label = n.label := by
  unfold renamedNode
  split <;> rfl

@[simp] theorem config_renamedNode : (renamedNode old new n).config = n.config := by
  unfold renamedNode
  split <;> rfl

@[simp] theorem outputs_renamedNode : (renamedNode old new n).outputs = n.outputs := by
  unfold renamedNode
  split <;> rfl

@[simp] theorem allOutputs_renamedNode : (renamedNode old new n).allOutputs = n.allOutputs := by
  rw [Node.allOutputs, outputs_renamedNode, kind_renamedNode, Node.allOutputs]

@[simp] theorem outputNames_renamedNode : (renamedNode old new n).outputNames = n.outputNames := by
  rw [Node.outputNames, allOutputs_renamedNode, Node.outputNames]

end Workflow

namespace Reference

variable {old new s : String}

/-! ## Texts -/

/-- The text, with the head changed if it is a reference to the old id. -/
def redirect (old new s : String) : String :=
  if head? s = some old ∧ isTemplate s = false then make new (tail s) else s

/-- References can be redirected from one id to the other: the new id can be the head of a reference
to a node, and neither is empty. -/
@[mk_iff]
structure CanRedirect (old new : String) : Prop where
  old_ne_empty : old ≠ ""
  new_ne_empty : new ≠ ""
  dot_not_mem_new : '.' ∉ new.toList
  new_ne_config : new ≠ "config"

instance (old new : String) : Decidable (CanRedirect old new) :=
  decidable_of_iff' _ (canRedirect_iff old new)

theorem redirect_of_head?_ne (h : head? s ≠ some old) : redirect old new s = s :=
  if_neg fun hc => h hc.1

theorem redirect_of_isTemplate (h : isTemplate s = true) : redirect old new s = s := by
  refine if_neg fun hc => ?_
  rw [h] at hc
  cases hc.2

theorem isTemplate_redirect (h : CanRedirect old new) (s : String) :
    isTemplate (redirect old new s) = isTemplate s := by
  unfold redirect
  split
  · next hc =>
    rw [hc.2, ← Bool.not_eq_true, isTemplate_iff_head?, head?_make h.dot_not_mem_new]
    exact fun heq => h.new_ne_config (Option.some.inj heq)
  · rfl

theorem redirect_make {node : String} (hdot : '.' ∉ node.toList) (hconfig : node ≠ "config")
    (output : String) :
    redirect old new (make node output) = make (renamedId old new node) output := by
  have hplain : isTemplate (make node output) = false := by
    rw [← Bool.not_eq_true, isTemplate_iff_head?, head?_make hdot]
    exact fun heq => hconfig (Option.some.inj heq)
  by_cases hnode : node = old
  · rw [redirect, if_pos ⟨hnode ▸ head?_make hdot output, hplain⟩, tail_make hdot, hnode,
      renamedId_self]
  · rw [renamedId_of_ne hnode, redirect_of_head?_ne]
    rw [head?_make hdot]
    exact fun heq => hnode (Option.some.inj heq)

/-! ## Numbered references -/

/-- The digits of a place. -/
def digitsOf? (place : List Char) : Option (List Char) :=
  let digits := place.takeWhile Text.isDigit
  let rest := place.dropWhile Text.isDigit
  if digits.isEmpty || !(rest.isEmpty || rest == ['\n']) then none else some digits

theorem digitsOf?_eq_self {place : List Char} (hne : place ≠ [])
    (h : ∀ c ∈ place, Text.isDigit c = true) : digitsOf? place = some place := by
  have htake : place.takeWhile Text.isDigit = place := List.takeWhile_eq_self_iff.2 h
  have hdrop : place.dropWhile Text.isDigit = [] := List.dropWhile_eq_nil_iff.2 h
  rw [digitsOf?, htake, hdrop, List.isEmpty_eq_false_iff.2 hne]
  rfl

theorem Numbered.ofText?_of_head {head : String} (hdot : '.' ∉ head.toList) (hne : head ≠ "")
    {place : List Char} (hs : s.toList = '$' :: (head.toList ++ '.' :: place)) :
    ofText? s = (digitsOf? place).map (Numbered.mk head) := by
  have hpos : ∀ c ∈ head.toList, (c != '.') = true := fun c hc =>
    bne_iff_ne.2 fun hcd => hdot (hcd ▸ hc)
  have hnode : (head.toList ++ '.' :: place).takeWhile (· != '.') = head.toList := by
    rw [List.takeWhile_append_of_pos hpos]
    simp
  have hplace : ((head.toList ++ '.' :: place).dropWhile (· != '.')).drop 1 = place := by
    rw [List.dropWhile_append_of_pos hpos]
    simp
  have hempty : head.toList.isEmpty = false := by
    rw [List.isEmpty_eq_false_iff]
    exact fun h => hne (String.toList_eq_nil_iff.1 h)
  unfold ofText? digitsOf?
  rw [hs]
  simp only [hnode, hplace, hempty, Bool.false_or, String.ofList_toList]
  split <;> rfl

/-- A reference is numbered, and by the same digits, whatever its head is. -/
theorem Numbered.ofText?_make_tail (hdot : '.' ∉ new.toList) (hnew : new ≠ "") (hold : old ≠ "")
    (hs : head? s = some old) :
    ofText? (make new (tail s)) = (ofText? s).map fun r => ⟨new, r.digits⟩ := by
  obtain ⟨holdDot, place, hplace⟩ := head?_eq_some_iff.1 hs
  have htail : tail s = String.ofList place := by
    have hmake : s = make old (String.ofList place) := by
      rw [← String.toList_inj, toList_make, hplace, String.toList_ofList]
    rw [hmake, tail_make holdDot]
  have hmade : (make new (tail s)).toList = '$' :: (new.toList ++ '.' :: place) := by
    rw [toList_make, htail, String.toList_ofList]
  rw [ofText?_of_head hdot hnew hmade, ofText?_of_head holdDot hold hplace, Option.map_map]
  rfl

/-- A numbered reference where an id is replaced. -/
def Numbered.renamed (old new : String) (r : Numbered) : Numbered :=
  ⟨renamedId old new r.node, r.digits⟩

theorem Numbered.ofText?_redirect (h : CanRedirect old new) (hplain : isTemplate s = false) :
    ofText? (redirect old new s) = (ofText? s).map (renamed old new) := by
  by_cases hs : head? s = some old
  · have hcongr : ∀ r ∈ ofText? s, (⟨new, r.digits⟩ : Numbered) = r.renamed old new := by
      intro r hr
      have hnode : r.node = old := Option.some.inj ((ofText?_eq_some hr).1.symm.trans hs)
      rw [renamed, hnode, renamedId_self]
    rw [redirect, if_pos ⟨hs, hplain⟩,
      ofText?_make_tail h.dot_not_mem_new h.new_ne_empty h.old_ne_empty hs,
      Option.map_congr hcongr]
  · have hcongr : ∀ r ∈ ofText? s, r = r.renamed old new := by
      intro r hr
      have hnode : r.node ≠ old := fun heq => hs (heq ▸ (ofText?_eq_some hr).1)
      rw [renamed, renamedId_of_ne hnode]
    rw [redirect_of_head?_ne hs, ← Option.map_congr hcongr, Option.map_id']

/-! ## Resolving redirected references -/

variable {nodes : List Node}

theorem nodeOf?_renamed (hfresh : new ∉ nodes.map (·.id)) {id : String} (hid : id ≠ new) :
    nodeOf? (nodes.map (Workflow.renamedNode old new)) (renamedId old new id) =
      (nodeOf? nodes id).map (Workflow.renamedNode old new) := by
  have hsame : ∀ n ∈ nodes.reverse,
      ((Workflow.renamedNode old new n).id == renamedId old new id) = (n.id == id) := by
    intro n hn
    have hne : n.id ≠ new := fun heq => hfresh (heq ▸ List.mem_map_of_mem (List.mem_reverse.1 hn))
    rw [Workflow.id_renamedNode, Bool.eq_iff_iff, beq_iff_eq, beq_iff_eq, renamedId_inj hne hid]
  have hfind : nodes.reverse.find?
      ((·.id == renamedId old new id) ∘ Workflow.renamedNode old new) =
        nodes.reverse.find? (·.id == id) := by
    rw [← List.head?_filter, ← List.head?_filter]
    exact congrArg List.head? (List.filter_congr hsame)
  rw [nodeOf?, ← List.map_reverse, List.find?_map, hfind, nodeOf?]

theorem nameOf?_renamed (hfresh : new ∉ nodes.map (·.id)) {r : Numbered} (hr : r.node ≠ new) :
    nameOf? (nodes.map (Workflow.renamedNode old new)) (r.renamed old new) = nameOf? nodes r := by
  rw [nameOf?, Numbered.renamed, nodeOf?_renamed hfresh hr, nameOf?, Option.bind_map]
  simp only [Function.comp_def, Workflow.outputNames_renamedNode]
  rfl

/-- Among the renamed nodes a redirected text is resolved to what it was, redirected. -/
theorem resolvedText_redirect (h : CanRedirect old new) (hfresh : new ∉ nodes.map (·.id))
    (hs : head? s ≠ some new) :
    resolvedText (nodes.map (Workflow.renamedNode old new)) (redirect old new s) =
      redirect old new (resolvedText nodes s) := by
  by_cases htemplate : isTemplate s = true
  · rw [redirect_of_isTemplate htemplate, resolvedText, if_pos htemplate, resolvedText,
      if_pos htemplate, redirect_of_isTemplate htemplate]
  · rw [Bool.not_eq_true] at htemplate
    rw [resolvedText, isTemplate_redirect h, htemplate, Numbered.ofText?_redirect h htemplate,
      resolvedText, htemplate, if_neg Bool.false_ne_true, if_neg Bool.false_ne_true]
    cases hr : Numbered.ofText? s with
    | none => rfl
    | some r =>
      have hhead := (Numbered.ofText?_eq_some hr).1
      have hnode : r.node ≠ new := fun heq => hs (heq ▸ hhead)
      -- the resolved reference is made again of the node, so this must not become a template
      have hconfig : r.node ≠ "config" := by
        intro heq
        rw [heq, ← isTemplate_iff_head?, htemplate] at hhead
        cases hhead
      simp only [Option.map_some, Option.bind_some, nameOf?_renamed hfresh hnode]
      cases nameOf? nodes r with
      | none => rfl
      | some name => exact (redirect_make (dot_not_mem_head hhead) hconfig name).symm

theorem isResolvableText_redirect (h : CanRedirect old new) (hfresh : new ∉ nodes.map (·.id))
    (hs : head? s ≠ some new) :
    isResolvableText (nodes.map (Workflow.renamedNode old new)) (redirect old new s) =
      isResolvableText nodes s := by
  by_cases htemplate : isTemplate s = true
  · rw [redirect_of_isTemplate htemplate, isResolvableText, htemplate, isResolvableText, htemplate]
    rfl
  · rw [Bool.not_eq_true] at htemplate
    rw [isResolvableText, isTemplate_redirect h, Numbered.ofText?_redirect h htemplate,
      isResolvableText]
    cases hr : Numbered.ofText? s with
    | none => rfl
    | some r =>
      have hnode : r.node ≠ new := fun heq => hs (heq ▸ (Numbered.ofText?_eq_some hr).1)
      simp only [Option.map_some, Option.all_some, Numbered.renamed, nodeOf?_renamed hfresh hnode,
        Option.all_map, Workflow.outputNames_renamedNode]
      rfl

end Reference

/-! ## Values -/

/-- The value, with the head changed if it is a reference to the old id. -/
def Json.redirect (old new : String) : Json → Json
  | .str s => .str (Reference.redirect old new s)
  | value => value

namespace Reference

variable {old new : String} {nodes : List Node} {v : Json}

theorem resolved_redirect (h : CanRedirect old new) (hfresh : new ∉ nodes.map (·.id))
    (hv : v.referenceHead? ≠ some new) :
    resolved (nodes.map (Workflow.renamedNode old new)) (v.redirect old new) =
      (resolved nodes v).redirect old new := by
  cases v with
  | str s => exact congrArg Json.str (resolvedText_redirect h hfresh hv)
  | _ => rfl

theorem isResolvable_redirect (h : CanRedirect old new) (hfresh : new ∉ nodes.map (·.id))
    (hv : v.referenceHead? ≠ some new) :
    isResolvable (nodes.map (Workflow.renamedNode old new)) (v.redirect old new) =
      isResolvable nodes v := by
  cases v with
  | str s => exact isResolvableText_redirect h hfresh hv
  | _ => rfl

end Reference

namespace Json

variable {old new : String} {v : Json}

theorem redirect_of_referenceHead?_ne (h : v.referenceHead? ≠ some old) : v.redirect old new = v := by
  cases v with
  | str s => exact congrArg str (Reference.redirect_of_head?_ne h)
  | _ => rfl

theorem redirect_of_isTemplate (h : v.isTemplate = true) : v.redirect old new = v := by
  cases v with
  | str s => exact congrArg str (Reference.redirect_of_isTemplate h)
  | _ => rfl

theorem height_redirect (old new : String) (v : Json) : (v.redirect old new).height = v.height := by
  cases v <;> rfl

end Json

end WorkflowGraph
