import Mathlib.Tactic.MkIffOfInductiveProp
import WorkflowGraph.Proofs.Spec.Document
import WorkflowGraph.Report

/-!
# The form of specs

What a document has to be to be read as a spec, told by its fields alone: those that it must have, and
the form of each. Kinds, types, references, settings and details may be anything. Main statement:
`exists_ofDocument_iff`.
-/

namespace WorkflowGraph

/-! ## Forms of values -/

namespace Json

/-- The value is a text. -/
def IsText (value : Json) : Prop :=
  ∃ s, value = .str s

/-- The value is an object. -/
def IsObject (value : Json) : Prop :=
  ∃ fields, value = .obj fields

/-- The value is a list of values of a form. -/
def IsListOf (p : Json → Prop) (value : Json) : Prop :=
  ∃ items, value = .arr items ∧ ∀ item ∈ items, p item

/-- The value is an object of values of a form. -/
def IsTableOf (p : Json → Prop) (value : Json) : Prop :=
  ∃ fields : Fields, value = .obj fields ∧ ∀ f ∈ fields, p f.2

/-- The value is an object of a form. -/
def IsRecord (p : Fields → Prop) (value : Json) : Prop :=
  ∃ fields, value = .obj fields ∧ p fields

/-- The value is `null` or of a form. -/
def IsNullOr (p : Json → Prop) (value : Json) : Prop :=
  value = .null ∨ p value

/-- The value stands for a number: an integer that is not too large, a truth value, a number, or a
text that states one. -/
def IsNumber : Json → Prop
  | .float _ | .bool _ => True
  | .int n => (Float64.ofInt n).isFinite = true
  | .str s => ∃ x, Schema.numberOfText s = .valid x
  | _ => False

/-- The value stands for a truth value: one itself, zero or one, or a word for it. -/
def IsTruth : Json → Prop
  | .bool _ => True
  | .int n => n = 0 ∨ n = 1
  | .float x => x.isFinite = true ∧ (x.toInt? = some 0 ∨ x.toInt? = some 1)
  | .str s => String.ofList (s.toList.map Char.toLower) ∈ Schema.trueWords ++ Schema.falseWords
  | _ => False

/-- The first of the keys that occurs has a value of a form; one of them does occur. -/
def Fields.Requires (fields : Fields) (keys : List String) (p : Json → Prop) : Prop :=
  ∃ f, Schema.lookup? fields keys = some f ∧ p f.2

/-- The first of the keys that occurs, if any does, has a value of a form. -/
def Fields.Allows (fields : Fields) (keys : List String) (p : Json → Prop) : Prop :=
  ∀ f, Schema.lookup? fields keys = some f → p f.2

end Json

/-! ## What the readers accept -/

namespace Checked

variable {α β : Type}

/-- Nothing is wrong with the value. -/
def IsValid (x : Checked α) : Prop :=
  ∃ a, x = .valid a

@[simp] theorem isValid_valid (a : α) : (valid a).IsValid :=
  ⟨a, rfl⟩

@[simp] theorem not_isValid_invalid (vs : List Violation) : ¬(invalid vs : Checked α).IsValid :=
  fun ⟨_, h⟩ => nomatch h

@[simp] theorem not_isValid_broken (rule : Rule) : ¬(broken rule : Checked α).IsValid :=
  not_isValid_invalid _

@[simp] theorem isValid_map_iff {f : α → β} {x : Checked α} : (map f x).IsValid ↔ x.IsValid := by
  cases x with
  | valid a => exact iff_of_true (isValid_valid _) (isValid_valid a)
  | invalid vs => exact iff_of_false (not_isValid_invalid _) (not_isValid_invalid vs)

@[simp] theorem isValid_fmap_iff {f : α → β} {x : Checked α} : (f <$> x).IsValid ↔ x.IsValid :=
  isValid_map_iff

@[simp] theorem isValid_both_iff {f : Checked (α → β)} {x : Checked α} :
    (both f x).IsValid ↔ f.IsValid ∧ x.IsValid := by
  cases f with
  | valid f => cases x <;> simp [both]
  | invalid us => cases x <;> simp [both]

@[simp] theorem isValid_seq_iff {f : Checked (α → β)} {x : Checked α} :
    (f <*> x).IsValid ↔ f.IsValid ∧ x.IsValid :=
  isValid_both_iff

@[simp] theorem isValid_under_iff {item : PathItem} {x : Checked α} :
    (under item x).IsValid ↔ x.IsValid := by
  cases x with
  | valid a => exact Iff.rfl
  | invalid vs => exact iff_of_false (not_isValid_invalid _) (not_isValid_invalid vs)

theorem isValid_list_go_iff {check : α → Checked β} (as : List α) (position : Nat) :
    (list.go check position as).IsValid ↔ ∀ a ∈ as, (check a).IsValid := by
  induction as generalizing position with
  | nil => simp [list.go]
  | cons a as ih => simp [list.go, ih]

end Checked

namespace Schema

open Json

variable {α : Type} {check : Json → Checked α} {p : Json → Prop}

theorem isValid_text_iff (value : Json) : (text value).IsValid ↔ value.IsText := by
  cases value <;> simp [text, IsText]

theorem isValid_object_iff (value : Json) : (object value).IsValid ↔ value.IsObject := by
  cases value <;> simp [object, IsObject]

theorem isValid_number_iff (value : Json) : (number value).IsValid ↔ value.IsNumber := by
  cases value with
  | int n =>
    simp only [number, IsNumber]
    split
    · next h => exact iff_of_true (Checked.isValid_valid _) h
    · next h => exact iff_of_false (Checked.not_isValid_broken _) h
  | str s => exact Iff.rfl
  | _ => simp [number, IsNumber]

theorem isValid_booleanOfInt_iff (n : Int) : (booleanOfInt n).IsValid ↔ n = 0 ∨ n = 1 := by
  unfold booleanOfInt
  split
  · next h => simp [h]
  · split
    · next h => simp [h]
    · next h1 h0 => simp [h1, h0]

theorem isValid_boolean_iff (value : Json) : (boolean value).IsValid ↔ value.IsTruth := by
  cases value with
  | int n =>
    simp only [boolean, IsTruth]
    split
    · exact isValid_booleanOfInt_iff n
    · next h =>
      refine iff_of_false (Checked.not_isValid_broken _) ?_
      rintro (rfl | rfl) <;> exact h (by decide)
  | str s =>
    simp only [boolean, IsTruth, List.mem_append]
    split
    · next h => exact iff_of_true (Checked.isValid_valid _) (Or.inl (List.contains_iff_mem.1 h))
    · next htrue =>
      split
      · next h => exact iff_of_true (Checked.isValid_valid _) (Or.inr (List.contains_iff_mem.1 h))
      · next hfalse =>
        refine iff_of_false (Checked.not_isValid_broken _) ?_
        rintro (h | h)
        · exact htrue (List.contains_iff_mem.2 h)
        · exact hfalse (List.contains_iff_mem.2 h)
  | float x =>
    simp only [boolean, IsTruth, integerOfFloat]
    cases x.isFinite with
    | false => simp [Checked.broken]
    | true =>
      cases x.toInt? with
      | none => simp [Checked.broken]
      | some n =>
        have htruth : true = true ∧ (some n = some 0 ∨ some n = some 1) ↔ n = 0 ∨ n = 1 := by simp
        rw [htruth, Bool.not_true, if_neg Bool.false_ne_true]
        dsimp only
        -- zero and one are of machine size
        by_cases hsize : (-Int.pow 2 63 < n && n < Int.pow 2 63) = true
        · rw [if_pos hsize]
          exact isValid_booleanOfInt_iff n
        · rw [if_neg hsize]
          refine iff_of_false (Checked.not_isValid_broken _) ?_
          rintro (rfl | rfl) <;> exact hsize (by decide)
  | _ => simp [boolean, IsTruth]

theorem isValid_list_iff (h : ∀ value, (check value).IsValid ↔ p value) (value : Json) :
    (list check value).IsValid ↔ value.IsListOf p := by
  cases value with
  | arr items => simp [list, Checked.list, Checked.isValid_list_go_iff, IsListOf, h]
  | _ => simp [list, IsListOf]

theorem isValid_dictionary_go_iff (fields : Json.Fields) :
    (dictionary.go check fields).IsValid ↔ ∀ f ∈ fields, (check f.2).IsValid := by
  induction fields with
  | nil => simp [dictionary.go]
  | cons f fields ih => simp [dictionary.go, ih]

theorem isValid_table_iff (h : ∀ value, (check value).IsValid ↔ p value) (value : Json) :
    (table check value).IsValid ↔ value.IsTableOf p := by
  cases value with
  | obj fields => simp [table, dictionary, isValid_dictionary_go_iff, IsTableOf, h]
  | _ => simp [table, dictionary, IsTableOf]

theorem isValid_nullable_iff (h : ∀ value, (check value).IsValid ↔ p value) (value : Json) :
    (nullable check value).IsValid ↔ value.IsNullOr p := by
  cases value with
  | null => exact iff_of_true (Checked.isValid_valid _) (Or.inl rfl)
  | _ => simp [nullable, IsNullOr, h]

theorem isValid_record_iff (name : String) {read : Json.Fields → Checked α}
    {p : Json.Fields → Prop} (h : ∀ fields, (read fields).IsValid ↔ p fields) (value : Json) :
    (record name read value).IsValid ↔ value.IsRecord p := by
  cases value with
  | obj fields => simp [record, IsRecord, h]
  | _ => simp [record, IsRecord]

variable {fields : Json.Fields} {keys : List String} {default : α}

theorem isValid_required_iff (h : ∀ value, (check value).IsValid ↔ p value) :
    (required fields keys check).IsValid ↔ fields.Requires keys p := by
  unfold required Fields.Requires
  cases lookup? fields keys with
  | none => simp
  | some f => simp [h]

theorem isValid_optional_iff (h : ∀ value, (check value).IsValid ↔ p value) :
    (optional fields keys default check).IsValid ↔ fields.Allows keys p := by
  unfold optional Fields.Allows
  cases lookup? fields keys with
  | none => simp
  | some f => simp [h]

theorem isValid_nullableText_iff {default : Option String} :
    (optional fields keys default (nullable text)).IsValid ↔ fields.Allows keys (IsNullOr IsText) :=
  isValid_optional_iff (isValid_nullable_iff isValid_text_iff)

end Schema

/-! ## Forms of records -/

namespace Spec

open Json

/-- The form of a node. -/
@[mk_iff]
structure Node.Form (fields : Json.Fields) : Prop where
  id_text : fields.Requires ["id"] IsText
  type_text : fields.Requires ["type"] IsText
  label_text : fields.Allows ["label"] (IsNullOr IsText)
  inputs_object : fields.Allows ["inputs"] (IsTableOf fun _ => True)
  outputs_object : fields.Allows ["outputs"] (IsTableOf fun _ => True)
  position_numbers : fields.Allows ["position"] (IsNullOr (IsTableOf IsNumber))

/-- The form of a branch. -/
@[mk_iff]
structure Branch.Form (fields : Json.Fields) : Prop where
  condition_text : fields.Requires ["if", "if_"]
    (IsRecord fun clause => clause.Requires ["condition"] IsText)
  node_text : fields.Requires ["node"] IsText

/-- The form of the targets of a group. -/
@[mk_iff]
structure Targets.Form (fields : Json.Fields) : Prop where
  nodes_texts : fields.Allows ["nodes"] (IsNullOr (IsListOf IsText))
  branches_form : fields.Allows ["conditional_edges"] (IsNullOr (IsListOf (IsRecord Branch.Form)))
  fallback_text : fields.Allows ["default"] (IsNullOr IsText)

/-- The form of a group. -/
@[mk_iff]
structure Group.Form (fields : Json.Fields) : Prop where
  source_text : fields.Requires ["from", "from_"] IsText
  targets_form : fields.Allows ["to"] (IsRecord Targets.Form)

/-- The form of what is kept of an edge. -/
@[mk_iff]
structure EdgeDetail.Form (fields : Json.Fields) : Prop where
  source_text : fields.Requires ["source"] IsText
  target_text : fields.Requires ["target"] IsText
  kind_text : fields.Requires ["kind"] IsText
  label_text : fields.Allows ["label"] (IsNullOr IsText)
  config_object : fields.Allows ["config"] (IsNullOr IsObject)
  animated_truth : fields.Allows ["animated"] IsTruth
  style_object : fields.Allows ["style"] IsObject

/-- The form of what is kept besides. -/
@[mk_iff]
structure Metadata.Form (fields : Json.Fields) : Prop where
  exportedAt_text : fields.Allows ["exported_at"] (IsNullOr IsText)
  workflowId_text : fields.Allows ["original_workflow_id"] (IsNullOr IsText)
  positions_numbers : fields.Allows ["node_positions"] (IsTableOf (IsTableOf IsNumber))
  terminals_form : fields.Allows ["terminal_nodes"] (IsListOf (IsRecord Node.Form))
  edgeDetails_form : fields.Allows ["edge_details"] (IsListOf (IsRecord EdgeDetail.Form))

/-- The form of a spec, besides that it has both of its lists. -/
@[mk_iff]
structure Form (fields : Json.Fields) : Prop where
  version_text : fields.Allows ["version"] IsText
  id_text : fields.Allows ["id"] (IsNullOr IsText)
  name_text : fields.Allows ["name"] IsText
  description_text : fields.Allows ["description"] (IsNullOr IsText)
  nodes_form : fields.Allows ["nodes"] (IsListOf (IsRecord Node.Form))
  groups_form : fields.Allows ["edges"] (IsListOf (IsRecord Group.Form))
  metadata_form : fields.Allows ["metadata"] (IsNullOr (IsRecord Metadata.Form))

variable (fields : Json.Fields)

theorem isValid_nodeOfFields_iff : (Node.ofFields fields).IsValid ↔ Node.Form fields := by
  have htable : ∀ value, (Schema.table Checked.valid value).IsValid ↔ value.IsTableOf fun _ => True :=
    Schema.isValid_table_iff fun value => iff_of_true (Checked.isValid_valid value) trivial
  have hposition := Schema.isValid_nullable_iff (Schema.isValid_table_iff Schema.isValid_number_iff)
  simp only [Node.ofFields, Node.form_iff, Checked.isValid_seq_iff, Checked.isValid_fmap_iff,
    Schema.isValid_required_iff Schema.isValid_text_iff, Schema.isValid_nullableText_iff,
    Schema.isValid_optional_iff htable, Schema.isValid_optional_iff hposition, and_assoc]

theorem isValid_branchOfFields_iff : (Branch.ofFields fields).IsValid ↔ Branch.Form fields := by
  have hclause : ∀ value, (Schema.record "ConditionClause" conditionOfFields value).IsValid ↔
      value.IsRecord fun clause => clause.Requires ["condition"] IsText :=
    Schema.isValid_record_iff _ fun _ => Schema.isValid_required_iff Schema.isValid_text_iff
  simp only [Branch.ofFields, Branch.form_iff, Checked.isValid_seq_iff, Checked.isValid_fmap_iff,
    Schema.isValid_required_iff hclause, Schema.isValid_required_iff Schema.isValid_text_iff]

theorem isValid_targetsOfFields_iff : (Targets.ofFields fields).IsValid ↔ Targets.Form fields := by
  have hnodes := Schema.isValid_nullable_iff (Schema.isValid_list_iff Schema.isValid_text_iff)
  have hbranches := Schema.isValid_nullable_iff (Schema.isValid_list_iff
    (Schema.isValid_record_iff "ConditionalTarget" isValid_branchOfFields_iff))
  simp only [Targets.ofFields, Targets.form_iff, Checked.isValid_seq_iff, Checked.isValid_fmap_iff,
    Schema.isValid_optional_iff hnodes, Schema.isValid_optional_iff hbranches,
    Schema.isValid_nullableText_iff, and_assoc]

theorem isValid_groupOfFields_iff : (Group.ofFields fields).IsValid ↔ Group.Form fields := by
  have htargets := Schema.isValid_record_iff "SpecEdgeTargets" isValid_targetsOfFields_iff
  simp only [Group.ofFields, Group.form_iff, Checked.isValid_seq_iff, Checked.isValid_fmap_iff,
    Schema.isValid_required_iff Schema.isValid_text_iff, Schema.isValid_optional_iff htargets]

theorem isValid_edgeDetailOfFields_iff :
    (EdgeDetail.ofFields fields).IsValid ↔ EdgeDetail.Form fields := by
  have hconfig := Schema.isValid_nullable_iff Schema.isValid_object_iff
  simp only [EdgeDetail.ofFields, EdgeDetail.form_iff, Checked.isValid_seq_iff,
    Checked.isValid_fmap_iff, Schema.isValid_required_iff Schema.isValid_text_iff,
    Schema.isValid_nullableText_iff, Schema.isValid_optional_iff hconfig,
    Schema.isValid_optional_iff Schema.isValid_boolean_iff,
    Schema.isValid_optional_iff Schema.isValid_object_iff, and_assoc]

theorem isValid_nodes_iff (value : Json) :
    (Schema.list Node.ofJson value).IsValid ↔ value.IsListOf (IsRecord Node.Form) :=
  Schema.isValid_list_iff (Schema.isValid_record_iff _ isValid_nodeOfFields_iff) value

theorem isValid_metadataOfFields_iff : (Metadata.ofFields fields).IsValid ↔ Metadata.Form fields := by
  have hpositions := Schema.isValid_table_iff (Schema.isValid_table_iff Schema.isValid_number_iff)
  have hdetails := Schema.isValid_list_iff
    (Schema.isValid_record_iff "EdgeDetail" isValid_edgeDetailOfFields_iff)
  simp only [Metadata.ofFields, Metadata.form_iff, Checked.isValid_seq_iff,
    Checked.isValid_fmap_iff, Schema.isValid_nullableText_iff,
    Schema.isValid_optional_iff hpositions, Schema.isValid_optional_iff isValid_nodes_iff,
    Schema.isValid_optional_iff hdetails, and_assoc]

theorem isValid_ofFields_iff : (Spec.ofFields fields).IsValid ↔ Form fields := by
  have hgroups := Schema.isValid_list_iff
    (Schema.isValid_record_iff "SpecEdge" isValid_groupOfFields_iff)
  have hmetadata := Schema.isValid_nullable_iff
    (Schema.isValid_record_iff "SpecMetadata" isValid_metadataOfFields_iff)
  simp only [Spec.ofFields, form_iff, Checked.isValid_seq_iff, Checked.isValid_fmap_iff,
    Schema.isValid_optional_iff Schema.isValid_text_iff, Schema.isValid_nullableText_iff,
    Schema.isValid_optional_iff isValid_nodes_iff, Schema.isValid_optional_iff hgroups,
    Schema.isValid_optional_iff hmetadata, and_assoc]

end Spec

/-! ## Documents -/

/-- The document has the form of a spec: it is an object with a list of nodes and a list of edges, and
all of its fields have their forms. -/
def Json.IsSpec (document : Json) : Prop :=
  document.IsRecord fun fields =>
    (∀ key ∈ Spec.requiredLists, fields.Requires [key] (IsListOf fun _ => True)) ∧ Spec.Form fields

namespace Spec

open Json

theorem isNone_items?_iff (fields : Json.Fields) (key : String) :
    (fields.getD key).items?.isNone = false ↔ fields.Requires [key] (IsListOf fun _ => True) := by
  simp only [Fields.getD, Fields.Requires, Schema.lookup?]
  cases fields.get? key with
  | none => simp [items?]
  | some value => cases value <;> simp [items?, IsListOf]

/-- A document is read if it has the form of a spec. -/
theorem exists_ofDocument_iff (document : Json) :
    (∃ spec, Spec.ofDocument document = .ok spec) ↔ document.IsSpec := by
  cases document with
  | obj fields =>
    have hlists : (requiredLists.find? fun key => (Fields.getD fields key).items?.isNone) = none ↔
        ∀ key ∈ requiredLists, Fields.Requires fields [key] (IsListOf fun _ => True) := by
      simp only [List.find?_eq_none, Bool.not_eq_true, isNone_items?_iff]
    have hspec : (Json.obj fields).IsSpec ↔
        (requiredLists.find? fun key => (Fields.getD fields key).items?.isNone) = none ∧
          (Spec.ofFields fields).IsValid := by
      rw [hlists, isValid_ofFields_iff]
      simp [IsSpec, IsRecord]
    rw [hspec, ofDocument]
    cases requiredLists.find? fun key => (Fields.getD fields key).items?.isNone with
    | some key => simp
    | none => cases Spec.ofFields fields <;> simp
  | _ => simp [ofDocument, IsSpec, IsRecord]

/-- A document that is not read is reported to have the wrong format. -/
theorem specFormat_of_ofDocument {document : Json} {fault : Fault}
    (h : Spec.ofDocument document = .error fault) :
    ∃ report, fault.report? = some report ∧ report.family = .specFormat := by
  cases document with
  | obj fields =>
    simp only [ofDocument] at h
    split at h
    · cases h
      exact ⟨_, rfl, rfl⟩
    · cases hread : Spec.ofFields fields with
      | valid spec => simp [hread] at h
      | invalid violations =>
        rw [hread] at h
        cases h
        exact ⟨_, rfl, rfl⟩
  | _ =>
    cases h
    exact ⟨_, rfl, rfl⟩

end Spec

end WorkflowGraph
