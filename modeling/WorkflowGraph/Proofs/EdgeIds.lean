import WorkflowGraph.Document.Reader
import WorkflowGraph.Proofs.List
import WorkflowGraph.Proofs.Numbering
import WorkflowGraph.Proofs.RoundTrip

/-!
# Ids of the edges of graphs

An edge of a graph has the id that its entry gives, or one that is made of the place of the entry among
all entries. Ids of distinct places are distinct, but that one is given to another edge is not looked
for. Main statement: `edgeIds_nodup_iff`.
-/

namespace WorkflowGraph

/-- Values that are given for some items and made for all others are rearranged to the given ones and
then those that are made. -/
theorem perm_map_getD {α β : Type} (given? : α → Option β) (made : α → β) (as : List α) :
    (as.map fun a => (given? a).getD (made a)).Perm
      (as.filterMap given? ++ (as.filter fun a => (given? a).isNone).map made) := by
  induction as with
  | nil => exact .refl _
  | cons a as ih =>
    cases h : given? a with
    | some b =>
      simp only [List.map_cons, h, Option.getD_some, List.filterMap_cons, List.filter_cons,
        Option.isNone_some, Bool.false_eq_true, if_false, List.cons_append]
      exact ih.cons b
    | none =>
      simp only [List.map_cons, h, Option.getD_none, List.filterMap_cons, List.filter_cons,
        Option.isNone_none, if_true]
      exact (ih.cons (made a)).trans List.perm_middle.symm

namespace Document

/-! ## Entries -/

/-- The entries of edges of a document. -/
def edgeEntries : Json → List Json
  | .obj fields => ((Json.Fields.getD fields "edges").items?).getD []
  | _ => []

/-- The entries that are not skipped, each with its place, counted from a place. -/
def kept (place : Nat) (entries : List Json) : List (Json.Fields × Nat) :=
  (entries.zipIdx place).filterMap fun e => (identified? ["source", "target"] e.1).map (·, e.2)

theorem kept_cons (place : Nat) (entry : Json) (entries : List Json) :
    kept place (entry :: entries) =
      ((identified? ["source", "target"] entry).map (·, place)).toList ++ kept (place + 1) entries := by
  rw [kept, List.zipIdx_cons, List.filterMap_cons]
  cases identified? ["source", "target"] entry <;> rfl

theorem kept_map_str (place : Nat) (texts : List String) : kept place (texts.map Json.str) = [] := by
  induction texts generalizing place with
  | nil => rfl
  | cons text texts ih =>
    rw [List.map_cons, kept_cons, ih (place + 1)]
    rfl

theorem kept_itemsOf {value : Json} {items : List Json} (h : (itemsOf value).result = .ok items)
    (place : Nat) : kept place items = kept place (value.items?.getD []) := by
  -- what is read in place of a list are texts, and these are skipped
  unfold itemsOf at h
  split at h
  · next hvoid =>
    cases h
    cases value with
    | arr items => rw [Json.items?, Option.getD_some, List.isEmpty_iff.1 hvoid]
    | _ => rfl
  · cases value with
    | arr items =>
      cases h
      rfl
    | str text =>
      cases h
      have hnone := kept_map_str place (text.toList.map String.singleton)
      rwa [List.map_map] at hnone
    | obj fields =>
      cases h
      have hnone := kept_map_str place (fields.map Prod.fst)
      rwa [List.map_map] at hnone
    | _ => cases h

theorem places_sublist (place : Nat) (entries : List Json) :
    ((kept place entries).map Prod.snd).Sublist (List.range' place entries.length) := by
  induction entries generalizing place with
  | nil => exact List.Sublist.refl _
  | cons entry entries ih =>
    rw [kept_cons, List.map_append, List.length_cons, List.range'_succ]
    -- an entry that is skipped counts as a place
    cases identified? ["source", "target"] entry with
    | none => exact (ih (place + 1)).cons place
    | some fields => exact (ih (place + 1)).cons_cons place

/-- The id that an entry gives, if it gives one. -/
def givenId? (fields : Json.Fields) : Option String :=
  if (fields.getD "id").isVoid then none else (fields.getD "id").text?

/-- The id that is made of a place. -/
def placeId (settings : Settings) (place : Nat) : String :=
  s!"{settings.edgeIdPrefix}-{place}"

theorem placeId_injective (settings : Settings) : Function.Injective (placeId settings) :=
  Text.numbered_injective settings.edgeIdPrefix

/-- The ids that are given to the edges of a document. -/
def givenIds (document : Json) : List String :=
  (kept 1 (edgeEntries document)).filterMap fun e => givenId? e.1

/-- The places of the edges of a document that are given no id. -/
def unnamedPlaces (document : Json) : List Nat :=
  ((kept 1 (edgeEntries document)).filter fun e => (givenId? e.1).isNone).map Prod.snd

theorem nodup_unnamedPlaces (document : Json) : (unnamedPlaces document).Nodup :=
  List.Nodup.sublist ((List.filter_sublist.map Prod.snd).trans (places_sublist 1 _))
    List.nodup_range'

/-! ## Reading -/

variable {settings : Settings}

theorem id_of_edge? {place : Nat} {entry : Json} {edge? : Option Edge}
    (h : (Document.edge? settings place entry).result = .ok edge?) :
    edge?.map (·.id) = (identified? ["source", "target"] entry).map fun fields =>
      (givenId? fields).getD (placeId settings place) := by
  unfold Document.edge? at h
  cases hfields : identified? ["source", "target"] entry with
  | none =>
    rw [hfields] at h
    obtain ⟨_, -, h⟩ := Attempt.result_bind_eq_ok_iff.1 h
    cases h
    rfl
  | some fields =>
    rw [hfields] at h
    obtain ⟨kind, -, h⟩ := Attempt.result_bind_eq_ok_iff.1 h
    obtain ⟨data, -, h⟩ := Attempt.result_bind_eq_ok_iff.1 h
    obtain ⟨e, he, rfl⟩ := Attempt.result_map_eq_ok_iff.1 h
    have hid := Edge.eq_id_of_ofJson he
    rw [Json.orElse] at hid
    simp only [Option.map_some, givenId?]
    split at hid
    · next hvoid =>
      rw [if_pos hvoid, Option.getD_none, placeId, Json.str.inj hid]
    · next hvoid =>
      rw [if_neg hvoid, hid]
      rfl

theorem ids_edges {place : Nat} {entries : List Json} {es : List Edge}
    (h : (edges settings place entries).result = .ok es) :
    es.map (·.id) = (kept place entries).map fun e => (givenId? e.1).getD (placeId settings e.2) := by
  induction entries generalizing place es with
  | nil =>
    cases h
    rfl
  | cons entry entries ih =>
    rw [edges] at h
    obtain ⟨edge?, hedge, h⟩ := Attempt.result_bind_eq_ok_iff.1 h
    obtain ⟨more, hmore, h⟩ := Attempt.result_bind_eq_ok_iff.1 h
    cases h
    rw [kept_cons, List.map_append, List.map_append, ih hmore, ← Option.toList_map,
      ← Option.toList_map, id_of_edge? hedge, Option.map_map]
    rfl

end Document

namespace Workflow

variable {s : Surroundings} {settings : Settings} {document : Json} {w : Workflow}

open Document

theorem edgeIds_ofGraphDocument (h : (ofGraphDocument s (.ok settings) document).result = .ok w) :
    w.edgeIds = (kept 1 (edgeEntries document)).map fun e =>
      (givenId? e.1).getD (placeId settings e.2) := by
  cases document with
  | obj fields =>
    obtain ⟨_, hsettings, h⟩ := Attempt.result_bind_eq_ok_iff.1 h
    cases hsettings
    obtain ⟨nodeItems, -, h⟩ := Attempt.result_bind_eq_ok_iff.1 h
    obtain ⟨nodes, -, h⟩ := Attempt.result_bind_eq_ok_iff.1 h
    obtain ⟨items, hitems, h⟩ := Attempt.result_bind_eq_ok_iff.1 h
    obtain ⟨es, hes, h⟩ := Attempt.result_bind_eq_ok_iff.1 h
    obtain ⟨createdAt, -, h⟩ := Attempt.result_bind_eq_ok_iff.1 h
    obtain ⟨updatedAt, -, h⟩ := Attempt.result_bind_eq_ok_iff.1 h
    obtain ⟨_, description, hname, -, rfl⟩ := Checked.exists_of_seq (Attempt.eq_valid_of_ofChecked h)
    obtain ⟨_, name, hid, -, rfl⟩ := Checked.exists_of_seq hname
    obtain ⟨id, -, rfl⟩ := Checked.exists_of_map hid
    exact (ids_edges hes).trans (congrArg _ (kept_itemsOf hitems 1))
  | _ => cases h

/-- The ids of the edges of a graph are distinct exactly if those that are given are distinct and none
of them is that of the place of an edge that is given no id. -/
theorem edgeIds_nodup_iff (h : (ofGraphDocument s (.ok settings) document).result = .ok w) :
    w.edgeIds.Nodup ↔ (givenIds document).Nodup ∧
      ∀ place ∈ unnamedPlaces document, placeId settings place ∉ givenIds document := by
  -- places differ, so that ids made of them do; only given ids can meet others
  have hperm : w.edgeIds.Perm
      (givenIds document ++ (unnamedPlaces document).map (placeId settings)) := by
    rw [edgeIds_ofGraphDocument h, unnamedPlaces, List.map_map]
    exact perm_map_getD _ _ _
  have hplaces : ((unnamedPlaces document).map (placeId settings)).Nodup :=
    (nodup_unnamedPlaces document).map (placeId_injective settings)
  rw [hperm.nodup_iff, List.nodup_append_comm, List.nodup_append', and_iff_right hplaces]
  exact and_congr_right fun _ => List.forall_mem_map

/-- Three edges: one is given an id that is that of no place, the entry of the second is skipped, and the
third is given none. -/
def sparse : Json :=
  .obj [("edges", .arr [
    .obj [("id", .str "edge-2"), ("source", .str "a"), ("target", .str "b")],
    .obj [("id", .str "edge-3"), ("target", .str "b")],
    .obj [("source", .str "b"), ("target", .str "c")]])]

theorem edgeIds_nodup_iff_sparse :
    ∃ w, (ofGraphDocument ⟨noon, "0001"⟩ (.ok {}) sparse).result = .ok w ∧
      w.edgeIds = ["edge-2", "edge-3"] ∧ w.edgeIds.Nodup := by
  obtain ⟨w, hw⟩ : ∃ w, (ofGraphDocument ⟨noon, "0001"⟩ (.ok {}) sparse).result = .ok w := ⟨_, rfl⟩
  have hids : w.edgeIds = ["edge-2", "edge-3"] := by
    cases hw
    rfl
  refine ⟨w, hw, hids, (edgeIds_nodup_iff hw).2 ⟨by decide, by decide⟩⟩

/-- An edge is given the id of the place of the next one, which is given none. -/
def collided : Json :=
  .obj [("edges", .arr [
    .obj [("id", .str "edge-2"), ("source", .str "a"), ("target", .str "b")],
    .obj [("source", .str "b"), ("target", .str "c")]])]

/-- The given ids are distinct, but the second edge is given the id of the first by its place. -/
theorem not_nodup_collided :
    givenIds collided = ["edge-2"] ∧
      ∃ w, (ofGraphDocument ⟨noon, "0001"⟩ (.ok {}) collided).result = .ok w ∧
        w.edgeIds = ["edge-2", "edge-2"] :=
  ⟨rfl, _, rfl, rfl⟩

end Workflow

end WorkflowGraph
