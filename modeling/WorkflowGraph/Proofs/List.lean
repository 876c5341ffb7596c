import Mathlib.Data.List.Nodup
import Mathlib.Data.List.Perm.Basic
import Mathlib.Data.List.Perm.Subperm

/-!
# Facts about lists

What erasing duplicates and erasing the first item of some form do to lists, what can be told of a
list that is put together from blocks, and when lists that agree on each class of items are
rearrangements of each other.
-/

namespace WorkflowGraph

variable {α β : Type}

/-- An item of a list of one item at most is all of it. -/
theorem eq_singleton_of_mem {as : List α} (h : as.length ≤ 1) {a : α} (ha : a ∈ as) : as = [a] := by
  obtain ⟨only, rfl⟩ := List.length_eq_one_iff.1
    (Nat.le_antisymm h (List.length_pos_of_mem ha))
  rw [List.mem_singleton.1 ha]

theorem all_eq_of_forall_mem {p q : α → Bool} {as : List α} (h : ∀ a ∈ as, p a = q a) :
    as.all p = as.all q := by
  rw [Bool.eq_iff_iff, List.all_eq_true, List.all_eq_true]
  exact forall₂_congr fun a ha => by rw [h a ha]

/-- What holds of some item of a key holds of the item of this key. -/
theorem exists_of_key_iff {key : α → β} {as : List α} (hnd : (as.map key).Nodup) {a : α}
    (ha : a ∈ as) (p : α → Bool) : (∃ b ∈ as, p b = true ∧ key b = key a) ↔ p a = true := by
  constructor
  · rintro ⟨b, hb, hp, hkey⟩
    rwa [← List.inj_on_of_nodup_map hnd hb ha hkey]
  · exact fun hp => ⟨a, ha, hp, rfl⟩

/-- Some of the items of a list are all of them if there are as many. -/
theorem length_eq_iff_subset {as bs : List α} (has : as.Nodup) (hbs : bs.Nodup)
    (hsub : as ⊆ bs) : as.length = bs.length ↔ bs ⊆ as :=
  ⟨fun h => ((has.subperm hsub).perm_of_length_le (Nat.le_of_eq h.symm)).symm.subset,
    fun h => Nat.le_antisymm (has.subperm hsub).length_le (hbs.subperm h).length_le⟩

/-! ## Erasing duplicates -/

theorem nodup_eraseDups [BEq α] [LawfulBEq α] (as : List α) : as.eraseDups.Nodup := by
  match as with
  | [] => exact .nil
  | a :: as =>
    rw [List.eraseDups_cons, List.nodup_cons]
    refine ⟨?_, nodup_eraseDups _⟩
    simp
termination_by as.length
decreasing_by
  have h := List.length_filter_le (fun b => !b == a) as
  simp only [List.length_cons]
  omega

/-- Duplicates may be erased before or after a function that tells the items apart. -/
theorem eraseDups_map [BEq α] [LawfulBEq α] [BEq β] [LawfulBEq β] {f : α → β} (as : List α)
    (h : ∀ a ∈ as, ∀ b ∈ as, f a = f b → a = b) :
    (as.map f).eraseDups = as.eraseDups.map f := by
  match as with
  | [] => rfl
  | a :: as =>
    have hfilter : (as.map f).filter (fun b => !b == f a) = (as.filter fun b => !b == a).map f := by
      rw [List.filter_map]
      refine congrArg (List.map f) (List.filter_congr fun b hb => ?_)
      have hab : f b = f a ↔ b = a :=
        ⟨h b (List.mem_cons_of_mem _ hb) a List.mem_cons_self, fun hab => hab ▸ rfl⟩
      rw [Function.comp_apply, Bool.eq_iff_iff]
      simp [hab]
    rw [List.map_cons, List.eraseDups_cons, List.eraseDups_cons, List.map_cons, hfilter,
      eraseDups_map _ fun b hb c hc => h b (List.mem_cons_of_mem _ (List.mem_filter.1 hb).1) c
        (List.mem_cons_of_mem _ (List.mem_filter.1 hc).1)]
termination_by as.length
decreasing_by
  have h := List.length_filter_le (fun b => !b == a) as
  simp only [List.length_cons]
  omega

/-! ## Blocks -/

section Blocks

variable [BEq α] [LawfulBEq α] {names : List α} {block : α → List β} {name : β → α}

theorem eraseDups_const {a : α} {as : List α} (hne : as ≠ []) (h : ∀ b ∈ as, b = a) :
    as.eraseDups = [a] := by
  obtain ⟨b, bs, rfl⟩ := List.exists_cons_of_ne_nil hne
  rw [List.eraseDups_cons, List.filter_eq_nil_iff.2, List.eraseDups_nil, h b List.mem_cons_self]
  intro c hc
  simp [h b List.mem_cons_self, h c (List.mem_cons_of_mem _ hc)]

/-- The items of a list that is put together from blocks, one for each of some distinct names, have
these names in order. -/
theorem eraseDups_flatMap_blocks (hnd : names.Nodup) (hne : ∀ a ∈ names, block a ≠ [])
    (hname : ∀ a ∈ names, ∀ b ∈ block a, name b = a) :
    ((names.flatMap block).map name).eraseDups = names := by
  induction names with
  | nil => rfl
  | cons a names ih =>
    rw [List.nodup_cons] at hnd
    have ih := ih hnd.2 (fun c hc => hne c (List.mem_cons_of_mem _ hc))
      fun c hc => hname c (List.mem_cons_of_mem _ hc)
    have hblock : ((block a).map name).eraseDups = [a] := by
      apply eraseDups_const
      · simpa using hne a List.mem_cons_self
      · intro c hc
        obtain ⟨b, hb, rfl⟩ := List.mem_map.1 hc
        exact hname a List.mem_cons_self b hb
    have hrest : ((names.flatMap block).map name).removeAll ((block a).map name) =
        (names.flatMap block).map name := by
      refine List.filter_eq_self.2 fun c hc => ?_
      obtain ⟨b, hb, rfl⟩ := List.mem_map.1 hc
      obtain ⟨x, hx, hbx⟩ := List.mem_flatMap.1 hb
      rw [Bool.not_eq_true', ← Bool.not_eq_true, List.elem_iff]
      intro hmem
      obtain ⟨b', hb', heq⟩ := List.mem_map.1 hmem
      rw [hname a List.mem_cons_self b' hb', hname x (List.mem_cons_of_mem _ hx) b hbx] at heq
      exact hnd.1 (heq ▸ hx)
    rw [List.flatMap_cons, List.map_append, List.eraseDups_append, hblock, hrest, ih]
    rfl

/-- The items of one name make up its block. -/
theorem filter_flatMap_blocks (hnd : names.Nodup)
    (hname : ∀ a ∈ names, ∀ b ∈ block a, name b = a) {a : α} (ha : a ∈ names) :
    ((names.flatMap block).filter fun b => name b == a) = block a := by
  induction names with
  | nil => cases ha
  | cons x names ih =>
    rw [List.nodup_cons] at hnd
    have hname' : ∀ c ∈ names, ∀ b ∈ block c, name b = c :=
      fun c hc => hname c (List.mem_cons_of_mem _ hc)
    rw [List.flatMap_cons, List.filter_append]
    rcases List.mem_cons.1 ha with rfl | ha
    · have hrest : ((names.flatMap block).filter fun b => name b == a) = [] := by
        rw [List.filter_eq_nil_iff]
        intro b hb heq
        obtain ⟨c, hc, hbc⟩ := List.mem_flatMap.1 hb
        rw [hname' c hc b hbc, beq_iff_eq] at heq
        exact hnd.1 (heq ▸ hc)
      rw [hrest, List.append_nil, List.filter_eq_self]
      intro b hb
      rw [hname a List.mem_cons_self b hb, beq_self_eq_true]
    · have hblock : ((block x).filter fun b => name b == a) = [] := by
        rw [List.filter_eq_nil_iff]
        intro b hb heq
        rw [hname x List.mem_cons_self b hb, beq_iff_eq] at heq
        exact hnd.1 (heq ▸ ha)
      rw [hblock, List.nil_append, ih hnd.2 hname' ha]

end Blocks

/-! ## Erasing one item -/

theorem filter_eraseP_self (p : α → Bool) (as : List α) :
    (as.eraseP p).filter p = (as.filter p).tail := by
  induction as with
  | nil => rfl
  | cons a as ih =>
    cases h : p a with
    | true => simp [h]
    | false => simp [h, ih]

theorem filter_eraseP_of_disjoint {p q : α → Bool} (h : ∀ a, p a = true → q a = false)
    (as : List α) : (as.eraseP p).filter q = as.filter q := by
  induction as with
  | nil => rfl
  | cons a as ih =>
    cases hp : p a with
    | true => simp [hp, h a hp]
    | false => simp [hp, List.filter_cons, ih]

/-! ## Rearranging -/

/-- Lists with the same items of each class, in the same order, are rearrangements. -/
theorem perm_of_filter_eq [DecidableEq α] [BEq β] [LawfulBEq β] {class_ : α → β} {as bs : List α}
    (h : ∀ c, (as.filter fun a => class_ a == c) = bs.filter fun a => class_ a == c) :
    as.Perm bs := by
  rw [List.perm_iff_count]
  intro a
  have ha := congrArg (List.count a) (h (class_ a))
  rwa [List.count_filter (by simp), List.count_filter (by simp)] at ha

end WorkflowGraph
