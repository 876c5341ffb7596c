import WorkflowGraph.Table

/-!
# Tables as lists of entries

What the operations on tables do to the list of entries. A table is made of distinct names, so
`entries_ofList` gives a list of distinct names back unchanged; `entries_override` and
`entries_complete` say where an entry of the result comes from and in which order the entries stand.
Main statement: `override_eq_self`, a table that begins with the names of another is not changed by
being laid over it.
-/

namespace WorkflowGraph.Table

variable {α β : Type}

/-- Tables are equal if their entries are. -/
theorem ext_entries {t u : Table α} (h : t.entries = u.entries) : t = u := by
  cases t
  cases u
  cases h
  rfl

/-! ## Looking up -/

theorem has_eq_false_iff {t : Table α} {name : String} :
    t.has name = false ↔ name ∉ t.names := by
  rw [← has_iff_mem_names, Bool.not_eq_true]

/-- The first entry under a name among entries of distinct names is the only one. -/
theorem find?_eq_some_of_mem {entries : List (String × α)} {e : String × α}
    (hnd : (entries.map Prod.fst).Nodup) (he : e ∈ entries) :
    entries.find? (·.1 == e.1) = some e := by
  induction entries with
  | nil => cases he
  | cons x entries ih =>
    rw [List.map_cons, List.nodup_cons] at hnd
    rcases List.mem_cons.1 he with rfl | he
    · simp
    · have hne : x.1 ≠ e.1 := by
        intro h
        exact hnd.1 (h ▸ List.mem_map_of_mem he)
      rw [List.find?_cons_of_neg (by simpa using hne)]
      exact ih hnd.2 he

theorem find?_eq_some_iff {t : Table α} {name : String} {a : α} :
    t.find? name = some a ↔ (name, a) ∈ t.entries := by
  unfold find?
  constructor
  · intro h
    obtain ⟨e, he, rfl⟩ := Option.map_eq_some_iff.1 h
    have hname : e.1 = name := by simpa using List.find?_some he
    rw [← hname]
    exact List.mem_of_find?_eq_some he
  · intro h
    rw [find?_eq_some_of_mem t.nodup h]
    rfl

theorem find?_eq_none_iff {t : Table α} {name : String} :
    t.find? name = none ↔ name ∉ t.names := by
  simp only [find?, Option.map_eq_none_iff, List.find?_eq_none, names, List.mem_map, beq_iff_eq,
    not_exists, not_and]

theorem mem_names_of_mem {t : Table α} {e : String × α} (h : e ∈ t.entries) : e.1 ∈ t.names :=
  List.mem_map_of_mem h

/-! ## Entries of the result -/

theorem entries_insert_of_not_mem {t : Table α} {name : String} (h : name ∉ t.names) (a : α) :
    (t.insert name a).entries = t.entries ++ [(name, a)] := by
  simp [insert, has_eq_false_iff.2 h]

theorem entries_insert_of_mem {t : Table α} {name : String} (h : name ∈ t.names) (a : α) :
    (t.insert name a).entries = replaceEntries t.entries name a := by
  simp [insert, (has_iff_mem_names t name).2 h]

@[simp] theorem has_insert (t : Table α) (name : String) (a : α) (other : String) :
    (t.insert name a).has other = (other == name || t.has other) := by
  rw [Bool.eq_iff_iff, has_iff_mem_names, Bool.or_eq_true, beq_iff_eq, has_iff_mem_names]
  by_cases h : t.has name = true
  · rw [names_insert_of_has h]
    refine ⟨Or.inr, ?_⟩
    rintro (rfl | hmem)
    · exact (has_iff_mem_names t other).1 h
    · exact hmem
  · rw [names_insert_of_not_has (Bool.not_eq_true _ ▸ h), List.mem_append, List.mem_singleton]
    exact or_comm

@[simp] theorem has_map (f : String → α → β) (t : Table α) (name : String) :
    (t.map f).has name = t.has name := by
  rw [Bool.eq_iff_iff, has_iff_mem_names, has_iff_mem_names, names_map]

/-- An insertion changes nothing for entries under other names. -/
theorem filter_not_has_insert {entries : List (String × α)} {name : String}
    (h : name ∉ entries.map Prod.fst) (t : Table α) (a : α) :
    (entries.filter fun e => !(t.insert name a).has e.1) = entries.filter fun e => !t.has e.1 := by
  refine List.filter_congr fun e he => ?_
  have hne : e.1 ≠ name := fun hename => h (hename ▸ List.mem_map_of_mem he)
  simp [hne]

/-- Entries of new and distinct names are added at the end. -/
theorem entries_foldl_insert (entries : List (String × α)) (t : Table α)
    (h : ((t.entries ++ entries).map Prod.fst).Nodup) :
    (entries.foldl (fun t e => t.insert e.1 e.2) t).entries = t.entries ++ entries := by
  induction entries generalizing t with
  | nil => simp
  | cons e entries ih =>
    have hnew : e.1 ∉ t.names := by
      rw [List.map_append, List.nodup_append] at h
      intro hmem
      exact h.2.2 e.1 hmem e.1 (by simp) rfl
    have hentries := entries_insert_of_not_mem hnew e.2
    rw [List.foldl_cons, ih _ (by rw [hentries]; simpa using h), hentries]
    simp

theorem entries_ofList {entries : List (String × α)} (h : (entries.map Prod.fst).Nodup) :
    (ofList entries).entries = entries :=
  entries_foldl_insert entries empty h

theorem mem_of_mem_insert {t : Table α} {name : String} {a : α} {e : String × α}
    (h : e ∈ (t.insert name a).entries) : e ∈ t.entries ∨ e = (name, a) := by
  by_cases hname : name ∈ t.names
  · rw [entries_insert_of_mem hname] at h
    obtain ⟨x, hx, rfl⟩ := List.mem_map.1 h
    split
    · exact Or.inr rfl
    · exact Or.inl hx
  · rw [entries_insert_of_not_mem hname, List.mem_append, List.mem_singleton] at h
    exact h

theorem mem_of_mem_foldl_insert {entries : List (String × α)} {t : Table α} {e : String × α}
    (h : e ∈ (entries.foldl (fun t e => t.insert e.1 e.2) t).entries) :
    e ∈ t.entries ∨ e ∈ entries := by
  induction entries generalizing t with
  | nil => exact Or.inl h
  | cons x entries ih =>
    rcases ih h with h | h
    · rcases mem_of_mem_insert h with h | h
      · exact Or.inl h
      · exact Or.inr (h ▸ List.mem_cons_self)
    · exact Or.inr (List.mem_cons_of_mem _ h)

/-- The entries of a table are some of those that it was made of. -/
theorem mem_of_mem_ofList {entries : List (String × α)} {e : String × α}
    (h : e ∈ (ofList entries).entries) : e ∈ entries := by
  rcases mem_of_mem_foldl_insert h with h | h
  · cases h
  · exact h

@[simp] theorem ofList_entries (t : Table α) : ofList t.entries = t :=
  ext_entries (entries_ofList t.nodup)

/-- A table made of the entries of a table with other values under the same names. -/
theorem ofList_map_entries (t : Table α) (f : String → α → β) :
    ofList (t.entries.map fun e => (e.1, f e.1 e.2)) = t.map f :=
  ofList_entries (t.map f)

/-- A table with each value left as it is. -/
@[simp] theorem map_value (t : Table α) : (t.map fun _ a => a) = t :=
  ext_entries (by simp [map])

theorem entries_complete_list (entries : List (String × α)) (t : Table α)
    (h : (entries.map Prod.fst).Nodup) :
    (entries.foldl (fun t e => t.insertNew e.1 e.2) t).entries =
      t.entries ++ entries.filter fun e => !t.has e.1 := by
  induction entries generalizing t with
  | nil => simp
  | cons e entries ih =>
    rw [List.map_cons, List.nodup_cons] at h
    rw [List.foldl_cons, ih _ h.2]
    by_cases hmem : t.has e.1 = true
    · simp [insertNew, hmem]
    · have hnew : e.1 ∉ t.names := fun m => hmem ((has_iff_mem_names t e.1).2 m)
      rw [Bool.not_eq_true] at hmem
      simp only [insertNew, hmem, Bool.false_eq_true, ite_false, filter_not_has_insert h.1,
        entries_insert_of_not_mem hnew, List.append_assoc, List.singleton_append]
      rw [List.filter_cons_of_pos (by simp [hmem])]

/-- A completed table begins with its own entries; those that it lacked follow. -/
theorem entries_complete (t u : Table α) :
    (t.complete u).entries = t.entries ++ u.entries.filter fun e => !t.has e.1 :=
  entries_complete_list u.entries t u.nodup

theorem complete_eq_self {t u : Table α} (h : ∀ name ∈ u.names, name ∈ t.names) :
    t.complete u = t := by
  apply ext_entries
  rw [entries_complete, List.filter_eq_nil_iff.2, List.append_nil]
  intro e he
  simpa using (has_iff_mem_names t e.1).2 (h _ (mem_names_of_mem he))

theorem names_complete (t u : Table α) :
    (t.complete u).names = t.names ++ u.names.filter fun name => !t.has name := by
  simp [names, entries_complete, List.filter_map, Function.comp_def]

theorem entries_override_list (entries : List (String × α)) (t : Table α)
    (h : (entries.map Prod.fst).Nodup) :
    (entries.foldl (fun t e => t.insert e.1 e.2) t).entries =
      (t.entries.map fun e => (e.1, ((entries.find? (·.1 == e.1)).map (·.2)).getD e.2)) ++
        entries.filter fun e => !t.has e.1 := by
  induction entries generalizing t with
  | nil => simp
  | cons e entries ih =>
    rw [List.map_cons, List.nodup_cons] at h
    have hfresh : entries.find? (·.1 == e.1) = none := by
      rw [List.find?_eq_none]
      intro x hx hxe
      exact h.1 (beq_iff_eq.1 hxe ▸ List.mem_map_of_mem hx)
    rw [List.foldl_cons, ih _ h.2]
    -- a name that is there keeps its place, a new one comes after all that are
    by_cases hmem : e.1 ∈ t.names
    · have hhas : ∀ name, (t.insert e.1 e.2).has name = t.has name := by
        intro name
        rw [has_insert, Bool.or_eq_right_iff_imp, beq_iff_eq]
        rintro rfl
        exact (has_iff_mem_names t e.1).2 hmem
      rw [List.filter_cons_of_neg (by simpa using (has_iff_mem_names t e.1).2 hmem)]
      simp only [hhas, entries_insert_of_mem hmem, replaceEntries, List.map_map]
      refine congrArg (· ++ _) (List.map_congr_left fun x _ => ?_)
      by_cases hx : x.1 = e.1
      · simp [hx, hfresh]
      · simp [hx, Ne.symm hx]
    · rw [List.filter_cons_of_pos (by simpa using has_eq_false_iff.2 hmem),
        filter_not_has_insert h.1, entries_insert_of_not_mem hmem, List.map_append,
        List.append_assoc]
      congr 1
      · refine List.map_congr_left fun x hx => ?_
        have hne : e.1 ≠ x.1 := fun hxe => hmem (hxe ▸ mem_names_of_mem hx)
        simp [hne]
      · simp [hfresh]

/-- A table with another laid over it: its own entries with the values of the other, then the rest
of the other. -/
theorem entries_override (t u : Table α) :
    (t.override u).entries =
      (t.entries.map fun e => (e.1, (u.find? e.1).getD e.2)) ++
        u.entries.filter fun e => !t.has e.1 :=
  entries_override_list u.entries t u.nodup

theorem names_override (t u : Table α) :
    (t.override u).names = t.names ++ u.names.filter fun name => !t.has name := by
  simp [names, entries_override, List.filter_map, Function.comp_def]

/-- An entry of a table with another laid over it is one of the other, or one of its own under a name
that the other lacks. -/
theorem mem_override {t u : Table α} {e : String × α} (h : e ∈ (t.override u).entries) :
    e ∈ u.entries ∨ e ∈ t.entries ∧ e.1 ∉ u.names := by
  rw [entries_override, List.mem_append] at h
  rcases h with h | h
  · obtain ⟨x, hx, rfl⟩ := List.mem_map.1 h
    cases hu : u.find? x.1 with
    | none => exact Or.inr ⟨by simpa [hu] using hx, find?_eq_none_iff.1 hu⟩
    | some a => exact Or.inl (find?_eq_some_iff.1 (by simp [hu]))
  · exact Or.inl ((List.mem_filter.1 h).1)

theorem mem_override_of_mem {t u : Table α} {e : String × α} (h : e ∈ u.entries) :
    e ∈ (t.override u).entries := by
  rw [entries_override, List.mem_append]
  cases hhas : t.has e.1 with
  | true =>
    obtain ⟨x, hx, hname⟩ := List.mem_map.1 ((t.has_iff_mem_names e.1).1 hhas)
    refine Or.inl (List.mem_map.2 ⟨x, hx, ?_⟩)
    rw [hname, find?_eq_some_iff.2 h]
    rfl
  | false => exact Or.inr (List.mem_filter.2 ⟨h, by rw [hhas]; rfl⟩)

/-! ## Laying over a beginning -/

/-- Entries are found again by names that they have in common with other entries. -/
theorem map_find?_of_names {entries first : List (String × α)} {u : Table α}
    (hnames : first.map Prod.fst = entries.map Prod.fst) (hfirst : ∀ e ∈ first, e ∈ u.entries) :
    (entries.map fun e => (e.1, (u.find? e.1).getD e.2)) = first := by
  induction entries generalizing first with
  | nil => simpa using hnames.symm
  | cons e entries ih =>
    cases first with
    | nil => simp at hnames
    | cons x first =>
      simp only [List.map_cons, List.cons.injEq] at hnames ⊢
      have hx : u.find? e.1 = some x.2 := by
        rw [find?_eq_some_iff, ← hnames.1]
        exact hfirst x List.mem_cons_self
      exact ⟨by rw [hx, ← hnames.1]; rfl,
        ih hnames.2 fun y hy => hfirst y (List.mem_cons_of_mem _ hy)⟩

/-- A table whose names begin with those of another is not changed by being laid over it. -/
theorem override_eq_self {t u : Table α} {rest : List String} (h : u.names = t.names ++ rest) :
    t.override u = u := by
  apply ext_entries
  obtain ⟨first, last, hu, hfirst, hlast⟩ := List.map_eq_append_iff.1 h
  have hnd := u.nodup
  rw [hu, List.map_append, hfirst, List.nodup_append] at hnd
  have hnew : ∀ e ∈ last, t.has e.1 = false := by
    intro e he
    rw [has_eq_false_iff]
    intro hmem
    exact hnd.2.2 e.1 hmem e.1 (List.mem_map_of_mem he) rfl
  have hold : ∀ e ∈ first, t.has e.1 = true := by
    intro e he
    rw [has_iff_mem_names, ← hfirst]
    exact List.mem_map_of_mem he
  rw [entries_override, map_find?_of_names hfirst (fun e he => by rw [hu]; simp [he]), hu,
    List.filter_append, List.filter_eq_nil_iff.2 (fun e he => by simp [hold e he]),
    List.filter_eq_self.2 (fun e he => by simp [hnew e he]), List.nil_append]

/-- New values under the names of a table with another laid over it keep their places. -/
theorem override_map_override (t u : Table α) (f : String → α → α) :
    t.override ((t.override u).map f) = (t.override u).map f := by
  apply override_eq_self
  rw [names_map, names_override]

/-! ## Applying a function to all values -/

theorem entries_map (t : Table α) (f : String → α → β) :
    (t.map f).entries = t.entries.map fun e => (e.1, f e.1 e.2) := rfl

theorem map_congr {t : Table α} {f g : String → α → β} (h : ∀ e ∈ t.entries, f e.1 e.2 = g e.1 e.2) :
    t.map f = t.map g :=
  ext_entries (List.map_congr_left fun e he => by rw [h e he])

/-- A table whose values a function leaves alone is left alone. -/
theorem map_eq_self {t : Table α} {f : String → α → α} (h : ∀ e ∈ t.entries, f e.1 e.2 = e.2) :
    t.map f = t := by
  have hmap : t.map f = t.map fun _ a => a := map_congr h
  rw [hmap, map_value]

theorem map_map {γ : Type} (t : Table α) (f : String → α → β) (g : String → β → γ) :
    (t.map f).map g = t.map fun name a => g name (f name a) :=
  ext_entries (by simp [map])

theorem find?_map (t : Table α) (f : α → β) (name : String) :
    (t.map fun _ a => f a).find? name = (t.find? name).map f := by
  rw [find?, map, List.find?_map, Option.map_map, find?, Option.map_map]
  rfl

theorem override_map (t u : Table α) (f : α → β) :
    (t.map fun _ a => f a).override (u.map fun _ a => f a) = (t.override u).map fun _ a => f a := by
  apply ext_entries
  have hvalue : ∀ e : String × α, ((u.find? e.1).map f).getD (f e.2) = f ((u.find? e.1).getD e.2) :=
    fun e => by cases u.find? e.1 <;> rfl
  simp only [entries_override, entries_map, find?_map, has_map, List.map_append, List.map_map,
    List.filter_map, Function.comp_def, hvalue]

theorem complete_map (t u : Table α) (f : α → β) :
    (t.map fun _ a => f a).complete (u.map fun _ a => f a) = (t.complete u).map fun _ a => f a := by
  apply ext_entries
  simp only [entries_complete, entries_map, has_map, List.map_append, List.filter_map,
    Function.comp_def]

end WorkflowGraph.Table
