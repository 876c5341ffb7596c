/-!
# Tables

A table gives values to names. Names keep the order in which they were first inserted, and each
occurs once; a later value for a name replaces the earlier one in its place. Main statements:
`names_insert_of_has` and `names_insert_of_not_has` say what an insertion does to the names,
`find?_insert` what it does to the values.
-/

namespace WorkflowGraph

/-- Values under names, in the order of first insertion. -/
structure Table (α : Type) where
  /-- The names with their values. -/
  entries : List (String × α)
  /-- Each name occurs once. -/
  nodup : (entries.map Prod.fst).Nodup
  deriving DecidableEq

namespace Table

variable {α β : Type}

/-- The table without entries. -/
def empty : Table α := ⟨[], .nil⟩

instance : Inhabited (Table α) := ⟨empty⟩

/-- The names, in order. -/
def names (t : Table α) : List String :=
  t.entries.map Prod.fst

/-- The name has a value. -/
def has (t : Table α) (name : String) : Bool :=
  t.entries.any (·.1 == name)

/-- The value of a name. -/
def find? (t : Table α) (name : String) : Option α :=
  (t.entries.find? (·.1 == name)).map (·.2)

/-- The entries with the value of one name replaced. -/
def replaceEntries (entries : List (String × α)) (name : String) (value : α) :
    List (String × α) :=
  entries.map fun e => if e.1 == name then (name, value) else e

theorem map_fst_replaceEntries (entries : List (String × α)) (name : String) (value : α) :
    (replaceEntries entries name value).map Prod.fst = entries.map Prod.fst := by
  induction entries with
  | nil => rfl
  | cons e entries ih =>
    simp only [replaceEntries, List.map_cons, List.cons.injEq] at ih ⊢
    refine ⟨?_, ih⟩
    by_cases h : e.1 == name
    · simp [beq_iff_eq.1 h]
    · simp [h]

theorem has_iff_mem_names (t : Table α) (name : String) :
    t.has name = true ↔ name ∈ t.names := by
  simp [has, names]

/-- The table with a value for a name: in its place if it has one, at the end if not. -/
def insert (t : Table α) (name : String) (value : α) : Table α :=
  if h : t.has name then
    ⟨replaceEntries t.entries name value, by rw [map_fst_replaceEntries]; exact t.nodup⟩
  else
    ⟨t.entries ++ [(name, value)], by
      have h' : name ∉ t.names := fun m => h ((t.has_iff_mem_names name).2 m)
      rw [List.map_append]
      refine List.nodup_append.2 ⟨t.nodup, by simp, ?_⟩
      intro a ha b hb
      simp only [List.map_cons, List.map_nil, List.mem_singleton] at hb
      subst hb
      exact fun e => h' (e ▸ ha)⟩

/-- The table with a value for a name that has none; a name that has one keeps it. -/
def insertNew (t : Table α) (name : String) (value : α) : Table α :=
  if t.has name then t else t.insert name value

/-- The table of a list of entries, later ones replacing earlier ones of the same name. -/
def ofList (entries : List (String × α)) : Table α :=
  entries.foldl (fun t e => t.insert e.1 e.2) empty

/-- The entries of a second table inserted into a first. -/
def override (t u : Table α) : Table α :=
  u.entries.foldl (fun t e => t.insert e.1 e.2) t

/-- The entries of a second table that a first one lacks, added at its end. -/
def complete (t u : Table α) : Table α :=
  u.entries.foldl (fun t e => t.insertNew e.1 e.2) t

/-- The table with a function of name and value applied to each value. -/
def map (f : String → α → β) (t : Table α) : Table β :=
  ⟨t.entries.map fun e => (e.1, f e.1 e.2), by
    have h : (t.entries.map fun e => (e.1, f e.1 e.2)).map Prod.fst = t.entries.map Prod.fst := by
      rw [List.map_map]
      exact List.map_congr_left fun _ _ => rfl
    rw [h]
    exact t.nodup⟩

/-- The entries that satisfy a condition on name and value. -/
def filter (p : String → α → Bool) (t : Table α) : Table α :=
  ⟨t.entries.filter fun e => p e.1 e.2,
    List.Nodup.sublist (List.Sublist.map _ List.filter_sublist) t.nodup⟩

/-- The table without a name. -/
def erase (t : Table α) (name : String) : Table α :=
  t.filter fun n _ => n != name

/-! ## What an insertion does -/

theorem names_insert_of_has {t : Table α} {name : String} (h : t.has name = true) (value : α) :
    (t.insert name value).names = t.names := by
  simp [insert, h, names, map_fst_replaceEntries]

theorem names_insert_of_not_has {t : Table α} {name : String} (h : t.has name = false) (value : α) :
    (t.insert name value).names = t.names ++ [name] := by
  simp [insert, h, names]

@[simp] theorem names_map (f : String → α → β) (t : Table α) : (t.map f).names = t.names := by
  simp [names, map]

end Table

end WorkflowGraph
