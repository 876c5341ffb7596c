import WorkflowGraph.Proofs.Document.Form

/-!
# Entries in lists of ports

What an entry of a list says is what the port of its name is in the end, if no later entry has the
name. An entry that gives neither a value nor a reference denotes an unset port, unless none of its
keys tells it from a value: then it is the value of a port itself. Main statement:
`Listing.port?_of_blank_entry`.
-/

namespace WorkflowGraph

open Json

theorem Json.any_text?_of_isVoid {value : Json} (h : value.isVoid = true) :
    value.text?.any (· ≠ "") = false := by
  cases value with
  | str s => simpa [isVoid, text?] using h
  | _ => rfl

theorem Json.isVoid_of_isBlank {value : Json} (h : value.isBlank = true) : value.isVoid = true := by
  cases value with
  | null => rfl
  | str s => exact h
  | _ => cases h

/-! ## Ports of a listing -/

namespace Listing

/-- The port of a name. -/
def port? (listing : Listing Port) (name : String) : Option Port :=
  (listing.find? (·.1.same (.str name))).map Prod.snd

theorem port?_cons (e : Json × Port) (listing : Listing Port) (name : String) :
    port? (e :: listing) name = if e.1 = .str name then some e.2 else listing.port? name := by
  unfold port?
  by_cases h : e.1 = .str name
  · rw [List.find?_cons_of_pos (by simpa [same_str_iff] using h), if_pos h, Option.map_some]
  · rw [List.find?_cons_of_neg (by simpa [same_str_iff] using h), if_neg h]

theorem port?_map_put_self (listing : Listing Port) (name : String) (port : Port)
    (h : listing.any (·.1.same (.str name)) = true) :
    port? (listing.map fun e => if e.1.same (.str name) then (e.1, port) else e) name = some port := by
  induction listing with
  | nil => cases h
  | cons e listing ih =>
    rw [List.map_cons, port?_cons]
    by_cases he : e.1 = .str name
    · simp [he, same_str_iff]
    · have hsame : e.1.same (.str name) = false := by
        rwa [← Bool.not_eq_true, same_str_iff]
      rw [hsame, if_neg Bool.false_ne_true, if_neg he]
      exact ih (by simpa [hsame] using h)

theorem port?_map_put_of_ne (listing : Listing Port) {key : Json} {name : String} (port : Port)
    (h : key ≠ .str name) :
    port? (listing.map fun e => if e.1.same key then (e.1, port) else e) name
      = listing.port? name := by
  induction listing with
  | nil => rfl
  | cons e listing ih =>
    rw [List.map_cons, port?_cons, port?_cons, ih]
    by_cases he : e.1 = .str name
    · have hsame : (Json.str name).same key = false := by
        rwa [← Bool.not_eq_true, str_same_iff, eq_comm]
      simp [he, hsame]
    · have hfst : (if e.1.same key then (e.1, port) else e).1 = e.1 := by split <;> rfl
      rw [hfst, if_neg he, if_neg he]

/-- Putting a port changes the port of one name. -/
theorem port?_put (listing : Listing Port) (key : Json) (port : Port) (name : String) :
    (listing.put key port).port? name
      = if key = .str name then some port else listing.port? name := by
  unfold put
  by_cases hkey : key = .str name
  · subst hkey
    rw [if_pos rfl]
    split
    · next hany => exact port?_map_put_self listing name port hany
    · next hany =>
      have hnone : listing.find? (·.1.same (.str name)) = none := by simpa using hany
      simp [port?, List.find?_append, hnone, same_str_iff]
  · rw [if_neg hkey]
    split
    · exact port?_map_put_of_ne listing port hkey
    · simp [port?, List.find?_append, same_str_iff, hkey]

/-! ## Entries read one after the other -/

/-- What is read before and after an entry, and the port that it denotes. -/
theorem exists_port_of_result_go {read l : Listing Port} {name entry : Json}
    {rest : List (Json × Json)} (h : (inputs.go read ((name, entry) :: rest)).result = .ok (.valid l)) :
    ∃ port, (Port.ofEntry entry).value = .valid port ∧
      (inputs.go (read.put name port) rest).result = .ok (.valid l) := by
  rw [inputs.go] at h
  obtain ⟨checked, hchecked, h⟩ := Attempt.result_bind_eq_ok_iff.1 h
  cases hchecked
  cases hport : (Port.ofEntry entry).value with
  | invalid violations => simp [hport] at h
  | valid port =>
    rw [hport] at h
    refine ⟨port, rfl, ?_⟩
    by_cases hscalar : name.isScalar = true
    · simpa [hscalar] using h
    · simp [hscalar] at h

/-- Entries of other names leave the port of a name as it is. -/
theorem port?_of_result_go {read l : Listing Port} {name : String} {listed : List (Json × Json)}
    (hother : ∀ e ∈ listed, e.1 ≠ .str name)
    (h : (inputs.go read listed).result = .ok (.valid l)) : l.port? name = read.port? name := by
  induction listed generalizing read with
  | nil =>
    cases h
    rfl
  | cons e listed ih =>
    obtain ⟨hne, hother⟩ := List.forall_mem_cons.1 hother
    obtain ⟨port, -, h⟩ := exists_port_of_result_go h
    rw [ih hother h, port?_put, if_neg hne]

/-- The last entry of a name says what its port is. -/
theorem port?_of_last_entry {read l : Listing Port} {name : String} {entry : Json}
    {before after : List (Json × Json)} (hlast : ∀ e ∈ after, e.1 ≠ .str name)
    (h : (inputs.go read (before ++ (.str name, entry) :: after)).result = .ok (.valid l)) :
    ∃ port, (Port.ofEntry entry).value = .valid port ∧ l.port? name = some port := by
  induction before generalizing read with
  | nil =>
    obtain ⟨port, hport, h⟩ := exists_port_of_result_go h
    exact ⟨port, hport, by rw [port?_of_result_go hlast h, port?_put, if_pos rfl]⟩
  | cons e before ih =>
    rw [List.cons_append] at h
    obtain ⟨port, -, h⟩ := exists_port_of_result_go h
    exact ih h

/-- A listing is read exactly from entries whose names can be looked up by and that are stored ports
of the right form, if they are stored ports. -/
theorem yields_inputs_go_of_scalars (read : Listing Port) (listed : List (Json × Json)) :
    (inputs.go read listed).Yields Checked.IsValid
      (∀ e ∈ listed, e.1.isScalar = true ∧ Port.IsEntry e.2) := by
  induction listed generalizing read with
  | nil => exact .pure (by simp)
  | cons e listed ih =>
    obtain ⟨name, entry⟩ := e
    rw [inputs.go, List.forall_mem_cons]
    have hentry := Attempt.Yields.ofLogged (Port.isValid_ofEntry_iff entry)
    refine (hentry.bind (q := name.isScalar = true ∧
      ∀ e ∈ listed, e.1.isScalar = true ∧ Port.IsEntry e.2) fun port _ => ?_).congr (by tauto)
    cases port with
    | invalid violations => exact .pure (by simp)
    | valid port =>
      dsimp only
      split
      · next hscalar => exact (ih (read.put name port)).congr (by simp [hscalar])
      · next hscalar => exact .throw .wrongType fun h => hscalar h.2.1

theorem value_ofItems_append (role : String) (before after : List Json) :
    (entries.ofItems role (before ++ after)).value
      = (entries.ofItems role before).value ++ (entries.ofItems role after).value := by
  induction before with
  | nil => rfl
  | cons item before ih =>
    rw [List.cons_append]
    cases item with
    | str name => simp [entries.ofItems, ih]
    | _ =>
      simp only [entries.ofItems]
      split <;> simp [ih]

theorem value_entries_of_named {fields : Fields} {name : String}
    (hname : fields.getD "name" = .str name) (hne : name ≠ "") (role : String)
    (before after : List Json) :
    (entries role (.arr (before ++ .obj fields :: after))).value
      = (entries role (.arr before)).value
        ++ (.str name, .obj fields) :: (entries role (.arr after)).value := by
  have hgiven : (Json.str name).isVoid = false := by simpa [isVoid] using hne
  simp only [entries, value_ofItems_append]
  simp [entries.ofItems, fields?, hname, hgiven]

end Listing

/-! ## Entries that give nothing -/

namespace Port

/-- The entry gives neither a value nor a reference. -/
@[mk_iff]
structure IsBlankEntry (fields : Fields) : Prop where
  reference_void : (fields.getD "reference").isVoid = true
  connected_void : (fields.getD "connectedTo").isVoid = true
  value_blank : (fields.getD "value").isBlank = true
  default_blank : (fields.getD "defaultValue").isBlank = true

instance (fields : Fields) : Decidable (IsBlankEntry fields) :=
  decidable_of_iff' _ (isBlankEntry_iff fields)

theorem value_ofDescription_of_blank {fields : Fields} (h : IsBlankEntry fields) :
    (ofDescription fields).value = unset ((DataType.declared? fields).value.getD .string) := by
  have hreference := any_text?_of_isVoid h.connected_void
  have hdefault := any_text?_of_isVoid (isVoid_of_isBlank h.default_blank)
  simp only [ofDescription, orElse, h.reference_void, h.value_blank, h.default_blank, hreference,
    hdefault, if_true, Bool.and_false, Bool.false_eq_true, if_false, Logged.value_bind,
    Logged.value_pure]

/-- An entry that gives nothing is the value of its own port if no key tells it from a value. -/
theorem value_ofEntry_of_blank {fields : Fields} (hstored : fields.has "binding" = false)
    (h : IsBlankEntry fields) :
    (ofEntry (.obj fields)).value = .valid (if descriptionKeys.any fields.has then
      unset ((DataType.declared? fields).value.getD .string)
      else ⟨.literal, .obj fields, .object⟩) := by
  simp only [ofEntry, hstored, Bool.false_eq_true, if_false]
  split
  · rw [Logged.value_map, value_ofDescription_of_blank h]
  · rfl

end Port

/-! ## Main statement -/

namespace Listing

open Port

variable {before after : List Json} {fields : Fields} {name : String}

/-- A list with an entry that gives nothing is read exactly if its named entries are of the form of
entries. The port of the entry's name is then unset and of the declared type, or a text, if the entry
is the last one of its name and has a key that tells it from a value; if it has none, it is itself
the value of the port. -/
theorem port?_of_blank_entry (hname : fields.getD "name" = .str name) (hne : name ≠ "")
    (hstored : fields.has "binding" = false) (hblank : IsBlankEntry fields)
    (hlast : ∀ e ∈ (entries "input" (.arr after)).value, e.1 ≠ .str name) :
    (inputs (.arr (before ++ .obj fields :: after))).Yields Checked.IsValid
        (∀ e ∈ (entries "input" (.arr before)).value ++ (entries "input" (.arr after)).value,
          e.1.isScalar = true ∧ IsEntry e.2) ∧
      ∀ l, (inputs (.arr (before ++ .obj fields :: after))).result = .ok (.valid l) →
        l.port? name = some (if descriptionKeys.any fields.has then
          unset ((DataType.declared? fields).value.getD .string)
          else ⟨.literal, .obj fields, .object⟩) := by
  have hlisted := value_entries_of_named hname hne "input" before after
  have hentry : (Json.str name).isScalar = true ∧ IsEntry (.obj fields) :=
    ⟨rfl, fun _ heq h => by cases heq; simp [hstored] at h⟩
  constructor
  · refine .bind_of_ok (Attempt.result_ofLogged _) ((yields_inputs_go_of_scalars [] _).congr ?_)
    simp only [hlisted, List.forall_mem_append, List.forall_mem_cons, hentry, true_and]
  · intro l hl
    have hgo : (inputs.go [] (entries "input" (.arr (before ++ .obj fields :: after))).value).result
        = .ok (.valid l) := by
      rwa [inputs, Attempt.result_bind_of_ok (Attempt.result_ofLogged _)] at hl
    rw [hlisted] at hgo
    obtain ⟨port, hport, hl⟩ := port?_of_last_entry hlast hgo
    rw [value_ofEntry_of_blank hstored hblank] at hport
    cases hport
    exact hl

theorem port?_of_blank_entry_declared :
    (∀ e ∈ (entries "input" (.arr [.str "limit"])).value, e.1 ≠ .str "query") ∧
      ∃ l, (inputs (.arr [.obj [("name", .str "query"), ("dataType", .str "number")],
          .str "limit"])).result = .ok (.valid l) ∧
        l.port? "query" = some (unset .number) := by
  have hlast : ∀ e ∈ (entries "input" (.arr [.str "limit"])).value, e.1 ≠ .str "query" := by decide
  obtain ⟨hyields, hport⟩ := @port?_of_blank_entry [] [.str "limit"]
    [("name", .str "query"), ("dataType", .str "number")] "query" rfl (by decide) rfl (by decide) hlast
  refine ⟨hlast, ?_⟩
  obtain ⟨checked, hresult, l, rfl⟩ := hyields.exists_iff.2 (by
    simp [entries, entries.ofItems, isScalar, IsEntry])
  exact ⟨l, hresult, hport l hresult⟩

/-- An entry of a list that has a type and tells what it is for, but has no key of those that the
description of a port is told by. -/
def announcedEntry : Fields :=
  [("name", .str "query"), ("type", .str "string"), ("required", .bool true),
    ("description", .str "What to search")]

theorem port?_announcedEntry : announcedEntry.getD "name" = .str "query" ∧
    announcedEntry.has "binding" = false ∧ IsBlankEntry announcedEntry ∧
    ∃ l, (inputs (.arr [.obj announcedEntry])).result = .ok (.valid l) ∧
      l.port? "query" = some ⟨.literal, .obj announcedEntry, .object⟩ ∧
      l.port? "query" ≠ some (unset ((DataType.declared? announcedEntry).value.getD .string)) := by
  refine ⟨rfl, rfl, by decide, [(.str "query", ⟨.literal, .obj announcedEntry, .object⟩)], ?_⟩
  exact ⟨rfl, by decide, by decide⟩

end Listing

end WorkflowGraph
