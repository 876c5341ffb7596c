import WorkflowGraph.Proofs.Reading
import WorkflowGraph.Proofs.Spec.Form

/-!
# Outcomes of readers

A reader of values comes to a result, or it ends in one of three faults. What it takes for a result is
told by a condition for each reader, and the condition for a reader is made of those for its parts.
Main statements: `Yields.bind` and `Yields.mapList`.
-/

namespace WorkflowGraph

/-- The faults of a reader: a value breaks the rules of a record, cannot be used where it stands, or has
no fields. -/
inductive Fault.IsOfReading : Fault → Prop
  | invalid (record : String) (violations : List Violation) : IsOfReading (.invalid record violations)
  | wrongType : IsOfReading .wrongType
  | noFields : IsOfReading .noFields

theorem Fault.IsOfReading.report?_eq_none {fault : Fault} (h : fault.IsOfReading) :
    fault.report? = none := by
  cases h <;> rfl

namespace Attempt

variable {α β : Type} {x : Attempt α} {s : α → Prop} {p q : Prop}

/-- The attempt comes to a result of a sort exactly under a condition, and its faults are those of a
reader. -/
structure Yields (x : Attempt α) (s : α → Prop) (p : Prop) : Prop where
  exists_iff : (∃ a, x.result = .ok a ∧ s a) ↔ p
  isOfReading : ∀ fault, x.result = .error fault → fault.IsOfReading

/-- The attempt comes to a result exactly under a condition. -/
abbrev Succeeds (x : Attempt α) (p : Prop) : Prop :=
  x.Yields (fun _ => True) p

namespace Yields

theorem congr (h : x.Yields s p) (hpq : p ↔ q) : x.Yields s q :=
  propext hpq ▸ h

theorem of_ok {a : α} (ha : x.result = .ok a) (h : s a ↔ p) : x.Yields s p := by
  constructor
  · simpa [ha] using h
  · simp [ha]

theorem pure {a : α} (h : s a ↔ p) : (pure a : Attempt α).Yields s p :=
  of_ok rfl h

theorem throw {fault : Fault} (hfault : fault.IsOfReading) (h : ¬p) :
    (throw fault : Attempt α).Yields s p := by
  refine ⟨iff_of_false ?_ h, fun other hother => ?_⟩
  · rintro ⟨a, ha, -⟩
    cases ha
  · cases hother
    exact hfault

theorem ofLogged {x : Logged α} (h : s x.value ↔ p) : (ofLogged x).Yields s p :=
  of_ok (result_ofLogged x) h

theorem ofChecked (record : String) {x : Checked α} (h : x.IsValid ↔ p) :
    (ofChecked record x).Succeeds p := by
  cases x with
  | valid a => exact .pure (iff_of_true trivial (h.1 (Checked.isValid_valid a)))
  | invalid violations =>
    exact .throw (.invalid record violations) fun hp => Checked.not_isValid_invalid _ (h.2 hp)

/-- A sequence of two readers comes to a result of a sort if both do, so long as the second one does
only after a result of the sort that is asked of the first. -/
theorem bind {s' : β → Prop} {f : α → Attempt β} (hx : x.Yields s p)
    (hf : ∀ a, x.result = .ok a → (f a).Yields s' (s a ∧ q)) :
    (x >>= f).Yields s' (p ∧ q) := by
  constructor
  · rw [← hx.exists_iff]
    constructor
    · rintro ⟨b, hb, hs'⟩
      obtain ⟨a, ha, hb⟩ := result_bind_eq_ok_iff.1 hb
      have hboth := (hf a ha).exists_iff.1 ⟨b, hb, hs'⟩
      exact ⟨⟨a, ha, hboth.1⟩, hboth.2⟩
    · rintro ⟨⟨a, ha, hs⟩, hq⟩
      obtain ⟨b, hb, hs'⟩ := (hf a ha).exists_iff.2 ⟨hs, hq⟩
      exact ⟨b, result_bind_eq_ok_iff.2 ⟨a, ha, hb⟩, hs'⟩
  · -- a fault is that of the first reader, or of the second after a result of the first
    intro fault hfault
    rw [result_bind] at hfault
    cases hresult : x.result with
    | ok a =>
      rw [hresult] at hfault
      exact (hf a hresult).isOfReading fault hfault
    | error other =>
      rw [hresult] at hfault
      cases hfault
      exact hx.isOfReading _ hresult

theorem bind_of_ok {f : α → Attempt β} {s' : β → Prop} {a : α} (ha : x.result = .ok a)
    (hf : (f a).Yields s' q) : (x >>= f).Yields s' q := by
  constructor
  · simpa [result_bind_of_ok ha] using hf.exists_iff
  · simpa [result_bind_of_ok ha] using hf.isOfReading

theorem validated (record : String) {x : Attempt (Checked α)} (h : x.Yields Checked.IsValid p) :
    (validated record x).Succeeds p :=
  (h.bind (q := True) fun _ _ => ofChecked record (and_true _).symm.to_iff).congr (and_true p).to_iff

theorem map (f : α → β) (h : x.Succeeds p) : (f <$> x).Succeeds p := by
  constructor
  · simpa using h.exists_iff
  · intro fault hfault
    rw [result_map] at hfault
    cases hresult : x.result with
    | ok a =>
      rw [hresult] at hfault
      cases hfault
    | error other =>
      rw [hresult] at hfault
      cases hfault
      exact h.isOfReading _ hresult

theorem mapList {f : α → Attempt β} {p : α → Prop} {as : List α} (h : ∀ a, (f a).Succeeds (p a)) :
    (mapList f as).Succeeds (∀ a ∈ as, p a) := by
  induction as with
  | nil => exact .pure (by simp)
  | cons a as ih =>
    rw [Attempt.mapList]
    refine (Yields.bind (h a) fun b _ => ?_).congr List.forall_mem_cons.symm
    exact (ih.bind (q := True) fun bs _ => .pure (by simp)).congr (by simp)

end Yields

end Attempt

end WorkflowGraph
