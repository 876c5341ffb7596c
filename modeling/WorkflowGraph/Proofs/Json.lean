import WorkflowGraph.Json.Basic

/-!
# Finite values and equality

A value is finite if no number in it is infinite or undefined. Main statements:
`storable_of_isFinite`, such a value is stored as it is; `same_self_of_isDefined`, a value without
undefined numbers equals itself; and `same_trans`, what equals a value equals all that this one
equals, also where numbers are compared across their two forms.
-/

namespace WorkflowGraph

/-! ## Equality of doubles -/

namespace Float64

/-- The number is not NaN. -/
def isDefined : Float64 → Bool
  | nan _ => false
  | _ => true

variable {x y z : Float64}

theorem exists_units? (s : Bool) (m : Magnitude) : ∃ u, (finite s m).units? = some u := by
  cases s <;> exact ⟨_, rfl⟩

/-- Equal numbers are finite and of equal size, or one number that is not finite. -/
theorem same_iff : x.same y = true ↔
    (∃ u, x.units? = some u ∧ y.units? = some u) ∨ x = y ∧ x.units? = none ∧ x ≠ nan false := by
  cases x with
  | nan a => cases y <;> cases a <;> simp [same, units?]
  | infinite s => cases y <;> simp [same, units?]
  | finite s m =>
    obtain ⟨u, hu⟩ := exists_units? s m
    cases y with
    | finite t n =>
      obtain ⟨v, hv⟩ := exists_units? t n
      simpa [same, hu, hv] using eq_comm
    | _ => simp [same, units?]

theorem same_self (h : x.isDefined = true) : x.same x = true := by
  cases x with
  | nan _ => cases h
  | infinite s => exact same_iff.2 (Or.inr ⟨rfl, rfl, Float64.noConfusion⟩)
  | finite s m =>
    obtain ⟨u, hu⟩ := exists_units? s m
    exact same_iff.2 (Or.inl ⟨u, hu, hu⟩)

theorem same_trans (hxy : x.same y = true) (hyz : y.same z = true) : x.same z = true := by
  rw [same_iff] at hxy hyz ⊢
  rcases hxy with ⟨u, hx, hy⟩ | ⟨rfl, -, -⟩
  · rcases hyz with ⟨v, hy', hz⟩ | ⟨rfl, -, -⟩
    · exact Or.inl ⟨u, hx, by rw [hz, ← hy', hy]⟩
    · exact Or.inl ⟨u, hx, hy⟩
  · exact hyz

/-- Equal numbers equal the same integers. -/
theorem toInt?_eq_of_same (h : x.same y = true) : x.toInt? = y.toInt? := by
  rw [same_iff] at h
  rcases h with ⟨u, hx, hy⟩ | ⟨rfl, -, -⟩
  · rw [toInt?, toInt?, hx, hy]
  · rfl

theorem units?_of_toInt? {n : Int} (h : x.toInt? = some n) : x.units? = some (n * unitsPerOne) := by
  unfold toInt? at h
  obtain ⟨u, hu, hwhole⟩ := Option.bind_eq_some_iff.1 h
  split at hwhole
  · next hdvd => rw [hu, ← Option.some.inj hwhole, Int.ediv_mul_cancel_of_emod_eq_zero hdvd]
  · cases hwhole

/-- Numbers that equal one integer are equal. -/
theorem same_of_toInt? {n : Int} (hx : x.toInt? = some n) (hy : y.toInt? = some n) :
    x.same y = true :=
  same_iff.2 (Or.inl ⟨_, units?_of_toInt? hx, units?_of_toInt? hy⟩)

end Float64

namespace Json

/-! ## Finite values -/

mutual

/-- No number in the value is infinite or undefined. -/
def isFinite : Json → Bool
  | .float x => x.isFinite
  | .arr items => areFiniteItems items
  | .obj fields => areFiniteFields fields
  | _ => true

/-- `isFinite` for each item. -/
def areFiniteItems : List Json → Bool
  | [] => true
  | x :: items => isFinite x && areFiniteItems items

/-- `isFinite` for the value of each field. -/
def areFiniteFields : List (String × Json) → Bool
  | [] => true
  | (_, x) :: fields => isFinite x && areFiniteFields fields

end

@[simp] theorem areFiniteFields_eq_true_iff {fields : Fields} :
    areFiniteFields fields = true ↔ ∀ f ∈ fields, f.2.isFinite = true := by
  induction fields with
  | nil => simp [areFiniteFields]
  | cons f fields ih => simp [areFiniteFields, ih]

mutual

/-- A finite value is stored as it is. -/
theorem storable_of_isFinite : (v : Json) → v.isFinite = true → v.storable = v
  | .null, _ => rfl
  | .bool _, _ => rfl
  | .int _, _ => rfl
  | .float x, h => by
    have h : x.isFinite = true := h
    simp [storable, h]
  | .str _, _ => rfl
  | .arr items, h => congrArg Json.arr (storableItems_of_areFinite items h)
  | .obj fields, h => congrArg Json.obj (storableFields_of_areFinite fields h)

theorem storableItems_of_areFinite :
    (items : List Json) → areFiniteItems items = true → storableItems items = items
  | [], _ => rfl
  | x :: items, h => by
    rw [areFiniteItems, Bool.and_eq_true] at h
    rw [storableItems, storable_of_isFinite x h.1, storableItems_of_areFinite items h.2]

theorem storableFields_of_areFinite :
    (fields : List (String × Json)) → areFiniteFields fields = true →
      storableFields fields = fields
  | [], _ => rfl
  | (k, x) :: fields, h => by
    rw [areFiniteFields, Bool.and_eq_true] at h
    rw [storableFields, storable_of_isFinite x h.1, storableFields_of_areFinite fields h.2]

end

theorem storableFields_eq_map (fields : Fields) :
    storableFields fields = fields.map fun f => (f.1, f.2.storable) := by
  induction fields with
  | nil => rfl
  | cons f fields ih => simp [storableFields, ih]

mutual

/-- What is stored is nested as deep as before. -/
theorem height_storable : (v : Json) → v.storable.height = v.height
  | .null => rfl
  | .bool _ => rfl
  | .int _ => rfl
  | .float x => by
    rw [storable]
    split <;> rfl
  | .str _ => rfl
  | .arr items => congrArg (· + 1) (height_storableItems items)
  | .obj fields => congrArg (· + 1) (height_storableFields fields)

theorem height_storableItems :
    (items : List Json) → heightOfItems (storableItems items) = heightOfItems items
  | [] => rfl
  | x :: items => by
    rw [storableItems, heightOfItems, heightOfItems, height_storable x, height_storableItems items]

theorem height_storableFields :
    (fields : List (String × Json)) →
      heightOfFields (storableFields fields) = heightOfFields fields
  | [] => rfl
  | (k, x) :: fields => by
    rw [storableFields, heightOfFields, heightOfFields, height_storable x,
      height_storableFields fields]

end

/-- The values of fields are nested no deeper than the object of them. -/
theorem height_le_heightOfFields {fields : Fields} {f : String × Json} (h : f ∈ fields) :
    f.2.height ≤ heightOfFields fields := by
  induction fields with
  | nil => cases h
  | cons x fields ih =>
    obtain ⟨k, v⟩ := x
    rw [heightOfFields]
    rcases List.mem_cons.1 h with rfl | h
    · exact Nat.le_max_left _ _
    · exact Nat.le_trans (ih h) (Nat.le_max_right _ _)

/-! ## Values without undefined numbers -/

mutual

/-- The doubles in the value. -/
def doubles : Json → List Float64
  | .float x => [x]
  | .arr items => doublesOfItems items
  | .obj fields => doublesOfFields fields
  | _ => []

/-- `doubles` of all items. -/
def doublesOfItems : List Json → List Float64
  | [] => []
  | x :: items => doubles x ++ doublesOfItems items

/-- `doubles` of the values of all fields. -/
def doublesOfFields : List (String × Json) → List Float64
  | [] => []
  | (_, x) :: fields => doubles x ++ doublesOfFields fields

end

/-- No number in the value is NaN. -/
def isDefined (v : Json) : Bool :=
  v.doubles.all Float64.isDefined

theorem isDefined_obj_iff {fields : Fields} :
    (Json.obj fields).isDefined = true ↔ ∀ f ∈ fields, f.2.isDefined = true := by
  rw [isDefined, doubles]
  induction fields with
  | nil => simp [doublesOfFields]
  | cons f fields ih =>
    rw [doublesOfFields, List.all_append, Bool.and_eq_true, ih, List.forall_mem_cons]
    rfl

mutual

theorem isFinite_eq_all_doubles : (v : Json) → v.isFinite = v.doubles.all Float64.isFinite
  | .null | .bool _ | .int _ | .str _ => rfl
  | .float x => (Bool.and_true x.isFinite).symm
  | .arr items => areFiniteItems_eq_all_doubles items
  | .obj fields => areFiniteFields_eq_all_doubles fields

theorem areFiniteItems_eq_all_doubles :
    (items : List Json) → areFiniteItems items = (doublesOfItems items).all Float64.isFinite
  | [] => rfl
  | x :: items => by
    rw [areFiniteItems, doublesOfItems, List.all_append, isFinite_eq_all_doubles x,
      areFiniteItems_eq_all_doubles items]

theorem areFiniteFields_eq_all_doubles :
    (fields : List (String × Json)) →
      areFiniteFields fields = (doublesOfFields fields).all Float64.isFinite
  | [] => rfl
  | (_, x) :: fields => by
    rw [areFiniteFields, doublesOfFields, List.all_append, isFinite_eq_all_doubles x,
      areFiniteFields_eq_all_doubles fields]

end

theorem isDefined_of_isFinite {v : Json} (h : v.isFinite = true) : v.isDefined = true := by
  rw [isFinite_eq_all_doubles, List.all_eq_true] at h
  rw [isDefined, List.all_eq_true]
  intro x hx
  have hfinite := h x hx
  cases x with
  | nan _ => cases hfinite
  | _ => rfl

/-! ## Equality -/

mutual

/-- A value without undefined numbers equals itself. -/
theorem same_self_of_isDefined : (v : Json) → v.isDefined = true → v.same v = true
  | .null, _ => by simp [same]
  | .bool b, _ => by simp [same, number?, sameNumber]
  | .int n, _ => by simp [same, number?, sameNumber]
  | .float x, h => by
    have hx : x.isDefined = true := by simpa [isDefined, doubles] using h
    simpa [same, number?, sameNumber] using Float64.same_self hx
  | .str s, _ => by simp [same]
  | .arr items, h => by
    rw [same]
    exact sameItems_self items h
  | .obj fields, h => by
    rw [same, beq_self_eq_true, Bool.true_and]
    exact sameFields_of_subset fields fields h fun f hf => hf

theorem sameItems_self :
    (items : List Json) → (doublesOfItems items).all Float64.isDefined = true →
      sameItems items items = true
  | [], _ => by rw [sameItems]
  | x :: items, h => by
    rw [doublesOfItems, List.all_append, Bool.and_eq_true] at h
    rw [sameItems, same_self_of_isDefined x h.1, sameItems_self items h.2]
    rfl

/-- Some of the fields of an object have equal ones in it. -/
theorem sameFields_of_subset :
    (some all : List (String × Json)) → (doublesOfFields some).all Float64.isDefined = true →
      (∀ f ∈ some, f ∈ all) → sameFields some all = true
  | [], _, _, _ => by rw [sameFields]
  | (k, x) :: rest, all, h, hsub => by
    rw [doublesOfFields, List.all_append, Bool.and_eq_true] at h
    rw [sameFields, Bool.and_eq_true, List.any_eq_true]
    refine ⟨⟨(k, x), hsub _ List.mem_cons_self, ?_⟩,
      sameFields_of_subset rest all h.2 fun f hf => hsub f (List.mem_cons_of_mem _ hf)⟩
    rw [beq_self_eq_true, same_self_of_isDefined x h.1]
    rfl

end

/-- A finite value equals itself. -/
theorem same_self (v : Json) (h : v.isFinite = true) : v.same v = true :=
  same_self_of_isDefined v (isDefined_of_isFinite h)

theorem sameFields_eq_true_iff {a b : Fields} :
    sameFields a b = true ↔ ∀ f ∈ a, ∃ g ∈ b, g.1 = f.1 ∧ f.2.same g.2 = true := by
  induction a with
  | nil => simp [sameFields]
  | cons f a ih =>
    rw [sameFields, Bool.and_eq_true, ih, List.any_eq_true, List.forall_mem_cons]
    simp only [Bool.and_eq_true, beq_iff_eq]

/-! ## What equal values equal -/

theorem sameNumber_trans {m n k : Int ⊕ Float64} (hmn : sameNumber m n = true)
    (hnk : sameNumber n k = true) : sameNumber m k = true := by
  cases m <;> cases n <;> cases k <;> simp only [sameNumber, beq_iff_eq] at hmn hnk ⊢
  · exact hmn.trans hnk
  · rw [hnk, hmn]
  · exact Option.some.inj (hmn.symm.trans hnk)
  · rw [← Float64.toInt?_eq_of_same hnk, hmn]
  · rw [hmn, hnk]
  · exact Float64.same_of_toInt? hmn hnk
  · rw [Float64.toInt?_eq_of_same hmn, hnk]
  · exact Float64.same_trans hmn hnk

theorem same_iff_of_number? {v u : Json} {n : Int ⊕ Float64} (hn : v.number? = some n) :
    v.same u = true ↔ ∃ m, u.number? = some m ∧ sameNumber n m = true := by
  have hsame : v.same u = (u.number?.map (sameNumber n)).getD false := by
    cases v with
    | bool b => cases hn; rw [same]
    | int i => cases hn; rw [same]
    | float x => cases hn; rw [same]
    | _ => cases hn
  rw [hsame]
  cases u.number? <;> simp

theorem same_str_iff {v : Json} {s : String} : v.same (.str s) = true ↔ v = .str s := by
  cases v <;> simp [same, number?]

theorem str_same_iff {v : Json} {s : String} : (Json.str s).same v = true ↔ .str s = v := by
  cases v <;> simp [same]

theorem null_same_iff {v : Json} : Json.null.same v = true ↔ .null = v := by
  cases v <;> simp [same]

theorem arr_same_iff {a : List Json} {v : Json} :
    (Json.arr a).same v = true ↔ ∃ b, .arr b = v ∧ sameItems a b = true := by
  cases v <;> simp [same]

theorem obj_same_iff {a : Fields} {v : Json} :
    (Json.obj a).same v = true ↔ ∃ b, .obj b = v ∧ a.length = b.length ∧ sameFields a b = true := by
  cases v <;> simp [same]

/-- What equals a number is one, and so is what that equals. -/
theorem same_trans_of_number? {v u t : Json} {n : Int ⊕ Float64} (hn : v.number? = some n)
    (hvu : v.same u = true) (hut : u.same t = true) : v.same t = true := by
  rw [same_iff_of_number? hn] at hvu ⊢
  obtain ⟨m, hm, hnm⟩ := hvu
  obtain ⟨k, hk, hmk⟩ := (same_iff_of_number? hm).1 hut
  exact ⟨k, hk, sameNumber_trans hnm hmk⟩

mutual

/-- A value equals all that a value equals which it equals. -/
theorem same_trans : (v u t : Json) → v.same u = true → u.same t = true → v.same t = true
  | .null, _, _, hvu, hut => by rwa [← null_same_iff.1 hvu] at hut
  | .bool _, _, _, hvu, hut => same_trans_of_number? rfl hvu hut
  | .int _, _, _, hvu, hut => same_trans_of_number? rfl hvu hut
  | .float _, _, _, hvu, hut => same_trans_of_number? rfl hvu hut
  | .str _, _, _, hvu, hut => by rwa [← str_same_iff.1 hvu] at hut
  | .arr a, u, t, hvu, hut => by
    obtain ⟨b, rfl, hab⟩ := arr_same_iff.1 hvu
    obtain ⟨c, rfl, hbc⟩ := arr_same_iff.1 hut
    exact arr_same_iff.2 ⟨c, rfl, sameItems_trans a b c hab hbc⟩
  | .obj a, u, t, hvu, hut => by
    obtain ⟨b, rfl, hlength, hab⟩ := obj_same_iff.1 hvu
    obtain ⟨c, rfl, hlength', hbc⟩ := obj_same_iff.1 hut
    exact obj_same_iff.2 ⟨c, rfl, hlength.trans hlength', sameFields_trans a b c hab hbc⟩

theorem sameItems_trans : (a b c : List Json) → sameItems a b = true → sameItems b c = true →
    sameItems a c = true
  | [], [], _, _, hbc => hbc
  | [], _ :: _, _, hab, _ => by simp [sameItems] at hab
  | _ :: _, [], _, hab, _ => by simp [sameItems] at hab
  | _ :: _, _ :: _, [], _, hbc => by simp [sameItems] at hbc
  | x :: a, y :: b, z :: c, hab, hbc => by
    rw [sameItems, Bool.and_eq_true] at hab hbc ⊢
    exact ⟨same_trans x y z hab.1 hbc.1, sameItems_trans a b c hab.2 hbc.2⟩

theorem sameFields_trans : (a b c : List (String × Json)) → sameFields a b = true →
    sameFields b c = true → sameFields a c = true
  | [], _, _, _, _ => by rw [sameFields]
  | (k, x) :: a, b, c, hab, hbc => by
    rw [sameFields, Bool.and_eq_true, List.any_eq_true] at hab ⊢
    obtain ⟨⟨f, hf, hsame⟩, hrest⟩ := hab
    rw [Bool.and_eq_true, beq_iff_eq] at hsame
    -- the field of `c` is the one that equals the field of `b` with this key
    obtain ⟨g, hg, hkey, hsame'⟩ := sameFields_eq_true_iff.1 hbc f hf
    refine ⟨⟨g, hg, ?_⟩, sameFields_trans a b c hrest hbc⟩
    rw [Bool.and_eq_true, beq_iff_eq]
    exact ⟨hkey.trans hsame.1, same_trans x f.2 g.2 hsame.2 hsame'⟩

end

end Json

end WorkflowGraph
