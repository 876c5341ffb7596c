/-!
# Doubles

A double is held by its parts, not by machine words, so that every operation on it is exact
arithmetic on integers. A finite double is `significand * 2 ^ exponent` with a sign; the four
conditions of `Magnitude` single out one such form for each value. No arithmetic is done on doubles
here: they are read, compared and written.
-/

namespace WorkflowGraph

/-- The size of a finite double, `significand * 2 ^ exponent`. -/
structure Magnitude where
  /-- The significant digits, as a whole number. -/
  significand : Nat
  /-- The power of two that the significand is scaled by. -/
  exponent : Int
  /-- There are at most 53 significant binary digits. -/
  significand_lt : significand < Nat.pow 2 53
  /-- The least positive double is `2 ^ (-1074)`. -/
  le_exponent : -1074 ≤ exponent
  /-- The greatest double is below `2 ^ 1024`. -/
  exponent_le : exponent ≤ 971
  /-- All 53 digits are in use unless the exponent is already the least. -/
  normal : exponent = -1074 ∨ Nat.pow 2 52 ≤ significand
  deriving DecidableEq

/-- A double of binary64. -/
inductive Float64 where
  /-- Not a number. There are two such values, told apart only where numbers are compared: one
  equals itself, the other equals nothing. -/
  | nan (equalsItself : Bool)
  /-- Infinity, of either sign. -/
  | infinite (negative : Bool)
  /-- A finite number; zero has a sign too. -/
  | finite (negative : Bool) (magnitude : Magnitude)
  deriving DecidableEq

namespace Magnitude

/-- Zero. -/
def zero : Magnitude :=
  ⟨0, -1074, by decide, by decide, by decide, by decide⟩

instance : Inhabited Magnitude := ⟨zero⟩

/-- The size in units of the least positive double. -/
def units (m : Magnitude) : Nat :=
  m.significand * Nat.pow 2 (m.exponent + 1074).toNat

end Magnitude

namespace Float64

instance : Inhabited Float64 := ⟨finite false .zero⟩

/-- Neither infinite nor NaN. -/
def isFinite : Float64 → Bool
  | finite _ _ => true
  | _ => false

/-- A finite double as a whole number of units of `2 ^ (-1074)`. -/
def units? : Float64 → Option Int
  | finite false m => some m.units
  | finite true m => some (-m.units)
  | _ => none

/-- The number of units of `2 ^ (-1074)` in one. -/
def unitsPerOne : Int := Int.pow 2 1074

/-- Numeric equality: both zeros are equal, and NaN equals no number. -/
def same : Float64 → Float64 → Bool
  | nan a, nan b => a && b
  | infinite s, infinite t => s == t
  | finite s m, finite t n => (finite s m).units? == (finite t n).units?
  | _, _ => false

/-- The integer that a double equals, if there is one. -/
def toInt? (x : Float64) : Option Int :=
  x.units?.bind fun u => if u % unitsPerOne = 0 then some (u / unitsPerOne) else none

/-- The order of numbers; NaN is related to nothing. -/
def le : Float64 → Float64 → Bool
  | nan _, _ => false
  | _, nan _ => false
  | infinite true, _ => true
  | _, infinite false => true
  | finite s m, finite t n =>
    match (finite s m).units?, (finite t n).units? with
    | some a, some b => a ≤ b
    | _, _ => false
  | _, _ => false

end Float64

end WorkflowGraph
