import WorkflowGraph.Float64.Basic

/-!
# Shortest decimal digits

The decimal with the fewest digits among those that read back as a given double, and the nearest to
it of these. For 1, 2, … 17 digits the two neighbours of the double on that decimal grid are tested
in exact arithmetic; the first grid with a hit wins.
-/

namespace WorkflowGraph

/-- The decimal `digits * 10 ^ exponent`. -/
structure Decimal where
  /-- All digits, as one number. -/
  digits : Nat
  /-- The power of ten of the last digit. -/
  exponent : Int
  deriving DecidableEq, Inhabited

namespace Decimal

/-- The same decimal without zeros at its end, dividing at most `fuel` times by ten. -/
def strip : Nat → Decimal → Decimal
  | 0, d => d
  | fuel + 1, d =>
    if d.digits ≠ 0 ∧ d.digits % 10 = 0 then strip fuel ⟨d.digits / 10, d.exponent + 1⟩ else d

end Decimal

namespace Magnitude

/-- A magnitude, the ends of the interval that rounds to it, and the value of one step on a decimal
grid, all in one unit that makes them whole numbers. -/
structure Scaled where
  value : Nat
  /-- The lower end of the interval. -/
  low : Nat
  /-- The upper end of the interval. -/
  high : Nat
  /-- One step of the grid. -/
  step : Nat

/-- The magnitude on the grid of multiples of `10 ^ k`. The unit is a quarter of the last binary
digit, further divided as far as the grid needs it. Below a power of two the doubles lie twice as
dense, so the interval is shorter there. -/
def scaled (m : Magnitude) (k : Int) : Scaled :=
  let twos := Nat.pow 2 (m.exponent - 2).toNat
  let tens := Nat.pow 10 (-k).toNat
  let below := if m.significand = Nat.pow 2 52 ∧ m.exponent ≠ -1074 then 1 else 2
  ⟨4 * m.significand * twos * tens, (4 * m.significand - below) * twos * tens,
    (4 * m.significand + 2) * twos * tens, Nat.pow 10 k.toNat * Nat.pow 2 (2 - m.exponent).toNat⟩

/-- The exponent of the leading decimal digit. -/
def leadingExponent (m : Magnitude) : Int :=
  let guess : Int := (((m.significand.log2 : Int) + m.exponent) * 30103) / 100000
  let s := m.scaled guess
  if s.value < s.step then guess - 1
  else if 10 * s.step ≤ s.value then guess + 1
  else guess

/-- The multiple of `10 ^ k` nearest to the magnitude among those that read back as it, if there is
one. The ends of the interval read back exactly if the significand is even. -/
def hit? (m : Magnitude) (k : Int) : Option Decimal :=
  let s := m.scaled k
  let below := s.value / s.step
  let readsBack (n : Nat) : Bool :=
    if m.significand % 2 = 0 then s.low ≤ n * s.step && n * s.step ≤ s.high
    else s.low < n * s.step && n * s.step < s.high
  match readsBack below, readsBack (below + 1) with
  | false, false => none
  | true, false => some ⟨below, k⟩
  | false, true => some ⟨below + 1, k⟩
  | true, true =>
    let toBelow := s.value - below * s.step
    let toAbove := (below + 1) * s.step - s.value
    if toBelow < toAbove || (toBelow == toAbove && below % 2 == 0) then some ⟨below, k⟩
    else some ⟨below + 1, k⟩

/-- The shortest decimal that reads back as the magnitude. -/
def shortest (m : Magnitude) : Decimal :=
  if m.significand = 0 then ⟨0, 0⟩
  else
    let leading := m.leadingExponent
    let found := (List.range 17).findSome? fun (n : Nat) => m.hit? (leading - n)
    (found.getD ⟨0, 0⟩).strip 17

end Magnitude

end WorkflowGraph
