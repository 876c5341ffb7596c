import WorkflowGraph.Float64.Basic

/-!
# Rounding to doubles

The double nearest to a quotient of natural numbers; of two equally near the one with the even
significand. What is too large becomes infinite. Integers and decimal fractions are read through it.
-/

namespace WorkflowGraph.Float64

/-- The quotient `num / den` to the nearest whole number, a half going to the even neighbour. -/
def roundDiv (num den : Nat) : Nat :=
  let quotient := num / den
  let rest := 2 * (num % den)
  if rest > den || (rest == den && quotient % 2 == 1) then quotient + 1 else quotient

/-- The double `significand * 2 ^ exponent`, infinite if the parts are out of range. -/
def ofParts (negative : Bool) (significand : Nat) (exponent : Int) : Float64 :=
  if h : significand < Nat.pow 2 53 ∧ -1074 ≤ exponent ∧ exponent ≤ 971 ∧
      (exponent = -1074 ∨ Nat.pow 2 52 ≤ significand) then
    finite negative ⟨significand, exponent, h.1, h.2.1, h.2.2.1, h.2.2.2⟩
  else infinite negative

/-- Numerator and denominator of `num / (den * 2 ^ exponent)`. -/
def scaledDown (num den : Nat) (exponent : Int) : Nat × Nat :=
  if 0 ≤ exponent then (num, den * Nat.pow 2 exponent.toNat)
  else (num * Nat.pow 2 (-exponent).toNat, den)

/-- The exponent at which `num / den` has 53 binary digits before the point, but at least the
least exponent. -/
def exponentFor (num den : Nat) : Int :=
  let high : Int := (num.log2 : Int) - (den.log2 : Int) - 52
  let (n, d) := scaledDown num den high
  max (if n / d < Nat.pow 2 52 then high - 1 else high) (-1074)

/-- The double nearest to `num / den`, of the given sign. -/
def ofRatio (negative : Bool) (num den : Nat) : Float64 :=
  if num = 0 then finite negative .zero
  else
    let exponent := exponentFor num den
    let (n, d) := scaledDown num den exponent
    let significand := roundDiv n d
    if significand = Nat.pow 2 53 then ofParts negative (Nat.pow 2 52) (exponent + 1)
    else ofParts negative significand exponent

/-- The double nearest to a number of units of `2 ^ (-1074)`, divided. -/
def ofUnits (units : Int) (divisor : Nat) : Float64 :=
  ofRatio (units < 0) units.natAbs (divisor * unitsPerOne.natAbs)

/-- The double nearest to an integer. -/
def ofInt (n : Int) : Float64 :=
  ofRatio (n < 0) n.natAbs 1

/-- The double nearest to `digits * 10 ^ exponent`. Powers far outside the range of doubles are not
computed: the result is infinite or zero for them. -/
def ofDecimal (negative : Bool) (digits : Nat) (exponent : Int) : Float64 :=
  if digits = 0 then finite negative .zero
  else if exponent > 400 then infinite negative
  else if exponent + (digits.log2 / 3 + 1 : Nat) < -400 then finite negative .zero
  else if 0 ≤ exponent then ofRatio negative (digits * Nat.pow 10 exponent.toNat) 1
  else ofRatio negative digits (Nat.pow 10 (-exponent).toNat)

end WorkflowGraph.Float64
