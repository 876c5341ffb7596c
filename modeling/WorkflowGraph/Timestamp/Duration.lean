import WorkflowGraph.Fault
import WorkflowGraph.Timestamp.Basic

/-!
# Durations

A duration is a whole number of microseconds, which may be negative. It may be given as a number of
seconds, whose fraction is rounded to the nearest microsecond, a half going to the even neighbour.
Clocks stay within the years that have timestamps.
-/

namespace WorkflowGraph.Timestamp

/-- The duration nearest to a number of seconds. Whole seconds are exact; the part below a second is
a double of its own. -/
def durationOfFloat? (seconds : Float64) : Option Int := do
  let units ← seconds.units?
  let whole := units.tdiv Float64.unitsPerOne
  let part ← (Float64.ofUnits (units.tmod Float64.unitsPerOne * perSecond) 1).units?
  let total := whole * perSecond * Float64.unitsPerOne + part
  let rounded : Int := Float64.roundDiv total.natAbs Float64.unitsPerOne.natAbs
  some (if total < 0 then -rounded else rounded)

/-- The duration of a number of seconds that a value gives. -/
def durationOf : Json → Except Fault Int
  | .int seconds => .ok (seconds * perSecond)
  | .bool b => .ok (if b then perSecond else 0)
  | .float seconds =>
    match durationOfFloat? seconds with
    | some duration => .ok duration
    | none => .error .overflow
  | _ => .error .wrongType

/-- The time that a clock shows when some seconds have passed. -/
def afterSeconds (t : Timestamp) (seconds : Json) : Except Fault Timestamp := do
  match t.later? (← durationOf seconds) with
  | some u => pure u
  | none => throw .overflow

end WorkflowGraph.Timestamp
