import WorkflowGraph.Float64.Rounding
import WorkflowGraph.Float64.Shortest
import WorkflowGraph.Text.Digit

/-!
# Doubles as text

A double is written with the fewest digits that read back. The point stands where it falls if the
leading digit has an exponent from -4 to 15, with `.0` after a whole number; otherwise the number is
written with an exponent of a sign and at least two digits (`1e+16`, `2.5e-07`).
-/

namespace WorkflowGraph

/-- A decimal in positional form, given its digits. -/
def Decimal.positional (d : Decimal) (ds : List Char) : List Char :=
  let point : Int := ds.length + d.exponent
  if 0 ≤ d.exponent then ds ++ List.replicate d.exponent.toNat '0' ++ ['.', '0']
  else if 0 < point then ds.take point.toNat ++ '.' :: ds.drop point.toNat
  else '0' :: '.' :: List.replicate (-point).toNat '0' ++ ds

/-- A decimal with an exponent, given its digits and the exponent of the leading one. -/
def Decimal.scientific (ds : List Char) (leading : Int) : List Char :=
  let fraction := if ds.length ≤ 1 then [] else '.' :: ds.drop 1
  ds.take 1 ++ fraction ++ ['e', if leading < 0 then '-' else '+'] ++
    (Text.padded 2 leading.natAbs).toList

/-- The text of a decimal. -/
def Decimal.text (d : Decimal) : String :=
  let ds := Nat.toDigits 10 d.digits
  let leading : Int := ds.length + d.exponent - 1
  String.ofList
    (if -4 ≤ leading ∧ leading < 16 then d.positional ds else Decimal.scientific ds leading)

namespace Float64

/-- The text of a double; the texts of infinity and NaN are given. -/
def textWith (infinity notANumber : String) : Float64 → String
  | nan _ => notANumber
  | infinite negative => (if negative then "-" else "") ++ infinity
  | finite negative m => (if negative then "-" else "") ++ m.shortest.text

example : (ofDecimal false 7 (-1)).textWith "inf" "nan" = "0.7" := by decide +kernel
example : (ofDecimal true 0 0).textWith "inf" "nan" = "-0.0" := by decide +kernel
example : (ofDecimal false 1 16).textWith "inf" "nan" = "1e+16" := by decide +kernel
example : (ofDecimal false 1 15).textWith "inf" "nan" = "1000000000000000.0" := by
  decide +kernel
example : (ofDecimal false 3 (-324)).textWith "inf" "nan" = "5e-324" := by decide +kernel
example : (ofDecimal false 25 (-8)).textWith "inf" "nan" = "2.5e-07" := by decide +kernel
example : (ofInt 9007199254740993).textWith "inf" "nan" = "9007199254740992.0" := by
  decide +kernel

end Float64

end WorkflowGraph
