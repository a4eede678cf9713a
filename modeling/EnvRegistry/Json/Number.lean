import EnvRegistry.Decimal.Shortest
import EnvRegistry.Json.Basic

/-! # What a written number stands for

    A number without fraction and exponent is an integer as long as it fits 64
    bits, signed or unsigned; `-0` and everything else is a binary fraction. -/

namespace EnvRegistry.Json.Number

/-- The integer a number stands for, if it stands for one. -/
def toInt? (n : Number) : Option Int :=
  if n.fraction ≠ [] || n.exponent.isSome then none
  else if n.negative then
    if n.whole = 0 || UInt64.size / 2 < n.whole then none else some (-(n.whole : Int))
  else if n.whole < UInt64.size then some n.whole
  else none

/-- Cuts digits off the end of `n` until it fits 64 bits; also says how many, at most `fuel`. -/
def leading64 : (fuel : Nat) → Nat → Nat × Nat
  | 0, n => (n, 0)
  | fuel + 1, n =>
    if n < UInt64.size then (n, 0)
    else
      let (m, cut) := leading64 fuel (n / 10)
      (m, cut + 1)

/-- Appends digits to `n` as long as the result fits 64 bits; also says how many were taken. -/
def append64 (n : Nat) : List Nat → Nat × Nat
  | [] => (n, 0)
  | d :: ds =>
    if n * 10 + d < UInt64.size then
      let (m, taken) := append64 (n * 10 + d) ds
      (m, taken + 1)
    else (n, 0)

/-- The float `10 ^ k`. -/
def power10 (k : Nat) : Float := Float.ofScientific 1 false k

/-- The float `x * 10 ^ e`, with one rounding for each factor; nothing if it is too large. -/
def scale : (fuel : Nat) → Float → Int → Option Float
  | 0, x, _ => some x
  | fuel + 1, x, e =>
    if e.natAbs ≤ 308 then
      if 0 ≤ e then
        let y := x * power10 e.natAbs
        if y.isInf then none else some y
      else some (x / power10 e.natAbs)
    else if x == 0.0 then some x
    else if 0 ≤ e then none
    else scale fuel (x / power10 308) (e + 308)

/-- The float a number stands for, or nothing if it is too large. -/
def toFloat? (n : Number) : Option Float :=
  let (whole, cut) := leading64 (Nat.log2 n.whole + 1) n.whole
  let (digits, taken) := append64 whole n.fraction
  let exponent := n.exponent.getD 0 + cut - taken
  (scale 5 (Float.ofNat digits) exponent).map fun x => if n.negative then -x else x

end EnvRegistry.Json.Number
