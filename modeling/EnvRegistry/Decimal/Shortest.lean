/-! # The shortest decimal of a binary fraction

    A finite binary64 value is `m * 2 ^ q`.  `Binary.shortest` selects the decimal
    with the fewest digits that lies among the reals rounding to that value, the
    nearest such decimal if there are two, and of two equally near ones the even
    one.  All comparisons are made on naturals, so nothing is rounded on the way.

    `scientificText` lays a selected decimal out: positionally while the point
    falls inside or next to at most sixteen digits or follows at most four zeros,
    and otherwise with an exponent, which has a sign in every case. -/

namespace EnvRegistry.Decimal

/-- A finite non-negative binary64 value, `m * 2 ^ q`. -/
structure Binary where
  m : Nat
  q : Int
  /-- The gap to the value below is half the gap to the value above. -/
  narrowBelow : Bool

/-- The magnitude encoded by the bits of a finite value. -/
def Binary.ofBits (b : UInt64) : Binary :=
  let e := ((b >>> 52) &&& 0x7FF).toNat
  let f := (b &&& 0xFFFFFFFFFFFFF).toNat
  if e = 0 then ⟨f, -1074, false⟩ else ⟨0x10000000000000 + f, (e : Int) - 1075, f = 0 && 1 < e⟩

/-- The decimal `digits * 10 ^ exp`. -/
structure Dec where
  digits : Nat
  exp : Int
  deriving Repr, DecidableEq

/-- Compares `a * 10 ^ i` with `n * 2 ^ j`. -/
def compareScaled (a : Nat) (i : Int) (n : Nat) (j : Int) : Ordering :=
  compare (a * Nat.pow 10 i.toNat * Nat.pow 2 (-j).toNat)
    (n * Nat.pow 2 j.toNat * Nat.pow 10 (-i).toNat)

/-- Whether `d` lies among the reals that round to `x`; the ends belong to it when `m` is even. -/
def Binary.readsBack (x : Binary) (d : Dec) : Bool :=
  let lo := if x.narrowBelow then 4 * x.m - 1 else 4 * x.m - 2
  let above := compareScaled d.digits d.exp lo (x.q - 2)
  let below := compareScaled d.digits d.exp (4 * x.m + 2) (x.q - 2)
  let ends := x.m % 2 = 0
  (above = .gt || (ends && above = .eq)) && (below = .lt || (ends && below = .eq))

/-- The greatest multiple of `10 ^ e` that is at most `x`, in units of `10 ^ e`. -/
def Binary.floorAt (x : Binary) (e : Int) : Nat :=
  (x.m * Nat.pow 2 x.q.toNat * Nat.pow 10 (-e).toNat) /
    (Nat.pow 2 (-x.q).toNat * Nat.pow 10 e.toNat)

/-- The decimal on the grid of `10 ^ e` that reads back to `x`, if there is one. -/
def Binary.onGrid? (x : Binary) (e : Int) : Option Dec :=
  let a := x.floorAt e
  let lower : Dec := ⟨a, e⟩
  let upper : Dec := ⟨a + 1, e⟩
  match x.readsBack lower, x.readsBack upper with
  | true, true =>
    -- Twice the value against the sum of the two candidates.
    match compareScaled (2 * a + 1) e (2 * x.m) x.q with
    | .gt => some lower
    | .lt => some upper
    | .eq => some (if a % 2 = 0 then lower else upper)
  | true, false => some lower
  | false, true => some upper
  | false, false => none

/-- A number of decimal places that is at least that of the integer part of any binary64 value. -/
def widest : Nat := 310

/-- The least `k ≤ start` such that `x < 10 ^ k`, sought downwards for at most `fuel` steps. -/
def Binary.scaleFrom (x : Binary) : (fuel : Nat) → Int → Int
  | 0, k => k
  | fuel + 1, k =>
    if compareScaled 1 (k - 1) x.m x.q = .gt then x.scaleFrom fuel (k - 1) else k

/-- Removes trailing zeros of the digits, at most `fuel` of them. -/
def Dec.strip : (fuel : Nat) → Dec → Dec
  | 0, d => d
  | fuel + 1, d =>
    if d.digits ≠ 0 && d.digits % 10 = 0 then strip fuel ⟨d.digits / 10, d.exp + 1⟩ else d

/-- The decimal with the fewest digits that reads back to `x`. -/
def Binary.shortest (x : Binary) : Dec :=
  let k := x.scaleFrom (2 * widest + 20) widest
  match (List.range 17).findSome? (fun (n : Nat) => x.onGrid? (k - ((n : Int) + 1))) with
  | some d => d.strip 20
  | none => ⟨x.m * Nat.pow 5 (-x.q).toNat * Nat.pow 2 x.q.toNat, min x.q 0⟩

/-- Lays a decimal out, with a fraction or an exponent in every case. -/
def Dec.text (d : Dec) : String :=
  let ds := (toString d.digits).toList
  let point : Int := ds.length + d.exp
  if 0 ≤ d.exp && point ≤ 16 then
    String.ofList (ds ++ List.replicate d.exp.toNat '0' ++ ['.', '0'])
  else if 0 < point && point ≤ 16 then
    String.ofList (ds.take point.toNat ++ '.' :: ds.drop point.toNat)
  else if -5 < point && point ≤ 0 then
    String.ofList ('0' :: '.' :: (List.replicate (-point).toNat '0' ++ ds))
  else
    let mantissa := match ds with
      | [] => []
      | [c] => [c]
      | c :: rest => c :: '.' :: rest
    String.ofList mantissa ++ (if 0 < point then "e+" else "e") ++ toString (point - 1)

/-- The text of a finite float: the fewest digits that read back, and always a point or an
exponent. -/
def scientificText (x : Float) : String :=
  let sign := if x.toBits >>> 63 = 1 then "-" else ""
  let b := Binary.ofBits (x.toBits &&& 0x7FFFFFFFFFFFFFFF)
  if b.m = 0 then sign ++ "0.0" else sign ++ b.shortest.text

end EnvRegistry.Decimal
