/-! # Binary fractions of 64 bits

    A `Binary64` is a fraction whose numerator has at most 53 bits and whose denominator
    is a power of two, or no number at all.  Texts are read as the nearest such value,
    and values are written with a number of places or digits; both are worked out on
    fractions, so that nothing is rounded twice. -/

namespace EnvRegistry.Shell.Fraction

/-- The whole number nearest to a fraction, and the even one of two equally near ones. -/
def roundToEven (x : Rat) : Int :=
  let below := x.floor
  let rest := x - below
  if rest < 1 / 2 then below
  else if rest > 1 / 2 then below + 1
  else if below % 2 = 0 then below
  else below + 1

/-- A power of two. -/
def power2 (e : Int) : Rat :=
  if 0 ≤ e then (Nat.pow 2 e.toNat : Nat) else 1 / (Nat.pow 2 (-e).toNat : Nat)

/-- A power of ten. -/
def power10 (e : Int) : Rat :=
  if 0 ≤ e then (Nat.pow 10 e.toNat : Nat) else 1 / (Nat.pow 10 (-e).toNat : Nat)

/-- A number of 64 bits; the sign of zero counts. -/
inductive Binary64 where
  | finite (negative : Bool) (magnitude : Rat)
  | infinite (negative : Bool)
  | notANumber
  deriving DecidableEq, Repr

namespace Binary64

/-- The exponent of the last bit of a value with 53 bits that is near a fraction. -/
def lastBit (x : Rat) : Int :=
  let e := (Nat.log2 x.num.natAbs : Int) - Nat.log2 x.den - 53
  let e := if power2 (e + 53) ≤ x then e + 1 else e
  max e (-1074)

/-- The value nearest to a fraction that is not negative. -/
def ofMagnitude (negative : Bool) (x : Rat) : Binary64 :=
  if x = 0 then .finite negative 0
  else
    let e := lastBit x
    let m : Rat := (roundToEven (x / power2 e) : Int)
    let y := m * power2 e
    if power2 1024 ≤ y then .infinite negative else .finite negative y

/-- The value nearest to a fraction. -/
def ofRat (x : Rat) : Binary64 := ofMagnitude (x < 0) (if x < 0 then -x else x)

/-! ## Reading -/

/-- The number that decimal digits make. -/
def ofDigits (ds : List Char) : Nat := ds.foldl (fun n c => 10 * n + (c.toNat - '0'.toNat)) 0

/-- The exponent at the start of a text after its letter, and what follows. -/
def exponent? (cs : List Char) : Option (Int × List Char) :=
  let (negative, cs) := match cs with
    | '-' :: cs => (true, cs)
    | '+' :: cs => (false, cs)
    | cs => (false, cs)
  let ds := cs.takeWhile Char.isDigit
  if ds.isEmpty then none
  else
    let n : Int := ofDigits ds
    some (if negative then -n else n, cs.dropWhile Char.isDigit)

/-- The greatest exponent that makes a difference. -/
def greatestExponent : Int := 5000

/-- The decimal at the start of a text without a sign, and what follows. -/
def decimal? (cs : List Char) : Option (Rat × List Char) :=
  let whole := cs.takeWhile Char.isDigit
  let cs := cs.dropWhile Char.isDigit
  let (places, cs) := match cs with
    | '.' :: rest =>
      if whole.isEmpty && !rest.head?.any Char.isDigit then ([], cs)
      else (rest.takeWhile Char.isDigit, rest.dropWhile Char.isDigit)
    | _ => ([], cs)
  if whole.isEmpty && places.isEmpty then none
  else
    let x : Rat := (ofDigits (whole ++ places) : Nat)
    let (e, cs) := match cs with
      | letter :: rest =>
        if letter = 'e' || letter = 'E' then (exponent? rest).getD (0, cs) else (0, cs)
      | [] => (0, cs)
    let e := max (-greatestExponent) (min greatestExponent (e - places.length))
    some (x * power10 e, cs)

/-- What is left of a text that starts with a word, whatever the case of its letters. -/
def afterWord? (word : String) (cs : List Char) : Option (List Char) :=
  let n := word.length
  if (cs.take n).map Char.toLower = word.toList then some (cs.drop n) else none

/-- The value at the start of a text, and what follows. -/
def leading? (cs : List Char) : Option (Binary64 × List Char) :=
  let cs := cs.dropWhile fun c => c = ' ' || ('\t' ≤ c && c ≤ '\r')
  let (negative, cs) := match cs with
    | '-' :: cs => (true, cs)
    | '+' :: cs => (false, cs)
    | cs => (false, cs)
  match (afterWord? "infinity" cs).or (afterWord? "inf" cs), afterWord? "nan" cs with
  | some rest, _ => some (.infinite negative, rest)
  | none, some rest => some (.notANumber, rest)
  | none, none => (decimal? cs).map fun (x, rest) => (ofMagnitude negative x, rest)

/-! ## Writing -/

/-- The digits of a number, at least `n` of them. -/
def paddedDigits (n value : Nat) : List Char :=
  let ds := (toString value).toList
  List.replicate (n - ds.length) '0' ++ ds

/-- A fraction with a number of places; a point stands before them, and without any if `pointed`. -/
def fixedText (places : Nat) (pointed : Bool) (x : Rat) : String :=
  let ds := paddedDigits (places + 1) (roundToEven (x * power10 places)).toNat
  let whole := ds.take (ds.length - places)
  let rest := ds.drop (ds.length - places)
  String.ofList (whole ++ (if places = 0 && !pointed then [] else ['.']) ++ rest)

/-- The exponent of the first digit of a fraction, sought upwards or downwards. -/
def firstDigit (x : Rat) : Int :=
  if x = 0 then 0
  else
    let guess : Int := ((toString x.num.natAbs).length : Int) - (toString x.den).length
    if x < power10 guess then guess - 1 else guess

/-- A fraction rounded to so many digits after the first one: all digits, and the exponent of the
first one. -/
def scientificDigits (places : Nat) (x : Rat) : List Char × Int :=
  let e := firstDigit x
  let n := (roundToEven (x * power10 (places - e))).toNat
  if Nat.pow 10 (places + 1) ≤ n then (paddedDigits (places + 1) (n / 10), e + 1)
  else (paddedDigits (places + 1) n, e)

/-- An exponent with its sign and at least two digits. -/
def exponentText (e : Int) : String :=
  (if e < 0 then "e-" else "e+") ++ String.ofList (paddedDigits 2 e.natAbs)

/-- Digits with a point after the first one. -/
def pointedDigits (pointed : Bool) (ds : List Char) : String :=
  match ds with
  | [] => ""
  | [d] => String.ofList (if pointed then [d, '.'] else [d])
  | d :: rest => String.ofList (d :: '.' :: rest)

/-- A fraction with an exponent and a number of places. -/
def scientificText (places : Nat) (pointed : Bool) (x : Rat) : String :=
  let (ds, e) := scientificDigits places x
  pointedDigits pointed ds ++ exponentText e

/-- Characters without the zeros at their end. -/
def withoutEndZeros (cs : List Char) : List Char := (cs.reverse.dropWhile (· = '0')).reverse

/-- A fraction with a number of digits, with an exponent if it is very small or has more digits
before its point.  Zeros at the end are kept only if `pointed`. -/
def generalText (digits : Nat) (pointed : Bool) (x : Rat) : String :=
  let digits := max digits 1
  let (ds, e) := scientificDigits (digits - 1) x
  if e < -4 || (digits : Int) ≤ e then
    pointedDigits pointed (if pointed then ds else ds.take 1 ++ withoutEndZeros (ds.drop 1)) ++
      exponentText e
  else
    let places := ((digits : Int) - 1 - e).toNat
    let text := (fixedText places pointed x).toList
    if pointed || !text.contains '.' then String.ofList text
    else
      let short := withoutEndZeros text
      String.ofList (if short.getLast? = some '.' then short.dropLast else short)

end Binary64

end EnvRegistry.Shell.Fraction
