/-! # What unquoted scalars stand for

    An unquoted scalar may stand for nothing, for a truth value or for a number; all
    other texts stand for themselves. -/

namespace EnvRegistry.Yaml

/-- The spellings of nothing. -/
def nullSpellings : List String := ["null", "Null", "NULL", "~"]

/-- The spellings of the truth values. -/
def boolSpellings : List String := ["true", "True", "TRUE", "false", "False", "FALSE"]

/-- The spellings of the floats that have no digits. -/
def floatSpellings : List String :=
  [".inf", ".Inf", ".INF", "+.inf", "+.Inf", "+.INF", "-.inf", "-.Inf", "-.INF",
    ".nan", ".NaN", ".NAN"]

/-! ## Integers -/

/-- The value of a digit. -/
def digitValue? (base : Nat) (c : Char) : Option Nat :=
  let v : Option Nat :=
    if '0' ≤ c ∧ c ≤ '9' then some (c.toNat - '0'.toNat)
    else if 'a' ≤ c ∧ c ≤ 'z' then some (c.toNat - 'a'.toNat + 10)
    else if 'A' ≤ c ∧ c ≤ 'Z' then some (c.toNat - 'A'.toNat + 10)
    else none
  v.filter (· < base)

/-- The number that digits stand for, after those that stand for `n`. -/
def digitsFrom? (base : Nat) (n : Nat) : List Char → Option Nat
  | [] => some n
  | c :: rest => do digitsFrom? base (base * n + (← digitValue? base c)) rest

/-- The number that one or more digits stand for. -/
def digits? (base : Nat) (cs : List Char) : Option Nat :=
  if cs.isEmpty then none else digitsFrom? base 0 cs

/-- Whether digits with a leading zero make a text and no number. -/
def isZeroPadded : List Char → Bool
  | '0' :: c :: rest => (c :: rest).all Char.isDigit
  | _ => false

/-- A text without its sign. -/
def dropSign : List Char → List Char
  | '+' :: rest => rest
  | '-' :: rest => rest
  | cs => cs

/-- A number after its sign. -/
def magnitude? : List Char → Option Nat
  | '0' :: 'x' :: cs => digits? 16 cs
  | '0' :: 'o' :: cs => digits? 8 cs
  | '0' :: 'b' :: cs => digits? 2 cs
  | cs => if isZeroPadded cs then none else digits? 10 cs

/-- The number that a text without minus sign stands for. -/
def unsigned? : List Char → Option Nat
  | '+' :: cs => magnitude? cs
  | cs => magnitude? cs

/-- The integer that a text stands for. -/
def integer? : List Char → Option Int
  | '-' :: cs => (magnitude? cs).map fun n => -(n : Int)
  | cs => (unsigned? cs).map Int.ofNat

/-- How many numbers of 128 bits there are. -/
def wideCount : Nat := UInt64.size * UInt64.size

/-- Integers have at most 128 bits; those above are floats at best. -/
def isInteger (cs : List Char) : Bool :=
  match integer? cs with
  | some i => -(wideCount / 2 : Nat) ≤ i && i < wideCount
  | none => false

/-! ## Floats -/

/-- The exponent that a text is, sign and all; nothing for one that is no exponent. -/
def exponent? : List Char → Option Int
  | [] => some 0
  | c :: rest =>
    if c = 'e' || c = 'E' then
      match rest with
      | '-' :: ds => (digits? 10 ds).map fun n => -(n : Int)
      | '+' :: ds => (digits? 10 ds).map Int.ofNat
      | ds => (digits? 10 ds).map Int.ofNat
    else none

/-- The digits and the power of ten that a text without sign stands for. -/
def decimal? (cs : List Char) : Option (List Char × Int) := do
  let whole := cs.takeWhile Char.isDigit
  let rest := cs.dropWhile Char.isDigit
  let (fraction, rest) := match rest with
    | '.' :: r => (r.takeWhile Char.isDigit, r.dropWhile Char.isDigit)
    | r => ([], r)
  if whole.isEmpty && fraction.isEmpty then none
  let e ← exponent? rest
  return (whole ++ fraction, e - fraction.length)

/-- Whether digits times a power of ten lie within the range of the 64-bit floats. -/
def isFinite (digits : List Char) (exponent : Int) : Bool :=
  let significant := digits.dropWhile (· = '0')
  let places := significant.length + exponent
  if significant.isEmpty || places < 309 then true
  else if 309 < places then false
  else
    let n := (digitsFrom? 10 0 significant).getD 0
    let limit := Nat.pow 2 1024 - Nat.pow 2 970
    n * Nat.pow 10 exponent.toNat < limit * Nat.pow 10 (-exponent).toNat

/-- Whether a text stands for a float. -/
def isFloat (cs : List Char) : Bool :=
  if floatSpellings.contains (String.ofList cs) then true
  else
    match decimal? (dropSign cs) with
    | some (digits, exponent) => !isZeroPadded (dropSign cs) && isFinite digits exponent
    | none => false

/-! ## Everything -/

/-- Whether a text is digits that only look like a number. -/
def looksLikeNumber (s : String) : Bool := isZeroPadded (dropSign s.toList)

/-- Whether an unquoted scalar stands for something else than its text. -/
def standsForOther (s : String) : Bool :=
  s.isEmpty || nullSpellings.contains s || boolSpellings.contains s || isInteger s.toList ||
    isFloat s.toList

end EnvRegistry.Yaml
