import EnvRegistry.Shell.Fraction.Binary64

/-! # Functions of binary fractions

    Every function is worked out on fractions with many more bits than a value has, and
    the result is rounded to a value at the end. -/

namespace EnvRegistry.Shell.Fraction.Binary64

/-! ## Parts of the work -/

/-- The number of bits after the point that are kept. -/
def workBits : Nat := 160

/-- A fraction cut off after so many bits. -/
def cut (x : Rat) : Rat := (x * power2 workBits).floor / power2 workBits

/-- The sum of terms, each made of the one before it. -/
def series (next : (n : Nat) → Rat → Rat) : (count n : Nat) → (term sum : Rat) → Rat
  | 0, _, _, sum => sum
  | count + 1, n, term, sum =>
    if term = 0 then sum else series next count (n + 1) (cut (next n term)) (sum + term)

/-- How many terms are added up at most. -/
def mostTerms : Nat := 200

/-- The number whose hyperbolic tangent is a small fraction. -/
def artanh (x : Rat) : Rat :=
  series (fun n t => t * x * x * (2 * n + 1) / (2 * n + 3)) mostTerms 0 x 0

/-- The number whose tangent is a small fraction. -/
def arctanSmall (x : Rat) : Rat :=
  series (fun n t => -(t * x * x * (2 * n + 1) / (2 * n + 3))) mostTerms 0 x 0

/-- The logarithm of two. -/
def logTwo : Rat := 2 * artanh (1 / 3)

/-- Half the way around a circle. -/
def pi : Rat := 16 * arctanSmall (1 / 5) - 4 * arctanSmall (1 / 239)

/-- A whole number whose square is just not greater than `n`, from a greater number on. -/
def rootFrom (n : Nat) : (fuel : Nat) → (guess : Nat) → Nat
  | 0, guess => guess
  | fuel + 1, guess =>
    let next := (guess + n / guess) / 2
    if next < guess then rootFrom n fuel next else guess

/-- The number whose square is a fraction. -/
def root (x : Rat) : Rat :=
  let n := (x * power2 (2 * workBits)).floor.toNat
  (rootFrom n (n.log2 + 8) (Nat.pow 2 (n.log2 / 2 + 1)) : Nat) / power2 workBits

/-- The logarithm of a fraction that is greater than zero. -/
def logarithm (x : Rat) : Rat :=
  let e : Int := (Nat.log2 x.num.natAbs : Int) - Nat.log2 x.den
  let m := x / power2 e
  e * logTwo + 2 * artanh (cut ((m - 1) / (m + 1)))

/-- The exponential of a fraction. -/
def exponential (x : Rat) : Rat :=
  let k := roundToEven (x / logTwo)
  let r := cut (x - k * logTwo)
  power2 k * series (fun n t => t * r / (n + 1)) mostTerms 0 1 0

/-- The sine of a fraction. -/
def sineOf (x : Rat) : Rat :=
  let r := cut (x - roundToEven (x / (2 * pi)) * (2 * pi))
  series (fun n t => -(t * r * r / ((2 * n + 2) * (2 * n + 3)))) mostTerms 0 r 0

/-- The number whose tangent is a fraction. -/
def arctan (x : Rat) : Rat :=
  -- The angle is halved twice before the terms are added up.
  let half (x : Rat) : Rat := cut (x / (1 + root (1 + x * x)))
  4 * arctanSmall (half (half x))

/-! ## Functions -/

/-- A number with its sign. -/
def toRat : Binary64 → Rat
  | .finite negative x => if negative then -x else x
  | _ => 0

/-- Whether a value is below zero. -/
def isNegative : Binary64 → Bool
  | .finite negative x => negative && x ≠ 0
  | .infinite negative => negative
  | .notANumber => false

/-- The value with the other sign. -/
def negate : Binary64 → Binary64
  | .finite negative x => .finite (!negative) x
  | .infinite negative => .infinite (!negative)
  | .notANumber => .notANumber

/-- The sum of two values. -/
def add (a b : Binary64) : Binary64 :=
  match a, b with
  | .finite m _, .finite n _ =>
    let sum := a.toRat + b.toRat
    if sum = 0 then .finite (m && n) 0 else ofRat sum
  | .infinite m, .infinite n => if m = n then a else .notANumber
  | .infinite _, .finite _ _ => a
  | .finite _ _, .infinite _ => b
  | _, _ => .notANumber

/-- The difference of two values. -/
def subtract (a b : Binary64) : Binary64 := a.add b.negate

/-- The product of two values. -/
def multiply (a b : Binary64) : Binary64 :=
  match a, b with
  | .finite m x, .finite n y => ofMagnitude (m != n) (x * y)
  | .infinite m, .infinite n => .infinite (m != n)
  | .infinite m, .finite n y => if y = 0 then .notANumber else .infinite (m != n)
  | .finite m x, .infinite n => if x = 0 then .notANumber else .infinite (m != n)
  | _, _ => .notANumber

/-- The quotient of two values. -/
def divide (a b : Binary64) : Binary64 :=
  match a, b with
  | .finite m x, .finite n y =>
    if y ≠ 0 then ofMagnitude (m != n) (x / y)
    else if x = 0 then .notANumber
    else .infinite (m != n)
  | .infinite m, .finite n _ => .infinite (m != n)
  | .finite m _, .infinite n => .finite (m != n) 0
  | _, _ => .notANumber

/-- The whole part of a value. -/
def truncate : Binary64 → Binary64
  | .finite negative x => .finite negative x.floor
  | x => x

/-- What is left of a value after a whole number of times another one. -/
def remainder (a b : Binary64) : Binary64 :=
  match a, b with
  | .finite m x, .finite _ y => if y = 0 then .notANumber else .finite m (x - (x / y).floor * y)
  | .finite _ _, .infinite _ => a
  | _, _ => .notANumber

/-- The square root of a value. -/
def squareRoot : Binary64 → Binary64
  | .finite negative x =>
    if x = 0 then .finite negative 0 else if negative then .notANumber else ofRat (root x)
  | .infinite false => .infinite false
  | _ => .notANumber

/-- The logarithm of a value. -/
def log : Binary64 → Binary64
  | .finite negative x =>
    if x = 0 then .infinite true else if negative then .notANumber else ofRat (logarithm x)
  | .infinite false => .infinite false
  | _ => .notANumber

/-- The greatest fraction of which the exponential can be a value. -/
def greatestLogarithm : Rat := 800

/-- The exponential of a value. -/
def exp : Binary64 → Binary64
  | .finite negative x =>
    if greatestLogarithm < x then if negative then .finite false 0 else .infinite false
    else ofRat (exponential (if negative then -x else x))
  | .infinite negative => if negative then .finite false 0 else .infinite false
  | .notANumber => .notANumber

/-- The sine of a value. -/
def sine (a : Binary64) : Binary64 :=
  match a with
  | .finite _ _ => ofRat (sineOf a.toRat)
  | _ => .notANumber

/-- The cosine of a value. -/
def cosine (a : Binary64) : Binary64 :=
  match a with
  | .finite _ _ => ofRat (sineOf (a.toRat + pi / 2))
  | _ => .notANumber

/-- The angle of the point with two coordinates, the second one given first. -/
def angle (y x : Binary64) : Binary64 :=
  match y, x with
  | .finite m _, .finite n _ =>
    let b := y.toRat
    let a := x.toRat
    let r := if a = 0 then
        if b = 0 then if n then pi else 0 else pi / 2
      else if 0 < a then arctan (b.abs / a)
      else pi - arctan (b.abs / -a)
    ofMagnitude m r
  | _, _ => .notANumber

/-- A value to the power of another one. -/
def power (a b : Binary64) : Binary64 :=
  match a, b with
  | _, .finite _ 0 => ofRat 1
  | .finite m x, .finite n y =>
    let isOdd := y.den = 1 && y.num % 2 = 1
    let negative := m && isOdd
    if x = 0 then if n then .infinite negative else .finite negative 0
    else if m && y.den ≠ 1 then .notANumber
    else
      let size := y * logarithm x
      if greatestLogarithm < size.abs then
        if (0 < size) != n then .infinite negative else .finite negative 0
      else if y.den = 1 && y ≤ 1100 then
        let p := x ^ y.num.toNat
        ofMagnitude negative (if n then 1 / p else p)
      else ofMagnitude negative (exponential (if n then -size else size))
  | .infinite m, .finite n y =>
    let negative := m && y.den = 1 && y.num % 2 = 1
    if n then .finite negative 0 else .infinite negative
  | _, _ => .notANumber

/-- Whether a value is less than another one. -/
def less (a b : Binary64) : Bool :=
  match a, b with
  | .finite _ _, .finite _ _ => a.toRat < b.toRat
  | .infinite m, .infinite n => m && !n
  | .infinite m, .finite _ _ => m
  | .finite _ _, .infinite n => !n
  | _, _ => false

/-- Whether two values are the same number. -/
def same (a b : Binary64) : Bool :=
  match a, b with
  | .finite _ _, .finite _ _ => a.toRat = b.toRat
  | .infinite m, .infinite n => m = n
  | _, _ => false

/-- Whether a value is zero. -/
def isZero : Binary64 → Bool
  | .finite _ x => x = 0
  | _ => false

end EnvRegistry.Shell.Fraction.Binary64
