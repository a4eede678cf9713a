/-! # Whole numbers at the start of texts

    A number may follow blanks and a sign.  Where bases are told apart, it is
    hexadecimal after `0x`, octal after another zero, and decimal otherwise. -/

namespace EnvRegistry.Shell.Numeral

/-- Whether a character is white space. -/
def isSpace (c : Char) : Bool := c = ' ' || ('\t' ≤ c && c ≤ '\r')

/-- The value of a digit. -/
def digit? (base : Nat) (c : Char) : Option Nat :=
  let d :=
    if c.isDigit then c.toNat - '0'.toNat
    else if c.isAlpha then c.toLower.toNat - 'a'.toNat + 10
    else base
  if d < base then some d else none

/-- The number that digits of a base make. -/
def ofDigits (base : Nat) (ds : List Char) : Nat :=
  ds.foldl (fun n c => base * n + (digit? base c).getD 0) 0

/-- The base of a number, and its digits and what follows. -/
def baseOf (bases : Bool) (cs : List Char) : Nat × List Char :=
  let isHexadecimal := fun (c : Char) => (digit? 16 c).isSome
  match bases, cs with
  | true, '0' :: x :: d :: rest =>
    if (x = 'x' || x = 'X') && isHexadecimal d then (16, d :: rest) else (8, cs)
  | true, '0' :: _ => (8, cs)
  | _, _ => (10, cs)

/-- The number at the start of a text without a sign, and what follows. -/
def natural? (bases : Bool) (cs : List Char) : Option (Nat × List Char) :=
  let (base, cs) := baseOf bases cs
  let isDigit := fun c => (digit? base c).isSome
  let ds := cs.takeWhile isDigit
  if ds.isEmpty then none else some (ofDigits base ds, cs.dropWhile isDigit)

/-- The number at the start of a text, and what follows. -/
def leading? (bases : Bool) (cs : List Char) : Option (Int × List Char) :=
  match cs.dropWhile isSpace with
  | '-' :: cs => (natural? bases cs).map fun (n, rest) => (-(n : Int), rest)
  | '+' :: cs => (natural? bases cs).map fun (n, rest) => ((n : Int), rest)
  | cs => (natural? bases cs).map fun (n, rest) => ((n : Int), rest)

/-- The least and the greatest number of 64 bits. -/
def least : Int := -(UInt64.size / 2 : Nat)

/-- The greatest number of 64 bits. -/
def greatest : Int := (UInt64.size / 2 : Nat) - 1

/-- A number brought into 64 bits. -/
def clamp (n : Int) : Int := max least (min greatest n)

/-- The number that a text says, which may have blanks around it. -/
def whole? (bases : Bool) (s : String) : Option Int := do
  let (n, rest) ← leading? bases s.toList
  if rest.all isSpace && least ≤ n && n ≤ greatest then some n else none

/-- The natural number that a text says in decimal digits, if it has nothing else. -/
def digits? (s : String) : Option Nat :=
  if !s.isEmpty && s.toList.all Char.isDigit then some (ofDigits 10 s.toList) else none

end EnvRegistry.Shell.Numeral
