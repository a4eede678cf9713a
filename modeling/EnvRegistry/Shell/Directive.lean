import EnvRegistry.Shell.Fraction.Binary64

/-! # Directives

    A directive of a format says how an argument is written: as a text, as a whole number
    of some base or as a number with places, and how it is filled up to a width. -/

namespace EnvRegistry.Shell

open Fraction

/-- How an argument is written. -/
structure Directive where
  left : Bool := false
  zeros : Bool := false
  plus : Bool := false
  blank : Bool := false
  /-- Whether the base of a number is shown, or its point in every case. -/
  marked : Bool := false
  width : Nat := 0
  precision : Option Nat := none

namespace Directive

/-- Text filled up with blanks to the width. -/
def pad (d : Directive) (cs : List Char) : List Char :=
  let fill := List.replicate (d.width - cs.length) ' '
  if d.left then cs ++ fill else fill ++ cs

/-- A text, no more of it than the precision says. -/
def text (d : Directive) (s : String) : List Char :=
  d.pad (match d.precision with
    | some n => s.toList.take n
    | none => s.toList)

/-- The sign of a number. -/
def sign (d : Directive) (negative : Bool) : List Char :=
  if negative then ['-'] else if d.plus then ['+'] else if d.blank then [' '] else []

/-- A number after its sign and what says its base; zeros or blanks fill it up. -/
def numeral (d : Directive) (useZeros : Bool) (front digits : List Char) : List Char :=
  let least := if useZeros && d.zeros && !d.left then d.width - front.length else 0
  d.pad (front ++ List.replicate (least - digits.length) '0' ++ digits)

/-- A whole number of a base. -/
def whole (d : Directive) (base : Nat) (capital : Bool) (n : Int) : List Char :=
  let digits := if n = 0 && d.precision = some 0 then [] else Nat.toDigits base n.natAbs
  let digits := if capital then digits.map Char.toUpper else digits
  let digits := List.replicate (d.precision.getD 0 - digits.length) '0' ++ digits
  let digits := if d.marked && base = 8 && digits.head? ≠ some '0' then '0' :: digits else digits
  let mark := if d.marked && base = 16 && n ≠ 0 then ['0', if capital then 'X' else 'x'] else []
  d.numeral d.precision.isNone (d.sign (n < 0) ++ mark) digits

/-- A number with places; the letter says in which form. -/
def real (d : Directive) (letter : Char) (x : Binary64) : List Char :=
  let capital (cs : List Char) : List Char := if letter.isUpper then cs.map Char.toUpper else cs
  match x with
  | .notANumber => d.pad (capital "nan".toList)
  | .infinite negative => d.pad (d.sign negative ++ capital "inf".toList)
  | .finite negative y =>
    let places := d.precision.getD 6
    let digits := match letter.toLower with
      | 'e' => Binary64.scientificText places d.marked y
      | 'g' => Binary64.generalText places d.marked y
      | _ => Binary64.fixedText places d.marked y
    d.numeral true (d.sign negative) (capital digits.toList)

/-- Reads the flags of a directive, and gives what follows them. -/
def flags (cs : List Char) : Directive × List Char :=
  let isFlag := fun (c : Char) => ['-', '0', '+', ' ', '#'].contains c
  let fs := cs.takeWhile isFlag
  ({ left := fs.contains '-', zeros := fs.contains '0', plus := fs.contains '+',
     blank := fs.contains ' ', marked := fs.contains '#' }, cs.dropWhile isFlag)

/-- A directive with a width, which is that of the other side if it is negative. -/
def withWidth (d : Directive) (n : Int) : Directive :=
  { d with left := d.left || n < 0, width := n.natAbs }

/-- A directive with a precision, unless that is negative. -/
def withPrecision (d : Directive) (n : Int) : Directive :=
  { d with precision := if n < 0 then none else some n.toNat }

end Directive

end EnvRegistry.Shell
