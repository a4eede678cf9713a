import EnvRegistry.Shell.Awk.Program
import EnvRegistry.Shell.Awk.Token
import EnvRegistry.Shell.Directive

/-! # Values and tables

    A value is a number or a text, or a text of the input that looks like a number and
    counts as one when it is compared with others. -/

namespace EnvRegistry.Shell.Awk

open Fraction

/-! ## Values -/

/-- A value. -/
inductive Value where
  | unset
  | number (x : Binary64)
  | text (s : String)
  /-- A text of the input that looks like a number. -/
  | numeral (s : String) (x : Binary64)
  deriving Inhabited

/-- The number zero. -/
def zero : Binary64 := .finite false 0

/-- The value at the start of a text of base sixteen, after its sign, and what follows. -/
def hexNumber? (negative : Bool) (cs : List Char) : Option (Binary64 × List Char) :=
  match cs with
  | '0' :: x :: rest =>
    let ds := rest.takeWhile fun d => (hexDigit? d).isSome
    if (x = 'x' || x = 'X') && !ds.isEmpty then
      let n := ds.foldl (fun n d => 16 * n + (hexDigit? d).getD 0) 0
      some (.ofMagnitude negative (n : Nat), rest.drop ds.length)
    else none
  | _ => none

/-- The number at the start of a text, and what follows. -/
def leadingNumber? (s : String) : Option (Binary64 × List Char) :=
  let cs := s.toList.dropWhile Char.isWhitespace
  let (negative, digits) := match cs with
    | '-' :: cs => (true, cs)
    | '+' :: cs => (false, cs)
    | cs => (false, cs)
  (hexNumber? negative digits).or (Binary64.leading? cs)

/-- The number that a text starts with, or zero. -/
def numberOf (s : String) : Binary64 := ((leadingNumber? s).map (·.1)).getD zero

/-- A whole number that is not too large, in digits. -/
def wholeText? : Binary64 → Option String
  | .finite negative x =>
    if x.den = 1 && x ≤ UInt64.size then
      let n := min x.num (UInt64.size - 1)
      some (if negative && x ≠ 0 then "-" ++ toString n else toString n)
    else none
  | .notANumber => some "-nan"
  | .infinite _ => none

/-- A number as a format says, unless it is a whole one. -/
def numberText (format : String) (x : Binary64) : String :=
  match wholeText? x with
  | some s => s
  | none =>
    match format.toList with
    | '%' :: cs =>
      let (d, rest) := Directive.flags cs
      let width := rest.takeWhile Char.isDigit
      let rest := rest.drop width.length
      let d := d.withWidth (Numeral.ofDigits 10 width)
      let (d, rest) := match rest with
        | '.' :: rest =>
          let n := rest.takeWhile Char.isDigit
          (d.withPrecision (Numeral.ofDigits 10 n), rest.drop n.length)
        | rest => (d, rest)
      match rest with
      | c :: after =>
        if c = 'd' || c = 'i' then
          String.ofList (d.whole 10 false x.toRat.floor ++ after)
        else String.ofList (d.real c x ++ after)
      | [] => format
    | _ => format

namespace Value

/-- The value as a number. -/
def toNumber : Value → Binary64
  | .unset => zero
  | .number x => x
  | .text s => numberOf s
  | .numeral _ x => x

/-- The value as a text; numbers are written as a format says. -/
def toText (format : String) : Value → String
  | .unset => ""
  | .number x => numberText format x
  | .text s => s
  | .numeral s _ => s

/-- Whether the value counts as true. -/
def holds : Value → Bool
  | .unset => false
  | .number x => !x.isZero
  | .text s => !s.isEmpty
  | .numeral _ x => !x.isZero

/-- A text of the input as a value. -/
def ofInput (s : String) : Value :=
  match leadingNumber? s with
  | some (x, rest) => if rest.all Char.isWhitespace then .numeral s x else .text s
  | none => .text s

/-- A truth as a value. -/
def ofBool (b : Bool) : Value := .number (.ofRat (if b then 1 else 0))

/-- A natural number as a value. -/
def ofNat (n : Nat) : Value := .number (.ofRat (n : Nat))

/-- Whether a value is compared as a number. -/
def isNumeric : Value → Bool
  | .text _ => false
  | _ => true

/-- Whether a comparison holds for two values. -/
def compares (format : String) (c : Comparison) (a b : Value) : Bool :=
  let (less, same) : Bool × Bool := if a.isNumeric && b.isNumeric then
      (a.toNumber.less b.toNumber, a.toNumber.same b.toNumber)
    else
      let s := a.toText format
      let t := b.toText format
      (decide (s < t), s = t)
  match c with
  | .less => less
  | .atMost => less || same
  | .equal => same
  | .different => !same
  | .greater => !less && !same
  | .atLeast => !less

end Value

/-! ## Tables -/

/-- A table of values.  The order of its keys in a loop is that of a table with chains: the chain of
a key depends on its characters, and the keys used last come first in a chain. -/
structure Table where
  values : List (String × Value) := []
  /-- The keys that have been used as texts, the last one first. -/
  texts : List String := []
  /-- The keys that have been used as numbers, the last one first. -/
  numbers : List String := []
  /-- Whether all keys are used as texts. -/
  byText : Bool := false

namespace Table

/-- How many chains there are. -/
def chains : Nat := 64

/-- The number of the chain of a key. -/
def chainOf (key : String) : Nat :=
  let n := key.toList.foldl (fun h c => ((h ^^^ c.toNat) * 16777619) % UInt32.size) 2166136261
  n % chains

/-- The number of the chain of a key that is a number. -/
def numberChain (key : String) : Nat := ((key.toInt?.getD 0) % chains).toNat

/-- Keys chain by chain. -/
def inChains (chain : String → Nat) (keys : List String) : List String :=
  (List.range chains).flatMap fun n => keys.filter fun k => chain k = n

/-- The table with all keys used as texts. -/
def withTexts (t : Table) : Table :=
  if t.byText then t
  else { t with byText := true, texts := (inChains numberChain t.numbers).reverse ++ t.texts }

/-- A list with an item at its start. -/
def toFront (key : String) (keys : List String) : List String :=
  if keys.head? = some key then keys else key :: keys.filter (· ≠ key)

/-- Notes that a key is used; `isNumber` says that it is a whole number. -/
def touch (t : Table) (isNumber : Bool) (key : String) : Table :=
  if isNumber then
    let isKnown := t.numbers.contains key
    let t := { t with numbers := toFront key t.numbers }
    if t.byText && !isKnown then { t with texts := toFront key t.texts } else t
  else
    let t := t.withTexts
    { t with texts := toFront key t.texts }

/-- Whether the table has a value for a key. -/
def has (t : Table) (key : String) : Bool := (t.values.lookup key).isSome

/-- The value for a key, which there is from now on, and the table. -/
def get (t : Table) (isNumber : Bool) (key : String) : Value × Table :=
  match t.values.lookup key with
  | some v => (v, t.touch isNumber key)
  | none =>
    let t := t.touch isNumber key
    (.unset, { t with values := (key, .unset) :: t.values })

/-- The table with another value for a key. -/
def set (t : Table) (isNumber : Bool) (key : String) (v : Value) : Table :=
  let t := t.touch isNumber key
  let values := if t.has key then
      t.values.map fun (k, old) => (k, if k = key then v else old)
    else (key, v) :: t.values
  { t with values }

/-- The table without a value for a key. -/
def erase (t : Table) (key : String) : Table :=
  { t with
    values := t.values.filter (·.1 ≠ key)
    texts := t.texts.filter (· ≠ key)
    numbers := t.numbers.filter (· ≠ key) }

/-- The keys in the order of a loop, and the table. -/
def keys (t : Table) : List String × Table :=
  let t := t.withTexts
  (inChains chainOf t.texts, t)

/-- The table of some values with numbers from one on. -/
def ofList (vs : List Value) : Table :=
  let numbered := vs.zipIdx.map fun (v, n) => (toString (n + 1), v)
  { values := numbered, numbers := (numbered.map (·.1)).reverse }

end Table

end EnvRegistry.Shell.Awk
