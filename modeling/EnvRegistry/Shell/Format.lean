import EnvRegistry.Shell.Directive
import EnvRegistry.Shell.Numeral
import EnvRegistry.Shell.Raw

/-! # Formatted output

    A format is a text with escapes and with directives, each of which writes an
    argument.  The format is written again as long as arguments are left.  All texts
    are raw texts. -/

namespace EnvRegistry.Shell.Format

/-! ## Escapes -/

/-- Whether a character is an octal digit. -/
def isOctal (c : Char) : Bool := '0' ≤ c && c ≤ '7'

/-- What stands after a backslash: the character it means and what follows. -/
def escape : List Char → Char × List Char
  | 'a' :: rest => ('\x07', rest)
  | 'b' :: rest => ('\x08', rest)
  | 'f' :: rest => ('\x0c', rest)
  | 'n' :: rest => ('\n', rest)
  | 'r' :: rest => ('\r', rest)
  | 't' :: rest => ('\t', rest)
  | 'v' :: rest => ('\x0b', rest)
  | '\\' :: rest => ('\\', rest)
  | cs =>
    let digits := (cs.takeWhile isOctal).take 3
    if digits.isEmpty then ('\\', cs)
    else (Raw.char (Numeral.ofDigits 8 digits), cs.drop digits.length)

/-- An argument with its escapes taken for what they mean, after `acc`, and whether one of them ends
all output. -/
def unescape : (fuel : Nat) → (acc : String) → List Char → String × Bool
  | 0, acc, _ => (acc, false)
  | _, acc, [] => (acc, false)
  | fuel + 1, acc, c :: rest =>
    if c ≠ '\\' then unescape fuel (acc.push c) rest
    else match rest with
      | 'c' :: _ => (acc, true)
      | '0' :: d :: rest =>
        let (c, rest) := escape (if isOctal d then d :: rest else '0' :: d :: rest)
        unescape fuel (acc.push c) rest
      | rest =>
        let (c, rest) := escape rest
        unescape fuel (acc.push c) rest

/-- A text with its escapes taken for what they mean, and whether one of them ends all output. -/
def interpreted (s : String) : String × Bool := unescape (s.length + 1) "" s.toList

/-! ## Arguments -/

/-- What is wrong with an argument. -/
inductive ArgumentFault where
  | noNumber
  | partNumber
  | tooLarge
  deriving DecidableEq, Repr

/-- The fault of an argument in words. -/
def ArgumentFault.message (argument : String) : ArgumentFault → String
  | .noNumber => argument ++ ": expected numeric value"
  | .partNumber => argument ++ ": not completely converted"
  | .tooLarge => argument ++ ": Numerical result out of range"

/-- The code of the character after a quote. -/
def quotedCode? (s : String) : Option Nat :=
  match s.toList with
  | q :: rest => if q = '\'' || q = '"' then some (rest.headD '\x00').toNat else none
  | [] => none

/-- What is wrong with an argument, given what follows the number in it. -/
def faultOf (s : String) (rest : List Char) : Option ArgumentFault :=
  if rest.isEmpty then none
  else if rest.length = s.length then some .noNumber
  else some .partNumber

/-- The whole number that an argument says. -/
def wholeArgument (unsigned : Bool) (s : String) : Int × Option ArgumentFault :=
  match quotedCode? s with
  | some n => (n, none)
  | none =>
    match Numeral.leading? true s.toList with
    | none => (0, if s.isEmpty then none else some .noNumber)
    | some (n, rest) =>
      let inRange := if unsigned then n.natAbs < UInt64.size else n = Numeral.clamp n
      if inRange then (if unsigned then n % UInt64.size else n, faultOf s rest)
      else (if unsigned then UInt64.size - 1 else Numeral.clamp n,
        (faultOf s rest).or (some .tooLarge))

/-- The number that an argument says. -/
def realArgument (s : String) : Fraction.Binary64 × Option ArgumentFault :=
  match quotedCode? s with
  | some n => (.ofRat (n : Nat), none)
  | none =>
    match Fraction.Binary64.leading? s.toList with
    | none => (.finite false 0, if s.isEmpty then none else some .noNumber)
    | some (x, rest) => (x, faultOf s rest)

/-! ## Formats -/

/-- What one pass over a format leaves. -/
structure Pass where
  text : String := ""
  arguments : List String
  /-- Whether an argument has been taken. -/
  used : Bool := false
  /-- What is wrong with arguments and directives, the last first. -/
  faults : List String := []
  /-- Whether a directive has no meaning. -/
  broken : Bool := false
  ended : Bool := false

namespace Pass

/-- Takes the next argument. -/
def take (p : Pass) : String × Pass :=
  match p.arguments with
  | [] => ("", p)
  | a :: rest => (a, { p with arguments := rest, used := true })

/-- Writes characters. -/
def put (p : Pass) (cs : List Char) : Pass := { p with text := p.text ++ String.ofList cs }

/-- Notes what is wrong with an argument. -/
def note (p : Pass) (argument : String) (f : Option ArgumentFault) : Pass :=
  match f with
  | some f => { p with faults := f.message argument :: p.faults }
  | none => p

/-- Ends the output because a directive has no meaning. -/
def refuse (p : Pass) (fault : String) : Pass :=
  { p with faults := fault :: p.faults, broken := true, ended := true }

/-- Reads a width or precision, which may be the next argument. -/
def measure (p : Pass) (cs : List Char) : Int × Pass × List Char :=
  match cs with
  | '*' :: cs =>
    let (a, p) := p.take
    let (n, f) := wholeArgument false a
    (n, p.note a f, cs)
  | cs =>
    (Numeral.ofDigits 10 (cs.takeWhile Char.isDigit), p, cs.dropWhile Char.isDigit)

/-- Writes the next argument with a directive that ends with a letter; `source` is its text. -/
def write (p : Pass) (d : Directive) (letter : Char) (source : String) : Pass :=
  let (a, next) := p.take
  let whole (base : Nat) (capital unsigned : Bool) : Pass :=
    let (n, f) := wholeArgument unsigned a
    (next.note a f).put (d.whole base capital n)
  match letter with
  | 's' => next.put (d.text a)
  | 'c' => next.put (d.pad (a.toList.take 1))
  | 'b' =>
    let (text, ended) := interpreted a
    { next.put (d.text text) with ended }
  | 'd' | 'i' => whole 10 false false
  | 'u' => whole 10 false true
  | 'o' => whole 8 false true
  | 'x' => whole 16 false true
  | 'X' => whole 16 true true
  | _ =>
    if ['e', 'E', 'f', 'F', 'g', 'G'].contains letter then
      let (x, f) := realArgument a
      (next.note a f).put (d.real letter x)
    else p.refuse (source ++ ": invalid directive")

/-- Goes over a directive after its sign, and gives what follows. -/
def directive (p : Pass) (cs : List Char) : Pass × List Char :=
  let (d, rest) := Directive.flags cs
  let (width, p, rest) := p.measure rest
  let d := d.withWidth width
  let (d, p, rest) := match rest with
    | '.' :: rest =>
      let (n, p, rest) := p.measure rest
      (d.withPrecision n, p, rest)
    | rest => (d, p, rest)
  match rest with
  | letter :: after =>
    (p.write d letter (String.ofList ('%' :: cs.take (cs.length - after.length))), after)
  | [] => (p.refuse "missing format character", [])

end Pass

/-- Goes once over a format. -/
def pass : (fuel : Nat) → List Char → Pass → Pass
  | 0, _, p => p
  | _, [], p => p
  | fuel + 1, c :: rest, p =>
    if p.ended then p
    else if c = '\\' then
      let (c, rest) := escape rest
      pass fuel rest (p.put [c])
    else if c = '%' then
      match rest with
      | '%' :: rest => pass fuel rest (p.put ['%'])
      | rest =>
        let (p, rest) := p.directive rest
        pass fuel rest p
    else pass fuel rest { p with text := p.text.push c }

/-- Goes over a format until no argument is left. -/
def passes (format : List Char) : (fuel : Nat) → Pass → Pass
  | 0, p => p
  | fuel + 1, p =>
    let p := pass (format.length + 1) format { p with used := false }
    if p.used && !p.ended && !p.arguments.isEmpty then passes format fuel p else p

/-- Writes a format with its arguments. -/
def write (format : String) (arguments : List String) : Pass :=
  passes format.toList (arguments.length + 1) { arguments }

end EnvRegistry.Shell.Format
