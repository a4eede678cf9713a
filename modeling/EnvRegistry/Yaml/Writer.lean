import EnvRegistry.Yaml.Basic
import EnvRegistry.Yaml.Implicit
import EnvRegistry.Yaml.Token

/-! # Writing scalars

    `styleOf` picks the plainest style that can hold a text, and `scalarChars` writes
    the text in that style.  A text with line feeds becomes a literal block, a text
    that unquoted would stand for something else or look like a number is quoted, and one that holds
    characters one cannot see goes between double quotes with escapes. -/

namespace EnvRegistry.Yaml

/-! ## What a text is like -/

/-- Whether a character may be written as it is. -/
def isPrintable (c : Char) : Bool :=
  let n := c.toNat
  n = 0x0A || (0x20 ≤ n && n ≤ 0x7E) || (0xA0 ≤ n && n ≠ 0xFEFF && n ≠ 0xFFFE && n ≠ 0xFFFF)

/-- Whether two neighbours in a text satisfy `p` and `q`. -/
def hasNeighbours (p q : Char → Bool) : List Char → Bool
  | a :: b :: rest => (p a && q b) || hasNeighbours p q (b :: rest)
  | _ => false

/-- Whether a character is a space. -/
def isSpace (c : Char) : Bool := c = ' '

/-- Whether a text has a space before a break, or a character that cannot be written as it is. -/
def needsEscapes (cs : List Char) : Bool :=
  cs.any (!isPrintable ·) || hasNeighbours isSpace isBreak cs

/-- The characters that mean something at the start of a scalar. -/
def startIndicators : List Char :=
  ['#', ',', '[', ']', '\x7b', '\x7d', '&', '*', '!', '|', '>', '\'', '"', '%', '@', '\x60']

/-- Whether an unquoted text would mean something else because of how it starts. -/
def startMeansMore : List Char → Bool
  | [] => false
  | c :: rest =>
    startIndicators.contains c || ((c = '?' || c = ':' || c = '-') && endsWord rest) ||
      (c :: rest).take 3 = ['-', '-', '-'] || (c :: rest).take 3 = ['.', '.', '.']

/-- Whether an unquoted text would mean something else because of a colon or a comment in it. -/
def insideMeansMore (previous : Char) : List Char → Bool
  | [] => false
  | c :: rest =>
    (c = ':' && endsWord rest) || (c = '#' && endsWord [previous]) || insideMeansMore c rest

/-- Whether a text has indicators that would be taken for more than text. -/
def meansMore (cs : List Char) : Bool :=
  startMeansMore cs ||
    match cs with
    | [] => false
    | c :: rest => insideMeansMore c rest

/-- Whether a text starts or ends with a space or break. -/
def hasBlankEnds (cs : List Char) : Bool :=
  let isEnd (c : Char) := isSpace c || isBreak c
  cs.head?.any isEnd || cs.getLast?.any isEnd

/-! ## Styles -/

/-- Whether a text can be written without quotes. -/
def canBePlain (cs : List Char) : Bool :=
  !needsEscapes cs && !cs.any isBreak && !hasBlankEnds cs && !meansMore cs

/-- Whether a text can be written between single quotes. -/
def canBeSingleQuoted (cs : List Char) : Bool :=
  !needsEscapes cs && !hasNeighbours isBreak isSpace cs

/-- Whether a text can be written as a literal block. -/
def canBeLiteral (cs : List Char) : Bool :=
  !needsEscapes cs && !cs.getLast?.any isSpace

/-- The plainest style that can hold a text. -/
def styleOf (s : String) : Style :=
  let cs := s.toList
  if cs.contains '\n' then
    if canBeLiteral cs then .literal else .doubleQuoted
  else if canBePlain cs && !standsForOther s && !looksLikeNumber s then .plain
  else if canBeSingleQuoted cs then .singleQuoted
  else .doubleQuoted

/-! ## Texts -/

/-- So many spaces. -/
def spaces (n : Nat) : List Char := List.replicate n ' '

/-- Writes a text between single quotes; lines after the first are indented. -/
def singleQuotedFrom (indent : Nat) (afterBreak : Bool) : List Char → List Char
  | [] => if afterBreak then spaces indent else []
  | c :: rest =>
    if isBreak c then c :: singleQuotedFrom indent true rest
    else
      (if afterBreak then spaces indent else []) ++
        (if c = '\'' then ['\'', '\''] else [c]) ++ singleQuotedFrom indent false rest

/-- A hexadecimal digit. -/
def hexDigit (n : Nat) : Char := if n < 10 then Char.ofNat (48 + n) else Char.ofNat (55 + n)

/-- A number in so many hexadecimal digits. -/
def hexDigits : (count : Nat) → Nat → List Char
  | 0, _ => []
  | count + 1, n => hexDigits count (n / 16) ++ [hexDigit (n % 16)]

/-- The escape of a character. -/
def escapeOf (c : Char) : List Char :=
  match c with
  | '\x00' => ['0']
  | '\x07' => ['a']
  | '\x08' => ['b']
  | '\t' => ['t']
  | '\n' => ['n']
  | '\x0b' => ['v']
  | '\x0c' => ['f']
  | '\r' => ['r']
  | '\x1b' => ['e']
  | '"' => ['"']
  | '\\' => ['\\']
  | '\u0085' => ['N']
  | '\u00a0' => ['_']
  | '\u2028' => ['L']
  | '\u2029' => ['P']
  | c =>
    let n := c.toNat
    if n ≤ 0xFF then 'x' :: hexDigits 2 n
    else if n ≤ 0xFFFF then 'u' :: hexDigits 4 n
    else 'U' :: hexDigits 8 n

/-- A character between double quotes. -/
def doubleQuotedChar (c : Char) : List Char :=
  if !isPrintable c || isBreak c || c = '"' || c = '\\' then '\\' :: escapeOf c else [c]

/-- Writes the lines of a literal block; those that are not empty are indented. -/
def literalFrom (indent : Nat) (afterBreak : Bool) : List Char → List Char
  | [] => []
  | c :: rest =>
    if isBreak c then c :: literalFrom indent true rest
    else (if afterBreak then spaces indent else []) ++ c :: literalFrom indent false rest

/-- How a literal block treats its end so that nothing of a text is lost. -/
def chompingMark (cs : List Char) : List Char :=
  match cs.reverse with
  | [] => ['-']
  | [c] => if isBreak c then ['+'] else ['-']
  | c :: d :: _ => if isBreak c then (if isBreak d then ['+'] else []) else ['-']

/-- The header of a literal block; the indentation is said where the first line does not show
it. -/
def literalHeader (cs : List Char) : List Char :=
  let shown := !(cs.head?.any fun c => isSpace c || isBreak c)
  '|' :: ((if shown then [] else ['2']) ++ chompingMark cs)

/-- A scalar in its style; lines after the first are indented. -/
def scalarChars (indent : Nat) (s : String) : List Char :=
  let cs := s.toList
  match styleOf s with
  | .singleQuoted => '\'' :: (singleQuotedFrom indent false cs ++ ['\''])
  | .doubleQuoted => '"' :: (cs.flatMap doubleQuotedChar ++ ['"'])
  | .literal => literalHeader cs ++ '\n' :: literalFrom indent true cs
  | _ => cs

/-- The line of a mapping whose value is a scalar; it ends with a line break in any case. -/
def scalarLine (indent : Nat) (key s : String) : String :=
  let value := scalarChars (indent + 2) s
  String.ofList (spaces indent ++ key.toList ++ [':', ' '] ++ value ++
    (if value.getLast?.any isBreak then [] else ['\n']))

end EnvRegistry.Yaml
