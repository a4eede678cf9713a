/-! # YAML: characters, positions and faults

    The characters that matter to the layout of a YAML text, the place a reader has
    come to, and what can be wrong with a text. -/

namespace EnvRegistry.Yaml

/-! ## Characters -/

/-- A blank within a line. -/
def isBlank (c : Char) : Bool := c = ' ' || c = '\t'

/-- A character that ends a line. -/
def isBreak (c : Char) : Bool :=
  c = '\n' || c = '\r' || c = '\u0085' || c = '\u2028' || c = '\u2029'

/-- Whether a word ends before this text. -/
def endsWord : List Char → Bool
  | [] => true
  | c :: _ => isBlank c || isBreak c

/-- What a line break stands for in a value: the separators of lines and paragraphs stand for
themselves, and all other breaks for a line feed. -/
def breakValue (c : Char) : Char := if c = '\u2028' || c = '\u2029' then c else '\n'

/-- Letters, digits, the dash and the underscore. -/
def isWordChar (c : Char) : Bool := c.isAlphanum || c = '-' || c = '_'

/-- The value of a hexadecimal digit. -/
def hexValue? (c : Char) : Option Nat :=
  if '0' ≤ c ∧ c ≤ '9' then some (c.toNat - '0'.toNat)
  else if 'a' ≤ c ∧ c ≤ 'f' then some (c.toNat - 'a'.toNat + 10)
  else if 'A' ≤ c ∧ c ≤ 'F' then some (c.toNat - 'A'.toNat + 10)
  else none

/-- The mark that a text may begin with to show its encoding. -/
def byteOrderMark : Char := '\ufeff'

/-- Whether a character may stand in a YAML text at all. -/
def isAllowed (c : Char) : Bool :=
  let n := c.toNat
  n = 0x09 || n = 0x0A || n = 0x0D || (0x20 ≤ n && n ≤ 0x7E) || n = 0x85 ||
    (0xA0 ≤ n && n ≤ 0xD7FF) || (0xE000 ≤ n && n ≤ 0xFFFD) || (0x10000 ≤ n && n ≤ 0x10FFFF)

/-- Whether a text begins with the marker of the start or the end of a document. -/
def startsWithMarker : List Char → Bool
  | '-' :: '-' :: '-' :: rest => endsWord rest
  | '.' :: '.' :: '.' :: rest => endsWord rest
  | _ => false

/-! ## Faults -/

/-- What is wrong with a text. -/
inductive Fault where
  | characterNotAllowed
  | unexpectedCharacter
  | keyWithoutColon
  | entryNotAllowedHere
  | keyNotAllowedHere
  | valueNotAllowedHere
  | badDirective
  | incompatibleVersion
  | repeatedDirective
  | badAnchor
  | badTag
  | unknownTagHandle
  | badBlockHeader
  | tabInIndentation
  | markerInQuotes
  | unclosedQuotes
  | unknownEscape
  | badHexEscape
  | colonInFlow
  | documentStartExpected
  | contentExpected
  | keyExpected
  | entryExpected
  | commaExpected
  | unknownAnchor
  | severalDocuments
  | tooDeep
  deriving DecidableEq, Repr

/-- The fault in words. -/
def Fault.message : Fault → String
  | .characterNotAllowed => "control characters are not allowed"
  | .unexpectedCharacter => "found character that cannot start any token"
  | .keyWithoutColon => "could not find expected ':'"
  | .entryNotAllowedHere => "block sequence entries are not allowed in this context"
  | .keyNotAllowedHere => "mapping keys are not allowed in this context"
  | .valueNotAllowedHere => "mapping values are not allowed in this context"
  | .badDirective => "found a malformed directive"
  | .incompatibleVersion => "found incompatible YAML document"
  | .repeatedDirective => "found duplicate directive"
  | .badAnchor => "did not find expected alphabetic or numeric character"
  | .badTag => "found a malformed tag"
  | .unknownTagHandle => "found undefined tag handle"
  | .badBlockHeader => "did not find expected comment or line break"
  | .tabInIndentation => "found a tab character where an indentation space is expected"
  | .markerInQuotes => "found unexpected document indicator"
  | .unclosedQuotes => "found unexpected end of stream"
  | .unknownEscape => "found unknown escape character"
  | .badHexEscape => "did not find expected hexdecimal number"
  | .colonInFlow => "found unexpected ':'"
  | .documentStartExpected => "did not find expected <document start>"
  | .contentExpected => "did not find expected node content"
  | .keyExpected => "did not find expected key"
  | .entryExpected => "did not find expected '-' indicator"
  | .commaExpected => "did not find expected ',' or closing bracket"
  | .unknownAnchor => "unknown anchor"
  | .severalDocuments =>
    "deserializing from YAML containing more than one document is not supported"
  | .tooDeep => "recursion limit exceeded"

/-! ## Positions -/

/-- A place in a text. -/
structure Position where
  /-- The number of bytes before it. -/
  index : Nat := 0
  line : Nat := 0
  column : Nat := 0
  deriving DecidableEq, Repr, Inhabited

namespace Position

/-- The place after `n` more characters of the same line, of one byte each. -/
def forward (p : Position) (n : Nat) : Position :=
  { p with index := p.index + n, column := p.column + n }

/-- The place after a character of the same line. -/
def after (p : Position) (c : Char) : Position :=
  { p with index := p.index + c.utf8Size, column := p.column + 1 }

/-- The place after a line break of `n` bytes. -/
def newLine (p : Position) (n : Nat) : Position :=
  { index := p.index + n, line := p.line + 1, column := 0 }

end Position

/-- The place a reader has come to, and the text that follows. -/
structure Cursor where
  pos : Position := {}
  rest : List Char
  deriving Repr, Inhabited

/-- The cursor after `n` more characters of the same line, of one byte each. -/
def Cursor.forward (c : Cursor) (n : Nat) : Cursor := ⟨c.pos.forward n, c.rest.drop n⟩

end EnvRegistry.Yaml
