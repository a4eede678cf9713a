import EnvRegistry.Yaml.Scalar.Gap

/-! # Plain scalars

    A plain scalar ends before a colon that ends a word, before a comment, before a
    line that is not indented deep enough, and inside brackets before a bracket or a
    comma. -/

namespace EnvRegistry.Yaml

/-- A scalar that has been read. -/
structure Scanned where
  text : List Char
  /-- Whether the last thing read is a line break, so that a key may follow. -/
  afterBreak : Bool
  cursor : Cursor

/-- Brackets and commas. -/
def isFlowIndicator (c : Char) : Bool :=
  c = ',' || c = '[' || c = ']' || c = '\x7b' || c = '\x7d'

/-- Whether a colon that is followed by this text goes wrong inside brackets. -/
def colonGoesWrong : List Char → Bool
  | c :: _ => isFlowIndicator c || c = '?'
  | [] => false

/-- Whether the word ends before the character `c` and the text after it. -/
def plainEnds (inFlow : Bool) (c : Char) (rest : List Char) : Bool :=
  (c = ':' && endsWord rest) || (inFlow && isFlowIndicator c)

/-- Whether the whole scalar ends after a gap, before this text. -/
def plainEndsAfterGap (inFlow : Bool) (indent : Int) (column : Nat) (cs : List Char) : Bool :=
  (!inFlow && (column : Int) < indent) || (column = 0 && startsWithMarker cs) ||
    cs.head? = some '#'

/-- Reads a plain scalar whose lines are indented by at least `indent`.  `text` holds the words
read so far and `gap` what was read after them. -/
def scanPlain (inFlow : Bool) (indent : Int) (text : List Char) (gap : Gap) (pos : Position) :
    List Char → Except Fault Scanned
  | [] => .ok ⟨text, gap.broken, ⟨pos, []⟩⟩
  | '\r' :: '\n' :: rest => scanPlain inFlow indent text (gap.addBreak '\n') (pos.newLine 2) rest
  | c :: rest =>
    if isBlank c then
      if gap.broken && (pos.column : Int) < indent && c = '\t' then .error .tabInIndentation
      else scanPlain inFlow indent text (gap.addBlank c) (pos.forward 1) rest
    else if isBreak c then
      scanPlain inFlow indent text (gap.addBreak c) (pos.newLine 1) rest
    else if !gap.isNone && plainEndsAfterGap inFlow indent pos.column (c :: rest) then
      .ok ⟨text, gap.broken, ⟨pos, c :: rest⟩⟩
    else if inFlow && c = ':' && colonGoesWrong rest then .error .colonInFlow
    else if plainEnds inFlow c rest then .ok ⟨text, gap.broken, ⟨pos, c :: rest⟩⟩
    else scanPlain inFlow indent (text ++ gap.value ++ [c]) .none (pos.after c) rest

end EnvRegistry.Yaml
