import EnvRegistry.Yaml.Directive
import EnvRegistry.Yaml.Scalar.Quoted

/-! # From texts to tokens

    `tokens` goes through a text once.  What makes this more than cutting it into
    words is that nothing marks a key before the colon after it has been read.  So
    the scanner remembers where a key could have started, and puts the token that
    marks the key there once it finds the colon on the same line. -/

namespace EnvRegistry.Yaml

/-! ## The state of the scanner -/

/-- A place where a key could have started. -/
structure PossibleKey where
  /-- The number of tokens before it. -/
  tokenCount : Nat
  pos : Position
  /-- Whether nothing but a key can start there. -/
  required : Bool

/-- The state of the scanner. -/
structure Scanner where
  cursor : Cursor
  tokens : List Token := []
  /-- The indentation of the block the scanner is in. -/
  indent : Int := -1
  /-- The indentations of the blocks around it, innermost first. -/
  outer : List Int := []
  /-- Whether a key may start here. -/
  keyAllowed : Bool := true
  /-- Where a key could have started outside all brackets. -/
  possibleKey : Option PossibleKey := none
  /-- The same for all brackets the scanner is in, innermost first. -/
  inBrackets : List (Option PossibleKey) := []

namespace Scanner

/-- Whether the scanner is inside brackets. -/
def inFlow (s : Scanner) : Bool := !s.inBrackets.isEmpty

/-- The column the scanner has come to. -/
def column (s : Scanner) : Nat := s.cursor.pos.column

/-- The scanner with one more token. -/
def push (s : Scanner) (t : Token) : Scanner := { s with tokens := s.tokens ++ [t] }

/-- The scanner with a token put in place `n`. -/
def insert (s : Scanner) (n : Nat) (t : Token) : Scanner :=
  { s with tokens := s.tokens.take n ++ t :: s.tokens.drop n }

/-- The scanner after a token of `n` characters. -/
def pushSkip (s : Scanner) (t : Token) (n : Nat) : Scanner :=
  { s.push t with cursor := s.cursor.forward n }

/-! ## Possible keys -/

/-- Where a key could have started within the innermost brackets. -/
def currentKey (s : Scanner) : Option PossibleKey :=
  match s.inBrackets with
  | [] => s.possibleKey
  | k :: _ => k

/-- The scanner with another place for the start of a key. -/
def setKey (s : Scanner) (k : Option PossibleKey) : Scanner :=
  match s.inBrackets with
  | [] => { s with possibleKey := k }
  | _ :: rest => { s with inBrackets := k :: rest }

/-- Whether a key that started there would have to be complete by now: a key lies within one line
and is not longer than 1024 bytes. -/
def PossibleKey.isStale (k : PossibleKey) (now : Position) : Bool :=
  k.pos.line < now.line || k.pos.index + 1024 < now.index

/-- Gives up a place where a key would have to be complete by now. -/
def dropStale (now : Position) : Option PossibleKey → Except Fault (Option PossibleKey)
  | none => .ok none
  | some k =>
    if PossibleKey.isStale k now then
      if k.required then .error .keyWithoutColon else .ok none
    else .ok (some k)

/-- Gives up all places where a key would have to be complete by now. -/
def dropStaleKeys (s : Scanner) : Except Fault Scanner := do
  return { s with
    possibleKey := ← dropStale s.cursor.pos s.possibleKey
    inBrackets := ← s.inBrackets.mapM (dropStale s.cursor.pos) }

/-- No key started at the place remembered last. -/
def removeKey (s : Scanner) : Except Fault Scanner :=
  match s.currentKey with
  | some k => if k.required then .error .keyWithoutColon else .ok (s.setKey none)
  | none => .ok s

/-- Remembers that a key may start here. -/
def saveKey (s : Scanner) : Except Fault Scanner :=
  if s.keyAllowed then do
    let s ← s.removeKey
    return s.setKey (some {
      tokenCount := s.tokens.length
      pos := s.cursor.pos
      required := !s.inFlow && s.indent = s.column })
  else .ok s

/-! ## Indentation -/

/-- Opens a block at a column, unless one is open there; its token is put in place `n`. -/
def openBlock (s : Scanner) (column : Nat) (n : Nat) (t : Token) : Scanner :=
  if s.inFlow then s
  else if s.indent < column then
    { s.insert n t with outer := s.indent :: s.outer, indent := column }
  else s

/-- Closes blocks that are indented deeper than a column. -/
def closeBlocksFrom (column : Int) (s : Scanner) : List Int → Scanner
  | [] => s
  | i :: rest =>
    if column < s.indent then
      closeBlocksFrom column { s.push .blockEnd with indent := i, outer := rest } rest
    else s

/-- Closes the blocks that are indented deeper than a column. -/
def closeBlocks (s : Scanner) (column : Int) : Scanner :=
  if s.inFlow then s else closeBlocksFrom column s s.outer

/-! ## Between tokens -/

/-- Passes over blanks, comments and breaks.  After a break a key may start.  Tabs do not count as
blanks where a key may start.  The mark that shows an encoding may start a line, and takes up a
column of it. -/
def skipSpace (inFlow : Bool) (keyAllowed comment : Bool) (pos : Position) :
    List Char → Bool × Cursor
  | [] => (keyAllowed, ⟨pos, []⟩)
  | '\r' :: '\n' :: rest => skipSpace inFlow (keyAllowed || !inFlow) false (pos.newLine 2) rest
  | c :: rest =>
    if isBreak c then skipSpace inFlow (keyAllowed || !inFlow) false (pos.newLine 1) rest
    else if comment then skipSpace inFlow keyAllowed true (pos.after c) rest
    else if c = ' ' || (c = '\t' && (inFlow || !keyAllowed)) ||
        (c = byteOrderMark && pos.column = 0) then
      skipSpace inFlow keyAllowed false (pos.after c) rest
    else if c = '#' then skipSpace inFlow keyAllowed true (pos.forward 1) rest
    else (keyAllowed, ⟨pos, c :: rest⟩)

/-! ## Tokens -/

/-- A marker of the start or the end of a document. -/
def marker (s : Scanner) (t : Token) : Except Fault Scanner := do
  let s ← (s.closeBlocks (-1)).removeKey
  return { s.pushSkip t 3 with keyAllowed := false }

/-- A directive. -/
def directive (s : Scanner) : Except Fault Scanner := do
  let s ← (s.closeBlocks (-1)).removeKey
  let (t, c) ← scanDirective (s.cursor.forward 1)
  return { s.push t with keyAllowed := false, cursor := c }

/-- An opening bracket. -/
def openBracket (s : Scanner) (t : Token) : Except Fault Scanner := do
  let s ← s.saveKey
  return { s.pushSkip t 1 with keyAllowed := true, inBrackets := none :: s.inBrackets }

/-- A closing bracket. -/
def closeBracket (s : Scanner) (t : Token) : Except Fault Scanner := do
  let s ← s.removeKey
  return { s.pushSkip t 1 with keyAllowed := false, inBrackets := s.inBrackets.tail }

/-- A comma between brackets. -/
def comma (s : Scanner) : Except Fault Scanner := do
  let s ← s.removeKey
  return { s.pushSkip .flowEntry 1 with keyAllowed := true }

/-- The dash of a list entry. -/
def dash (s : Scanner) : Except Fault Scanner := do
  if !s.inFlow && !s.keyAllowed then throw .entryNotAllowedHere
  let s ← (s.openBlock s.column s.tokens.length .blockSequenceStart).removeKey
  return { s.pushSkip .blockEntry 1 with keyAllowed := true }

/-- The question mark before a key. -/
def questionMark (s : Scanner) : Except Fault Scanner := do
  if !s.inFlow && !s.keyAllowed then throw .keyNotAllowedHere
  let s ← (s.openBlock s.column s.tokens.length .blockMappingStart).removeKey
  return { s.pushSkip .key 1 with keyAllowed := !s.inFlow }

/-- The colon after a key. -/
def colon (s : Scanner) : Except Fault Scanner := do
  match s.currentKey with
  | some k =>
    let s := (s.insert k.tokenCount .key).openBlock k.pos.column k.tokenCount .blockMappingStart
    return { (s.setKey none).pushSkip .value 1 with keyAllowed := false }
  | none =>
    if !s.inFlow && !s.keyAllowed then throw .valueNotAllowedHere
    let s := s.openBlock s.column s.tokens.length .blockMappingStart
    return { s.pushSkip .value 1 with keyAllowed := !s.inFlow }

/-- An anchor or alias. -/
def name (s : Scanner) (make : String → Token) : Except Fault Scanner := do
  let s ← s.saveKey
  let (n, c) ← scanAnchor (s.cursor.forward 1)
  return { s.push (make n) with keyAllowed := false, cursor := c }

/-- A tag. -/
def tag (s : Scanner) : Except Fault Scanner := do
  let s ← s.saveKey
  let (t, c) ← scanTag s.inFlow s.cursor
  return { s.push t with keyAllowed := false, cursor := c }

/-- A scalar that has been read. -/
def pushScalar (s : Scanner) (r : Scanned) (style : Style) : Scanner :=
  { s.push (.scalar (String.ofList r.text) style) with cursor := r.cursor }

/-- A block scalar. -/
def block (s : Scanner) (style : Style) : Except Fault Scanner := do
  let s ← s.removeKey
  let r ← scanBlock (style = .literal) s.indent (s.cursor.forward 1)
  return { s.pushScalar r style with keyAllowed := true }

/-- A scalar in single quotes. -/
def singleQuoted (s : Scanner) : Except Fault Scanner := do
  let s ← s.saveKey
  let c := s.cursor.forward 1
  let r ← scanSingleQuoted [] .none c.pos c.rest
  return { s.pushScalar r .singleQuoted with keyAllowed := false }

/-- A scalar in double quotes. -/
def doubleQuoted (s : Scanner) : Except Fault Scanner := do
  let s ← s.saveKey
  let c := s.cursor.forward 1
  let r ← scanDoubleQuoted [] .none c.pos .plain c.rest
  return { s.pushScalar r .doubleQuoted with keyAllowed := false }

/-- A plain scalar. -/
def plain (s : Scanner) : Except Fault Scanner := do
  let s ← s.saveKey
  let r ← scanPlain s.inFlow (s.indent + 1) [] .none s.cursor.pos s.cursor.rest
  return { s.pushScalar r .plain with keyAllowed := r.afterBreak }

/-- The characters that start something else than a plain scalar. -/
def indicators : List Char :=
  ['-', '?', ':', ',', '[', ']', '\x7b', '\x7d', '#', '&', '*', '!', '|', '>', '\'', '"', '%',
    '@', '\x60']

/-- Whether a plain scalar may start with `c` before the text that follows. -/
def startsPlain (inFlow : Bool) (c : Char) (rest : List Char) : Bool :=
  !(isBlank c || isBreak c || indicators.contains c) ||
    (c = '-' && !(rest.head?.any isBlank)) ||
    (!inFlow && (c = '?' || c = ':') && !endsWord rest)

/-- Reads the token that starts with the character `c` and goes on with `rest`. -/
def token (s : Scanner) (c : Char) (rest : List Char) : Except Fault Scanner :=
  if s.column = 0 && c = '%' then s.directive
  else if s.column = 0 && c = '-' && startsWithMarker (c :: rest) then s.marker .documentStart
  else if s.column = 0 && c = '.' && startsWithMarker (c :: rest) then s.marker .documentEnd
  else if c = '[' then s.openBracket .flowSequenceStart
  else if c = '\x7b' then s.openBracket .flowMappingStart
  else if c = ']' then s.closeBracket .flowSequenceEnd
  else if c = '\x7d' then s.closeBracket .flowMappingEnd
  else if c = ',' then s.comma
  else if c = '-' && endsWord rest then s.dash
  else if c = '?' && (s.inFlow || endsWord rest) then s.questionMark
  else if c = ':' && (s.inFlow || endsWord rest) then s.colon
  else if c = '*' then s.name .alias
  else if c = '&' then s.name .anchor
  else if c = '!' then s.tag
  else if c = '|' && !s.inFlow then s.block .literal
  else if c = '>' && !s.inFlow then s.block .folded
  else if c = '\'' then s.singleQuoted
  else if c = '"' then s.doubleQuoted
  else if startsPlain s.inFlow c rest then s.plain
  else .error .unexpectedCharacter

/-- Reads the next token with what stands before it, or closes all blocks at the end. -/
def step (s : Scanner) : Except Fault (Scanner × Bool) := do
  let (keyAllowed, cursor) :=
    skipSpace s.inFlow s.keyAllowed false s.cursor.pos s.cursor.rest
  let s ← { s with keyAllowed, cursor }.dropStaleKeys
  let s := s.closeBlocks s.column
  match s.cursor.rest with
  | [] => do
    let s ← (s.closeBlocks (-1)).removeKey
    return (s, true)
  | c :: rest => return (← s.token c rest, false)

/-- Reads tokens until the end.  Every token takes a character, so the length of the text is fuel
enough. -/
def run : (fuel : Nat) → Scanner → Except Fault (List Token)
  | 0, _ => .error .tooDeep
  | fuel + 1, s => do
    let (s, done) ← s.step
    if done then return s.tokens else run fuel s

end Scanner

/-- The tokens of a text. -/
def tokens (text : String) : Except Fault (List Token) :=
  let cs := text.toList
  if cs.all isAllowed then Scanner.run (cs.length + 1) { cursor := { rest := cs } }
  else .error .characterNotAllowed

end EnvRegistry.Yaml
