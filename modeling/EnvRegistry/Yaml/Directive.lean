import EnvRegistry.Yaml.Scalar.Block
import EnvRegistry.Yaml.Token

/-! # Directives, anchors and tags

    The tokens that say something about the text or about a node: version and tag
    directives, anchors and aliases, and tags. -/

namespace EnvRegistry.Yaml

/-! ## Names of resources -/

/-- The characters of the names of resources, other than letters and digits. -/
def resourceMarks : List Char :=
  ['_', '-', ';', '/', '?', ':', '@', '&', '=', '+', '$', '.', '!', '~', '*', '\'', '(', ')']

/-- Whether a character may stand in the name of a resource; the `wide` ones may hold some
indicators too. -/
def isResourceChar (wide : Bool) (c : Char) : Bool :=
  c.isAlphanum || resourceMarks.contains c || (wide && (c = ',' || c = '[' || c = ']'))

/-- How many bytes a character has whose first byte this is, and the bits it gives. -/
def firstByte? (b : Nat) : Option (Nat × Nat) :=
  if b < 0x80 then some (1, b)
  else if 0xC0 ≤ b && b < 0xE0 then some (2, b - 0xC0)
  else if 0xE0 ≤ b && b < 0xF0 then some (3, b - 0xE0)
  else if 0xF0 ≤ b && b < 0xF8 then some (4, b - 0xF0)
  else none

/-- The character that `bits` from so many bytes make up; the replacement character if there is
none, or if it could be written in fewer bytes. -/
def charOfBits (bytes bits : Nat) : Char :=
  let c := Char.ofNat bits
  if c.toNat = bits && c.utf8Size = bytes then c else '\ufffd'

/-- Reads the name of a resource, in which bytes may be written by their value after a percent
sign.  A character takes `width` bytes, of which it still lacks `pending`, and `bits` holds those
it has. -/
def scanResource (wide : Bool) (acc : List Char) (width pending bits count : Nat) :
    List Char → Except Fault (List Char × Nat × List Char)
  | '%' :: a :: b :: rest =>
    match hexValue? a, hexValue? b with
    | some x, some y =>
      let byte := 16 * x + y
      if pending = 0 then
        match firstByte? byte with
        | some (1, bits) => scanResource wide (acc ++ [Char.ofNat bits]) 0 0 0 (count + 3) rest
        | some (n, bits) => scanResource wide acc n (n - 1) bits (count + 3) rest
        | none => .error .badTag
      else if 0x80 ≤ byte && byte < 0xC0 then
        let bits := 64 * bits + (byte - 0x80)
        if pending = 1 then
          scanResource wide (acc ++ [charOfBits width bits]) 0 0 0 (count + 3) rest
        else scanResource wide acc width (pending - 1) bits (count + 3) rest
      else .error .badTag
    | _, _ => .error .badTag
  | '%' :: _ => .error .badTag
  | c :: rest =>
    if pending ≠ 0 then .error .badTag
    else if isResourceChar wide c then scanResource wide (acc ++ [c]) 0 0 0 (count + 1) rest
    else .ok (acc, count, c :: rest)
  | [] => if pending ≠ 0 then .error .badTag else .ok (acc, count, [])

/-- Reads the name of a resource at a cursor. -/
def resource (wide : Bool) (c : Cursor) : Except Fault (List Char × Cursor) := do
  let (name, n, rest) ← scanResource wide [] 0 0 0 0 c.rest
  return (name, ⟨c.pos.forward n, rest⟩)

/-- A name as far as it counts: up to its first null character. -/
def upToNull (cs : List Char) : List Char := cs.takeWhile (· ≠ '\x00')

/-! ## Words and blanks -/

/-- Reads the characters at a cursor that satisfy `p`. -/
def takeRun (p : Char → Bool) (c : Cursor) : List Char × Cursor :=
  let run := c.rest.takeWhile p
  (run, ⟨c.pos.forward run.length, c.rest.dropWhile p⟩)

/-- Reads a number of at most nine digits. -/
def takeNumber (c : Cursor) : Except Fault (Nat × Cursor) :=
  let (ds, c) := takeRun Char.isDigit c
  if ds.isEmpty || 9 < ds.length then .error .badDirective
  else .ok (ds.foldl (fun n d => 10 * n + (d.toNat - '0'.toNat)) 0, c)

/-! ## Anchors and aliases -/

/-- Whether an anchor may end before this text. -/
def anchorEnds : List Char → Bool
  | [] => true
  | c :: rest => endsWord (c :: rest) || ['?', ':', ',', ']', '\x7d', '%', '@', '\x60'].contains c

/-- Reads the name of an anchor after its indicator. -/
def scanAnchor (c : Cursor) : Except Fault (String × Cursor) :=
  let (name, c) := takeRun isWordChar c
  if name.isEmpty || !anchorEnds c.rest then .error .badAnchor
  else .ok (String.ofList name, c)

/-! ## Tags -/

/-- Reads the handle of a tag, from its exclamation mark on. -/
def scanHandle (c : Cursor) : Except Fault (List Char × Cursor) :=
  match c.rest with
  | '!' :: _ =>
    let (word, c) := takeRun isWordChar (c.forward 1)
    match c.rest with
    | '!' :: _ => .ok ('!' :: (word ++ ['!']), c.forward 1)
    | _ => .ok ('!' :: word, c)
  | _ => .error .badTag

/-- Whether a handle is closed by a second exclamation mark. -/
def isClosedHandle (h : List Char) : Bool := 2 ≤ h.length && h.getLast? = some '!'

/-- Reads a tag from its exclamation mark on. -/
def scanTag (inFlow : Bool) (c : Cursor) : Except Fault (Token × Cursor) := do
  let (handle, suffix, c) ← match c.rest with
    | '!' :: '<' :: _ => do
      let (name, c) ← resource true (c.forward 2)
      match c.rest with
      | '>' :: _ => if name.isEmpty then throw .badTag else pure ([], upToNull name, c.forward 1)
      | _ => throw .badTag
    | _ => do
      let (handle, c) ← scanHandle c
      let (name, c) ← resource false c
      if isClosedHandle handle then
        if name.isEmpty then throw .badTag else pure (handle, upToNull name, c)
      else
        let suffix := upToNull (handle.drop 1 ++ name)
        if suffix.isEmpty then pure ([], ['!'], c) else pure (['!'], suffix, c)
  if endsWord c.rest || (inFlow && c.rest.head? = some ',') then
    return (.tag (String.ofList handle) (String.ofList suffix), c)
  else throw .badTag

/-! ## Directives -/

/-- Reads a directive after its percent sign, up to the next line. -/
def scanDirective (c : Cursor) : Except Fault (Token × Cursor) := do
  let (name, c) := takeRun isWordChar c
  if name.isEmpty || !endsWord c.rest then throw .badDirective
  let (_, c) := takeRun isBlank c
  let (token, c) ← match String.ofList name with
    | "YAML" => do
      let (major, c) ← takeNumber c
      match c.rest with
      | '.' :: _ => do
        let (minor, c) ← takeNumber (c.forward 1)
        pure (Token.versionDirective major minor, c)
      | _ => throw .badDirective
    | "TAG" => do
      let (handle, c) ← scanHandle c
      if !isClosedHandle handle && handle ≠ ['!'] then throw .badDirective
      match c.rest with
      | d :: _ => if !isBlank d then throw .badDirective
      | [] => throw .badDirective
      let (_, c) := takeRun isBlank c
      let (start, c) ← resource true c
      if start.isEmpty || !endsWord c.rest then throw .badDirective
      pure (Token.tagDirective (String.ofList handle) (String.ofList (upToNull start)), c)
    | _ => throw .badDirective
  let c ← skipRestOfLine .badDirective false c.pos c.rest
  return (token, c)

end EnvRegistry.Yaml
