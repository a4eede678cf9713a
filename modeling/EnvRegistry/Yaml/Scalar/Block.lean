import EnvRegistry.Yaml.Scalar.Plain

/-! # Block scalars

    A block scalar has a header, which says how its end is treated and maybe how deep
    it is indented, and then lines that are indented deeper than what surrounds it.
    A literal scalar keeps its line breaks, and a folded one joins lines by spaces. -/

namespace EnvRegistry.Yaml

/-- What happens to the breaks a block scalar ends with. -/
inductive Chomping where
  /-- None is kept. -/
  | strip
  /-- The first is kept. -/
  | clip
  /-- All are kept. -/
  | keep
  deriving DecidableEq, Repr

/-- The header of a block scalar. -/
structure BlockHeader where
  chomping : Chomping := .clip
  /-- How much deeper than what surrounds it the scalar is indented, if that is said. -/
  indentation : Option Nat := none

/-! ## The header -/

/-- Reads a sign of chomping. -/
def chomping? : Char → Option Chomping
  | '+' => some .keep
  | '-' => some .strip
  | _ => none

/-- Reads the two indicators of a header, in either order. -/
def scanIndicators : List Char → Except Fault (BlockHeader × Nat × List Char)
  | [] => .ok ({}, 0, [])
  | c :: rest =>
    match chomping? c with
    | some chomping =>
      match rest with
      | d :: rest' =>
        if d = '0' then .error .badBlockHeader
        else if d.isDigit then .ok (⟨chomping, some (d.toNat - '0'.toNat)⟩, 2, rest')
        else .ok (⟨chomping, none⟩, 1, rest)
      | [] => .ok (⟨chomping, none⟩, 1, [])
    | none =>
      if c = '0' then .error .badBlockHeader
      else if c.isDigit then
        let indentation := some (c.toNat - '0'.toNat)
        match rest with
        | d :: rest' =>
          match chomping? d with
          | some chomping => .ok (⟨chomping, indentation⟩, 2, rest')
          | none => .ok (⟨.clip, indentation⟩, 1, rest)
        | [] => .ok (⟨.clip, indentation⟩, 1, [])
      else .ok ({}, 0, c :: rest)

/-- Passes over the rest of a line, which may hold blanks and a comment, and over its break. -/
def skipRestOfLine (fault : Fault) (comment : Bool) (pos : Position) :
    List Char → Except Fault Cursor
  | [] => .ok ⟨pos, []⟩
  | '\r' :: '\n' :: rest => .ok ⟨pos.newLine 2, rest⟩
  | c :: rest =>
    if isBreak c then .ok ⟨pos.newLine 1, rest⟩
    else if comment || isBlank c then skipRestOfLine fault comment (pos.after c) rest
    else if c = '#' then skipRestOfLine fault true (pos.forward 1) rest
    else .error fault

/-! ## The lines -/

/-- Passes over the empty lines before the first line of a scalar whose indentation is not said;
it is that of the deepest of these lines, but at least `least`.  Gives back the indentation and
the breaks. -/
def scanIndentation (least deepest : Nat) (breaks : List Char) (pos : Position) :
    List Char → Except Fault (Nat × List Char × Cursor)
  | [] => .ok (max (max deepest pos.column) least, breaks, ⟨pos, []⟩)
  | '\r' :: '\n' :: rest =>
    scanIndentation least (max deepest pos.column) (breaks ++ ['\n']) (pos.newLine 2) rest
  | c :: rest =>
    if c = ' ' then scanIndentation least deepest breaks (pos.forward 1) rest
    else if c = '\t' then .error .tabInIndentation
    else if isBreak c then
      scanIndentation least (max deepest pos.column) (breaks ++ [breakValue c]) (pos.newLine 1) rest
    else .ok (max (max deepest pos.column) least, breaks, ⟨pos, c :: rest⟩)

/-- What has been read of a block scalar. -/
structure BlockState where
  text : List Char := []
  /-- The break after the last line. -/
  leading : List Char := []
  /-- The breaks of the empty lines after that. -/
  trailing : List Char := []
  /-- Whether the last line began with a blank. -/
  wasBlank : Bool := false
  /-- Whether the reader is inside a line rather than in its indentation. -/
  inLine : Bool := false

/-- A line that begins with `c` starts. -/
def BlockState.startLine (s : BlockState) (literal : Bool) (c : Char) : BlockState :=
  let blank := isBlank c
  let folds := !literal && s.leading.head? = some '\n' && !s.wasBlank && !blank
  let join := if folds then (if s.trailing.isEmpty then [' '] else []) else s.leading
  { text := s.text ++ join ++ s.trailing ++ [c], wasBlank := blank, inLine := true }

/-- A line break is read. -/
def BlockState.endLine (s : BlockState) (c : Char) : BlockState :=
  if s.inLine then { s with leading := [breakValue c], inLine := false }
  else { s with trailing := s.trailing ++ [breakValue c] }

/-- Reads the lines of a scalar with the given indentation. -/
def scanBlockLines (literal : Bool) (indent : Nat) (s : BlockState) (pos : Position) :
    List Char → Except Fault (BlockState × Cursor)
  | [] => .ok (s, ⟨pos, []⟩)
  | '\r' :: '\n' :: rest => scanBlockLines literal indent (s.endLine '\n') (pos.newLine 2) rest
  | c :: rest =>
    if isBreak c then scanBlockLines literal indent (s.endLine c) (pos.newLine 1) rest
    else if s.inLine then
      scanBlockLines literal indent { s with text := s.text ++ [c] } (pos.forward 1) rest
    else if pos.column < indent then
      if c = ' ' then scanBlockLines literal indent s (pos.forward 1) rest
      else if c = '\t' then .error .tabInIndentation
      else .ok (s, ⟨pos, c :: rest⟩)
    else if pos.column = indent then
      scanBlockLines literal indent (s.startLine literal c) (pos.forward 1) rest
    else .ok (s, ⟨pos, c :: rest⟩)

/-- The text of a scalar whose lines have been read. -/
def BlockState.result (s : BlockState) (chomping : Chomping) : List Char :=
  match chomping with
  | .strip => s.text
  | .clip => s.text ++ s.leading
  | .keep => s.text ++ s.leading ++ s.trailing

/-- Reads a block scalar after its indicator; what surrounds it is indented by `parent`. -/
def scanBlock (literal : Bool) (parent : Int) (c : Cursor) : Except Fault Scanned := do
  let (header, n, rest) ← scanIndicators c.rest
  let start ← skipRestOfLine .badBlockHeader false (c.pos.forward n) rest
  match header.indentation with
  | some deeper =>
    let indent := parent.toNat + deeper
    let (s, cursor) ← scanBlockLines literal indent {} start.pos start.rest
    return ⟨s.result header.chomping, true, cursor⟩
  | none =>
    let least := max (parent + 1).toNat 1
    let (indent, breaks, first) ← scanIndentation least 0 [] start.pos start.rest
    let (s, cursor) ← scanBlockLines literal indent { trailing := breaks } first.pos first.rest
    return ⟨s.result header.chomping, true, cursor⟩

end EnvRegistry.Yaml
