import EnvRegistry.Yaml.Scalar.Plain

/-! # Quoted scalars

    Between single quotes a quote is written twice and nothing else is special.
    Between double quotes a backslash starts an escape.  Both may go over several
    lines. -/

namespace EnvRegistry.Yaml

/-- The first column may not hold the marker of a document. -/
def markerInQuotes (gap : Gap) (pos : Position) (cs : List Char) : Bool :=
  !gap.isNone && pos.column = 0 && startsWithMarker cs

/-! ## Single quotes -/

/-- Reads a single-quoted scalar after its opening quote. -/
def scanSingleQuoted (text : List Char) (gap : Gap) (pos : Position) :
    List Char → Except Fault Scanned
  | [] => .error .unclosedQuotes
  | '\r' :: '\n' :: rest => scanSingleQuoted text (gap.addBreak '\n') (pos.newLine 2) rest
  | '\'' :: '\'' :: rest =>
    scanSingleQuoted (text ++ gap.value ++ ['\'']) .none (pos.forward 2) rest
  | '\'' :: rest => .ok ⟨text ++ gap.value, false, ⟨pos.forward 1, rest⟩⟩
  | c :: rest =>
    if isBlank c then scanSingleQuoted text (gap.addBlank c) (pos.forward 1) rest
    else if isBreak c then scanSingleQuoted text (gap.addBreak c) (pos.newLine 1) rest
    else if markerInQuotes gap pos (c :: rest) then .error .markerInQuotes
    else scanSingleQuoted (text ++ gap.value ++ [c]) .none (pos.after c) rest

/-! ## Double quotes -/

/-- What a character after a backslash stands for. -/
inductive Escape where
  | char (c : Char)
  /-- So many hexadecimal digits follow. -/
  | hex (digits : Nat)

/-- What the character after a backslash stands for. -/
def escape? : Char → Option Escape
  | '0' => some (.char '\x00')
  | 'a' => some (.char '\x07')
  | 'b' => some (.char '\x08')
  | 't' | '\t' => some (.char '\t')
  | 'n' => some (.char '\n')
  | 'v' => some (.char '\x0b')
  | 'f' => some (.char '\x0c')
  | 'r' => some (.char '\r')
  | 'e' => some (.char '\x1b')
  | ' ' => some (.char ' ')
  | '"' => some (.char '"')
  | '/' => some (.char '/')
  | '\\' => some (.char '\\')
  | 'N' => some (.char '\u0085')
  | '_' => some (.char '\u00a0')
  | 'L' => some (.char '\u2028')
  | 'P' => some (.char '\u2029')
  | 'x' => some (.hex 2)
  | 'u' => some (.hex 4)
  | 'U' => some (.hex 8)
  | _ => none

/-- Where a reader of a double-quoted scalar is. -/
inductive QuotedMode where
  | plain
  /-- After a backslash. -/
  | escape
  /-- Inside an escape: so many digits are to come, after those with this value. -/
  | hex (digits value : Nat)

/-- The character with a code point, unless there is none. -/
def charOfCode? (n : Nat) : Option Char :=
  if (0xD800 ≤ n && n ≤ 0xDFFF) || 0x10FFFF < n then none else some (Char.ofNat n)

/-- Reads a double-quoted scalar after its opening quote. -/
def scanDoubleQuoted (text : List Char) (gap : Gap) (pos : Position) :
    QuotedMode → List Char → Except Fault Scanned
  | _, [] => .error .unclosedQuotes
  | .hex digits value, c :: rest =>
    match hexValue? c with
    | none => .error .badHexEscape
    | some d =>
      let value := 16 * value + d
      if digits ≤ 1 then
        match charOfCode? value with
        | none => .error .badHexEscape
        | some c => scanDoubleQuoted (text ++ [c]) .none (pos.forward 1) .plain rest
      else scanDoubleQuoted text .none (pos.forward 1) (.hex (digits - 1) value) rest
  | .escape, '\r' :: '\n' :: rest =>
    scanDoubleQuoted text .escapedBreak (pos.newLine 2) .plain rest
  | .escape, c :: rest =>
    if isBreak c then scanDoubleQuoted text .escapedBreak (pos.newLine 1) .plain rest
    else
      match escape? c with
      | none => .error .unknownEscape
      | some (.char c) => scanDoubleQuoted (text ++ [c]) .none (pos.forward 1) .plain rest
      | some (.hex n) => scanDoubleQuoted text .none (pos.forward 1) (.hex n 0) rest
  | .plain, '\r' :: '\n' :: rest =>
    scanDoubleQuoted text (gap.addBreak '\n') (pos.newLine 2) .plain rest
  | .plain, c :: rest =>
    if isBlank c then scanDoubleQuoted text (gap.addBlank c) (pos.forward 1) .plain rest
    else if isBreak c then scanDoubleQuoted text (gap.addBreak c) (pos.newLine 1) .plain rest
    else if markerInQuotes gap pos (c :: rest) then .error .markerInQuotes
    else if c = '"' then .ok ⟨text ++ gap.value, false, ⟨pos.forward 1, rest⟩⟩
    else if c = '\\' then
      scanDoubleQuoted (text ++ gap.value) .none (pos.forward 1) .escape rest
    else scanDoubleQuoted (text ++ gap.value ++ [c]) .none (pos.after c) .plain rest

end EnvRegistry.Yaml
