/-! # Patterns

    In a pattern `*` stands for any text, `?` for any character and brackets for one
    of the characters they list.  A quoted character stands for itself, and so does one
    after a backslash. -/

namespace EnvRegistry.Shell

/-! ## Characters -/

/-- A character of a word after expansion. -/
structure Mark where
  char : Char
  quoted : Bool
  deriving DecidableEq, Repr

/-- Whether a character belongs to the class of a name; nothing if there is no such class. -/
def charClass? (name : String) : Option (Char → Bool) :=
  let isBlank := fun (c : Char) => c = ' ' || c = '\t'
  let isSpace := fun (c : Char) => c = ' ' || ('\t' ≤ c && c ≤ '\r')
  let isGraph := fun (c : Char) => '!' ≤ c && c ≤ '~'
  let isControl := fun (c : Char) => c < ' ' || c = '\x7f'
  let isHexadecimal := fun (c : Char) =>
    c.isDigit || ('a' ≤ c && c ≤ 'f') || ('A' ≤ c && c ≤ 'F')
  match name with
  | "alpha" => some Char.isAlpha
  | "digit" => some Char.isDigit
  | "alnum" => some Char.isAlphanum
  | "upper" => some Char.isUpper
  | "lower" => some Char.isLower
  | "blank" => some isBlank
  | "space" => some isSpace
  | "graph" => some isGraph
  | "print" => some fun c => isGraph c || c = ' '
  | "punct" => some fun c => isGraph c && !c.isAlphanum
  | "cntrl" => some isControl
  | "xdigit" => some isHexadecimal
  | _ => none

/-- What stands between brackets. -/
inductive SetItem where
  | range (first last : Char)
  | named (name : String)
  deriving DecidableEq, Repr

/-- Whether a character is one of those that an item lists. -/
def SetItem.admits (c : Char) : SetItem → Bool
  | .range first last => first ≤ c && c ≤ last
  | .named name => match charClass? name with
    | some p => p c
    | none => false

/-! ## Reading patterns -/

/-- What a place of a pattern asks for. -/
inductive PatternItem where
  | char (c : Char)
  | anyChar
  | anyText
  /-- A character that the items list, or one that they do not list. -/
  | oneOf (negated : Bool) (items : List SetItem)
  deriving DecidableEq, Repr

/-- Whether a character is one that a place of a pattern asks for. -/
def PatternItem.admits (c : Char) : PatternItem → Bool
  | .char d => c = d
  | .anyChar | .anyText => true
  | .oneOf negated items => (items.any fun i => i.admits c) != negated

/-- A pattern. -/
abbrev Pattern := List PatternItem

namespace Pattern

/-- A named class at the start, after its first bracket, and what follows. -/
def namedClass? (ms : List Mark) : Option (SetItem × List Mark) :=
  match ms with
  | m :: rest =>
    if m.char ≠ ':' then none
    else
      let name := String.ofList ((rest.takeWhile (·.char ≠ ':')).map Mark.char)
      match rest.dropWhile (·.char ≠ ':') with
      | _ :: close :: after =>
        if close.char = ']' && (charClass? name).isSome then some (.named name, after) else none
      | _ => none
  | [] => none

/-- A character that may stand after a backslash, and what follows. -/
def setChar? : List Mark → Option (Char × List Mark)
  | [] => none
  | [m] => some (m.char, [])
  | m :: n :: rest =>
    if m.char = '\\' && !m.quoted then some (n.char, rest) else some (m.char, n :: rest)

/-- Reads the items of a set up to the bracket that closes it, which cannot be the first one;
nothing if there is none.  Gives the items and what follows. -/
def setItems? : (fuel : Nat) → (first : Bool) → List Mark → Option (List SetItem × List Mark)
  | 0, _, _ => none
  | _, _, [] => none
  | fuel + 1, first, m :: rest =>
    if m.char = ']' && !m.quoted && !first then some ([], rest)
    else
      let named := if m.char = '[' && !m.quoted then namedClass? rest else none
      match named with
      | some (item, after) => (setItems? fuel false after).map fun (is, r) => (item :: is, r)
      | none =>
        match setChar? (m :: rest) with
        | none => none
        | some (a, rest) =>
          match rest with
          | dash :: next :: _ =>
            if dash.char = '-' && !dash.quoted && !(next.char = ']' && !next.quoted) then
              match setChar? rest.tail with
              | some (b, rest) =>
                (setItems? fuel false rest).map fun (is, r) => (.range a b :: is, r)
              | none => none
            else (setItems? fuel false rest).map fun (is, r) => (.range a a :: is, r)
          | _ => (setItems? fuel false rest).map fun (is, r) => (.range a a :: is, r)

/-- Reads a set after its first bracket. -/
def set? (ms : List Mark) : Option (PatternItem × List Mark) :=
  let (negated, ms) := match ms with
    | m :: rest => if m.char = '!' && !m.quoted then (true, rest) else (false, ms)
    | [] => (false, ms)
  (setItems? (ms.length + 1) true ms).map fun (items, rest) => (.oneOf negated items, rest)

/-- Reads a pattern. -/
def ofMarksFrom : (fuel : Nat) → List Mark → Pattern
  | 0, _ => []
  | _, [] => []
  | fuel + 1, m :: rest =>
    if m.quoted then .char m.char :: ofMarksFrom fuel rest
    else match m.char with
      | '*' => .anyText :: ofMarksFrom fuel rest
      | '?' => .anyChar :: ofMarksFrom fuel rest
      | '\\' => match rest with
        | n :: rest => .char n.char :: ofMarksFrom fuel rest
        | [] => [.char '\\']
      | '[' => match set? rest with
        | some (item, rest) => item :: ofMarksFrom fuel rest
        | none => .char '[' :: ofMarksFrom fuel rest
      | c => .char c :: ofMarksFrom fuel rest

/-- The pattern that a word is. -/
def ofMarks (ms : List Mark) : Pattern := ofMarksFrom ms.length ms

/-- The pattern that a text is. -/
def ofText (s : String) : Pattern := ofMarks (s.toList.map fun c => ⟨c, false⟩)

/-- Whether a word has characters that make it a pattern for more than one text. -/
def isOpen (ms : List Mark) : Bool :=
  (ofMarks ms).any fun
    | .char _ => false
    | _ => true

/-! ## What patterns accept -/

/-- Says of each end of a text, from the whole to the empty one, whether a pattern stands for it. -/
def acceptedEnds : Pattern → List Char → List Bool
  | [], cs => cs.map (fun _ => false) ++ [true]
  | .anyText :: p, cs =>
    (acceptedEnds p cs).foldr (fun b later => (b || later.headD false) :: later) []
  | item :: p, cs =>
    List.zipWith (fun c b => item.admits c && b) cs (acceptedEnds p cs).tail ++ [false]

/-- Whether a text is one of those that a pattern stands for. -/
def accepts (p : Pattern) (cs : List Char) : Bool := (p.acceptedEnds cs).headD false

/-- How much of a text lies before the longest or the shortest end that a pattern stands for. -/
def beforeEnd? (p : Pattern) (longest : Bool) (cs : List Char) : Option Nat :=
  let ends := p.acceptedEnds cs
  if longest then ends.findIdx? id
  else (ends.reverse.findIdx? id).map (cs.length - ·)

/-- What is left of a text without a part at its start for which the pattern stands: read backwards,
that part is an end. -/
def cutStart (p : Pattern) (longest : Bool) (s : String) : String :=
  let cs := s.toList
  match beforeEnd? p.reverse longest cs.reverse with
  | some n => String.ofList (cs.drop (cs.length - n))
  | none => s

/-- What is left of a text without a part at its end for which the pattern stands. -/
def cutEnd (p : Pattern) (longest : Bool) (s : String) : String :=
  let cs := s.toList
  match p.beforeEnd? longest cs with
  | some n => String.ofList (cs.take n)
  | none => s

end Pattern

end EnvRegistry.Shell
