import EnvRegistry.Json.Basic

/-! # Writing JSON texts

    `Json.compact` writes a value on one line without blanks, `Json.pretty` with one
    element a line and two more blanks for each level.  Only quotes, backslashes and
    the characters below the space are escaped. -/

namespace EnvRegistry.Json

/-! ## Texts and numbers -/

/-- A hexadecimal digit. -/
def hexDigit (n : Nat) : Char := if n < 10 then Char.ofNat (48 + n) else Char.ofNat (87 + n)

/-- A character inside a quoted text. -/
def escapeChar (c : Char) : List Char :=
  match c with
  | '"' => ['\\', '"']
  | '\\' => ['\\', '\\']
  | '\x08' => ['\\', 'b']
  | '\x0c' => ['\\', 'f']
  | '\n' => ['\\', 'n']
  | '\r' => ['\\', 'r']
  | '\t' => ['\\', 't']
  | c =>
    if c.toNat < 0x20 then ['\\', 'u', '0', '0', hexDigit (c.toNat / 16), hexDigit (c.toNat % 16)]
    else [c]

/-- A quoted text. -/
def quote (s : String) : String :=
  String.ofList ('"' :: (s.toList.flatMap escapeChar ++ ['"']))

/-- A number as it was written. -/
def Number.text (n : Number) : String :=
  let fraction := if n.fraction.isEmpty then "" else "." ++ String.join (n.fraction.map toString)
  let exponent := match n.exponent with
    | none => ""
    | some e => "e" ++ toString e
  (if n.negative then "-" else "") ++ toString n.whole ++ fraction ++ exponent

/-- The name of a member; one that cannot be had is empty. -/
def memberName (name : Except Fault String) : String := name.toOption.getD ""

/-! ## One line -/

mutual

/-- A value on one line.  What cannot be had is written as nothing. -/
def compact : Json → String
  | .null => "null"
  | .bool b => if b then "true" else "false"
  | .number n => n.text
  | .string s => quote s
  | .unreadable _ _ => ""
  | .array items _ => "[" ++ compactItems items ++ "]"
  | .object members _ => "\x7b" ++ compactMembers members ++ "\x7d"
  | .broken _ => ""

/-- The elements of a list, with commas between them. -/
def compactItems : List Json → String
  | [] => ""
  | [j] => compact j
  | j :: rest => compact j ++ "," ++ compactItems rest

/-- The members of an object, with commas between them. -/
def compactMembers : List (Except Fault String × Json) → String
  | [] => ""
  | [(name, j)] => quote (memberName name) ++ ":" ++ compact j
  | (name, j) :: rest =>
    quote (memberName name) ++ ":" ++ compact j ++ "," ++ compactMembers rest

end

/-! ## One element a line -/

/-- A line break and the blanks of a level. -/
def lineBreak (level : Nat) : String := "\n" ++ String.ofList (List.replicate (2 * level) ' ')

mutual

/-- A value at a level, with one element a line. -/
def prettyAt (level : Nat) : Json → String
  | .array [] _ => "[]"
  | .array items _ => "[" ++ prettyItems (level + 1) items ++ lineBreak level ++ "]"
  | .object [] _ => "\x7b\x7d"
  | .object members _ =>
    "\x7b" ++ prettyMembers (level + 1) members ++ lineBreak level ++ "\x7d"
  | .null => "null"
  | .bool b => if b then "true" else "false"
  | .number n => n.text
  | .string s => quote s
  | .unreadable _ _ | .broken _ => ""

/-- The elements of a list, each on a line of its own. -/
def prettyItems (level : Nat) : List Json → String
  | [] => ""
  | [j] => lineBreak level ++ prettyAt level j
  | j :: rest => lineBreak level ++ prettyAt level j ++ "," ++ prettyItems level rest

/-- The members of an object, each on a line of its own. -/
def prettyMembers (level : Nat) : List (Except Fault String × Json) → String
  | [] => ""
  | [(name, j)] => lineBreak level ++ quote (memberName name) ++ ": " ++ prettyAt level j
  | (name, j) :: rest =>
    lineBreak level ++ quote (memberName name) ++ ": " ++ prettyAt level j ++ "," ++
      prettyMembers level rest

end

/-- A value with one element a line. -/
def pretty (j : Json) : String := prettyAt 0 j

/-! ## Objects as maps -/

/-- Places a member among members that ascend by name, in place of an earlier one of its name. -/
def placeMember (name : String) (j : Json) :
    List (Except Fault String × Json) → List (Except Fault String × Json)
  | [] => [(.ok name, j)]
  | m :: rest =>
    let other := memberName m.1
    if name < other then (.ok name, j) :: m :: rest
    else if name = other then (.ok name, j) :: rest
    else m :: placeMember name j rest

mutual

/-- The same value with the members of every object ascending by name, of several members of one
name the last. -/
def sorted : Json → Json
  | .array items tail => .array (sortedItems items) tail
  | .object members tail => .object (sortedMembers [] members) tail
  | j => j

/-- Sorts within the elements of a list. -/
def sortedItems : List Json → List Json
  | [] => []
  | j :: rest => sorted j :: sortedItems rest

/-- Places members one after the other; `acc` holds the earlier ones. -/
def sortedMembers (acc : List (Except Fault String × Json)) :
    List (Except Fault String × Json) → List (Except Fault String × Json)
  | [] => acc
  | (name, j) :: rest => sortedMembers (placeMember (memberName name) (sorted j) acc) rest

end

end EnvRegistry.Json
