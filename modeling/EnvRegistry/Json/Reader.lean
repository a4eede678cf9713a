import EnvRegistry.Json.Basic

/-! # Reading JSON texts

    `Json.read` gives every text a tree.  Where the text stops being JSON the tree
    holds the fault and reading ends; what follows a complete value, other than
    blanks, is a fault of its own.

    Quoted texts are read in two steps.  `scanQuoted` takes the characters and
    escapes up to the closing quote, and `joinUnits` puts the UTF-16 units of the
    escapes together.  A half of a surrogate pair that stands alone is a fault for
    whoever wants the text and none for whoever passes over it. -/

namespace EnvRegistry.Json

/-- A tree, and what follows it in the text; nothing follows a fault. -/
abbrev Reading := Json × Option (List Char)

/-! ## Blanks and literals -/

/-- The blanks that may stand between tokens. -/
def isBlank (c : Char) : Bool := c = ' ' || c = '\n' || c = '\t' || c = '\r'

/-- The text without the blanks it begins with. -/
def skipBlanks (cs : List Char) : List Char := cs.dropWhile isBlank

/-- Reads the rest of a literal. -/
def readLiteral (value : Json) : (expected : List Char) → List Char → Reading
  | [], cs => (value, some cs)
  | _ :: _, [] => (.broken .eofInValue, none)
  | e :: es, c :: cs => if c = e then readLiteral value es cs else (.broken .expectedIdent, none)

/-! ## Numbers -/

/-- The value of a decimal digit. -/
def digitValue (c : Char) : Nat := c.toNat - '0'.toNat

/-- The number written by a list of decimal digits. -/
def digitsValue (ds : List Char) : Nat := ds.foldl (fun n c => 10 * n + digitValue c) 0

/-- A number breaks off: too early for whoever wants it, malformed for whoever passes over it. -/
def numberCut : List Char → Reading
  | [] => (.unreadable .eofInValue (some .invalidNumber), none)
  | _ => (.broken .invalidNumber, none)

/-- Reads an exponent, if there is one, and completes the number. -/
def readExponent (n : Number) : List Char → Reading
  | c :: cs =>
    if c = 'e' || c = 'E' then
      let (negative, cs) := match cs with
        | '-' :: r => (true, r)
        | '+' :: r => (false, r)
        | r => (false, r)
      let ds := cs.takeWhile Char.isDigit
      if ds.isEmpty then numberCut cs
      else
        let e : Int := digitsValue ds
        (.number { n with exponent := some (if negative then -e else e) },
          some (cs.dropWhile Char.isDigit))
    else (.number n, some (c :: cs))
  | [] => (.number n, some [])

/-- Reads a fraction, if there is one, and what follows it. -/
def readFraction (n : Number) : List Char → Reading
  | '.' :: cs =>
    let ds := cs.takeWhile Char.isDigit
    if ds.isEmpty then numberCut cs
    else readExponent { n with fraction := ds.map digitValue } (cs.dropWhile Char.isDigit)
  | cs => readExponent n cs

/-- Reads a number after its sign.  A leading zero stands alone. -/
def readNumber (negative : Bool) (cs : List Char) : Reading :=
  match cs.takeWhile Char.isDigit with
  | [] => numberCut cs
  | '0' :: _ :: _ => (.broken .invalidNumber, none)
  | ds => readFraction { negative, whole := digitsValue ds } (cs.dropWhile Char.isDigit)

/-! ## Quoted texts -/

/-- One element of a quoted text: a character, or the UTF-16 unit of a `\u` escape. -/
inductive Piece where
  | char (c : Char)
  | unit (u : Nat)
  deriving DecidableEq, Repr

/-- The value of a hexadecimal digit. -/
def hexValue? (c : Char) : Option Nat :=
  if '0' ≤ c ∧ c ≤ '9' then some (c.toNat - '0'.toNat)
  else if 'a' ≤ c ∧ c ≤ 'f' then some (c.toNat - 'a'.toNat + 10)
  else if 'A' ≤ c ∧ c ≤ 'F' then some (c.toNat - 'A'.toNat + 10)
  else none

/-- The UTF-16 unit written by four hexadecimal digits. -/
def unit? (a b c d : Char) : Option Nat := do
  return 4096 * (← hexValue? a) + 256 * (← hexValue? b) + 16 * (← hexValue? c) + (← hexValue? d)

/-- The character a one-letter escape stands for. -/
def escape? : Char → Option Char
  | '"' => some '"'
  | '\\' => some '\\'
  | '/' => some '/'
  | 'b' => some '\x08'
  | 'f' => some '\x0c'
  | 'n' => some '\n'
  | 'r' => some '\r'
  | 't' => some '\t'
  | _ => none

/-- The number of bytes of a text. -/
def byteCount (cs : List Char) : Nat := cs.foldl (fun n c => n + c.utf8Size) 0

/-- The pieces of a quoted text in reverse, and what follows the closing quote or a fault with the
text it was met at. -/
def scanQuoted (acc : List Piece) : List Char → List Piece × Except (Fault × List Char) (List Char)
  | [] => (acc, .error (.eofInString, []))
  | '"' :: rest => (acc, .ok rest)
  | '\\' :: 'u' :: a :: b :: c :: d :: rest =>
    match unit? a b c d with
    | some u => scanQuoted (.unit u :: acc) rest
    | none => (acc, .error (.invalidEscape, '\\' :: 'u' :: a :: b :: c :: d :: rest))
  | '\\' :: 'u' :: rest =>
    let fault := if byteCount rest < 4 then Fault.eofInString else .invalidEscape
    (acc, .error (fault, '\\' :: 'u' :: rest))
  | '\\' :: e :: rest =>
    match escape? e with
    | some c => scanQuoted (.char c :: acc) rest
    | none => (acc, .error (.invalidEscape, '\\' :: e :: rest))
  | ['\\'] => (acc, .error (.eofInString, ['\\']))
  | c :: rest =>
    if c.toNat < 0x20 then (acc, .error (.controlCharacter, c :: rest))
    else scanQuoted (.char c :: acc) rest

/-- Whether a UTF-16 unit is the first half of a surrogate pair. -/
def isHighUnit (u : Nat) : Bool := 0xD800 ≤ u && u < 0xDC00

/-- Whether a UTF-16 unit is the second half of a surrogate pair. -/
def isLowUnit (u : Nat) : Bool := 0xDC00 ≤ u && u < 0xE000

/-- The characters written by a list of pieces, or the fault of the first half pair that stands
alone; `cut` is the fault of one that stands at the end. -/
def joinUnits (cut : Fault) (acc : List Char) : List Piece → Except Fault (List Char)
  | [] => .ok acc.reverse
  | .char c :: rest => joinUnits cut (c :: acc) rest
  | [.unit u] =>
    if isLowUnit u then .error .loneSurrogate
    else if isHighUnit u then .error cut
    else .ok (Char.ofNat u :: acc).reverse
  | .unit u :: .char c :: rest =>
    if isLowUnit u then .error .loneSurrogate
    else if isHighUnit u then .error .unexpectedEndOfEscape
    else joinUnits cut (c :: Char.ofNat u :: acc) rest
  | .unit u :: .unit v :: rest =>
    if isLowUnit u then .error .loneSurrogate
    else if isHighUnit u then
      if isLowUnit v then
        joinUnits cut (Char.ofNat (0x10000 + 0x400 * (u - 0xD800) + (v - 0xDC00)) :: acc) rest
      else .error .loneSurrogate
    else joinUnits cut (Char.ofNat u :: acc) (.unit v :: rest)

/-- What a quoted text says to whoever wants it, what fault whoever passes over it meets, and what
follows it. -/
structure Quoted where
  wanted : Except Fault String
  skipped : Option Fault
  rest : Option (List Char)

/-- A pair whose second half is missing is judged by what stands in its place: the reader, which
stopped there for the fault `f`, misses the second half first unless an escape with digits may
begin there. -/
def faultAfterHalf (f : Fault) : List Char → Fault
  | [] => f
  | ['\\'] => f
  | '\\' :: 'u' :: _ => f
  | _ => .unexpectedEndOfEscape

/-- Reads a quoted text after its opening quote. -/
def readQuoted (cs : List Char) : Quoted :=
  let (pieces, stop) := scanQuoted [] cs
  match stop with
  | .ok rest =>
    let wanted := joinUnits .unexpectedEndOfEscape [] pieces.reverse
    ⟨wanted.map String.ofList, none, some rest⟩
  | .error (f, place) =>
    let wanted := match joinUnits (faultAfterHalf f place) [] pieces.reverse with
      | .ok _ => f
      | .error g => g
    ⟨.error wanted, some f, none⟩

/-- A quoted text as a value. -/
def Quoted.value (q : Quoted) : Json :=
  match q.wanted with
  | .ok s => .string s
  | .error f => .unreadable f q.skipped

/-! ## Values -/

mutual

/-- Reads a value. -/
def readValue : (fuel : Nat) → List Char → Reading
  | 0, _ => (.broken .nestingTooDeep, none)
  | fuel + 1, cs =>
    match skipBlanks cs with
    | [] => (.broken .eofInValue, none)
    | 'n' :: r => readLiteral .null ['u', 'l', 'l'] r
    | 't' :: r => readLiteral (.bool true) ['r', 'u', 'e'] r
    | 'f' :: r => readLiteral (.bool false) ['a', 'l', 's', 'e'] r
    | '-' :: r => readNumber true r
    | '"' :: r =>
      let q := readQuoted r
      (q.value, q.rest)
    | '[' :: r =>
      match skipBlanks r with
      | [] => (.array [] (.cut .eofInList), none)
      | ']' :: r => (.array [] .closed, some r)
      | r => readItems fuel [] r
    | '\x7b' :: r =>
      match skipBlanks r with
      | [] => (.object [] (.cut .eofInObject), none)
      | '\x7d' :: r => (.object [] .closed, some r)
      | r => readMembers fuel [] r
    | c :: r =>
      if c.isDigit then readNumber false (c :: r) else (.broken .expectedValue, none)

/-- Reads the elements of a list from the start of one; `acc` holds the earlier ones in reverse. -/
def readItems : (fuel : Nat) → (acc : List Json) → List Char → Reading
  | 0, acc, _ => (.array acc.reverse (.cut .nestingTooDeep), none)
  | fuel + 1, acc, cs =>
    match readValue fuel cs with
    | (item, none) => (.array (item :: acc).reverse .closed, none)
    | (item, some r) =>
      let items := item :: acc
      match skipBlanks r with
      | [] => (.array items.reverse (.cut .eofInList), none)
      | ']' :: r => (.array items.reverse .closed, some r)
      | ',' :: r =>
        match skipBlanks r with
        | [] => (.array items.reverse (.dangling .eofInValue), none)
        | ']' :: _ => (.array items.reverse (.dangling .trailingComma), none)
        | r => readItems fuel items r
      | _ => (.array items.reverse (.cut .expectedListCommaOrEnd), none)

/-- Reads the members of an object from the start of one; `acc` holds the earlier ones in
reverse. -/
def readMembers : (fuel : Nat) → (acc : List (Except Fault String × Json)) → List Char → Reading
  | 0, acc, _ => (.object acc.reverse (.cut .nestingTooDeep), none)
  | fuel + 1, acc, cs =>
    match cs with
    | '"' :: r =>
      let name := readQuoted r
      match name.rest with
      | none =>
        let fault := name.skipped.getD .eofInString
        (.object ((name.wanted, .broken fault) :: acc).reverse .closed, none)
      | some r =>
        match skipBlanks r with
        | [] => (.object ((name.wanted, .broken .eofInObject) :: acc).reverse .closed, none)
        | ':' :: r =>
          match readValue fuel r with
          | (value, none) => (.object ((name.wanted, value) :: acc).reverse .closed, none)
          | (value, some r) =>
            let members := (name.wanted, value) :: acc
            match skipBlanks r with
            | [] => (.object members.reverse (.cut .eofInObject), none)
            | '\x7d' :: r => (.object members.reverse .closed, some r)
            | ',' :: r =>
              match skipBlanks r with
              | [] => (.object members.reverse (.dangling .eofInValue), none)
              | '\x7d' :: _ => (.object members.reverse (.dangling .trailingComma), none)
              | r => readMembers fuel members r
            | _ => (.object members.reverse (.cut .expectedObjectCommaOrEnd), none)
        | _ => (.object ((name.wanted, .broken .expectedColon) :: acc).reverse .closed, none)
    | _ => (.object acc.reverse (.dangling .keyMustBeString), none)

end

/-- The tree of a text, and the fault of what follows a complete value. -/
structure Document where
  value : Json
  trailing : Option Fault := none

/-- Reads a text.  Every step down takes a character, so twice the length is fuel enough. -/
def read (text : String) : Document :=
  let cs := text.toList
  match readValue (2 * cs.length + 2) cs with
  | (value, none) => ⟨value, none⟩
  | (value, some rest) =>
    match skipBlanks rest with
    | [] => ⟨value, none⟩
    | _ => ⟨value, some .trailingCharacters⟩

end EnvRegistry.Json
