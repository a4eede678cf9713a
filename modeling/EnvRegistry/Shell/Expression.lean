import EnvRegistry.Shell.Numeral
import EnvRegistry.Shell.Pattern

/-! # Expressions

    An expression says what a part of a text looks like.  `Expression.find?` gives the
    first part that looks so, and the longest one that starts there.

    The places at which a part can end are worked out for the expression from the
    inside out: a list of ends, the last place first, with every place at most once.
    For this reason the work does not grow with the number of ways to read a text. -/

namespace EnvRegistry.Shell

/-- What a part of a text looks like. -/
inductive Expression where
  /-- Nothing at all. -/
  | nothing
  | char (c : Char)
  | anyChar
  | oneOf (negated : Bool) (items : List SetItem)
  /-- The start or end of the text. -/
  | textStart
  | textEnd
  /-- A place between a character of a word and another one, or not such a place. -/
  | wordEdge (here : Bool)
  /-- The start or end of a word. -/
  | wordStart
  | wordEnd
  /-- A place that no character of a word stands before, or after. -/
  | noWordBefore
  | noWordAfter
  | sequence (first second : Expression)
  | either (first second : Expression)
  /-- At least so often, and no more than so often. -/
  | repeated (e : Expression) (least : Nat) (most : Option Nat)
  /-- A part with a number. -/
  | group (number : Nat) (e : Expression)
  /-- The same text as the part with a number. -/
  | again (number : Nat)
  deriving Repr, Inhabited

/-- How expressions are written. -/
structure Dialect where
  /-- Brackets and braces mean something without a backslash. -/
  extended : Bool
  /-- A backslash means something in a set. -/
  setEscapes : Bool := false
  /-- In an extended expression, a sign that makes no sense stands for itself. -/
  lenient : Bool := true
  /-- Braces say how often something comes. -/
  braces : Bool := true

/-- Why a text is no expression. -/
inductive ExpressionFault where
  | openSet
  | openBracket
  | strayBracket
  | openBrace
  | badBrace
  | badRange
  | badClass
  | noGroup
  | nothingBefore
  | lastBackslash
  deriving DecidableEq, Repr

/-- The fault in words. -/
def ExpressionFault.message : ExpressionFault → String
  | .openSet => "Unmatched [, [^, [:, [., or [="
  | .openBracket => "Unmatched ( or \\("
  | .strayBracket => "Unmatched ) or \\)"
  | .openBrace => "Unmatched \\\x7b"
  | .badBrace => "Invalid content of \\\x7b\\\x7d"
  | .badRange => "Invalid range end"
  | .badClass => "Invalid character class name"
  | .noGroup => "Invalid back reference"
  | .nothingBefore => "Invalid preceding regular expression"
  | .lastBackslash => "Trailing backslash"

namespace Expression

/-! ## Reading expressions -/

/-- A sign in the text of an expression. -/
inductive Sign where
  | char (c : Char)
  | anyChar
  | set
  | openGroup
  | closeGroup
  | bar
  | star
  | plus
  | question
  | brace
  | textStart
  | textEnd
  | escape (c : Char)
  deriving DecidableEq, Repr

/-- Whether the rest of an expression is the end of a branch. -/
def isBranchEnd (d : Dialect) : List Char → Bool
  | [] => true
  | c :: cs =>
    if d.extended then c = '|' || c = ')'
    else c = '\\' && (cs.head? = some '|' || cs.head? = some ')')

/-- The next sign, and what follows; `first` says that a branch starts here. -/
def sign? (d : Dialect) (first : Bool) : List Char → Option (Sign × List Char)
  | [] => none
  | c :: cs =>
    let plain := some (Sign.char c, cs)
    match c with
    | '.' => some (.anyChar, cs)
    | '[' => some (.set, cs)
    | '*' => if first && !d.extended then plain else some (.star, cs)
    | '^' => if d.extended || first then some (.textStart, cs) else plain
    | '$' => if d.extended || isBranchEnd d cs then some (.textEnd, cs) else plain
    | '(' => if d.extended then some (.openGroup, cs) else plain
    | ')' => if d.extended then some (.closeGroup, cs) else plain
    | '|' => if d.extended then some (.bar, cs) else plain
    | '+' => if d.extended then some (.plus, cs) else plain
    | '?' => if d.extended then some (.question, cs) else plain
    | '\x7b' => if d.extended && d.braces then some (.brace, cs) else plain
    | '\\' =>
      match cs with
      | [] => some (.escape '\\', [])
      | e :: cs =>
        if d.extended then some (.escape e, cs)
        else match e with
          | '(' => some (.openGroup, cs)
          | ')' => some (.closeGroup, cs)
          | '|' => some (.bar, cs)
          | '+' => if first then some (.char e, cs) else some (.plus, cs)
          | '?' => if first then some (.char e, cs) else some (.question, cs)
          | '\x7b' => if d.braces then some (.brace, cs) else some (.char e, cs)
          | _ => some (.escape e, cs)
    | _ => plain

/-- The characters of words. -/
def wordItems : List SetItem := [.named "alnum", .range '_' '_']

/-- What a character after a backslash stands for. -/
def escaped (c : Char) : Expression :=
  match c with
  | 'w' => .oneOf false wordItems
  | 'W' => .oneOf true wordItems
  | 's' => .oneOf false [.named "space"]
  | 'S' => .oneOf true [.named "space"]
  | 'b' => .wordEdge true
  | 'B' => .wordEdge false
  | '<' => .wordStart
  | '>' => .wordEnd
  | '\x60' => .textStart
  | '\'' => .textEnd
  | 'n' => .char '\n'
  | 't' => .char '\t'
  | c => if c.isDigit && c ≠ '0' then .again (c.toNat - '0'.toNat) else .char c

/-- What is left of an expression, and the number of groups so far. -/
structure Source where
  rest : List Char
  groups : Nat := 0
  /-- The groups that are closed. -/
  closed : List Nat := []

/-- A step of reading an expression. -/
abbrev SourceM := StateT Source (Except ExpressionFault)

/-- A class with a name, after its first bracket and the sign after it. -/
def namedItem? (mark : Char) (cs : List Char) : Option (String × List Char) :=
  let name := cs.takeWhile (· ≠ mark)
  match cs.dropWhile (· ≠ mark) with
  | _ :: ']' :: rest => some (String.ofList name, rest)
  | _ => none

/-- The character that an item of a set starts with, and what follows. -/
def setChar (d : Dialect) : List Char → Option (Char × List Char)
  | [] => none
  | '[' :: '.' :: rest =>
    match namedItem? '.' rest with
    | some (name, rest) => (name.toList.head?).map fun c => (c, rest)
    | none => none
  | '\\' :: c :: rest =>
    if d.setEscapes then
      some (if c = 'n' then '\n' else if c = 't' then '\t' else c, rest)
    else some ('\\', c :: rest)
  | c :: rest => some (c, rest)

/-- Reads the items of a set up to the bracket that closes it, which cannot be the first one. -/
def setItems (d : Dialect) : (fuel : Nat) → (first : Bool) → List Char →
    Except ExpressionFault (List SetItem × List Char)
  | 0, _, _ => .error .openSet
  | _, _, [] => .error .openSet
  | fuel + 1, first, c :: rest =>
    if c = ']' && !first then .ok ([], rest)
    else if c = '[' && (rest.head? = some ':' || rest.head? = some '=') then
      match namedItem? (rest.headD ':') rest.tail with
      | none => .error .openSet
      | some (name, after) =>
        let item? := if rest.head? = some ':' then
            (charClass? name).map fun _ => SetItem.named name
          else name.toList.head?.map fun c => .range c c
        match item? with
        | none => .error .badClass
        | some item => do
          let (items, rest) ← setItems d fuel false after
          return (item :: items, rest)
    else
      match setChar d (c :: rest) with
      | none => .error .openSet
      | some (a, rest) =>
        match rest with
        | '-' :: next :: _ =>
          if next = ']' then do
            let (items, rest) ← setItems d fuel false rest
            return (.range a a :: items, rest)
          else
            match setChar d rest.tail with
            | none => .error .openSet
            | some (b, rest) =>
              if b < a then .error .badRange
              else do
                let (items, rest) ← setItems d fuel false rest
                return (.range a b :: items, rest)
        | _ => do
          let (items, rest) ← setItems d fuel false rest
          return (.range a a :: items, rest)

/-- Reads a set after its first bracket. -/
def charSet (d : Dialect) : SourceM Expression := do
  let s ← get
  let (negated, cs) := match s.rest with
    | '^' :: cs => (true, cs)
    | cs => (false, cs)
  match setItems d (cs.length + 1) true cs with
  | .error f => throw f
  | .ok (items, rest) =>
    set { s with rest }
    return .oneOf negated items

/-- How often something comes, read after the brace: the bounds and what follows.  Nothing if this
says no such thing. -/
def bounds? (d : Dialect) (cs : List Char) : Except ExpressionFault
    (Option (Nat × Option Nat × List Char)) :=
  let number (ds : List Char) : Nat := Numeral.ofDigits 10 ds
  let low := cs.takeWhile Char.isDigit
  let cs := cs.dropWhile Char.isDigit
  let (high, cs) := match cs with
    | ',' :: cs =>
      let ds := cs.takeWhile Char.isDigit
      (if ds.isEmpty then none else some (number ds), cs.dropWhile Char.isDigit)
    | cs => (some (number low), cs)
  let closed := if d.extended then cs.head? = some '\x7d' else cs.take 2 = ['\\', '\x7d']
  if !closed then
    if d.extended && d.lenient then .ok none
    else if cs.isEmpty then .error .openBrace
    else .error .badBrace
  else
    let least := number low
    if high.any (· < least) then .error .badBrace
    else .ok (some (least, high, cs.drop (if d.extended then 1 else 2)))

mutual

/-- Reads alternatives. -/
def alternatives (d : Dialect) : (fuel depth : Nat) → SourceM Expression
  | 0, _ => throw .openBracket
  | fuel + 1, depth => do
    let first ← branch d fuel depth true .nothing
    match sign? d false (← get).rest with
    | some (.bar, rest) =>
      modify fun s => { s with rest }
      let second ← alternatives d fuel depth
      return .either first second
    | _ => return first

/-- Reads a branch after a part of it. -/
def branch (d : Dialect) : (fuel depth : Nat) → (first : Bool) → Expression → SourceM Expression
  | 0, _, _, _ => throw .openBracket
  | fuel + 1, depth, first, before => do
    let s ← get
    let joined (part : Expression) : SourceM Expression := do
      let part ← repetitions d fuel part
      branch d fuel depth false (.sequence before part)
    match sign? d first s.rest with
    | none | some (.bar, _) => return before
    | some (.closeGroup, rest) =>
      if 0 < depth then return before
      if !(d.lenient && d.extended) then throw .strayBracket
      set { s with rest }
      joined (.char ')')
    | some (.textStart, rest) =>
      set { s with rest }
      branch d fuel depth true (.sequence before .textStart)
    | some (.star, rest) | some (.plus, rest) | some (.question, rest) =>
      -- There is nothing to repeat.
      if d.extended && !d.lenient && first then throw .nothingBefore
      set { s with rest }
      branch d fuel depth first before
    | some (sign, rest) =>
      set { s with rest }
      joined (← atom d fuel depth sign)

/-- Reads a part whose first sign has been read. -/
def atom (d : Dialect) : (fuel depth : Nat) → Sign → SourceM Expression
  | 0, _, _ => throw .openBracket
  | fuel + 1, depth, sign => do
    match sign with
    | .char c => return .char c
    | .anyChar => return .anyChar
    | .textEnd => return .textEnd
    | .set => charSet d
    | .escape c =>
      let e := escaped c
      if let .again n := e then
        if !(← get).closed.contains n then throw .noGroup
      return e
    | .openGroup =>
      let number := (← get).groups + 1
      modify fun s => { s with groups := number }
      let inner ← alternatives d fuel (depth + 1)
      match sign? d false (← get).rest with
      | some (.closeGroup, rest) =>
        modify fun s => { s with rest, closed := number :: s.closed }
        return .group number inner
      | _ => throw .openBracket
    | .brace => return .char '\x7b'
    | _ => return .nothing

/-- Reads what says how often a part comes. -/
def repetitions (d : Dialect) : (fuel : Nat) → Expression → SourceM Expression
  | 0, e => return e
  | fuel + 1, e => do
    let s ← get
    match sign? d false s.rest with
    | some (.star, rest) =>
      set { s with rest }
      repetitions d fuel (.repeated e 0 none)
    | some (.plus, rest) =>
      set { s with rest }
      repetitions d fuel (.repeated e 1 none)
    | some (.question, rest) =>
      set { s with rest }
      repetitions d fuel (.repeated e 0 (some 1))
    | some (.brace, rest) =>
      match bounds? d rest with
      | .error f => throw f
      | .ok none => return e
      | .ok (some (least, most, rest)) =>
        set { s with rest }
        repetitions d fuel (.repeated e least most)
    | _ => return e

end

/-- Whether a text ends with a backslash that stands before nothing. -/
def endsOpen (cs : List Char) : Bool := (cs.reverse.takeWhile (· = '\\')).length % 2 = 1

/-- The expression that a text is. -/
def ofText (d : Dialect) (s : String) : Except ExpressionFault Expression :=
  let cs := s.toList
  match (alternatives d (6 * cs.length + 8) 0).run { rest := cs } with
  | .ok (e, _) => if endsOpen cs then .error .lastBackslash else .ok e
  | .error f => .error f

/-- The greatest number of a group. -/
def groupCount : Expression → Nat
  | .sequence first second | .either first second => max first.groupCount second.groupCount
  | .repeated e _ _ => e.groupCount
  | .group number e => max number e.groupCount
  | _ => 0

/-- The expression for a text itself. -/
def literal (s : String) : Expression :=
  s.toList.foldl (fun e c => .sequence e (.char c)) .nothing

/-! ## Finding parts of a text -/

/-- A place in a text, and where the groups before it are. -/
structure Spot where
  place : Nat
  groups : List (Nat × Nat × Nat) := []

/-- The characters of a text, and whether capital and small letters are the same. -/
structure Subject where
  chars : Array Char
  folded : Bool := false
  /-- Whether every line of the text has a start and an end. -/
  multiline : Bool := false

/-- Whether a character belongs to words. -/
def isWordChar (c : Char) : Bool := c.isAlphanum || c = '_'

/-- Whether a character of a word stands at a place. -/
def Subject.isWordAt (s : Subject) (n : Nat) : Bool := s.chars[n]?.any isWordChar

/-- Whether a character of a word stands before a place. -/
def Subject.isWordBefore (s : Subject) (n : Nat) : Bool := 0 < n && s.isWordAt (n - 1)

/-- Whether two characters are the same. -/
def Subject.same (s : Subject) (a b : Char) : Bool :=
  a = b || (s.folded && a.toLower = b.toLower)

/-- The spots of which each place occurs once, the last place first. -/
def tidy (spots : List Spot) : List Spot :=
  let kept := spots.foldl (fun kept (t : Spot) =>
    if kept.any fun k => k.place = t.place then kept else t :: kept) []
  match kept with
  | [] | [_] => kept
  | _ => kept.mergeSort fun a b => a.place ≥ b.place

/-- The spots that a step leads to from some spots, with so many steps at most; those before the
least number of steps do not count. -/
def repeatedly (step : Spot → List Spot) (least : Nat) :
    (fuel : Nat) → (done : Nat) → List Spot → List Spot
  | 0, done, spots => if least ≤ done then spots else []
  | fuel + 1, done, spots =>
    let next := spots.flatMap fun a =>
      (step a).filter fun b => done < least || b.place ≠ a.place
    let next := tidy next
    let later := if next.isEmpty then [] else repeatedly step least fuel (done + 1) next
    if least ≤ done then later ++ spots else later

/-- The spots at which a part that looks as an expression says can end. -/
def ends (s : Subject) : Expression → Spot → List Spot
  | .nothing, a => [a]
  | .char c, a =>
    if s.chars[a.place]?.any (s.same c) then [{ a with place := a.place + 1 }] else []
  | .anyChar, a => if a.place < s.chars.size then [{ a with place := a.place + 1 }] else []
  | .oneOf negated items, a =>
    match s.chars[a.place]? with
    | none => []
    | some c =>
      let listed := items.any fun i =>
        i.admits c || (s.folded && (i.admits c.toLower || i.admits c.toUpper))
      if listed != negated then [{ a with place := a.place + 1 }] else []
  | .textStart, a =>
    if a.place = 0 || (s.multiline && s.chars[a.place - 1]? = some '\n') then [a] else []
  | .textEnd, a =>
    if a.place = s.chars.size || (s.multiline && s.chars[a.place]? = some '\n') then [a] else []
  | .wordEdge here, a =>
    if (s.isWordBefore a.place != s.isWordAt a.place) = here then [a] else []
  | .wordStart, a => if !s.isWordBefore a.place && s.isWordAt a.place then [a] else []
  | .wordEnd, a => if s.isWordBefore a.place && !s.isWordAt a.place then [a] else []
  | .noWordBefore, a => if s.isWordBefore a.place then [] else [a]
  | .noWordAfter, a => if s.isWordAt a.place then [] else [a]
  | .sequence first second, a =>
    match ends s first a with
    | [] => []
    | [b] => ends s second b
    | bs => tidy (bs.flatMap (ends s second))
  | .either first second, a => tidy (ends s first a ++ ends s second a)
  | .repeated e least most, a =>
    let fuel := match most with
      | some n => n
      | none => least + s.chars.size + 1
    tidy (repeatedly (ends s e) least fuel 0 [a])
  | .group number e, a =>
    (ends s e a).map fun b =>
      { b with groups := (number, a.place, b.place) :: b.groups.filter (·.1 ≠ number) }
  | .again number, a =>
    match a.groups.lookup number with
    | none => []
    | some (first, last) =>
      let text := (s.chars.extract first last).toList
      let here := (s.chars.extract a.place (a.place + text.length)).toList
      if text.length = here.length && (text.zip here).all fun p => s.same p.1 p.2 then
        [{ a with place := a.place + text.length }]
      else []

/-- A part of a text, and the parts of it that are groups. -/
structure Part where
  first : Nat
  last : Nat
  groups : List (Nat × Nat × Nat)

/-- The first and longest part of a text, from a place on, that looks as an expression says, sought
for at so many places. -/
def findFrom? (e : Expression) (s : Subject) : (fuel : Nat) → (place : Nat) → Option Part
  | 0, _ => none
  | fuel + 1, place =>
    match ends s e { place } with
    | b :: _ => some ⟨place, b.place, b.groups⟩
    | [] => findFrom? e s fuel (place + 1)

/-- The first and longest part of a text, from a place on, that looks as an expression says. -/
def find? (e : Expression) (s : Subject) (place : Nat) : Option Part :=
  findFrom? e s (s.chars.size + 1 - place) place

/-- The part of a text at its start that looks as an expression says. -/
def start? (e : Expression) (s : Subject) : Option Part :=
  match ends s e { place := 0 } with
  | b :: _ => some ⟨0, b.place, b.groups⟩
  | [] => none

/-- The characters of a text between two places. -/
def Subject.between (s : Subject) (first last : Nat) : String :=
  String.ofList (s.chars.extract first last).toList

/-- The text of a group, empty if it is no part. -/
def Part.group (p : Part) (s : Subject) (number : Nat) : String :=
  if number = 0 then s.between p.first p.last
  else match p.groups.lookup number with
    | some (first, last) => s.between first last
    | none => ""

/-- All parts of a text that look as an expression says, from the left; an empty part does not
follow right after another one. -/
def parts (e : Expression) (s : Subject) : (fuel : Nat) → (place : Nat) → (last : Option Nat) →
    List Part
  | 0, _, _ => []
  | fuel + 1, place, last =>
    if s.chars.size < place then []
    else
      match e.find? s place with
      | none => []
      | some p =>
        if p.first = p.last then
          let later := parts e s fuel (p.last + 1) (some p.last)
          if last = some p.first then later else p :: later
        else p :: parts e s fuel p.last (some p.last)

/-- All parts of a text that look as an expression says. -/
def allParts (e : Expression) (s : Subject) : List Part := parts e s (s.chars.size + 2) 0 none

end Expression

end EnvRegistry.Shell
