import EnvRegistry.Shell.Edit.Script
import EnvRegistry.Shell.Raw

/-! # Reading scripts -/

namespace EnvRegistry.Shell.Edit

/-! ## Characters -/

/-- What is left of the text of a script. -/
structure Source where
  rest : List Char
  /-- How many characters have been read. -/
  place : Nat := 0
  script : Script := {}
  /-- The numbers of the blocks that are open, the innermost one first. -/
  blocks : List Nat := []
  /-- Whether expressions are extended ones. -/
  extended : Bool := false

/-- A step of reading a script. -/
abbrev ReadM := StateT Source (Except ScriptFault)

/-- Says what is wrong here. -/
def wrong {α : Type} (text : String) : ReadM α := do throw ⟨(← get).place, text⟩

/-- The next character, which stays. -/
def peek : ReadM (Option Char) := return (← get).rest.head?

/-- Reads a character. -/
def next : ReadM (Option Char) := do
  let s ← get
  match s.rest with
  | [] => return none
  | c :: rest =>
    set { s with rest, place := s.place + 1 }
    return some c

/-- Passes over a character. -/
def skip : ReadM Unit := do let _ ← next

/-- Reads characters as long as they are of a kind. -/
def takeWhile (p : Char → Bool) : ReadM (List Char) := do
  let s ← get
  let cs := s.rest.takeWhile p
  set { s with rest := s.rest.drop cs.length, place := s.place + cs.length }
  return cs

/-- Whether a character is a gap within a line. -/
def isGap (c : Char) : Bool := c = ' ' || c = '\t' || c = '\r' || c = '\x0b' || c = '\x0c'

/-- Passes over gaps. -/
def skipGaps : ReadM Unit := do let _ ← takeWhile isGap

/-- Reads a number. -/
def number : ReadM Nat := return Numeral.ofDigits 10 (← takeWhile Char.isDigit)

/-- Sees to it that a step ends here. -/
def endStep : ReadM Unit := do
  skipGaps
  match ← peek with
  | none | some '\x7d' | some '#' => return
  | some c =>
    skip
    if c ≠ ';' && c ≠ '\n' then wrong "extra characters after command"

/-! ## Texts with backslashes -/

/-- The character that a letter after a backslash stands for. -/
def control? (c : Char) : Option Char :=
  match c with
  | 'a' => some '\x07'
  | 'f' => some '\x0c'
  | 'n' => some '\n'
  | 'r' => some '\r'
  | 't' => some '\t'
  | 'v' => some '\x0b'
  | _ => none

/-- The value of a digit. -/
def digit? (base : Nat) (c : Char) : Option Nat :=
  let n := if c.isDigit then c.toNat - '0'.toNat
    else if 'a' ≤ c && c ≤ 'f' then c.toNat - 'a'.toNat + 10
    else if 'A' ≤ c && c ≤ 'F' then c.toNat - 'A'.toNat + 10
    else 100
  if n < base then some n else none

/-- A character given by its number after a backslash and a letter: the base of the number is known
by the letter. -/
def numbered? : List Char → Option (Char × List Char)
  | letter :: cs =>
    let read (base most : Nat) : Option (Char × List Char) :=
      let ds := (cs.take most).takeWhile fun c => (digit? base c).isSome
      if ds.isEmpty then none
      else
        let n := ds.foldl (fun n c => n * base + (digit? base c).getD 0) 0
        some (Raw.char n, cs.drop ds.length)
    match letter with
    | 'd' => read 10 3
    | 'o' => read 8 3
    | 'x' => read 16 2
    | _ => none
  | [] => none

/-- A text that stands by itself: a backslash stands for nothing but makes some letters stand for
other characters. -/
def plainText : (fuel : Nat) → List Char → List Char
  | 0, _ => []
  | fuel + 1, cs =>
    match cs with
    | [] => []
    | ['\\'] => []
    | '\\' :: c :: rest =>
      match numbered? (c :: rest), control? c with
      | some (d, rest), _ => d :: plainText fuel rest
      | none, some d => d :: plainText fuel rest
      | none, none => c :: plainText fuel rest
    | c :: rest => c :: plainText fuel rest

/-- The text of an expression in which letters after backslashes give way to what they stand for. -/
def expressionText : (fuel : Nat) → List Char → List Char
  | 0, _ => []
  | fuel + 1, cs =>
    match cs with
    | '\\' :: c :: rest =>
      match numbered? (c :: rest) with
      | some (d, rest) =>
        let special := ['$', '*', '.', '[', '\\', ']', '^', '+', '?', '(', ')', '|', '\x7b', '\x7d']
        if special.contains d then '[' :: d :: ']' :: expressionText fuel rest
        else d :: expressionText fuel rest
      | none =>
        match control? c with
        | some d => d :: expressionText fuel rest
        | none => '\\' :: c :: expressionText fuel rest
    | c :: rest => c :: expressionText fuel rest
    | [] => []

/-- Reads a set of characters after its first bracket, to which marks may belong. -/
def restOfSet : (fuel : Nat) → (acc : List Char) → ReadM (Option (List Char))
  | 0, _ => return none
  | fuel + 1, acc => do
    match ← next with
    | none => return none
    | some ']' => return some (']' :: acc)
    | some '[' =>
      match ← peek with
      | some ':' | some '.' | some '=' =>
        let sign := (← peek).getD ':'
        let s ← get
        let name := s.rest.tail.takeWhile (· ≠ sign)
        let whole := sign :: name ++ [sign, ']']
        if s.rest.take whole.length = whole then
          set { s with rest := s.rest.drop whole.length, place := s.place + whole.length }
          restOfSet fuel (whole.reverse ++ '[' :: acc)
        else restOfSet fuel ('[' :: acc)
      | _ => restOfSet fuel ('[' :: acc)
    | some c => restOfSet fuel (c :: acc)

/-- Reads a set of characters after its first bracket.  One that closes the set cannot be its first
character. -/
def wholeSet (acc : List Char) : ReadM (Option (List Char)) := do
  let s ← get
  let start := s.rest.take (if s.rest.head? = some '^' then 1 else 0)
  let start := start ++ if (s.rest.drop start.length).head? = some ']' then [']'] else []
  set { s with rest := s.rest.drop start.length, place := s.place + start.length }
  restOfSet (s.rest.length + 1) (start.reverse ++ acc)

/-- Reads up to a mark.  Without its backslash, a mark belongs to the text.  Nothing if there is no
mark. -/
def upTo (mark : Char) (isExpression : Bool) : (fuel : Nat) → (acc : List Char) →
    ReadM (Option (List Char))
  | 0, _ => return none
  | fuel + 1, acc => do
    match ← peek with
    | none | some '\n' => return none
    | some c =>
      skip
      if c = mark then return some acc.reverse
      if c = '[' && isExpression then
        match ← wholeSet ('[' :: acc) with
        | some acc => upTo mark isExpression fuel acc
        | none => return none
      else if c ≠ '\\' then upTo mark isExpression fuel (c :: acc)
      else
        match ← next with
        | none => return none
        | some d =>
          if d = 'n' && isExpression && mark ≠ 'n' then
            upTo mark isExpression fuel ('\n' :: acc)
          else if d = '\n' && !isExpression then upTo mark isExpression fuel ('\n' :: '\\' :: acc)
          else if d ≠ '\n' && (d ≠ mark || (!isExpression && d = '&')) then
            upTo mark isExpression fuel (d :: '\\' :: acc)
          else upTo mark isExpression fuel (d :: acc)

/-- Reads a part between marks. -/
def between (mark : Char) (isExpression : Bool) : ReadM (Option (List Char)) := do
  upTo mark isExpression ((← get).rest.length + 1) []

/-- The expression for a text; an empty one stands for what was looked for last. -/
def sought (text : List Char) (folded multiline : Bool) : ReadM Sought := do
  if text.isEmpty then return { expression := none, folded, multiline }
  let text := String.ofList (expressionText (text.length + 1) text)
  match Expression.ofText { extended := (← get).extended, lenient := false } text with
  | .ok e => return { expression := some e, folded, multiline }
  | .error f => wrong f.message

/-! ## Addresses -/

/-- Reads the letters after an expression: whether capitals count as small letters, and whether a
text has several lines. -/
def modifiers : (fuel : Nat) → (folded multiline : Bool) → ReadM (Bool × Bool)
  | 0, folded, multiline => return (folded, multiline)
  | fuel + 1, folded, multiline => do
    skipGaps
    match ← peek with
    | some 'I' =>
      skip
      modifiers fuel true multiline
    | some 'M' =>
      skip
      modifiers fuel folded true
    | _ => return (folded, multiline)

/-- Reads an address, if there is one. -/
def address? : ReadM (Option Address) := do
  match ← peek with
  | some '$' =>
    skip
    return some .last
  | some '/' | some '\\' =>
    let c ← next
    let mark ← if c = some '\\' then next else pure c
    match ← between (mark.getD '/') true with
    | none => wrong "unterminated address regex"
    | some text =>
      let (folded, multiline) ← modifiers 8 false false
      return some (.having (← sought text folded multiline))
  | some c =>
    if !c.isDigit then return none
    let n ← number
    skipGaps
    if (← peek) = some '~' then
      skip
      skipGaps
      let step ← number
      return some (if step = 0 then .line n else .every n step)
    return some (.line n)
  | none => return none

/-- Reads the end of a range. -/
def rangeEnd : ReadM RangeEnd := do
  match ← peek with
  | some '+' =>
    skip
    skipGaps
    return .after (← number)
  | some '~' =>
    skip
    skipGaps
    return .multiple (← number)
  | _ =>
    match ← address? with
    | some a => return .at a
    | none =>
      skip
      wrong "unexpected \x60,'"

/-- Reads which lines a step is for. -/
def selector : ReadM Selector := do
  let first ← address?
  if first.isNone && ((← peek) = some '+' || (← peek) = some '~') then
    skip
    let _ ← number
    wrong "invalid usage of +N or ~N as first address"
  skipGaps
  let last ← if first.isSome && (← peek) = some ',' then do
      skip
      skipGaps
      let e ← rangeEnd
      skipGaps
      pure (some e)
    else pure none
  if let some (.line 0) := first then
    match last with
    | some (.at (.having _)) => pure ()
    | _ =>
      skip
      wrong "invalid usage of line address 0"
  if (← peek) = some '!' then
    skip
    skipGaps
    if (← peek) = some '!' then
      skip
      wrong "multiple \x60!'s"
    return { first, last, negated := true }
  return { first, last }

/-! ## What is done -/

/-- Reads the text of a step, with the line break at its end. -/
def stepText : (fuel : Nat) → (acc : List Char) → ReadM (List Char)
  | 0, acc => return acc.reverse
  | fuel + 1, acc => do
    match ← next with
    | none | some '\n' => return ('\n' :: acc).reverse
    | some '\\' =>
      match ← next with
      | none => return ('\n' :: acc).reverse
      | some c => stepText fuel (c :: '\\' :: acc)
    | some c => stepText fuel (c :: acc)

/-- Reads the text that is to be shown. -/
def text : ReadM String := do
  skipGaps
  match ← peek with
  | none => wrong "expected \\ after \x60a', \x60c' or \x60i'"
  | some '\\' =>
    skip
    let gaps ← takeWhile isGap
    match ← peek with
    | none => return ""
    | some '\n' =>
      skip
      if (← get).rest.isEmpty then return "\n"
    | some _ => modify fun s => { s with rest := gaps ++ s.rest, place := s.place - gaps.length }
  | some _ => pure ()
  let cs ← stepText ((← get).rest.length + 1) []
  return String.ofList (plainText (cs.length + 1) cs)

/-- Reads a label. -/
def label : ReadM String := do
  skipGaps
  return String.ofList (← takeWhile fun c => !isGap c && c ≠ '\n' && c ≠ ';' && c ≠ '\x7d')

/-- Reads the path of a file. -/
def path : ReadM String := do
  skipGaps
  let cs ← takeWhile (· ≠ '\n')
  if cs.isEmpty then wrong "missing filename in r/R/w/W commands"
  return String.ofList cs

/-- Reads a number that may be missing, and the end of the step. -/
def lastNumber : ReadM (Option Nat) := do
  skipGaps
  let n ← if (← peek).any Char.isDigit then some <$> number else pure none
  endStep
  return n

/-- What is put in the place of something. -/
def pieces : (fuel : Nat) → (acc : List Char) → List Char → List Piece
  | 0, _, _ => []
  | fuel + 1, acc, cs =>
    let go (p : Piece) (rest : List Char) : List Piece :=
      let later := p :: pieces fuel [] rest
      if acc.isEmpty then later else .text (String.ofList acc.reverse) :: later
    match cs with
    | [] => if acc.isEmpty then [] else [.text (String.ofList acc.reverse)]
    | '&' :: rest => go (.group 0) rest
    | '\\' :: c :: rest =>
      if c.isDigit then go (.group (c.toNat - '0'.toNat)) rest
      else
        match c with
        | 'U' => go (.letters .upper) rest
        | 'L' => go (.letters .lower) rest
        | 'E' => go (.letters .asIs) rest
        | 'u' => go (.letter .upper) rest
        | 'l' => go (.letter .lower) rest
        | _ =>
          match numbered? (c :: rest), control? c with
          | some (d, rest), _ => pieces fuel (d :: acc) rest
          | none, some d => pieces fuel (d :: acc) rest
          | none, none => pieces fuel (c :: acc) rest
    | c :: rest => pieces fuel (c :: acc) rest

/-- The flags of a substitution. -/
structure Flags where
  number : Option Nat := none
  all : Bool := false
  shown : Bool := false
  folded : Bool := false
  multiline : Bool := false
  target : Option String := none

/-- Reads the flags of a substitution, and the end of the step. -/
def flags : (fuel : Nat) → Flags → ReadM Flags
  | 0, f => return f
  | fuel + 1, f => do
    match ← peek with
    | none | some '\x7d' | some '#' => return f
    | some c =>
      if c.isDigit then
        let n ← number
        if f.number.isSome then wrong "multiple number options to \x60s' command"
        if n = 0 then wrong "number option to \x60s' command may not be zero"
        flags fuel { f with number := some n }
      else
        skip
        match c with
        | '\n' | ';' => return f
        | ' ' | '\r' => flags fuel f
        | 'i' | 'I' => flags fuel { f with folded := true }
        | 'm' | 'M' => flags fuel { f with multiline := true }
        | 'g' =>
          if f.all then wrong "multiple \x60g' options to \x60s' command"
          flags fuel { f with all := true }
        | 'p' =>
          if f.shown then wrong "multiple \x60p' options to \x60s' command"
          flags fuel { f with shown := true }
        | 'w' => return { f with target := some (← path) }
        | _ => wrong "unknown option to \x60s'"

/-- Reads a substitution after its letter. -/
def substitution : ReadM Substitution := do
  let unfinished := "unterminated \x60s' command"
  match ← next with
  | none => wrong unfinished
  | some mark =>
    match ← between mark true with
    | none => wrong unfinished
    | some old =>
      match ← between mark false with
      | none => wrong unfinished
      | some new =>
        let f ← flags ((← get).rest.length + 1) {}
        let s ← sought old f.folded f.multiline
        let pieces := pieces (new.length + 1) [] new
        let highest := pieces.foldl (fun n p =>
          match p with
          | .group k => max n k
          | _ => n) 0
        if s.expression.any fun e => e.groupCount < highest then
          wrong ("invalid reference \\" ++ toString highest ++ " on \x60s' command's RHS")
        return {
          sought := s
          pieces
          number := f.number.getD 1
          all := f.all
          shown := f.shown
          target := f.target }

/-- The characters of a list in which backslashes stand before others. -/
def listed : List Char → List Char
  | '\\' :: '\\' :: rest => '\\' :: listed rest
  | '\\' :: c :: rest =>
    match control? c with
    | some d => d :: listed rest
    | none => if c = '\n' then c :: listed rest else '\\' :: c :: listed rest
  | c :: rest => c :: listed rest
  | [] => []

/-- Reads two lists of characters after their letter. -/
def exchange : ReadM (List (Char × Char)) := do
  let unfinished := "unterminated \x60y' command"
  match ← next with
  | none => wrong unfinished
  | some mark =>
    match ← between mark false with
    | none => wrong unfinished
    | some old =>
      match ← between mark false with
      | none => wrong unfinished
      | some new =>
        let old := listed old
        let new := listed new
        if old.length ≠ new.length then wrong "strings for \x60y' command are different lengths"
        endStep
        return old.zip new

/-! ## Steps -/

/-- Reads what is done with the lines of a selector. -/
def action (s : Selector) : ReadM Action := do
  let done (a : Action) : ReadM Action := do
    endStep
    return a
  match ← next with
  | none => wrong "missing command"
  | some c =>
    let forOne : ReadM Unit := do
      if s.last.isSome then wrong "command only uses one address"
    match c with
    | '=' => done .showNumber
    | 'F' => done .showName
    | 'a' => return .append (← text)
    | 'i' => return .insert (← text)
    | 'c' => return .change (← text)
    | 'b' => return .jump .always (← label)
    | 't' => return .jump .replaced (← label)
    | 'T' => return .jump .unchanged (← label)
    | 'd' => done .delete
    | 'D' => done .deleteFirst
    | 'g' => done .fromHold
    | 'G' => done .fromHoldAppended
    | 'h' => done .toHold
    | 'H' => done .toHoldAppended
    | 'x' => done .exchange
    | 'l' | 'L' => return .showEscaped (← lastNumber)
    | 'n' => done .next
    | 'N' => done .nextAppended
    | 'p' => done .show
    | 'P' => done .showFirst
    | 'q' | 'Q' =>
      forOne
      return .quit (c = 'Q') ((← lastNumber).getD 0)
    | 'r' => return .readFile (← path)
    | 'R' => return .readLine (← path)
    | 's' => return .substitute (← substitution)
    | 'w' => return .write (← path)
    | 'W' => return .writeFirst (← path)
    | 'y' => return .exchangeChars (← exchange)
    | 'z' => done .clear
    | 'v' =>
      let _ ← label
      done .nothing
    | '\n' | ';' => wrong "missing command"
    | _ => wrong ("unknown command: \x60" ++ String.singleton c ++ "'")

/-- Adds a step to the script. -/
def addStep (selector : Selector) (action : Action) : ReadM Unit := modify fun s =>
  { s with script := { s.script with steps := s.script.steps.push ⟨selector, action⟩ } }

/-- Reads the steps of a script. -/
def steps : (fuel : Nat) → ReadM Unit
  | 0 => return
  | fuel + 1 => do
    let _ ← takeWhile fun c => isGap c || c = '\n' || c = ';'
    if (← peek).isNone then return
    let s ← selector
    skipGaps
    match ← peek with
    | some '#' =>
      if s.first.isSome then
        skip
        wrong "comments don't accept any addresses"
      let _ ← takeWhile (· ≠ '\n')
    | some ':' =>
      skip
      if s.first.isSome then wrong ": doesn't want any addresses"
      let name ← label
      if name.isEmpty then wrong "\":\" lacks a label"
      modify fun s =>
        let labels := (name, s.script.steps.size) :: s.script.labels
        { s with script := { s.script with labels } }
    | some '\x7b' =>
      skip
      modify fun s => { s with blocks := s.script.steps.size :: s.blocks }
      addStep s (.block 0)
    | some '\x7d' =>
      skip
      match (← get).blocks with
      | [] => wrong "unexpected \x60\x7d'"
      | start :: blocks =>
        if s.first.isSome then wrong "\x60\x7d' doesn't want any addresses"
        modify fun s =>
          let close := s.script.steps.size
          let steps := s.script.steps.modify start fun b => { b with action := .block close }
          { s with blocks, script := { s.script with steps } }
        endStep
    | _ => addStep s (← action s)
    steps fuel

/-- Reads a script to its end. -/
def script : ReadM Unit := do
  let s ← get
  let quiet := match s.rest with
    | ['#', 'n'] | '#' :: 'n' :: '\n' :: _ => true
    | _ => false
  steps (s.rest.length + 1)
  modify fun s => { s with script := { s.script with quiet } }
  if !(← get).blocks.isEmpty then throw ⟨0, "unmatched \x60\x7b'"⟩

/-- The script that a text is. -/
def Script.ofText (extended : Bool) (text : String) : Except ScriptFault Script := do
  let ((), s) ← script.run { rest := text.toList, extended }
  return s.script

/-- The label of a jump that leads nowhere, if there is one. -/
def Script.missingLabel? (s : Script) : Option String :=
  s.steps.toList.findSome? fun step =>
    match step.action with
    | .jump _ label =>
      if label.isEmpty || (s.labels.lookup label).isSome then none else some label
    | _ => none

end EnvRegistry.Shell.Edit
