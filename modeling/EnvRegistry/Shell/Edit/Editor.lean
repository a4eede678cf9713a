import EnvRegistry.Shell.Edit.Reader
import EnvRegistry.Shell.Utility.Basic

/-! # Editing lines

    An editor runs a script on one line after the other.  It works on a text, which is the
    line at first, and it holds another text from line to line.  At the end of the script
    the text is shown, unless the script is a quiet one. -/

namespace EnvRegistry.Shell.Edit

open ShellM

/-! ## The state of an editor -/

/-- A line of an input. -/
structure Line where
  text : String
  /-- Whether a line break follows. -/
  closed : Bool
  /-- The name of the input. -/
  file : String

/-- The state of a range of lines. -/
inductive RangeState where
  | outside
  /-- Up to the line with a number, or up to one that is still to be found. -/
  | inside (last : Option Nat)
  | over
  deriving DecidableEq

/-- What is to be shown before the next line is read. -/
inductive Pending where
  | text (s : String)
  | file (path : String)
  /-- A line of a file. -/
  | line (text : String)

/-- Where lines are shown. -/
inductive Target where
  | output
  | stream (n : Nat)
  deriving DecidableEq

/-- The state of an editor. -/
structure Editor where
  script : Script
  quiet : Bool
  /-- What ends a line. -/
  mark : Char := '\n'
  /-- How wide a line is when it is shown with escapes. -/
  width : Nat := 70
  input : List Line
  /-- The number of the line. -/
  number : Nat := 0
  line : Line := ⟨"", true, "-"⟩
  hold : String := ""
  /-- Whether a line break follows the text that is held. -/
  holdClosed : Bool := true
  replaced : Bool := false
  ranges : List (Nat × RangeState) := []
  pending : List Pending := []
  lastSought : Option Expression := none
  /-- What is left of the files that are read line by line. -/
  readers : List (String × List String) := []
  /-- The open streams of files that are written. -/
  streams : List (String × Nat) := []
  output : String := ""
  /-- Where the last line has still to be closed. -/
  unclosed : List Target := []

/-- A step of an editor. -/
abbrev EditM := StateT Editor ShellM

/-- How a script is left. -/
inductive Leaving where
  /-- At its end, after which the text is shown. -/
  | atEnd
  | silently
  /-- The script is to be run again on the text. -/
  | again
  | quit (silently : Bool) (status : Nat)

/-! ## Showing lines -/

/-- The mark that ends a line, as a text. -/
def Editor.markText (e : Editor) : String := String.singleton e.mark

/-- Shows a text. -/
def put (t : Target) (text : String) : EditM Unit := do
  match t with
  | .output => modify fun e => { e with output := e.output ++ text }
  | .stream n =>
    let _ ← writeStream n text

/-- Closes the last line if that has still to be done. -/
def close (t : Target) : EditM Unit := do
  let e ← get
  if e.unclosed.contains t then
    put t e.markText
    modify fun e => { e with unclosed := e.unclosed.filter (· ≠ t) }

/-- Shows a line. -/
def putLine (t : Target) (text : String) (closed : Bool) : EditM Unit := do
  close t
  put t text
  if closed then put t (← get).markText
  else modify fun e => { e with unclosed := t :: e.unclosed }

/-- Where a file of a name is written to. -/
def target (path : String) : EditM Target := do
  if path = "/dev/stdout" then return .output
  match (← get).streams.lookup path with
  | some n => return .stream n
  | none => return .output

/-- Shows a whole text. -/
def putText (text : String) : EditM Unit := do
  close .output
  put .output text

/-- Shows what is to be shown before the next line is read. -/
def showPending : EditM Unit := do
  let e ← get
  set { e with pending := [] }
  e.pending.reverse.forM fun p => do
    match p with
    | .text s => putText s
    | .line text => putLine .output text true
    | .file path =>
      let result ← if path = "/dev/stdin" then read 0 none else readPath path none
      if let .ok text := result then
        if !text.isEmpty then putText text

/-! ## Which lines a step is for -/

/-- What is looked for, as an expression. -/
def expressionOf (s : Sought) : EditM Expression := do
  let e ← get
  match s.expression, e.lastSought with
  | some x, _ =>
    set { e with lastSought := some x }
    return x
  | none, some x => return x
  | none, none =>
    complain "sed: -e expression #1, char 0: no previous regular expression"
    exit 1

/-- The text as something to look in. -/
def subjectOf (s : Sought) (text : String) : Expression.Subject :=
  { chars := text.toList.toArray, folded := s.folded, multiline := s.multiline }

/-- Whether the line is one of an address. -/
def isAt (a : Address) : EditM Bool := do
  let e ← get
  match a with
  | .line n => return e.number = n
  | .every first step => return first ≤ e.number && (e.number - first) % step = 0
  | .last => return e.input.isEmpty
  | .having s =>
    let x ← expressionOf s
    return (x.find? (subjectOf s e.line.text) 0).isSome

/-- Notes the state of the range of a step. -/
def setRange (step : Nat) (r : RangeState) : EditM Unit := modify fun e =>
  { e with ranges := (step, r) :: e.ranges.filter (·.1 ≠ step) }

/-- Whether the step with a number is for the line. -/
def isFor (step : Nat) (s : Selector) : EditM Bool := do
  match s.first, s.last with
  | none, _ => return true
  | some first, none => isAt first
  | some first, some last =>
    let e ← get
    let state := (e.ranges.lookup step).getD .outside
    -- A range from the line zero on has started before the first line.
    let state := if state = .outside && first matches .line 0 then .inside none else state
    match state with
    | .over => return false
    | .inside (some n) =>
      if n ≤ e.number then setRange step (if first matches .line _ then .over else .outside)
      return e.number ≤ n
    | .inside none =>
      if let .at a := last then
        if ← isAt a then setRange step (if first matches .line _ then .over else .outside)
      return true
    | .outside =>
      if !(← isAt first) then return false
      match last with
      | .at (.line n) =>
        if e.number < n then setRange step (.inside (some n))
      | .at _ => setRange step (.inside none)
      | .after n => if 0 < n then setRange step (.inside (some (e.number + n)))
      | .multiple n =>
        if 0 < n && e.number % n ≠ 0 then
          setRange step (.inside (some ((e.number / n + 1) * n)))
      return true

/-! ## Reading lines -/

/-- Reads the next line, after the text if `after` says so.  Says whether there is one. -/
def readNext (after : Bool) : EditM Bool := do
  let e ← get
  match e.input with
  | [] => return false
  | line :: input =>
    showPending
    modify fun e =>
      let text := if after then e.line.text ++ e.markText ++ line.text else line.text
      { e with input, number := e.number + 1, line := { line with text } }
    return true

/-! ## Replacing -/

/-- A text in letters of a kind. -/
def LetterCase.apply (c : LetterCase) (s : String) : String :=
  match c with
  | .asIs => s
  | .upper => s.toUpper
  | .lower => s.toLower

/-- The text that pieces make; `all` says how letters are written, and `one` how the next one is. -/
def pieceText (group : Nat → String) : (all one : LetterCase) → List Piece → String
  | _, _, [] => ""
  | all, one, p :: rest =>
    let add (s : String) : String :=
      if s.isEmpty then pieceText group all one rest
      else
        let first := String.ofList (s.toList.take 1)
        let others := all.apply (String.ofList (s.toList.drop 1))
        (if one = .asIs then all.apply first else one.apply first) ++ others ++
          pieceText group all .asIs rest
    match p with
    | .text s => add s
    | .group n => add (group n)
    | .letters c => pieceText group c .asIs rest
    | .letter c => pieceText group all c rest

/-- Puts something in the place of parts of a text, from a place on; the first one has a number. -/
def replaceParts (s : Substitution) (subject : Expression.Subject) (place : Nat) (number : Nat) :
    List Expression.Part → String
  | [] => subject.between place subject.chars.size
  | p :: rest =>
    let chosen := if s.all then s.number ≤ number else s.number = number
    let new := if chosen then pieceText (p.group subject) .asIs .asIs s.pieces
      else subject.between p.first p.last
    subject.between place p.first ++ new ++ replaceParts s subject p.last (number + 1) rest

/-- Replaces in the text. -/
def substitute (s : Substitution) : EditM Unit := do
  let x ← expressionOf s.sought
  let text := (← get).line.text
  let subject := subjectOf s.sought text
  let parts := x.allParts subject
  if s.number ≤ parts.length then
    let new := replaceParts s subject 0 1 parts
    modify fun e => { e with line := { e.line with text := new }, replaced := true }
    let line := (← get).line
    if s.shown then putLine .output line.text line.closed
    if let some path := s.target then putLine (← target path) line.text line.closed

/-! ## Showing with escapes -/

/-- A character with escapes. -/
def escapedChar (c : Char) : String :=
  match c with
  | '\\' => "\\\\"
  | '\x07' => "\\a"
  | '\x08' => "\\b"
  | '\x0c' => "\\f"
  | '\n' => "\\n"
  | '\r' => "\\r"
  | '\t' => "\\t"
  | '\x0b' => "\\v"
  | c =>
    if ' ' ≤ c && c ≤ '~' then String.singleton c
    else
      let ds := Nat.toDigits 8 c.toNat
      "\\" ++ String.ofList (List.replicate (3 - ds.length) '0' ++ ds)

/-- A text with escapes, in lines that take so many characters; `column` is how many stand in the
line so far. -/
def escapedText (most : Option Nat) : (column : Nat) → List Char → String
  | _, [] => "$"
  | column, c :: rest =>
    let s := escapedChar c
    if most.any (· < column + s.length) then
      "\\\n" ++ s ++ escapedText most s.length rest
    else s ++ escapedText most (column + s.length) rest

/-! ## Running scripts -/

/-- The first line of a text, and what follows it. -/
def firstLine (mark : Char) (text : String) : String × Option String :=
  let cs := text.toList
  let first := String.ofList (cs.takeWhile (· ≠ mark))
  match cs.dropWhile (· ≠ mark) with
  | _ :: rest => (first, some (String.ofList rest))
  | [] => (first, none)

/-- Sets the text. -/
def setText (text : String) : EditM Unit := modify fun e =>
  { e with line := { e.line with text } }

/-- Notes what is to be shown before the next line is read. -/
def defer (p : Pending) : EditM Unit := modify fun e => { e with pending := p :: e.pending }

/-- Does what a step says, in a range that goes on or not.  Gives the step to go on with, or how the
script is left. -/
def perform (number : Nat) (inRange : Bool) (a : Action) : EditM (Except Leaving Nat) := do
  let e ← get
  let text := e.line.text
  let onward : Except Leaving Nat := .ok (number + 1)
  match a with
  | .block _ | .nothing => return onward
  | .jump kind label =>
    let jumps := match kind with
      | .always => true
      | .replaced => e.replaced
      | .unchanged => !e.replaced
    if kind ≠ .always then set { e with replaced := false }
    if !jumps then return onward
    if label.isEmpty then return .error .atEnd
    return .ok ((e.script.labels.lookup label).getD e.script.steps.size)
  | .showNumber => do
    putText (toString e.number ++ "\n")
    return onward
  | .showName => do
    putText (e.line.file ++ "\n")
    return onward
  | .append s => do
    defer (.text s)
    return onward
  | .insert s => do
    putText s
    return onward
  | .change s => do
    if !inRange then putText s
    return .error .silently
  | .delete => return .error .silently
  | .deleteFirst =>
    match firstLine e.mark text with
    | (_, none) => return .error .silently
    | (_, some rest) =>
      setText rest
      return .error .again
  | .fromHold => do
    set { e with line := { e.line with text := e.hold, closed := e.holdClosed } }
    return onward
  | .fromHoldAppended => do
    let text := text ++ e.markText ++ e.hold
    set { e with line := { e.line with text, closed := e.holdClosed } }
    return onward
  | .toHold => do
    set { e with hold := text, holdClosed := e.line.closed }
    return onward
  | .toHoldAppended => do
    set { e with hold := e.hold ++ e.markText ++ text, holdClosed := e.line.closed }
    return onward
  | .exchange => do
    let line := { e.line with text := e.hold, closed := e.holdClosed }
    set { e with hold := text, holdClosed := e.line.closed, line }
    return onward
  | .showEscaped width => do
    let width := width.getD e.width
    let most := if width = 0 then none else some (width - 1)
    putText (escapedText most 0 text.toList ++ "\n")
    return onward
  | .next => do
    if e.input.isEmpty then return .error (.quit false 0)
    if !e.quiet then putLine .output text e.line.closed
    let _ ← readNext false
    return onward
  | .nextAppended => do
    if ← readNext true then return onward
    return .error (.quit false 0)
  | .show => do
    putLine .output text e.line.closed
    return onward
  | .showFirst => do
    let (first, rest) := firstLine e.mark text
    putLine .output first (rest.isSome || e.line.closed)
    return onward
  | .quit silently status => return .error (.quit silently status)
  | .readFile path => do
    defer (.file path)
    return onward
  | .readLine path => do
    let lines ← match e.readers.lookup path with
      | some lines => pure lines
      | none => do
        match ← readPath path none with
        | .ok t => pure (Utility.linesOf t)
        | .error _ => pure []
    modify fun e =>
      { e with readers := (path, lines.tail) :: e.readers.filter (·.1 ≠ path) }
    if let some line := lines.head? then defer (.line line)
    return onward
  | .substitute s => do
    substitute s
    return onward
  | .write path => do
    putLine (← target path) text e.line.closed
    return onward
  | .writeFirst path => do
    let (first, rest) := firstLine e.mark text
    putLine (← target path) first (rest.isSome || e.line.closed)
    return onward
  | .exchangeChars pairs => do
    setText (String.ofList (text.toList.map fun c => (pairs.lookup c).getD c))
    return onward
  | .clear => do
    setText ""
    return onward

/-- Runs the steps of a script from one of them on. -/
def runSteps : (fuel : Nat) → (number : Nat) → EditM Leaving
  | 0, _ => throw .exhausted
  | fuel + 1, number => do
    match (← get).script.steps[number]? with
    | none => return .atEnd
    | some step =>
      if (← isFor number step.selector) != step.selector.negated then
        let inRange := !step.selector.negated && match (← get).ranges.lookup number with
          | some (.inside _) => true
          | _ => false
        match ← perform number inRange step.action with
        | .ok number => runSteps fuel number
        | .error l => return l
      else
        match step.action with
        | .block close => runSteps fuel close
        | _ => runSteps fuel (number + 1)

/-- Runs the script on all lines; `fresh` says that the next line has to be read first.  Gives the
status if the script quits. -/
def runLines : (fuel : Nat) → (fresh : Bool) → EditM (Option Nat)
  | 0, _ => throw .exhausted
  | fuel + 1, fresh => do
    if fresh then
      if !(← readNext false) then
        showPending
        return none
      modify fun e => { e with replaced := false }
    let leaving ← runSteps fuel 0
    let e ← get
    match leaving with
    | .atEnd =>
      if !e.quiet then putLine .output e.line.text e.line.closed
      runLines fuel true
    | .silently => runLines fuel true
    | .again =>
      showPending
      runLines fuel false
    | .quit silently status =>
      if !silently then
        if !e.quiet then putLine .output e.line.text e.line.closed
        showPending
      return some status

/-! ## The utility -/

/-- How many steps one after the other are taken. -/
def patience : Nat := 1000000

/-- The lines of a text that an input of a name has. -/
def linesOfInput (mark : Char) (file text : String) : List Line :=
  if text.isEmpty then []
  else
    let parts := text.splitOn (String.singleton mark)
    if parts.getLast? = some "" then parts.dropLast.map fun t => ⟨t, true, file⟩
    else
      parts.dropLast.map (fun t => ⟨t, true, file⟩) ++
        [⟨parts.getLast?.getD "", false, file⟩]

/-- The paths that a script writes to. -/
def Script.targets (s : Script) : List String :=
  (s.steps.toList.filterMap fun step =>
    match step.action with
    | .write path | .writeFirst path => some path
    | .substitute s => s.target
    | _ => none).eraseDups

/-- Says what is wrong with a script; the text of the script has been given in parts. -/
def scriptFault (parts : List String) (f : ScriptFault) : String :=
  let rec locate (number place : Nat) : List String → Nat × Nat
    | p :: q :: rest =>
      if place ≤ p.length + 1 then (number, place)
      else locate (number + 1) (place - (p.length + 1)) (q :: rest)
    | _ => (number, place)
  let (number, place) := locate 1 f.place parts
  "-e expression #" ++ toString number ++ ", char " ++ toString place ++ ": " ++ f.text

/-- The options of the utility. -/
def rules : Utility.OptionRules where
  plain := "nErsuz"
  valued := "efl"
  long := [("quiet", 'n'), ("silent", 'n'), ("expression", 'e'), ("file", 'f'),
    ("regexp-extended", 'E'), ("separate", 's'), ("unbuffered", 'u'), ("null-data", 'z'),
    ("line-length", 'l')]

/-- What is said of a wrong use. -/
def usage : String :=
  "Usage: sed [OPTION]... \x7bscript-only-if-no-other-script\x7d [input-file]..."

/-- The option that asks for files to be changed themselves, with what is added to the names of the
earlier ones; and the other arguments. -/
def inPlace : List String → Option String × List String
  | [] => (none, [])
  | "--" :: rest => (none, "--" :: rest)
  | a :: rest =>
    let (found, others) := inPlace rest
    let cs := a.toList
    if a = "--in-place" then (found.or (some ""), others)
    else if "--in-place=".toList.isPrefixOf cs then
      (found.or (some (String.ofList (cs.drop 11))), others)
    else
      match cs with
      | '-' :: c :: more =>
        if c ≠ '-' && (c :: more).all (fun c => "nErsuzi".contains c || !c.isAlpha) &&
            more.contains 'i' || c = 'i' then
          let before := (c :: more).takeWhile (· ≠ 'i')
          let after := ((c :: more).dropWhile (· ≠ 'i')).drop 1
          (found.or (some (String.ofList after)),
            if before.isEmpty then others else String.ofList ('-' :: before) :: others)
        else (found, a :: others)
      | _ => (found, a :: others)

/-- Edits lines. -/
def sed : Utility := fun args => do
  let (kept, args) := inPlace args
  Utility.withOptions "sed" 1 rules args fun o => do
    let given := o.taken.filter fun t => t.1 = 'e' || t.1 = 'f'
    if given.isEmpty && o.operands.isEmpty then
      complain usage
      return 1
    let mut parts : List String := []
    for (letter, value) in (if given.isEmpty then [('e', o.operands.headD "")] else given) do
      if letter = 'e' then parts := parts ++ [value]
      else
        match ← Utility.readOperand value with
        | .ok text =>
          parts := parts ++ [if text.endsWith "\n" then (text.dropEnd 1).toString else text]
        | .error f =>
          return ← Utility.fail "sed" ("couldn't open file " ++ value ++ ": " ++ f.reason) 4
    let paths := if given.isEmpty then o.operands.tail else o.operands
    match Script.ofText (o.has 'E' || o.has 'r') (String.intercalate "\n" parts) with
    | .error f => Utility.fail "sed" (scriptFault parts f) 1
    | .ok script =>
      if let some label := script.missingLabel? then
        return ← Utility.fail "sed" ("can't find label for jump to \x60" ++ label ++ "'") 4
      let mut streams : List (String × Nat) := []
      for path in script.targets do
        match ← openPath path .write with
        | .ok n => streams := (path, n) :: streams
        | .error f =>
          return ← Utility.fail "sed" ("couldn't open file " ++ path ++ ": " ++ f.reason) 4
      let mark := if o.has 'z' then '\x00' else '\n'
      let mut inputs : List (String × List Line) := []
      let mut status := 0
      for path in (if paths.isEmpty then ["-"] else paths) do
        match ← Utility.readOperand path with
        | .ok text => inputs := inputs ++ [(path, linesOfInput mark path text)]
        | .error .isADirectory =>
          let text := if kept.isSome then "couldn't edit " ++ path ++ ": not a regular file"
            else "read error on " ++ path ++ ": " ++ FileFault.isADirectory.reason
          status ← Utility.fail "sed" text 4
        | .error f => status ← Utility.fail "sed" ("can't read " ++ path ++ ": " ++ f.reason) 2
      let separate := kept.isSome || o.has 's'
      let runs := if separate then inputs else [("", inputs.flatMap (·.2))]
      let mut editor : Editor :=
        { script
          quiet := script.quiet || o.has 'n'
          mark
          width := ((o.value? 'l').bind String.toNat?).getD 70
          input := []
          streams }
      for (path, lines) in runs do
        let (answer, e) ← (runLines patience true).run
          { editor with input := lines, number := 0, ranges := [] }
        if let some backup := kept then
          let old := (← readPath path none).toOption.getD ""
          if !backup.isEmpty then
            if let .ok n ← openPath (path ++ backup) .write then
              let _ ← writeStream n old
          let left := if answer.isSome then
              String.join (e.input.map fun l =>
                l.text ++ if l.closed then String.singleton mark else "")
            else ""
          let gap := if e.unclosed.contains .output && !left.isEmpty then e.markText else ""
          if let .ok n ← openPath path .write then
            let _ ← writeStream n (e.output ++ gap ++ left)
          editor := { e with output := "", unclosed := e.unclosed.filter (· ≠ .output) }
        else editor := e
        if let some n := answer then
          say editor.output
          return max n status
      say editor.output
      return status

end EnvRegistry.Shell.Edit
