import EnvRegistry.Shell.Awk.Reader
import EnvRegistry.Shell.Awk.Value
import EnvRegistry.Shell.Utility.Basic

/-! # The state of a program that works on records

    A program has a record, which falls into fields, and variables.  The record changes
    with its fields, and the fields change with the record.  Functions see the variables
    that they are given, and all others are the same everywhere. -/

namespace EnvRegistry.Shell.Awk

open ShellM Fraction

/-! ## The state -/

/-- What a name stands for. -/
inductive Cell where
  | value (v : Value)
  /-- The table with a number. -/
  | table (number : Nat)
  /-- Nothing yet: it may become the table with a number. -/
  | undecided (number : Nat)

/-- The state of a program. -/
structure Machine where
  functions : List Function
  /-- Runs the text of a command. -/
  shell : String → ShellM Unit
  globals : List (String × Cell) := []
  /-- The variables of the function being run. -/
  locals : List (String × Cell) := []
  tables : List (Nat × Table) := []
  nextTable : Nat := 0
  record : Value := .unset
  fields : Array Value := #[]
  /-- What is left of the input, once it has been opened. -/
  input : Option (List Char) := none
  /-- The number of the next argument to be read. -/
  nextArgument : Nat := 1
  /-- Whether an argument has been read. -/
  hasRead : Bool := false
  /-- What is left of files and of what commands have written, with the status of the command. -/
  readers : List (String × List Char × Nat) := []
  /-- The open streams of files that are written, with what is still to be written to them. -/
  streams : List (String × Nat × String) := []
  /-- What commands are to be given. -/
  commands : List (String × String) := []
  output : String := ""
  /-- The rules whose ranges have started. -/
  ranges : List Nat := []
  status : Nat := 0
  seed : Nat := 1

/-- What keeps the next statement from being run. -/
inductive Leaving where
  | leaveLoop
  | nextTurn
  | nextRecord
  | nextFile
  | exit
  | giveBack (v : Value)

/-- A step of a program. -/
abbrev AwkM := ExceptT Leaving (StateT Machine ShellM)

/-- Runs a step of the shell. -/
def inShell {α : Type} (m : ShellM α) : AwkM α := ExceptT.lift (StateT.lift m)

/-- Ends the program. -/
def leave {α : Type} (l : Leaving) : AwkM α := throw l

/-! ## Variables -/

/-- What a name stands for. -/
def cell? (name : String) : AwkM (Option Cell) := do
  let m ← get
  return (m.locals.lookup name).or (m.globals.lookup name)

/-- Lets a name stand for something. -/
def setCell (name : String) (c : Cell) : AwkM Unit := modify fun m =>
  if (m.locals.lookup name).isSome then
    { m with locals := m.locals.map fun (n, old) => (n, if n = name then c else old) }
  else if (m.globals.lookup name).isSome then
    { m with globals := m.globals.map fun (n, old) => (n, if n = name then c else old) }
  else { m with globals := (name, c) :: m.globals }

/-- The value of a variable, apart from those that belong to the record. -/
def plainValue (name : String) : AwkM Value := do
  match ← cell? name with
  | some (.value v) => return v
  | _ => return .unset

/-- How numbers are written. -/
def format : AwkM String := do
  match ← plainValue "CONVFMT" with
  | .text s => return s
  | v => return v.toText "%.6g"

/-- The text of a value. -/
def textOf (v : Value) : AwkM String := do
  match v with
  | .number _ => return v.toText (← format)
  | v => return v.toText ""

/-- The text of a variable. -/
def textOfVariable (name : String) : AwkM String := do textOf (← plainValue name)

/-- The number of the table that a name stands for. -/
def tableOf (name : String) : AwkM Nat := do
  match ← cell? name with
  | some (.table n) => return n
  | some (.undecided n) =>
    setCell name (.table n)
    return n
  | _ =>
    let n := (← get).nextTable
    modify fun m => { m with nextTable := n + 1 }
    setCell name (.table n)
    return n

/-- The table with a number. -/
def table (n : Nat) : AwkM Table := return ((← get).tables.lookup n).getD {}

/-- Changes the table with a number. -/
def setTable (n : Nat) (t : Table) : AwkM Unit := modify fun m =>
  { m with tables := (n, t) :: m.tables.filter (·.1 ≠ n) }

/-! ## The record -/

/-- Fields between blanks. -/
def blankFields (s : String) : List String :=
  let isBlank := fun (c : Char) => c = ' ' || c = '\t' || c = '\n'
  ((s.split isBlank).toList.map fun p => p.toString).filter (!·.isEmpty)

/-- The text between the parts that look as an expression says. -/
def between (e : Expression) (s : String) : List String :=
  let subject : Expression.Subject := { chars := s.toList.toArray }
  let parts := (e.allParts subject).filter fun p => p.first < p.last
  let rec go (place : Nat) : List Expression.Part → List String
    | [] => [subject.between place subject.chars.size]
    | p :: rest => subject.between place p.first :: go p.last rest
  go 0 parts

/-- The expression for a text, or for the text itself if it makes no sense. -/
def patternOf (s : String) : Expression :=
  match expressionOf s with
  | .ok e => e
  | .error _ => Expression.literal s

/-- The fields of a text. -/
def fieldsOf (separator : String) (lines : Bool) (s : String) : List String :=
  if s.isEmpty then []
  else if separator = " " then blankFields s
  else if separator.isEmpty then s.toList.map String.singleton
  else
    let e := if separator.length = 1 then Expression.literal separator else patternOf separator
    between (if lines then .either e (.char '\n') else e) s

/-- Sets the record, and the fields with it. -/
def setRecord (v : Value) : AwkM Unit := do
  let text ← textOf v
  let separator ← textOfVariable "FS"
  let lines := (← textOfVariable "RS").isEmpty
  let fields := (fieldsOf separator lines text).map Value.ofInput
  modify fun m => { m with record := v, fields := fields.toArray }

/-- Puts the record together from its fields. -/
def joinFields : AwkM Unit := do
  let separator ← textOfVariable "OFS"
  let texts ← (← get).fields.toList.mapM textOf
  let record := Value.text (String.intercalate separator texts)
  modify fun m => { m with record }

/-- Fields of a number. -/
def resized (fields : Array Value) (n : Nat) : Array Value :=
  if n ≤ fields.size then fields.extract 0 n
  else fields ++ Array.replicate (n - fields.size) (Value.text "")

/-! ## Ending -/

/-- Hands over what has been written to the output. -/
def flushOutput : AwkM Unit := do
  let output := (← get).output
  modify fun m => { m with output := "" }
  inShell (say output)

/-- Hands over what has been written to a file. -/
def flushFile (path : String) : AwkM Unit := do
  if let some (n, text) := (← get).streams.lookup path then
    let _ ← inShell (writeStream n text)
    modify fun m =>
      { m with streams := (path, n, "") :: m.streams.filter (·.1 ≠ path) }

/-- Hands over all that has been written. -/
def flush : AwkM Unit := do
  flushOutput
  (← get).streams.forM fun (path, _) => flushFile path

/-- Says what is wrong while the program is run, and ends it. -/
def fault {α : Type} (text : String) : AwkM α := do
  let file ← textOfVariable "FILENAME"
  let ofFile ← textOfVariable "FNR"
  let all ← textOfVariable "NR"
  inShell do
    complain ("awk: run time error: " ++ text)
    complain ("\tFILENAME=\"" ++ file ++ "\" FNR=" ++ ofFile ++ " NR=" ++ all)
  flush
  inShell (exit 2)

/-! ## Fields -/

/-- The number of a field. -/
def fieldNumber (v : Value) : AwkM Nat := do
  let x := v.toNumber
  if x.isNegative then fault ("negative field index $" ++ (← textOf v))
  return x.toRat.floor.toNat

/-- The value of a field. -/
def field (n : Nat) : AwkM Value := do
  let m ← get
  if n = 0 then
    return match m.record with
      | .text s => Value.ofInput s
      | v => v
  return (m.fields[n - 1]?).getD .unset

/-- Sets a field, and the record with it. -/
def setField (n : Nat) (v : Value) : AwkM Unit := do
  if n = 0 then setRecord v
  else
    modify fun m =>
      let fields := if n ≤ m.fields.size then m.fields else resized m.fields n
      { m with fields := fields.setIfInBounds (n - 1) v }
    joinFields

/-- The value of a variable. -/
def namedValue (name : String) : AwkM Value := do
  if name = "NF" then return .ofNat (← get).fields.size
  plainValue name

/-- Sets a variable. -/
def setVariable (name : String) (v : Value) : AwkM Unit := do
  if name = "NF" then
    modify fun m => { m with fields := resized m.fields v.toNumber.toRat.floor.toNat }
    joinFields
  else setCell name (.value v)

/-- Adds one to a variable that counts. -/
def count (name : String) : AwkM Unit := do
  let x := (← plainValue name).toNumber
  setCell name (.value (.number (x.add (.ofRat 1))))

/-! ## Reading records -/

/-- The first record of a text, and what follows. -/
def firstRecord (separator : String) (cs : List Char) : Option (String × List Char) :=
  match separator.toList with
  | [] =>
    let cs := cs.dropWhile (· = '\n')
    let rec go (acc : List Char) : List Char → List Char × List Char
      | '\n' :: '\n' :: rest => (acc.reverse, rest.dropWhile (· = '\n'))
      | ['\n'] => (acc.reverse, [])
      | c :: rest => go (c :: acc) rest
      | [] => (acc.reverse, [])
    if cs.isEmpty then none
    else
      let (record, rest) := go [] cs
      some (String.ofList record, rest)
  | [c] =>
    if cs.isEmpty then none
    else
      let record := cs.takeWhile (· ≠ c)
      some (String.ofList record, (cs.drop record.length).tail)
  | _ =>
    if cs.isEmpty then none
    else
      let subject : Expression.Subject := { chars := cs.toArray }
      let parts := ((patternOf separator).allParts subject).filter fun p => p.first < p.last
      match parts with
      | p :: _ => some (subject.between 0 p.first, cs.drop p.last)
      | [] => some (String.ofList cs, [])

/-- Assigns what an argument says, if it is an assignment. -/
def assignArgument (a : String) : AwkM Bool := do
  let name := a.toList.takeWhile (· ≠ '=')
  match a.toList.drop name.length with
  | _ :: value =>
    let name := String.ofList name
    if isShellName name then
      setVariable name (.ofInput (unescape (String.ofList value)))
      return true
    return false
  | [] => return false

/-- Opens the next of the files that arguments name, or the input if none of them names one.  Says
whether there is one. -/
def openNext : (fuel : Nat) → AwkM Bool
  | 0 => return false
  | fuel + 1 => do
    let m ← get
    let total := (← plainValue "ARGC").toNumber.toRat.floor.toNat
    let start (path text : String) : AwkM Bool := do
      modify fun m => { m with input := some text.toList, hasRead := true }
      setCell "FILENAME" (.value (.text path))
      setCell "FNR" (.value (.ofNat 0))
      return true
    if m.nextArgument < total then
      set { m with nextArgument := m.nextArgument + 1 }
      let n ← tableOf "ARGV"
      let a ← match (← table n).values.lookup (toString m.nextArgument) with
        | some v => textOf v
        | none => pure ""
      if a.isEmpty then openNext fuel
      else if ← assignArgument a then openNext fuel
      else
        match ← inShell (Utility.readOperand a) with
        | .ok text => start a text
        | .error f =>
          flush
          inShell do
            complain ("awk: cannot open \"" ++ a ++ "\" (" ++ f.reason ++ ")")
            exit 2
    else if m.hasRead then return false
    else
      match ← inShell (read 0 none) with
      | .ok text => start "-" text
      | .error _ => return false

/-- The next record of the input. -/
def nextOfInput : (fuel : Nat) → AwkM (Option String)
  | 0 => return none
  | fuel + 1 => do
    let m ← get
    match m.input with
    | none =>
      if ← openNext (m.nextArgument + 100000) then nextOfInput fuel else return none
    | some cs =>
      match firstRecord (← textOfVariable "RS") cs with
      | none =>
        modify fun m => { m with input := none }
        nextOfInput fuel
      | some (record, rest) =>
        modify fun m => { m with input := some rest }
        count "NR"
        count "FNR"
        return some record

/-! ## Writing -/

/-- Writes a text to the output. -/
def put (text : String) : AwkM Unit := modify fun m => { m with output := m.output ++ text }

/-- How much is kept before it is handed over. -/
def bufferSize : Nat := 4096

/-- Writes a text to a file. -/
def putFile (append : Bool) (path text : String) : AwkM Unit := do
  if path = "/dev/stdout" || path = "-" then put text
  else if path = "/dev/stderr" then
    let _ ← inShell (write 2 text)
  else
    if ((← get).streams.lookup path).isNone then
      match ← inShell (openPath path (if append then .append else .write)) with
      | .ok n => modify fun m => { m with streams := (path, n, "") :: m.streams }
      | .error f =>
        flushOutput
        inShell do
          complain ("awk: cannot open \"" ++ path ++ "\" for output (" ++ f.reason ++ ")")
          exit 2
    modify fun m =>
      { m with
        streams := m.streams.map fun (p, n, old) =>
          (p, n, if p = path then old ++ text else old) }
    if bufferSize < (((← get).streams.lookup path).map fun (_, t) => t.length).getD 0 then
      flushFile path

/-- Notes a text that a command is to be given. -/
def putCommand (command text : String) : AwkM Unit := modify fun m =>
  if (m.commands.lookup command).isSome then
    { m with
      commands := m.commands.map fun (c, old) => (c, if c = command then old ++ text else old) }
  else { m with commands := m.commands ++ [(command, text)] }

/-- Runs a command.  Gives its status. -/
def runCommand (command : String) : AwkM Nat := do
  flush
  let m ← get
  inShell do
    m.shell command
    return (← get).status

/-- Runs a command on a text. -/
def runOn (command text : String) : AwkM Nat := do
  let m ← get
  inShell <| keepingChannels do
    setChannel 0 (← openPipe text)
    m.shell command
    return (← get).status

/-- What a command writes, and its status. -/
def outputOf (command : String) : AwkM (String × Nat) := do
  let m ← get
  inShell do
    let pipe ← openPipe ""
    keepingChannels do
      setChannel 1 pipe
      m.shell command
    let status := (← get).status
    match ← pending pipe with
    | .ok text =>
      advance pipe text.length
      return (text, status)
    | .error _ => return ("", status)

/-- Closes a file or command.  Gives its status, if there is one. -/
def close (name : String) : AwkM (Option Nat) := do
  let m ← get
  match m.commands.lookup name, m.streams.lookup name, m.readers.lookup name with
  | some text, _, _ =>
    modify fun m => { m with commands := m.commands.filter (·.1 ≠ name) }
    return some (← runOn name text)
  | none, some _, _ =>
    flushFile name
    modify fun m => { m with streams := m.streams.filter (·.1 ≠ name) }
    return some 0
  | none, none, some (_, status) =>
    modify fun m => { m with readers := m.readers.filter (·.1 ≠ name) }
    return some status
  | none, none, none => return none

/-- The next record of a file or of what a command writes; nothing at its end, and an error if it
cannot be opened. -/
def nextOf (isCommand : Bool) (name : String) : AwkM (Except Unit (Option String)) := do
  let reader? : Option (List Char × Nat) ← match (← get).readers.lookup name with
    | some r => pure (some r)
    | none =>
      if isCommand then
        let (text, status) ← outputOf name
        pure (some (text.toList, status))
      else
        match ← inShell (Utility.readOperand name) with
        | .ok text => pure (some (text.toList, 0))
        | .error _ => pure none
  match reader? with
  | none => return .error ()
  | some (cs, status) =>
    let next := firstRecord (← textOfVariable "RS") cs
    let rest := (next.map (·.2)).getD []
    modify fun m =>
      { m with readers := (name, rest, status) :: m.readers.filter (·.1 ≠ name) }
    return .ok (next.map (·.1))

end EnvRegistry.Shell.Awk
