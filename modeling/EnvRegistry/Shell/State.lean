import EnvRegistry.FileTree.Change
import EnvRegistry.Shell.Command
import EnvRegistry.Shell.Raw
import EnvRegistry.Shell.Signal

/-! # The state of a shell

    All processes share files, pipes and open streams: that is their world.  A session
    is what a shell has for itself: variables, functions, a directory, and channels,
    which are numbers for open streams: 0 for input, 1 for output, 2 for messages.

    Texts in a session are raw texts, so each of their characters is a byte. -/

namespace EnvRegistry.Shell

/-- The status that a shell gives to a process that has ended. -/
def endStatus : Ending → Nat
  | .exited status => status
  | .killed signal _ => 128 + signal

/-! ## What all processes share -/

/-- What can be read from or written to. -/
inductive Stream where
  | nowhere
  /-- Gives as many zero bytes as are asked for. -/
  | zeros
  /-- Takes nothing that is written. -/
  | full
  /-- The pipe with a number. -/
  | pipe (number : Nat)
  /-- The file with a number. -/
  | file (number : Nat)
  | directory
  deriving DecidableEq, Repr, Inhabited

/-- A stream that is open. -/
structure OpenStream where
  stream : Stream
  readable : Bool := true
  writable : Bool := true
  /-- Whether all that is written goes to the end. -/
  appending : Bool := false
  /-- Where the next byte of a file is read or written. -/
  offset : Nat := 0
  deriving Inhabited

namespace OpenStream

/-- Whether this is a stream of a file. -/
def isFile (o : OpenStream) : Bool :=
  match o.stream with
  | .file _ => true
  | _ => false

/-- Whether this is a stream of a pipe. -/
def isPipe (o : OpenStream) : Bool :=
  match o.stream with
  | .pipe _ => true
  | _ => false

end OpenStream

/-- What all processes share. -/
structure World where
  files : FileTree
  /-- What has been written to each pipe and not been read. -/
  pipes : Array String := #[]
  streams : Array OpenStream := #[]
  /-- The number of the next process. -/
  nextProcess : Nat := 4243
  /-- How often a file has been written. -/
  time : Nat := 0
  /-- How many seconds have been slept. -/
  clock : Rat := 0

/-! ## What a shell has for itself -/

/-- A variable; an exported one is seen by programs. -/
structure Variable where
  value : Option String
  exported : Bool := false
  readOnly : Bool := false
  deriving DecidableEq, Repr

/-- What a shell has for itself. -/
structure Session where
  /-- The directory one is in, and the path that has led there. -/
  cwd : Place
  path : String := "/"
  bindings : List (String × Variable) := []
  /-- The variables that each function being run puts back at its end, the innermost one first. -/
  hidden : List (List (String × Option Variable)) := []
  functions : List (String × Command) := []
  /-- What is read in place of names with which commands start. -/
  aliases : List (String × String) := []
  /-- The paths at which programs have been found. -/
  foundPrograms : List (String × String) := []
  arguments : List String := []
  /-- The name under which the shell was started, and its number among all processes. -/
  name : String := "/usr/bin/sh"
  number : Nat := 4242
  /-- Whether this is a copy of the shell with the number, and another process than that. -/
  isCopy : Bool := false
  /-- The status of the last command; zero says that it succeeded. -/
  status : Nat := 0
  /-- The status of the command whose output has last been put into a word of this command. -/
  substituted : Nat := 0
  /-- The open streams that channels lead to. -/
  channels : List (Nat × Nat) := []
  /-- What is run when a signal of a number comes, and for zero when the shell ends; a signal for
  which nothing is run does not end the shell. -/
  traps : List (Nat × String) := []
  /-- Signals for which something has still to be run. -/
  arrived : List Nat := []
  /-- The line of the command being run. -/
  line : Nat := 1
  /-- Who speaks when something is wrong, apart from the shell. -/
  speaker : Option String := none
  /-- The letters of the options that are on. -/
  options : List Char := []
  /-- How many loops are being run. -/
  loops : Nat := 0
  /-- The texts that follow commands, by number, and the number of the next one. -/
  texts : List (Nat × Word) := []
  nextText : Nat := 0
  /-- The number of the last process that was not waited for. -/
  lastJob : Option Nat := none
  /-- What new files and directories are not allowed. -/
  mask : Nat := 0o022
  /-- How many letters of the argument being looked at have been taken as options. -/
  optionLetters : Nat := 0
  /-- When the session is ended whatever it does. -/
  deadline : Option Rat := none

/-- A process that is not waited for. -/
inductive Job where
  | waiting (session : Session) (c : Command)
  /-- It has been run, and ends at a time of the clock. -/
  | finished (e : Ending) (time : Rat)
  | endless

/-- A shell and the world around it. -/
structure State extends World, Session where
  jobs : List (Nat × Job) := []
  /-- Why something that was written to the output has got lost. -/
  lost : Option FileFault := none

/-- What keeps the next command from being run. -/
inductive Interruption where
  | ended (e : Ending)
  /-- Something is wrong that ends a shell, unless a utility of the shell has caused it. -/
  | broken
  | leaveLoop (outer : Nat)
  | nextTurn (outer : Nat)
  | returned
  /-- The deadline has come. -/
  | late
  /-- The command takes longer than is waited for. -/
  | exhausted

/-- A step of a shell. -/
abbrev ShellM := ExceptT Interruption (StateM State)

/-! ## Contents of files -/

/-- What a file holds, as a raw text; a database is not read in this way. -/
def rawContent : FileContent → String
  | .text s => Raw.ofText s
  | .binary bytes => Raw.ofBytes bytes
  | .database _ => ""

/-- What a file with a raw text holds. -/
def contentOfRaw (s : String) : FileContent :=
  if Raw.isPlain s then .text s else .ofBytes (Raw.toBytes s)

/-- A text with another one put at a place, over what was there. -/
def splice (old : String) (offset : Nat) (new : String) : String :=
  let cs := old.toList
  let gap := List.replicate (offset - cs.length) '\x00'
  String.ofList (cs.take offset ++ gap) ++ new ++ String.ofList (cs.drop (offset + new.length))

/-- What a file holds after a text has been written at a place, or to the end if there is none. -/
def contentAfter (c : FileContent) (offset : Option Nat) (new : String) : FileContent :=
  match c with
  | .text s =>
    if (offset.isNone || offset = some s.utf8ByteSize) && Raw.isPlain new then .text (s ++ new)
    else
      let old := Raw.ofText s
      contentOfRaw (splice old (offset.getD old.length) new)
  | c =>
    let old := rawContent c
    contentOfRaw (splice old (offset.getD old.length) new)

namespace ShellM

/-- Runs a step and then puts a part of the state back to what it was before. -/
def keeping {α : Type} (restore : (before after : State) → State) (m : ShellM α) : ShellM α :=
  fun before =>
    let (r, after) := m before
    (r, restore before after)

/-- Runs a step whose redirections end with it. -/
def keepingChannels {α : Type} (m : ShellM α) : ShellM α :=
  keeping (fun before after => { after with channels := before.channels }) m

/-- Ends the shell. -/
def exit {α : Type} (status : Nat) : ShellM α := throw (.ended (.exited (status % 256)))

/-- Sets the status. -/
def setStatus (status : Nat) : ShellM Unit := modify fun s => { s with status }

/-- Whether an option is on. -/
def option (letter : Char) : ShellM Bool := return (← get).options.contains letter

/-! ## Streams -/

/-- Opens a stream. -/
def openStream (o : OpenStream) : ShellM Nat := do
  let n := (← get).streams.size
  modify fun s => { s with streams := s.streams.push o }
  return n

/-- Opens a pipe with a text in it. -/
def openPipe (text : String) : ShellM Nat := do
  let n := (← get).pipes.size
  modify fun s => { s with pipes := s.pipes.push text }
  openStream { stream := .pipe n }

/-- How many zero bytes are given to one who asks for all there are. -/
def manyZeros : Nat := 65536

/-- All that can be read from an open stream. -/
def pending (n : Nat) : ShellM (Except FileFault String) := do
  let s ← get
  match s.streams[n]? with
  | none => return .error .badChannel
  | some o =>
    if !o.readable then return .error .badChannel
    match o.stream with
    | .nowhere => return .ok ""
    | .zeros | .full => return .ok (String.ofList (List.replicate manyZeros '\x00'))
    | .directory => return .error .isADirectory
    | .pipe p => return .ok (s.pipes.getD p "")
    | .file f =>
      let text := rawContent (((s.files.files.lookup f).map File.content).getD (.text ""))
      return .ok (if o.offset = 0 then text else (text.drop o.offset).copy)

/-- Passes over a number of characters of an open stream. -/
def advance (n count : Nat) : ShellM Unit := modify fun s =>
  match s.streams[n]? with
  | some ⟨.pipe p, _, _, _, _⟩ =>
    { s with pipes := s.pipes.modify p fun t => (t.drop count).copy }
  | some ⟨.file _, _, _, _, _⟩ =>
    { s with streams := s.streams.modify n fun o => { o with offset := o.offset + count } }
  | _ => s

/-- Notes that the file with a number is written now. -/
def stamp (n : Nat) : ShellM Unit := modify fun s =>
  let time := s.time + 1
  match s.files.files.lookup n with
  | some f => { s with time, files := s.files.setFile n { f with written := time } }
  | none => s

/-- Writes a text to an open stream. -/
def writeStream (n : Nat) (text : String) : ShellM (Except FileFault Unit) := do
  let s ← get
  match s.streams[n]? with
  | none => return .error .badChannel
  | some o =>
    if !o.writable then return .error .badChannel
    if text.isEmpty then return .ok ()
    match o.stream with
    | .nowhere | .zeros => return .ok ()
    | .full => return .error .noSpace
    | .directory => return .error .badChannel
    | .pipe p =>
      modify fun s => { s with pipes := s.pipes.modify p (· ++ text) }
      return .ok ()
    | .file f =>
      modify fun s =>
        let offset := if o.appending then none else some o.offset
        let c := contentAfter (((s.files.files.lookup f).map File.content).getD (.text ""))
          offset text
        { s with
          files := s.files.fill f c
          streams := s.streams.modify n fun o => { o with offset := o.offset + text.length } }
      stamp f
      return .ok ()

/-! ## Channels -/

/-- The open stream that a channel leads to. -/
def channel? (n : Nat) : ShellM (Option Nat) := return (← get).channels.lookup n

/-- Lets a channel lead to an open stream. -/
def setChannel (n : Nat) (stream : Nat) : ShellM Unit := modify fun s =>
  { s with channels := (n, stream) :: s.channels.filter (·.1 ≠ n) }

/-- Closes a channel. -/
def closeChannel (n : Nat) : ShellM Unit := modify fun s =>
  { s with channels := s.channels.filter (·.1 ≠ n) }

/-- Writes a text to a channel. -/
def write (n : Nat) (text : String) : ShellM (Except FileFault Unit) := do
  match ← channel? n with
  | some stream => writeStream stream text
  | none => return .error .badChannel

/-- Writes a text to the output. -/
def say (text : String) : ShellM Unit := do
  if let .error f ← write 1 text then modify fun s => { s with lost := some f }

/-- Reads from a channel: everything, or no more than `most` characters. -/
def read (n : Nat) (most : Option Nat) : ShellM (Except FileFault String) := do
  match ← channel? n with
  | none => return .error .badChannel
  | some stream =>
    match ← pending stream, most with
    | .error f, _ => return .error f
    | .ok text, none =>
      advance stream text.length
      return .ok text
    | .ok text, some m =>
      let isEndless := (← get).streams[stream]?.any fun o => o.stream = .zeros || o.stream = .full
      if isEndless then return .ok (String.ofList (List.replicate m '\x00'))
      let part := if text.length ≤ m then text else String.ofList (text.toList.take m)
      advance stream part.length
      return .ok part

/-! ## Messages -/

/-- Writes a line to the messages. -/
def complain (text : String) : ShellM Unit := do let _ ← write 2 (text ++ "\n")

/-- Writes a line to the messages, after the name of the shell, the line of the command and the one
who speaks. -/
def protest (text : String) : ShellM Unit := do
  let s ← get
  let speaker := match s.speaker with
    | some name => name ++ ": "
    | none => ""
  complain (s.name ++ ": " ++ toString s.line ++ ": " ++ speaker ++ text)

/-- Says what is wrong, and ends the shell unless a utility of the shell has caused it. -/
def refuse {α : Type} (text : String) : ShellM α := do
  protest text
  setStatus 2
  throw .broken

/-! ## Variables -/

/-- The value of a variable, if it has one. -/
def lookup? (name : String) : ShellM (Option String) := do
  let s ← get
  return (s.bindings.lookup name).bind Variable.value

/-- Changes a variable. -/
def changeVariable (name : String) (f : Variable → Variable) : ShellM Unit := modify fun s =>
  let old := (s.bindings.lookup name).getD { value := none }
  { s with
    bindings := (name, f old) :: s.bindings.filter (·.1 ≠ name)
    foundPrograms := if name = "PATH" then [] else s.foundPrograms
    optionLetters := if name = "OPTIND" then 0 else s.optionLetters }

/-- Refuses to change a variable that keeps its value. -/
def checkWritable (name : String) : ShellM Unit := do
  if ((← get).bindings.lookup name).any Variable.readOnly then refuse (name ++ ": is read only")

/-- Gives a variable a value. -/
def assign (name value : String) : ShellM Unit := do
  checkWritable name
  let isShared ← option 'a'
  changeVariable name fun v => { v with value := some value, exported := v.exported || isShared }

/-- Takes a variable away. -/
def unset (name : String) : ShellM Unit := do
  checkWritable name
  modify fun s => { s with bindings := s.bindings.filter (·.1 ≠ name) }

/-- Lets the function being run put a variable back at its end. -/
def hide (name : String) : ShellM Unit := modify fun s =>
  match s.hidden with
  | frame :: outer =>
    if (frame.lookup name).isSome then s
    else { s with hidden := ((name, s.bindings.lookup name) :: frame) :: outer }
  | [] => s

/-- Variables with some of them put back to what they were. -/
def restored (bindings : List (String × Variable)) (frame : List (String × Option Variable)) :
    List (String × Variable) :=
  frame.foldl (fun vs (name, old) =>
    let vs := vs.filter (·.1 ≠ name)
    match old with
    | some v => (name, v) :: vs
    | none => vs) bindings

/-- Runs a step at whose end hidden variables are put back. -/
def hidingVariables {α : Type} (m : ShellM α) : ShellM α := do
  modify fun s => { s with hidden := [] :: s.hidden }
  keeping (fun _ after =>
    match after.hidden with
    | frame :: outer =>
      { after with bindings := restored after.bindings frame, hidden := outer }
    | [] => after) m

/-- The characters at which texts fall into fields. -/
def separators : ShellM String := return (← lookup? "IFS").getD " \t\n"

/-! ## Shells within shells -/

/-- Runs a step in a shell of its own, of which only the world and the status stay.  A signal ends
this shell too, unless the other one has taken a number of its own. -/
def separately (m : ShellM Unit) : ShellM Unit := fun before =>
  let inner :=
    { before with
      traps := before.traps.filter (·.2.isEmpty)
      loops := 0
      jobs := []
      arrived := []
      isCopy := true }
  let (r, after) := m inner
  let state := { before with toWorld := after.toWorld, status := after.status }
  match r with
  | .error (.ended (.exited status)) => (.ok (), { state with status })
  | .error (.ended (.killed n dumped)) =>
    if after.number = before.number then (.error (.ended (.killed n dumped)), state)
    else
      let description := Signal.described n
      let said := if description.isEmpty then pure () else complain description
      said { state with status := 128 + n }
  | .error .exhausted => (.error .exhausted, state)
  | .error .late => (.error .late, state)
  | _ => (.ok (), state)

/-! ## Files -/

/-- Changes the files, if that can be done. -/
def change {α : Type} (m : FileTree.ChangeM α) : ShellM (Except FileFault α) := fun s =>
  let (r, files) := m s.files
  (.ok r, { s with files })

/-- What lies at a path. -/
def find? (path : String) : ShellM (Option FileEntry) := do
  let s ← get
  return s.files.find? s.cwd (Raw.toText path)

/-- The place that a path leads to. -/
def locate (path : String) : ShellM (Except FileFault Place) := do
  let s ← get
  return s.files.locate s.cwd (Raw.toText path)

/-- What is done with a file that is opened. -/
inductive Access where
  | read
  /-- The file is made if it is missing, and emptied. -/
  | write
  | append
  | both
  deriving DecidableEq, Repr

/-- The stream of a device. -/
def device? (path : String) : Option Stream :=
  match path with
  | "/dev/null" => some .nowhere
  | "/dev/zero" => some .zeros
  | "/dev/full" => some .full
  | _ => none

/-- The channel that a path stands for. -/
def channelPath? (path : String) : Option Nat :=
  match path with
  | "/dev/stdin" => some 0
  | "/dev/stdout" => some 1
  | "/dev/stderr" => some 2
  | _ =>
    if "/dev/fd/".toList.isPrefixOf path.toList then (String.ofList (path.toList.drop 8)).toNat?
    else none

/-- What a new file is allowed to be used for. -/
def newMode : ShellM Nat := return 0o666 - (0o666 &&& (← get).mask)

/-- Opens the file with a number. -/
def openNumber (n : Nat) (access : Access) : ShellM Nat := do
  if access = .write then
    modify fun s => { s with files := s.files.fill n (.text "") }
    stamp n
  openStream
    { stream := .file n
      readable := access = .read || access = .both
      writable := access ≠ .read
      appending := access = .append }

/-- Opens what a path leads to. -/
def openPath (path : String) (access : Access) : ShellM (Except FileFault Nat) := do
  match device? path, channelPath? path with
  | some stream, _ => return .ok (← openStream { stream })
  | none, some n =>
    match ← channel? n with
    | some stream => return .ok stream
    | none => return .error .notFound
  | none, none =>
    let s ← get
    match access with
    | .read =>
      match ← locate path with
      | .error f => return .error f
      | .ok p =>
        match s.files.get? p with
        | some .directory => return .ok (← openStream { stream := .directory, writable := false })
        | some (.file n) => return .ok (← openNumber n access)
        | _ => return .error .notFound
    | _ =>
      let isNew := (← find? path).isNone
      match ← change (FileTree.openFile s.cwd (Raw.toText path)) with
      | .error f => return .error f
      | .ok n =>
        if isNew then
          let mode ← newMode
          modify fun s =>
            { s with files := s.files.setFile n { content := .text "", mode } }
        return .ok (← openNumber n access)

/-- Reads the file at a path, or no more than `most` characters of it. -/
def readPath (path : String) (most : Option Nat) : ShellM (Except FileFault String) := do
  match ← openPath path .read with
  | .error f => return .error f
  | .ok stream => keepingChannels do
    setChannel 0 stream
    read 0 most

end ShellM

end EnvRegistry.Shell
