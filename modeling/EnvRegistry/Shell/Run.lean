import EnvRegistry.Shell.Awk.Run
import EnvRegistry.Shell.Field
import EnvRegistry.Shell.Parameter
import EnvRegistry.Shell.Reader
import EnvRegistry.Shell.Redirect
import EnvRegistry.Shell.Utility.Arguments
import EnvRegistry.Shell.Utility.Table
import EnvRegistry.Shell.Utility.Walk

/-! # Running commands

    The words of a command are expanded before it is run: expansions give way to what
    they stand for, what was not quoted falls into fields at gaps, and a field that is a
    pattern gives way to the paths it accepts.  Then its channels are redirected, its
    variables get their values, and at last the function, utility or program of its
    first field is run.

    A command that is not waited for is run when the shell has nothing else to do: when
    it waits, sleeps or ends.  The fuel bounds the number of steps one below the other, so
    a command that never ends is given up. -/

namespace EnvRegistry.Shell

open ShellM

/-! ## Parts of running -/

/-- What is known about a command from where it stands. -/
structure Circumstances where
  /-- It is only asked whether the command succeeds, so failing does not end the shell. -/
  tested : Bool := false
  /-- Nothing is left to do after the command, so the shell may become the program. -/
  last : Bool := false

/-- Whether the last command succeeded. -/
def succeeded : ShellM Bool := return (← get).status = 0

/-- Ends the shell if a failure is to do so. -/
def check (c : Circumstances) : ShellM Unit := do
  let s ← get
  if s.status ≠ 0 && !c.tested && s.options.contains 'e' then exit s.status

/-- Notes the line of a command. -/
def atLine (line : Nat) : ShellM Unit := modify fun s => { s with line }

/-- Runs a step of which a fault of a utility does not end the shell. -/
def surviving (m : ShellM Unit) : ShellM Unit := fun s =>
  match m s with
  | (.error .broken, s) => (.ok (), s)
  | r => r

/-- Runs a program, which may end before it is done. -/
def asProcess (m : ShellM Nat) : ShellM Nat := fun s =>
  match m s with
  | (.error (.ended (.exited status)), s) => (.ok status, s)
  | (.error .broken, s) => (.ok s.status, s)
  | r => r

/-- Runs a step in which someone speaks. -/
def speaking {α : Type} (name : String) (m : ShellM α) : ShellM α := do
  let before := (← get).speaker
  modify fun s => { s with speaker := some name }
  keeping (fun _ after => { after with speaker := before }) m

/-- Runs a step as a loop. -/
def counted (m : ShellM Unit) : ShellM Unit := do
  modify fun s => { s with loops := s.loops + 1 }
  keeping (fun before after => { after with loops := before.loops - 1 }) m

/-- The number of loops that are left, less one; nothing if there are none. -/
def loopCount (args : List String) : ShellM (Option Nat) := do
  let n ← match args with
    | [] => pure 1
    | a :: _ =>
      let n ← Builtin.number a
      if n = 0 then refuse ("Illegal number: " ++ a)
      pure n
  let n := min n (← get).loops
  return if n = 0 then none else some (n - 1)

/-- The status that an argument says; without one, the status of the last command. -/
def statusArgument (args : List String) : ShellM Nat := do
  match args with
  | [] => return (← get).status
  | a :: _ => Builtin.number a

/-- A shell that another one starts, with a number. -/
def innerSession (s : Session) (number : Nat) (name : String) (options : List Char)
    (arguments : List String) : Session :=
  { s with
    name, arguments, number, options
    bindings := s.bindings.filter (·.2.exported)
    hidden := []
    functions := []
    aliases := []
    foundPrograms := []
    traps := s.traps.filter (·.2.isEmpty)
    arrived := []
    line := 1
    isCopy := false
    speaker := none
    loops := 0
    lastJob := none
    optionLetters := 0 }

/-- The part of a text without the line breaks at its end and without zero bytes. -/
def substitutedText (s : String) : String :=
  String.ofList ((s.toList.filter (· ≠ '\x00')).reverse.dropWhile (· = '\n')).reverse

/-- A word of which the text that is not quoted falls into fields as values do. -/
def asValue : Expanded → Expanded
  | .text false _ s => .text false true s
  | e => e

/-- The text of the pieces of a word. -/
def textOf (es : List Expanded) : String := String.join (es.map Expanded.string)

/-- A word without the quotes around all arguments, which do not make a field by themselves. -/
def withoutArgumentMarks : Word → Word
  | .mark :: .variable true "@" .plain :: rest =>
    match rest with
    | .text true _ :: _ | .variable true _ _ :: _ | .output true _ :: _ | .arithmetic true _ :: _ =>
      .mark :: .variable true "@" .plain :: withoutArgumentMarks rest
    | _ => .variable true "@" .plain :: withoutArgumentMarks rest
  | p :: rest => p :: withoutArgumentMarks rest
  | [] => []

/-- Whether the arguments after some fields may be assignments. -/
def takesAssignments (s : State) (fields : List String) : Bool :=
  match fields.dropWhile fun f => f = "command" || f = "-p" || f = "--" with
  | name :: _ =>
    ["export", "readonly", "local"].contains name && (s.functions.lookup name).isNone
  | [] => false

/-- What a command is that comes after `command`: the fields, and whether it came so. -/
def afterCommand (s : State) : (fuel : Nat) → (via : Bool) → List String → Bool × List String
  | 0, via, fields => (via, fields)
  | fuel + 1, via, fields =>
    match fields with
    | "command" :: rest =>
      if !via && (s.functions.lookup "command").isSome then (via, fields)
      else
        let rest := match rest with
          | "-p" :: rest => rest
          | rest => rest
        let rest := match rest with
          | "--" :: rest => rest
          | rest => rest
        match rest with
        | [] => (via, fields)
        | name :: _ =>
          if name.startsWith "-" then (via, fields) else afterCommand s fuel true rest
    | _ => (via, fields)

/-- Lets time pass, unless the deadline comes first. -/
def passTo (time : Rat) : ShellM Unit := do
  let s ← get
  match s.deadline with
  | some deadline =>
    if deadline < time then
      set { s with clock := deadline }
      throw .late
  | none => pure ()
  set { s with clock := if s.clock < time then time else s.clock }

/-- Waits for what never ends. -/
def awaitForever {α : Type} : ShellM α := do
  match (← get).deadline with
  | some deadline =>
    modify fun s => { s with clock := deadline }
    throw .late
  | none => throw .exhausted

/-- The interpreter that the first line of a file names, and its argument. -/
def interpreter? (text : String) : Option (String × List String) :=
  match text.toList with
  | '#' :: '!' :: cs =>
    let line := String.ofList ((cs.takeWhile (· ≠ '\n')).dropWhile (· = ' '))
    match (line.splitOn " ").filter (!·.isEmpty) with
    | [] => none
    | path :: args => some (path, if args.isEmpty then [] else [String.intercalate " " args])
  | _ => none

mutual

/-- What a piece of a word stands for, which is to fall into fields if `full`. -/
def expandPiece : (fuel : Nat) → (full : Bool) → Piece → ShellM (List Expanded)
  | 0, _, _ => throw .exhausted
  | fuel + 1, full, piece => do
    match piece with
    | .mark => return [.mark]
    | .text quoted s => return [.text quoted false s]
    | .nonsense => refuse "Bad substitution"
    | .arithmetic quoted expression =>
      let n ← calculate (← expandText fuel false expression)
      return [.text quoted (!quoted) (toString n)]
    | .output quoted c => return [.text quoted (!quoted) (← outputOf fuel c)]
    | .variable quoted name use =>
      let p ← Parameter.named name
      let needed := match use with
        | .plain | .length | .cut _ _ _ => true
        | _ => false
      if needed && p = .missing && (← option 'u') then refuse (name ++ ": parameter not set")
      let value : ShellM (List Expanded) := p.expanded full quoted
      match use with
      | .plain => value
      | .length => return [.text quoted (!quoted) (toString (← p.text).length)]
      | .otherwise orEmpty keep word =>
        if !(← p.isMissing orEmpty) then value
        else if keep then
          if !isShellName name then refuse (name ++ ": bad variable name")
          let text ← expandText fuel true word
          assign name text
          return [.text quoted (!quoted) text]
        else
          let es ← expandWord fuel full word
          return if quoted then es else es.map asValue
      | .instead orEmpty word =>
        if ← p.isMissing orEmpty then return []
        let es ← expandWord fuel full word
        return if quoted then es else es.map asValue
      | .required orEmpty word =>
        if !(← p.isMissing orEmpty) then value
        else
          let text ← expandText fuel true word
          let usual := if orEmpty then "parameter not set or null" else "parameter not set"
          refuse (name ++ ": " ++ if text.isEmpty then usual else text)
      | .cut fromStart longest word =>
        let text ← p.text
        let marks := (← expandWord fuel false word).flatMap Expanded.marks
        let pattern := Pattern.ofMarks marks
        return [.text quoted (!quoted)
          (if fromStart then pattern.cutStart longest text else pattern.cutEnd longest text)]

/-- The output of a command. -/
def outputOf : (fuel : Nat) → Command → ShellM String
  | 0, _ => throw .exhausted
  | fuel + 1, c => do
    let status := (← get).status
    let pipe ← openPipe ""
    keepingChannels do
      setChannel 1 pipe
      inSubshell fuel (run fuel { last := true } c)
    modify fun s => { s with status, substituted := s.status }
    match ← pending pipe with
    | .ok text =>
      advance pipe text.length
      return substitutedText text
    | .error _ => return ""

/-- The pieces of a word after expansion. -/
def expandPieces : (fuel : Nat) → (full : Bool) → Word → ShellM (List Expanded)
  | 0, _, _ => throw .exhausted
  | _, _, [] => return []
  | fuel + 1, full, piece :: rest => do
    let es ← expandPiece fuel full piece
    return es ++ (← expandPieces fuel full rest)

/-- The pieces of a word after expansion, with home directories in place of their names. -/
def expandWord : (fuel : Nat) → (full : Bool) → Word → ShellM (List Expanded)
  | 0, _, _ => throw .exhausted
  | fuel + 1, full, w => do
    let w ← withHomes false w
    expandPieces fuel full (if full then withoutArgumentMarks w else w)

/-- The text of a word that does not fall into fields. -/
def expandText : (fuel : Nat) → (homes : Bool) → Word → ShellM String
  | 0, _, _ => throw .exhausted
  | fuel + 1, homes, w => do
    return textOf (← if homes then expandWord fuel false w else expandPieces fuel false w)

/-- The value that an assignment gives. -/
def expandValue : (fuel : Nat) → Word → ShellM String
  | 0, _ => throw .exhausted
  | fuel + 1, w => do return textOf (← expandPieces fuel false (← withHomes true w))

/-- The fields of words. -/
def expandWords : (fuel : Nat) → List Word → ShellM (List String)
  | 0, _ => throw .exhausted
  | _, [] => return []
  | fuel + 1, w :: rest => do
    let es ← expandWord fuel true w
    let texts := (Expanded.fields (.ofString (← separators)) es).flatMap (fieldTexts (← get))
    return texts ++ (← expandWords fuel rest)

/-- The fields of the words of a command after some fields. -/
def expandCommand : (fuel : Nat) → (before : List String) → List Word → ShellM (List String)
  | 0, _, _ => throw .exhausted
  | _, before, [] => return before
  | fuel + 1, before, w :: rest => do
    let texts ← match (if takesAssignments (← get) before then assignment? w else none) with
      | some (name, value) => do
        let v ← expandValue fuel value
        pure [name ++ "=" ++ v]
      | none => expandWords fuel [w]
    expandCommand fuel (before ++ texts) rest

/-- The channels of redirections with their kinds and targets. -/
def expandTargets : (fuel : Nat) → List Redirect → ShellM (List (Nat × RedirectKind × String))
  | 0, _ => throw .exhausted
  | _, [] => return []
  | fuel + 1, .of channel kind target :: rest => do
    let text ← match kind with
      | .text number =>
        let word := ((← get).texts.lookup number).getD []
        expandText fuel false word
      | _ => expandText fuel true target
    return (channel, kind, text) :: (← expandTargets fuel rest)

/-- Carries redirections out, and says whether all could be done. -/
def redirectAll : (fuel : Nat) → List Redirect → ShellM Bool
  | 0, _ => throw .exhausted
  | fuel + 1, rs => do
    let targets ← expandTargets fuel rs
    let m : ShellM Unit := targets.forM fun (channel, kind, text) => redirect channel kind text
    fun s =>
      match m s with
      | (.ok (), s) => (.ok true, s)
      | (.error .broken, s) => (.ok false, s)
      | (.error e, s) => (.error e, s)

/-- Carries assignments out by a step for each of them. -/
def assignAll : (fuel : Nat) → (step : String → String → ShellM Unit) → List (String × Word) →
    ShellM (List String)
  | 0, _, _ => throw .exhausted
  | _, _, [] => return []
  | fuel + 1, step, (name, w) :: rest => do
    let value ← expandValue fuel w
    step name value
    return (name ++ "=" ++ value) :: (← assignAll fuel step rest)

/-- Runs a command. -/
def run : (fuel : Nat) → Circumstances → Command → ShellM Unit
  | 0, _, _ => throw .exhausted
  | fuel + 1, c, command => do
    if ← option 'n' then return
    match command with
    | .nothing => return
    | .simple line assignments words redirects =>
      atLine line
      runSimple fuel c assignments words redirects
      runTraps fuel
      check c
    | .sequence first second =>
      run fuel { c with last := false } first
      run fuel c second
    | .both first second =>
      run fuel { tested := true } first
      if ← succeeded then run fuel c second
    | .either first second =>
      run fuel { tested := true } first
      if !(← succeeded) then run fuel c second
    | .not inner =>
      run fuel { tested := true } inner
      setStatus (if ← succeeded then 1 else 0)
    | .pipeline commands =>
      keepingChannels (runPipeline fuel { c with last := true } commands)
      runTraps fuel
      check c
    | .background inner =>
      let nowhere ← openStream { stream := .nowhere }
      modify fun s =>
        let n := s.nextProcess
        let channels := (0, nowhere) :: s.channels.filter (·.1 ≠ 0)
        { s with
          nextProcess := n + 1
          jobs := s.jobs ++ [(n, .waiting { s.toSession with channels } inner)]
          lastJob := some n
          status := 0 }
    | .subshell line inner redirects =>
      atLine line
      keepingChannels <| inSubshell fuel do
        if ← redirectAll fuel redirects then run fuel { c with last := true } inner
        else exit 2
      runTraps fuel
      check c
    | .redirected line inner redirects =>
      atLine line
      keepingChannels do
        if ← redirectAll fuel redirects then run fuel { c with last := false } inner
        else setStatus 2
    | .conditional test yes no =>
      run fuel { tested := true } test
      if ← succeeded then run fuel c yes
      else
        setStatus 0
        run fuel c no
    | .loop untilTrue test body =>
      counted (runLoop fuel { c with last := false } untilTrue test body 0)
    | .forEach line name items body =>
      atLine line
      let items ← match items with
        | some words => expandWords fuel words
        | none => pure (← get).arguments
      setStatus 0
      counted (runForEach fuel { c with last := false } name items body)
    | .choice line subject cases =>
      atLine line
      let subject ← expandText fuel true subject
      runChoice fuel c subject cases
    | .define _ name body =>
      modify fun s =>
        { s with functions := (name, body) :: s.functions.filter (·.1 ≠ name), status := 0 }

/-- Runs commands each of which hands its output to the next. -/
def runPipeline : (fuel : Nat) → Circumstances → List Command → ShellM Unit
  | 0, _, _ => throw .exhausted
  | _, _, [] => return
  | fuel + 1, c, [command] => inSubshell fuel (run fuel c command)
  | fuel + 1, c, command :: rest => do
    let pipe ← openPipe ""
    keepingChannels do
      setChannel 1 pipe
      inSubshell fuel (run fuel c command)
    setChannel 0 pipe
    runPipeline fuel c rest

/-- Runs a step in a shell of its own. -/
def inSubshell : (fuel : Nat) → ShellM Unit → ShellM Unit
  | 0, _ => throw .exhausted
  | fuel + 1, m => separately (toEnd fuel m)

/-- Runs a step and what a shell does at its end, and ends the shell. -/
def toEnd : (fuel : Nat) → ShellM Unit → ShellM Unit
  | 0, _ => throw .exhausted
  | fuel + 1, m => fun s =>
    let (r, s) := m s
    match r with
    | .error .exhausted => (.error .exhausted, s)
    | .error .late => (.error .late, s)
    | .error (.ended (.killed n dumped)) => (do
        runJobs fuel
        throw (Interruption.ended (.killed n dumped))) s
    | r =>
      let status := match r with
        | .error (.ended (.exited status)) => status
        | _ => s.status
      let farewell := (s.traps.lookup 0).getD ""
      (do
        runText fuel {} farewell
        runJobs fuel
        exit status)
        { s with status, loops := 0, traps := s.traps.filter (·.1 ≠ 0), speaker := none }

/-- Runs what is to be run when signals come, for those that have come. -/
def runTraps : (fuel : Nat) → ShellM Unit
  | 0 => throw .exhausted
  | fuel + 1 => do
    let s ← get
    match s.arrived with
    | [] => return
    | n :: rest =>
      set { s with arrived := rest }
      match s.traps.lookup n with
      | none => runTraps fuel
      | some text =>
        runText fuel {} text
        setStatus s.status
        runTraps fuel

/-- Runs all commands that have not been waited for. -/
def runJobs : (fuel : Nat) → ShellM Unit
  | 0 => throw .exhausted
  | fuel + 1 => do
    let s ← get
    let next := s.jobs.find? fun j => j.2 matches .waiting _ _
    match next with
    | none => return
    | some (n, _) =>
      runJob fuel n
      runJobs fuel

/-- Runs a command that has not been waited for. -/
def runJob : (fuel : Nat) → (number : Nat) → ShellM Unit
  | 0, _ => throw .exhausted
  | fuel + 1, number => fun s =>
    match s.jobs.lookup number with
    | some (.waiting session c) =>
      let others := s.jobs.filter (·.1 ≠ number)
      let inner : State :=
        { toWorld := s.toWorld
          toSession :=
            { session with
              traps := session.traps.filter (·.2.isEmpty)
              loops := 0
              isCopy := true } }
      let (r, after) := toEnd fuel (run fuel { last := true } c) inner
      let job := match r with
        | .error (.ended e) => Job.finished e after.clock
        | .error .exhausted | .error .late => .endless
        | _ => .finished (.exited after.status) after.clock
      let world := { after.toWorld with clock := s.clock }
      (.ok (), { s with toWorld := world, jobs := (number, job) :: others })
    | _ => (.ok (), s)

/-- Waits for commands, and gives the status of the last one. -/
def runWait : (fuel : Nat) → List String → ShellM Nat
  | 0, _ => throw .exhausted
  | fuel + 1, args => do
    match args with
    | [] =>
      runJobs fuel
      (← get).jobs.forM fun (_, job) =>
        match job with
        | .finished _ time => passTo time
        | _ => awaitForever
      modify fun s => { s with jobs := [] }
      return 0
    | a :: rest =>
      let n ← Builtin.number a
      runJob fuel n
      let status ← match (← get).jobs.lookup n with
        | some (.finished e time) => do
          passTo time
          if let .killed signal _ := e then
            let description := Signal.described signal
            if !description.isEmpty then complain description
          pure (endStatus e)
        | some .endless => awaitForever
        | _ => pure 127
      modify fun s => { s with jobs := s.jobs.filter (·.1 ≠ n) }
      if rest.isEmpty then return status else runWait fuel rest

/-- Runs the commands of a text. -/
def runText : (fuel : Nat) → Circumstances → String → ShellM Unit
  | 0, _, _ => throw .exhausted
  | fuel + 1, c, text => do
    let nextText := (← get).nextText
    runLines fuel c { rest := text.toList, nextText }

/-- Runs the commands of every line before those of the next one are read. -/
def runLines : (fuel : Nat) → Circumstances → Reader → ShellM Unit
  | 0, _, _ => throw .exhausted
  | fuel + 1, c, r => do
    let aliases := (← get).aliases
    match { r with aliases }.nextLine with
    | .ok none => return
    | .ok (some (command, r)) =>
      modify fun s => { s with texts := r.texts ++ s.texts, nextText := r.nextText }
      run fuel c command
      runLines fuel c { r with texts := [] }
    | .error (line, f) =>
      atLine line
      refuse ("Syntax error: " ++ f.message)

/-- Runs a body, and says whether the loop around it goes on. -/
def runBody : (fuel : Nat) → Circumstances → Command → ShellM Bool
  | 0, _, _ => throw .exhausted
  | fuel + 1, c, body => fun s =>
    match run fuel c body s with
    | (.ok (), s) => (.ok true, s)
    | (.error (.leaveLoop 0), s) => (.ok false, s)
    | (.error (.leaveLoop (n + 1)), s) => (.error (.leaveLoop n), s)
    | (.error (.nextTurn 0), s) => (.ok true, s)
    | (.error (.nextTurn (n + 1)), s) => (.error (.nextTurn n), s)
    | (.error e, s) => (.error e, s)

/-- Runs a body as long as a test asks for it; `last` is the status so far. -/
def runLoop : (fuel : Nat) → Circumstances → (untilTrue : Bool) → Command → Command →
    (last : Nat) → ShellM Unit
  | 0, _, _, _, _, _ => throw .exhausted
  | fuel + 1, c, untilTrue, test, body, last => do
    if ← runBody fuel { tested := true } test then
      if (← succeeded) != untilTrue then
        if ← runBody fuel c body then runLoop fuel c untilTrue test body (← get).status
      else setStatus last
    else setStatus last

/-- Runs a body for every item. -/
def runForEach : (fuel : Nat) → Circumstances → String → List String → Command → ShellM Unit
  | 0, _, _, _, _ => throw .exhausted
  | _, _, _, [], _ => return
  | fuel + 1, c, name, item :: rest, body => do
    assign name item
    if ← runBody fuel c body then runForEach fuel c name rest body

/-- Runs the first case that accepts a text. -/
def runChoice : (fuel : Nat) → Circumstances → String → List (List Word × Command) → ShellM Unit
  | 0, _, _, _ => throw .exhausted
  | _, _, _, [] => setStatus 0
  | fuel + 1, c, subject, (patterns, body) :: rest => do
    if ← acceptsAny fuel subject patterns then
      if body matches .nothing then setStatus 0 else run fuel c body
    else runChoice fuel c subject rest

/-- Whether one of some patterns accepts a text. -/
def acceptsAny : (fuel : Nat) → String → List Word → ShellM Bool
  | 0, _, _ => throw .exhausted
  | _, _, [] => return false
  | fuel + 1, subject, w :: rest => do
    let es ← expandWord fuel false w
    if (Pattern.ofMarks (es.flatMap Expanded.marks)).accepts subject.toList then return true
    acceptsAny fuel subject rest

/-- Runs a simple command. -/
def runSimple : (fuel : Nat) → Circumstances → List (String × Word) → List Word →
    List Redirect → ShellM Unit
  | 0, _, _, _, _ => throw .exhausted
  | fuel + 1, c, assignments, words, redirects => do
    modify fun s => { s with substituted := 0 }
    let fields ← expandCommand fuel [] words
    let messages ← channel? 2
    let trace (texts : List String) : ShellM Unit := do
      if ← option 'x' then
        let front := (← lookup? "PS4").getD "+ "
        if let some stream := messages then
          let _ ← writeStream stream (front ++ String.intercalate " " texts ++ "\n")
    if fields.isEmpty then
      keepingChannels do
        if ← redirectAll fuel redirects then
          let shown ← assignAll fuel assign assignments
          if !shown.isEmpty then trace shown
          setStatus (← get).substituted
        else setStatus 2
    else
      let s ← get
      let (via, command) := afterCommand s (fields.length + 1) false fields
      let name := command.headD ""
      let body := if via then none else s.functions.lookup name
      let isSpecial := body.isNone && !via && Program.special.contains name
      let work : ShellM Unit := do
        if !(← redirectAll fuel redirects) then
          setStatus 2
          if isSpecial then throw .broken
        else
          let give (name value : String) : ShellM Unit := do
            hide name
            assign name value
            changeVariable name fun v => { v with exported := true }
          if isSpecial then
            let shown ← assignAll fuel assign assignments
            if name = "exec" then
              assignments.forM fun a => changeVariable a.1 fun v => { v with exported := true }
            trace (shown ++ fields)
            runBuiltin fuel c name command.tail
          else
            hidingVariables do
              let shown ← assignAll fuel give assignments
              trace (shown ++ fields)
              match body with
              | some body => runFunction fuel c body command.tail
              | none =>
                if Program.builtin.contains name then
                  surviving (runBuiltin fuel c name command.tail)
                else runExternal fuel c name command.tail
      -- Redirections of a shell that becomes no other program stay.
      if isSpecial && name = "exec" && command.tail.isEmpty then work
      else keepingChannels work

/-- Runs a function with arguments. -/
def runFunction : (fuel : Nat) → Circumstances → Command → List String → ShellM Unit
  | 0, _, _, _ => throw .exhausted
  | fuel + 1, c, body, args =>
    let back (before after : State) : State :=
      { after with
        arguments := before.arguments
        optionLetters := before.optionLetters
        loops := before.loops }
    keeping back do
      modify fun s => { s with arguments := args, optionLetters := 0, loops := 0 }
      fun s =>
        match run fuel { c with last := false } body s with
        | (.error .returned, s) => (.ok (), s)
        | r => r

/-- Runs a utility of the shell itself. -/
def runBuiltin : (fuel : Nat) → Circumstances → String → List String → ShellM Unit
  | 0, _, _, _ => throw .exhausted
  | fuel + 1, c, name, args => speaking name do
    match name with
    | "exit" => exit (← statusArgument args)
    | "return" =>
      setStatus (← statusArgument args)
      throw .returned
    | "break" =>
      let n ← loopCount args
      setStatus 0
      if let some outer := n then throw (.leaveLoop outer)
    | "continue" =>
      let n ← loopCount args
      setStatus 0
      if let some outer := n then throw (.nextTurn outer)
    | "eval" =>
      setStatus 0
      let line := (← get).line
      runText fuel { tested := c.tested } (String.intercalate " " args)
      atLine line
    | "." => runSource fuel args
    | "exec" =>
      match args with
      | [] => setStatus 0
      | name :: args => runExec fuel name args
    | "command" =>
      let (cs, rest) ← Builtin.letters "pvV" args
      match rest with
      | [] => setStatus 0
      | name :: _ =>
        setStatus (← if cs.contains 'V' then Builtin.describe name else Builtin.showOrigin name)
    | "wait" => setStatus (← runWait fuel args)
    | _ =>
      match Utility.builtin? name with
      | none => setStatus 0
      | some utility =>
        modify fun s => { s with lost := none }
        let status ← utility args
        if (← get).lost.isSome then
          protest (name ++ ": I/O error")
          modify fun s => { s with lost := none, status := status ||| 1 }
        else setStatus status

/-- Runs the commands in a file as part of those of the shell. -/
def runSource : (fuel : Nat) → List String → ShellM Unit
  | 0, _ => throw .exhausted
  | fuel + 1, args => do
    match args with
    | [] => setStatus 0
    | path :: _ =>
      let s ← get
      let directories ← Builtin.searchPath
      let paths := directories.map fun d => if d.isEmpty then path else d ++ "/" ++ path
      let found := if path.contains '/' then some path
        else paths.find? fun p => (s.files.find? s.cwd (Raw.toText p)).any (· ≠ .directory)
      match found with
      | none => refuse (path ++ ": not found")
      | some found =>
        match ← readPath found none with
        | .error f => refuse ("cannot open " ++ found ++ ": " ++ openFault false f)
        | .ok text =>
          setStatus 0
          let line := (← get).line
          speaking found fun s =>
            match runText fuel {} text s with
            | (.error .returned, s) => (.ok (), s)
            | r => r
          atLine line

/-- Lets the shell become a program. -/
def runExec : (fuel : Nat) → String → List String → ShellM Unit
  | 0, _, _ => throw .exhausted
  | fuel + 1, name, args => do
    modify fun s => { s with functions := [] }
    runProgram fuel true name args
    exit (← get).status

/-- Runs the program of a name, which the shell may become. -/
def runExternal : (fuel : Nat) → Circumstances → String → List String → ShellM Unit
  | 0, _, _, _ => throw .exhausted
  | fuel + 1, c, name, args => do
    let s ← get
    runProgram fuel (c.last && s.traps.isEmpty) name args

/-- Runs the program of a name in the place of the shell or beside it. -/
def runProgram : (fuel : Nat) → (instead : Bool) → String → List String → ShellM Unit
  | 0, _, _, _ => throw .exhausted
  | fuel + 1, instead, name, args => do
    let missing (status : Nat) (why : String) : ShellM Unit := do
      protest (name ++ ": " ++ why)
      setStatus status
    let path ← if name.contains '/' then pure (some name) else Builtin.rememberProgram? name
    match path with
    | none => missing 127 "not found"
    | some path =>
      match Program.at? path with
      | some program => runInstalled fuel instead program name args
      | none =>
        match ← locate path with
        | .error .notADirectory => missing 127 "not found"
        | .error f => missing 127 (if f = .notFound then "not found" else f.reason)
        | .ok p =>
          let files := (← get).files
          match files.get? p, files.fileAt? p with
          | none, _ => missing 127 "not found"
          | some _, none => missing 126 "Permission denied"
          | some _, some file =>
            if file.mode &&& 0o111 = 0 then missing 126 "Permission denied"
            else
              match interpreter? (rawContent file.content) with
              | none => runInstalled fuel instead "sh" path (path :: args)
              | some (other, options) =>
                let options := match options with
                  | [o] => if other.endsWith "/env" then (o.splitOn " ").take 1 else options
                  | os => os
                match Program.at? other with
                | none => missing 127 "not found"
                | some program => runInstalled fuel instead program path (options ++ path :: args)

/-- Runs a program that is installed. -/
def runInstalled : (fuel : Nat) → (instead : Bool) → (program name : String) → List String →
    ShellM Unit
  | 0, _, _, _, _ => throw .exhausted
  | fuel + 1, instead, program, name, args => do
    let command (missing : String → FileFault → String) (args : List String) : ShellM Nat := do
      besides fuel false (launch fuel missing args)
      return (← get).status
    let shell (text : String) : ShellM Unit := startShell fuel false "/bin/sh" ["-c", text]
    let work (utility : Utility) : ShellM Unit := do
      modify fun s => { s with lost := none }
      let status ← asProcess (utility args)
      if let some f := (← get).lost then
        complain (program ++ ": write error: " ++ f.reason)
        modify fun s => { s with lost := none, status := max status 1 }
      else setStatus status
    let failed (name : String) (f : FileFault) : String :=
      program ++ ": failed to run command " ++ Utility.quoted name ++ ": " ++ f.reason
    match program with
    | "sh" | "bash" | "dash" => startShell fuel instead name args
    | "env" => besides fuel instead (runWithVariables fuel args)
    | "sleep" =>
      match Utility.sleepFault? args with
      | some fault => setStatus (← Utility.failUsage "sleep" fault 1)
      | none => runSleep fuel ((args.filterMap Utility.duration?).foldl (· + ·) 0)
    | "nohup" =>
      if args.isEmpty then setStatus (← Utility.failUsage "nohup" "missing operand" 125)
      else besides fuel instead (launch fuel failed args)
    | "nice" =>
      let args := match args with
        | "-n" :: _ :: rest => rest
        | a :: rest => if a.startsWith "-" then rest else a :: rest
        | [] => []
      if args.isEmpty then work (Utility.fixedLine "0")
      else
        besides fuel instead
          (launch fuel (fun name f => "nice: " ++ Utility.quoted name ++ ": " ++ f.reason) args)
    | "timeout" => runTimeout fuel failed args
    | "xargs" => work (Utility.xargs (command fun name f => "xargs: " ++ name ++ ": " ++ f.reason))
    | "find" =>
      work (Utility.find (command fun name f =>
        "find: " ++ Utility.quoted name ++ ": " ++ f.reason))
    | "awk" | "mawk" => work (Awk.awk shell)
    | _ =>
      match Utility.program? program with
      | none => setStatus 0
      | some utility => work utility

/-- Waits for a number of seconds, in which all that has not been waited for is run. -/
def runSleep : (fuel : Nat) → (seconds : Rat) → ShellM Unit
  | 0, _ => throw .exhausted
  | fuel + 1, seconds => do
    if 0 < seconds then
      runJobs fuel
      passTo ((← get).clock + seconds)
    setStatus 0

/-- Runs a program no longer than for a number of seconds. -/
def runTimeout : (fuel : Nat) → (missing : String → FileFault → String) → List String →
    ShellM Unit
  | 0, _, _ => throw .exhausted
  | fuel + 1, missing, args => do
    match args with
    | "-s" :: _ :: rest | "-k" :: _ :: rest => runTimeout fuel missing rest
    | a :: rest =>
      if a.startsWith "-" then runTimeout fuel missing rest
      else
        match Utility.duration? a with
        | none =>
          setStatus (← Utility.failUsage "timeout"
            ("invalid time interval " ++ Utility.quoted a) 125)
        | some seconds =>
          if rest.isEmpty then runTimeout fuel missing []
          else
            let before := (← get).deadline
            let own := (← get).clock + seconds
            if 0 < seconds then
              modify fun s => { s with deadline := some (min own (before.getD own)) }
            fun s =>
              match besides fuel false (launch fuel missing rest) s with
              | (.error .late, t) =>
                let files := t.toWorld
                (.ok (), { s with toWorld := files, deadline := before, status := 124 })
              | (r, t) => (r, { t with deadline := before })
    | [] =>
      complain "Try 'timeout --help' for more information."
      setStatus 125

/-- Runs a step as a process of its own, or in the place of the shell. -/
def besides : (fuel : Nat) → (instead : Bool) → ShellM Unit → ShellM Unit
  | 0, _, _ => throw .exhausted
  | _, instead, m => do
    let number := (← get).number
    let inner : ShellM Unit := do
      modify fun s => { s with traps := [], speaker := none }
      m
    if instead then
      inner
      exit (← get).status
    else separately do
      modify fun s => { s with number := s.nextProcess, nextProcess := s.nextProcess + 1 }
      inner
      modify fun s => { s with number }

/-- Starts a shell in the place of this one or beside it. -/
def startShell : (fuel : Nat) → (instead : Bool) → (name : String) → List String → ShellM Unit
  | 0, _, _, _ => throw .exhausted
  | fuel + 1, instead, name, args => do
    let s ← get
    if instead && !s.isCopy then runShell fuel s.number name [] args
    else if instead then
      modify fun s => { s with nextProcess := s.nextProcess + 1 }
      runShell fuel s.nextProcess name [] args
    else
      modify fun s => { s with nextProcess := s.nextProcess + 1 }
      separately (runShell fuel s.nextProcess name [] args)

/-- Runs what a shell is started with under a number and a name. -/
def runShell : (fuel : Nat) → (number : Nat) → (name : String) → (options : List Char) →
    List String → ShellM Unit
  | 0, _, _, _, _ => throw .exhausted
  | fuel + 1, number, name, options, args => do
    let start (name : String) (options : List Char) (args : List String) : ShellM Unit :=
      modify fun s => { s with toSession := innerSession s.toSession number name options args }
    let fault (text : String) : ShellM Unit := do
      complain (name ++ ": 0: " ++ text)
      exit 2
    let withInput : ShellM Unit := do
      let text := ((← read 0 none).toOption).getD ""
      start name ('s' :: options) args
      toEnd fuel (runText fuel {} text)
    match args with
    | [] => withInput
    | a :: rest =>
      match a.toList with
      | ['-'] | ['-', '-'] => runShell fuel number name ('\x03' :: options) rest
      | '-' :: cs =>
        if options.contains '\x03' then runFile fuel name options a rest start
        else if cs.getLast? = some 'c' then
          let options := cs.dropLast ++ options
          match rest with
          | [] => fault "-c requires an argument"
          | text :: rest =>
            let (text, rest) := if text = "--" then (rest.headD "", rest.tail) else (text, rest)
            start (rest.headD name) options rest.tail
            toEnd fuel (runText fuel {} text)
        else if cs = ['o'] then
          let letter := (Builtin.optionNames.lookup (rest.headD "")).toList
          runShell fuel number name (letter ++ options) rest.tail
        else
          match cs.find? fun c => !(Builtin.optionNames.map (·.2)).contains c with
          | some wrong => fault ("Illegal option -" ++ String.singleton wrong)
          | none =>
            if cs.contains 's' then
              let text := ((← read 0 none).toOption).getD ""
              start name (cs ++ options) rest
              toEnd fuel (runText fuel {} text)
            else runShell fuel number name (cs ++ options) rest
      | _ => runFile fuel name options a rest start

/-- Runs the commands in a file as a shell that has still to be set up. -/
def runFile : (fuel : Nat) → (name : String) → (options : List Char) → (path : String) →
    List String → (start : String → List Char → List String → ShellM Unit) → ShellM Unit
  | 0, _, _, _, _, _ => throw .exhausted
  | fuel + 1, name, options, path, args, start => do
    match ← readPath path none with
    | .ok text =>
      start path (options.filter (· ≠ '\x03')) args
      toEnd fuel (runText fuel {} text)
    | .error f =>
      complain (name ++ ": 0: cannot open " ++ path ++ ": " ++ openFault false f)
      exit 2

/-- Runs a program with variables of its own, or says which variables programs see. -/
def runWithVariables : (fuel : Nat) → List String → ShellM Unit
  | 0, _ => throw .exhausted
  | fuel + 1, args => do
    match args with
    | [] => setStatus (← Utility.printenv [])
    | "-i" :: rest | "-" :: rest | "--ignore-environment" :: rest =>
      modify fun s => { s with bindings := [] }
      runWithVariables fuel rest
    | "-u" :: name :: rest =>
      modify fun s => { s with bindings := s.bindings.filter (·.1 ≠ name) }
      runWithVariables fuel rest
    | "--" :: rest => runWithVariables fuel rest
    | a :: rest =>
      match Builtin.setting a with
      | (name, some value) =>
        changeVariable name fun _ => { value := some value, exported := true }
        runWithVariables fuel rest
      | (_, none) =>
        launch fuel (fun name f => "env: " ++ Utility.quoted name ++ ": " ++ f.reason) (a :: rest)

/-- Becomes the program of a name; `missing` says in words why there is no such program. -/
def launch : (fuel : Nat) → (missing : String → FileFault → String) → List String → ShellM Unit
  | 0, _, _ => throw .exhausted
  | _, _, [] => setStatus 0
  | fuel + 1, missing, name :: args => do
    modify fun s => { s with functions := [] }
    let fault (status : Nat) (f : FileFault) : ShellM Unit := do
      complain (missing name f)
      setStatus status
    let path ← if name.contains '/' then pure (some name)
      else if (← lookup? "PATH").isNone then pure (some ("/usr/bin/" ++ name))
      else Builtin.findProgram? name
    match path with
    | none => fault 127 .notFound
    | some path =>
      if (Program.at? path).isSome then runProgram fuel true path args
      else
        match ← find? path with
        | none => fault 127 .notFound
        | some .directory => fault 126 .denied
        | some _ =>
          match ← locate path with
          | .error f => fault 127 f
          | .ok p =>
            if ((← get).files.fileAt? p).any fun file => file.mode &&& 0o111 = 0 then
              fault 126 .denied
            else runProgram fuel true path args

end

/-- How many steps one below the other a command may take. -/
def patience : Nat := 1000000

/-- Runs the text of a command to its end. -/
def execute (text : String) (start : State) : Ending × State :=
  match toEnd patience (runText patience {} text) start with
  | (.error (.ended e), s) => (e, s)
  | (.error .exhausted, s) => (.killed 9 false, s)
  | (_, s) => (.exited s.status, s)

end EnvRegistry.Shell
