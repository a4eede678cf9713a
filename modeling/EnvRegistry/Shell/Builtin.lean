import EnvRegistry.Shell.Field
import EnvRegistry.Shell.Numeral
import EnvRegistry.Shell.Program
import EnvRegistry.Shell.Utility.Basic

/-! # Utilities of the shell itself

    They look at the session and change it: its directory, variables, arguments and
    options, and what is run when signals come. -/

namespace EnvRegistry.Shell.Builtin

open ShellM

/-! ## Arguments -/

/-- A text between quotes, so that a shell reads it back. -/
def quoted : (fuel : Nat) → List Char → String
  | 0, _ => ""
  | fuel + 1, cs =>
    let part := "'" ++ String.ofList (cs.takeWhile (· ≠ '\'')) ++ "'"
    let rest := cs.dropWhile (· ≠ '\'')
    let marks := rest.takeWhile (· = '\'')
    let after := rest.dropWhile (· = '\'')
    if marks.isEmpty then part
    else
      let part := part ++ "\"" ++ String.ofList marks ++ "\""
      if after.isEmpty then part else part ++ quoted fuel after

/-- A text between quotes, so that a shell reads it back. -/
def quote (s : String) : String := quoted (s.length + 1) s.toList

/-- The letters of the options at the start, which have to be some of those allowed, and the other
arguments. -/
def letters (allowed : String) : List String → ShellM (List Char × List String)
  | [] => return ([], [])
  | a :: rest => do
    if a = "--" then return ([], rest)
    match a.toList with
    | '-' :: c :: cs =>
      if let some wrong := (c :: cs).find? (!allowed.contains ·) then
        refuse ("Illegal option -" ++ String.singleton wrong)
      let (more, rest) ← letters allowed rest
      return (c :: cs ++ more, rest)
    | _ => return ([], a :: rest)

/-- The greatest number that may be an argument. -/
def greatestNumber : Int := (UInt32.size / 2 : Nat) - 1

/-- The natural number that an argument says. -/
def number (s : String) : ShellM Nat := do
  match Numeral.whole? false s with
  | some n =>
    if 0 ≤ n && n ≤ greatestNumber then return n.toNat else refuse ("Illegal number: " ++ s)
  | none => refuse ("Illegal number: " ++ s)

/-! ## Directories -/

/-- The path of the directory one is in. -/
def pwd : Utility := fun args => do
  let (cs, _) ← letters "LP" args
  let s ← get
  say ((if cs.getLast? = some 'P' then
      "/" ++ String.intercalate "/" (s.cwd.map Raw.ofText) else s.path) ++ "\n")
  return 0

/-- A path in which every step up takes a step down back. -/
def plainPath (path : String) : String :=
  let names := (path.splitOn "/").foldl (fun (names : List String) n =>
    match n with
    | "" | "." => names
    | ".." => names.drop 1
    | n => n :: names) []
  "/" ++ String.intercalate "/" names.reverse

/-- The directory that a path leads to from one of the directories of a list, and whether that one
has a name; the path itself if there is none. -/
def cdTarget (s : State) (directories path : String) : ShellM (String × Bool) := do
  let start := (path.splitOn "/").headD ""
  if start.isEmpty || start = "." || start = ".." || directories.isEmpty then return (path, false)
  let isDirectory (p : String) : Bool := match s.files.locate s.cwd (Raw.toText p) with
    | .ok place => s.files.isDirectory place
    | .error _ => false
  let found := (directories.splitOn ":").findSome? fun d =>
    let p := if d.isEmpty then path else d ++ "/" ++ path
    if isDirectory p then some (p, !d.isEmpty) else none
  return found.getD (path, false)

/-- Goes to another directory. -/
def cd : Utility := fun args => do
  let (cs, rest) ← letters "LP" args
  let target ← match rest with
    | [] => pure ((← lookup? "HOME").getD "")
    | "-" :: _ => pure ((← lookup? "OLDPWD").getD "")
    | path :: _ => pure path
  if target.isEmpty then return 0
  let s ← get
  let (target, isFound) ← if rest.head? = some "-" then pure (target, true)
    else cdTarget s ((← lookup? "CDPATH").getD "") target
  let logical := plainPath (Raw.ofText (Path.join (Raw.toText s.path) (Raw.toText target)))
  let wanted := if cs.getLast? = some 'P' then target else logical
  match s.files.locate s.cwd (Raw.toText wanted), s.files.locate s.cwd (Raw.toText target) with
  | .ok p, .ok _ | .ok p, .error _ =>
    if !s.files.isDirectory p then refuse ("can't cd to " ++ target)
    let path := if cs.getLast? = some 'P' then
        "/" ++ String.intercalate "/" (p.map Raw.ofText) else logical
    set { s with cwd := p, path }
    changeVariable "OLDPWD" fun v => { v with value := some s.path, exported := true }
    changeVariable "PWD" fun v => { v with value := some path, exported := true }
    if isFound then say (path ++ "\n")
    return 0
  | .error _, _ => refuse ("can't cd to " ++ target)

/-! ## Variables -/

/-- The name and the value that an argument sets. -/
def setting (a : String) : String × Option String :=
  let name := String.ofList (a.toList.takeWhile (· ≠ '='))
  match a.toList.dropWhile (· ≠ '=') with
  | _ :: value => (name, some (String.ofList value))
  | [] => (name, none)

/-- Refuses a text that cannot be the name of a variable. -/
def checkName (name : String) : ShellM Unit := do
  unless isShellName name do refuse (name ++ ": bad variable name")

/-- The lines that set variables, in order. -/
def settings (front : String) (p : Variable → Bool) : ShellM String := do
  let vs := (← get).bindings.filter fun v => p v.2
  let sorted := vs.mergeSort fun a b => isNotAfter a.1 b.1
  return String.join (sorted.map fun (name, v) =>
    front ++ name ++ (match v.value with
      | some value => "=" ++ quote value
      | none => "") ++ "\n")

/-- Changes the variables that arguments name, which may get values as well. -/
def mark (f : Variable → Variable) (args : List String) : ShellM Unit :=
  args.forM fun a => do
    let (name, value) := setting a
    checkName name
    if let some v := value then assign name v
    changeVariable name f

/-- Lets programs see variables. -/
def exported : Utility := fun args => do
  let (cs, rest) ← letters "p" args
  if cs.isEmpty && !rest.isEmpty then
    mark (fun v => { v with exported := true }) rest
  else say (← settings "export " Variable.exported)
  return 0

/-- Lets variables keep their values. -/
def readOnly : Utility := fun args => do
  let (cs, rest) ← letters "p" args
  if cs.isEmpty && !rest.isEmpty then
    mark (fun v => { v with readOnly := true }) rest
  else say (← settings "readonly " Variable.readOnly)
  return 0

/-- Lets variables have their values only in the function being run. -/
def localTo : Utility := fun args => do
  if (← get).hidden.isEmpty then refuse "not in a function"
  args.forM fun a => do
    let (name, value) := setting a
    if name ≠ "-" then
      checkName name
      hide name
      if let some v := value then assign name v
  return 0

/-- Takes variables or functions away. -/
def unsetAll : Utility := fun args => do
  let (cs, names) ← letters "vf" args
  names.forM fun name => do
    if cs.getLast? = some 'f' then
      modify fun s => { s with functions := s.functions.filter (·.1 ≠ name) }
    else
      checkName name
      unset name
  return 0

/-! ## Reading lines -/

/-- The characters of a line, those after a backslash quoted, and how many have been read; nothing
more if the text ends within the line. -/
def lineMarks (plain : Bool) : (fuel : Nat) → (acc : List Mark) → (count : Nat) → List Char →
    List Mark × Nat × Bool
  | 0, acc, n, _ => (acc.reverse, n, false)
  | _, acc, n, [] => (acc.reverse, n, false)
  | fuel + 1, acc, n, c :: rest =>
    if c = '\n' then (acc.reverse, n + 1, true)
    else if c = '\x00' then lineMarks plain fuel acc (n + 1) rest
    else if c = '\\' && !plain then
      match rest with
      | [] => (acc.reverse, n + 1, false)
      | d :: rest =>
        if d = '\n' then lineMarks plain fuel acc (n + 2) rest
        else lineMarks plain fuel (⟨d, true⟩ :: acc) (n + 2) rest
    else lineMarks plain fuel (⟨c, false⟩ :: acc) (n + 1) rest

/-- The texts that some variables get from a line, the last one all that is left. -/
def shares (g : Gaps) : (names : Nat) → List Mark → List (List Mark)
  | 0, _ => []
  | names + 1, ms =>
    let isBlank (m : Mark) : Bool := !m.quoted && g.isBlank m.char
    let isBreak (m : Mark) : Bool := !m.quoted && g.isBreak m.char
    let isGap (m : Mark) : Bool := isBlank m || isBreak m
    let ms := ms.dropWhile isBlank
    let field := ms.takeWhile (!isGap ·)
    let rest := (ms.dropWhile (!isGap ·)).dropWhile isBlank
    let rest := if rest.head?.any isBreak then rest.tail.dropWhile isBlank else rest
    if names = 0 then
      if rest.isEmpty then [field] else [(ms.reverse.dropWhile isBlank).reverse]
    else field :: shares g names rest

/-- Whether backslashes mean nothing in a line that is read, and the other arguments. -/
def readOptions : List String → ShellM (Bool × List String)
  | "-p" :: _ :: rest => readOptions rest
  | "-rp" :: _ :: rest => do return (true, (← readOptions rest).2)
  | "-r" :: rest => do return (true, (← readOptions rest).2)
  | "--" :: rest => return (false, rest)
  | a :: rest => do
    match a.toList with
    | '-' :: c :: _ => refuse ("Illegal option -" ++ String.singleton c)
    | _ => return (false, a :: rest)
  | [] => return (false, [])

/-- Reads a line into variables. -/
def readLine : Utility := fun args => do
  let (plain, names) ← readOptions args
  if names.isEmpty then refuse "arg count"
  names.forM checkName
  match ← channel? 0 with
  | none => return 1
  | some stream =>
    match ← pending stream with
    | .error _ => return 1
    | .ok text =>
      let cs := (text.takeWhile (· ≠ '\n')).copy.toList
      let isWhole := plain || cs.getLast? ≠ some '\\'
      let cs := if isWhole then (text.take (cs.length + 1)).copy.toList else text.toList
      let (marks, count, ended) := lineMarks plain (cs.length + 1) [] 0 cs
      advance stream count
      let fields := shares (.ofString (← separators)) names.length marks
      (names.zip fields).forM fun (name, field) => assign name (fieldText field)
      return if ended then 0 else 1

/-- Takes the next option from arguments: it becomes the value of a variable. -/
def getopts : Utility := fun args => do
  match args with
  | rules :: name :: given =>
    let s ← get
    let given := if given.isEmpty then s.arguments else given
    let place := (((← lookup? "OPTIND").bind Numeral.digits?).getD 1) - 1
    let taken := s.optionLetters
    let quiet := rules.startsWith ":"
    let rules := if quiet then rules.toList.tail else rules.toList
    let finish (next letters : Nat) : ShellM Unit := do
      assign "OPTIND" (toString (next + 1))
      modify fun s => { s with optionLetters := letters }
    let ended (next : Nat) : ShellM Nat := do
      finish next 0
      assign name "?"
      return 1
    let word := (given.getD place "").toList
    let letters := if taken = 0 then word.drop 1 else word.drop taken
    if taken = 0 && (place ≥ given.length || word.head? ≠ some '-' || word.length < 2) then
      ended place
    else if taken = 0 && word = ['-', '-'] then ended (place + 1)
    else
      match letters with
      | [] => ended (place + 1)
      | c :: rest =>
        let taken := if taken = 0 then 2 else taken + 1
        let next := if rest.isEmpty then place + 1 else place
        let left := if rest.isEmpty then 0 else taken
        match (if c = ':' then [] else rules.dropWhile (· ≠ c)) with
        | [] =>
          finish next left
          assign name "?"
          if quiet then assign "OPTARG" (String.singleton c)
          else
            complain ("Illegal option -" ++ String.singleton c)
            unset "OPTARG"
          return 0
        | _ :: ':' :: _ =>
          if !rest.isEmpty then
            finish (place + 1) 0
            assign "OPTARG" (String.ofList rest)
            assign name (String.singleton c)
            return 0
          match given[place + 1]? with
          | some value =>
            finish (place + 2) 0
            assign "OPTARG" value
            assign name (String.singleton c)
            return 0
          | none =>
            finish (place + 1) 0
            if quiet then
              assign "OPTARG" (String.singleton c)
              assign name ":"
            else
              complain ("No arg for -" ++ String.singleton c ++ " option")
              unset "OPTARG"
              assign name "?"
            return 0
        | _ =>
          finish next left
          unset "OPTARG"
          assign name (String.singleton c)
          return 0
  | _ => refuse "Usage: getopts optstring var [arg...]"

/-! ## Arguments and options of the shell -/

/-- The options of a shell and their letters. -/
def optionNames : List (String × Char) :=
  [("errexit", 'e'), ("noglob", 'f'), ("ignoreeof", 'I'), ("interactive", 'i'), ("monitor", 'm'),
   ("noexec", 'n'), ("stdin", 's'), ("xtrace", 'x'), ("verbose", 'v'), ("vi", 'V'),
   ("emacs", 'E'), ("noclobber", 'C'), ("allexport", 'a'), ("notify", 'b'), ("nounset", 'u'),
   ("privileged", 'p'),
   ("nolog", '\x01'), ("debug", '\x02')]

/-- The letters of the options that are on. -/
def lettersOn (s : State) : String :=
  let ordered := (optionNames.map (·.2)).reverse
  String.ofList (ordered.filter fun c => s.options.contains c && ' ' < c)

/-- Turns an option on or off. -/
def turn (isOn : Bool) (c : Char) : ShellM Unit := modify fun s =>
  let others := s.options.filter (· ≠ c)
  { s with options := if isOn then c :: others else others }

/-- Turns options on or off, as letters after a sign say. -/
def turnAll (isOn : Bool) (cs : List Char) : ShellM Unit :=
  cs.forM fun c => do
    if !(optionNames.map (·.2)).contains c then
      refuse ("Illegal option " ++ (if isOn then "-" else "+") ++ String.singleton c)
    turn isOn c

/-- Takes options, and gives the arguments after them, and whether arguments are to be set even if
there are none. -/
def takeOptions : (fuel : Nat) → List String → ShellM (Bool × List String)
  | 0, args => return (false, args)
  | _, [] => return (false, [])
  | fuel + 1, a :: rest => do
    if a = "--" then return (true, rest)
    if a = "-" then
      turn false 'x'
      turn false 'v'
      return (false, rest)
    match a.toList with
    | sign :: c :: cs =>
      if sign ≠ '-' && sign ≠ '+' then return (false, a :: rest)
      if c = 'o' && cs.isEmpty then
        match rest with
        | name :: rest =>
          match optionNames.lookup name with
          | some letter => turn (sign = '-') letter
          | none => refuse ("Illegal option " ++ String.singleton sign ++ "o " ++ name)
          takeOptions fuel rest
        | [] =>
          let s ← get
          if sign = '-' then
            say ("Current option settings\n" ++ String.join (optionNames.map fun (name, letter) =>
              name ++ String.ofList (List.replicate (16 - name.length) ' ') ++
                (if s.options.contains letter then "on\n" else "off\n")))
          else
            say (String.join (optionNames.map fun (name, letter) =>
              "set " ++ (if s.options.contains letter then "-o " else "+o ") ++ name ++ "\n"))
          return (false, [])
      else
        turnAll (sign = '-') (c :: cs)
        takeOptions fuel rest
    | _ => return (false, a :: rest)

/-- Sets options and arguments, or shows all variables. -/
def setAll : Utility := fun args => do
  if args.isEmpty then
    say (← settings "" fun v => v.value.isSome)
    return 0
  let (always, rest) ← takeOptions (args.length + 1) args
  if always || !rest.isEmpty then modify fun s => { s with arguments := rest }
  return 0

/-- Takes arguments away. -/
def shift : Utility := fun args => do
  let n ← match args with
    | [] => pure 1
    | a :: _ => number a
  let s ← get
  if s.arguments.length < n then refuse "can't shift that many"
  set { s with arguments := s.arguments.drop n }
  return 0

/-! ## Signals -/

/-- Says what is run when signals come or the shell ends, or shows it. -/
def trap : Utility := fun args => do
  let args := if args.head? = some "--" then args.tail else args
  let listing : ShellM Nat := do
    let s ← get
    let numbers := (List.range (Signal.greatest + 1)).filterMap fun n =>
      (s.traps.lookup n).map fun t => (n, t)
    say (String.join (numbers.map fun (n, t) =>
      "trap -- " ++ quote t ++ " " ++ (if n = 0 then "EXIT" else Signal.nameOf n) ++ "\n"))
    return 0
  if args.isEmpty || args = ["-l"] || args = ["-p"] then return ← listing
  let (text, names) := match args with
    | "-" :: names => (none, names)
    | [name] => (none, [name])
    | text :: names =>
      if (Numeral.digits? text).isSome then (none, args) else (some text, names)
    | [] => (none, [])
  let rec go : List String → ShellM Nat
    | [] => return 0
    | name :: rest => do
      match Signal.number? name with
      | none =>
        complain ("trap: " ++ name ++ ": bad trap")
        return 1
      | some n =>
        modify fun s =>
          { s with
            traps := (text.map fun t => (n, t)).toList ++ s.traps.filter (·.1 ≠ n) }
        go rest
  go names

/-- How to send signals. -/
def killUsage : String :=
  "Usage: kill [-s sigspec | -signum | -sigspec] [pid | job]... or\nkill -l [exitstatus]"

/-- Sends a signal to a process. -/
def send (signal : Nat) (process : String) : ShellM Nat := do
  let s ← get
  if process.startsWith "%" then refuse ("No such job: " ++ process)
  let own := [toString s.number, "0", "-" ++ toString s.number]
  if own.contains process then
    match s.traps.lookup signal with
    | some text =>
      if signal = 0 || text.isEmpty then return 0
      if signal = 9 then throw (.ended (.killed 9 false))
      modify fun s => { s with arrived := s.arrived ++ [signal] }
      return 0
    | none => if Signal.isFatal signal then throw (.ended (.killed signal false)) else return 0
  else
    let digits := if process.startsWith "-" then String.ofList process.toList.tail else process
    match Numeral.digits? digits with
    | none => refuse ("Illegal number: " ++ process)
    | some n =>
      let isRunning := match s.jobs.lookup n with
        | some (.waiting _ _) | some .endless => true
        | some (.finished _ time) => s.clock < time
        | none => false
      if !isRunning then
        protest "No such process\n"
        return 1
      if Signal.isFatal signal then
        modify fun s =>
          { s with
            jobs := (n, Job.finished (.killed signal false) s.clock) :: s.jobs.filter (·.1 ≠ n) }
      return 0

/-- Sends signals, or shows their names. -/
def kill : Utility := fun args => do
  match args with
  | [] => refuse killUsage
  | "-l" :: rest =>
    match rest with
    | [] =>
      say (String.join ((List.range (Signal.greatest + 1)).map fun n => Signal.nameOf n ++ "\n"))
      return 0
    | a :: _ =>
      let n ← number a
      let n := if 128 < n then n - 128 else n
      if n = 0 || Signal.greatest < n then refuse ("invalid signal number or exit status: " ++ a)
      say (Signal.nameOf n ++ "\n")
      return 0
  | first :: rest =>
    let (signal, processes) ← match first.toList with
      | '-' :: 's' :: [] =>
        match rest with
        | name :: rest =>
          match Signal.number? name with
          | some n => pure (n, rest)
          | none => refuse ("invalid signal number or name: " ++ name)
        | [] => refuse ("No arg for -s option")
      | '-' :: '-' :: [] => pure (15, rest)
      | '-' :: c :: cs =>
        match Signal.number? (String.ofList (c :: cs)) with
        | some n => pure (n, if rest.head? = some "--" then rest.tail else rest)
        | none => refuse ("Illegal option -" ++ String.singleton c)
      | _ => pure (15, args)
    if processes.isEmpty then refuse killUsage
    Utility.forEach (send signal) processes

/-! ## What names stand for -/

/-- Where a command of a name comes from. -/
inductive Origin where
  | reserved
  | standIn (text : String)
  | function
  | special
  | builtin
  | program (path : String)
  | path (path : String)
  | nowhere
  deriving DecidableEq, Repr

/-- Words that mean something to a shell where a command may start. -/
def reservedWords : List String :=
  ["!", "\x7b", "\x7d", "case", "do", "done", "elif", "else", "esac", "fi", "for", "if", "in",
   "then", "until", "while"]

/-- The place of a name in a table that has so many. -/
def placeOf (places : Nat) (name : String) : Nat :=
  let cs := name.toList.map Char.toNat
  (cs.headD 0 * 16 + cs.foldl (· + ·) 0) % places

/-- How many places the table of aliases has. -/
def aliasPlaces : Nat := 39

/-- How many places the table of programs has. -/
def programPlaces : Nat := 31

/-- Entries of a table that has so many places, in the order of these. -/
def inPlaces (places : Nat) (entries : List (String × String)) : List (String × String) :=
  (List.range places).flatMap fun n => entries.filter fun e => placeOf places e.1 = n

/-- Entries with a value under a name, where the old one was or at the end. -/
def withEntry (entries : List (String × String)) (name value : String) : List (String × String) :=
  if entries.any (·.1 = name) then
    entries.map fun e => if e.1 = name then (name, value) else e
  else entries ++ [(name, value)]

/-- The directories in which programs are looked for. -/
def searchPath : ShellM (List String) :=
  return ((← lookup? "PATH").getD "").splitOn ":"

/-- The program of a name in the directories in which programs are looked for. -/
def findProgram? (name : String) : ShellM (Option String) := do
  let s ← get
  let rec go : List String → Option String
    | [] => none
    | directory :: rest =>
      let path := if directory.isEmpty then name
        else if directory.endsWith "/" then directory ++ name
        else directory ++ "/" ++ name
      let isFile := match s.files.locate s.cwd (Raw.toText path) with
        | .ok p => (s.files.fileAt? p).any fun f => f.mode &&& 0o111 ≠ 0
        | .error _ => false
      if (Program.at? path).isSome || isFile then some path else go rest
  return go (← searchPath)

/-- The program of a name, of which the shell remembers the path. -/
def rememberProgram? (name : String) : ShellM (Option String) := do
  let path? ← findProgram? name
  if let some path := path? then
    modify fun s => { s with foundPrograms := withEntry s.foundPrograms name path }
  return path?

/-- Where a command of a name comes from; `words` says that reserved words count. -/
def origin (words : Bool) (name : String) : ShellM Origin := do
  let s ← get
  if words && reservedWords.contains name then return .reserved
  if let some text := s.aliases.lookup name then return .standIn text
  if (s.functions.lookup name).isSome then return .function
  if Program.special.contains name then return .special
  if Program.builtin.contains name then return .builtin
  if name.contains '/' then
    let there := s.files.exists? s.cwd (Raw.toText name) || (Program.at? name).isSome
    return if there then .path name else .nowhere
  match ← rememberProgram? name with
  | some path => return .program path
  | none => return .nowhere

/-- What is said of a name. -/
def describe (name : String) : ShellM Nat := do
  let isKnown := ((← get).foundPrograms.lookup name).isSome
  let o ← origin true name
  say (name ++ (match o with
    | .reserved => " is a shell keyword"
    | .standIn text => " is an alias for " ++ text
    | .function => " is a shell function"
    | .special => " is a special shell builtin"
    | .builtin => " is a shell builtin"
    | .program path => (if isKnown then " is a tracked alias for " else " is ") ++ path
    | .path path => " is " ++ path
    | .nowhere => ": not found") ++ "\n")
  return if o = .nowhere then 127 else 0

/-- Says what names stand for. -/
def type : Utility := fun args => Utility.forEach describe args

/-- Says how a command of a name would be run. -/
def showOrigin (name : String) : ShellM Nat := do
  match ← origin true name with
  | .nowhere => return 127
  | .standIn text => do
    say ("alias " ++ name ++ "=" ++ quote text ++ "\n")
    return 0
  | .program path | .path path => do
    say (path ++ "\n")
    return 0
  | _ =>
    say (name ++ "\n")
    return 0

/-- Lets names stand for texts, or shows what they stand for. -/
def setAliases : Utility := fun args => do
  let line (e : String × String) : String := e.1 ++ "=" ++ quote e.2 ++ "\n"
  if args.isEmpty then
    say (String.join ((inPlaces aliasPlaces (← get).aliases).map line))
    return 0
  Utility.forEach (fun a => do
    match a.toList with
    | c :: cs =>
      -- A name has a character before the sign in any case.
      match setting (String.ofList cs) with
      | (name, some text) =>
        let name := String.singleton c ++ name
        modify fun s => { s with aliases := withEntry s.aliases name text }
        return 0
      | (_, none) =>
        match (← get).aliases.lookup a with
        | some text =>
          say (line (a, text))
          return 0
        | none =>
          complain ("alias: " ++ a ++ " not found")
          return 1
    | [] =>
      complain "alias:  not found"
      return 1) args

/-- Lets names stand for themselves. -/
def dropAliases : Utility := fun args => do
  match args with
  | "-a" :: _ =>
    modify fun s => { s with aliases := [] }
    return 0
  | _ =>
    Utility.forEach (fun name => do
      if ((← get).aliases.lookup name).isNone then
        complain ("unalias: " ++ name ++ " not found")
        return 1
      modify fun s => { s with aliases := s.aliases.filter (·.1 ≠ name) }
      return 0) (args.filter (· ≠ "--"))

/-- Shows or forgets the paths of programs that the shell remembers, or lets it remember some. -/
def hash : Utility := fun args => do
  match args with
  | [] =>
    let found := inPlaces programPlaces (← get).foundPrograms
    say (String.join (found.map fun e => e.2 ++ "\n"))
    return 0
  | "-r" :: _ =>
    modify fun s => { s with foundPrograms := [] }
    return 0
  | _ =>
    Utility.forEach (fun name => do
      if (← origin false name) = .nowhere then
        protest (name ++ ": not found")
        return 1
      return 0) args

/-- The paths of programs. -/
def which : Utility := fun args =>
  Utility.withOptions "which" 2 { plain := "as" } args fun o =>
    Utility.forEach (fun name => do
      let found ← if name.contains '/' then
          pure (if (Program.at? name).isSome then some name else none)
        else findProgram? name
      match found with
      | some path =>
        say (path ++ "\n")
        return 0
      | none => return 1) o.operands

/-! ## Permissions -/

/-- A number in octal digits, at least so many. -/
def octal (least n : Nat) : String :=
  let ds := Nat.toDigits 8 n
  String.ofList (List.replicate (least - ds.length) '0' ++ ds)

/-- What a mask leaves, in letters. -/
def maskText (mask : Nat) : String :=
  let part (who : String) (shift : Nat) : String :=
    let bits := 7 - (mask / Nat.pow 8 shift) % 8
    who ++ "=" ++ (if bits ≥ 4 then "r" else "") ++ (if bits / 2 % 2 = 1 then "w" else "") ++
      (if bits % 2 = 1 then "x" else "")
  String.intercalate "," [part "u" 2, part "g" 1, part "o" 0]

/-- A mask after a clause in letters has been applied to what it leaves. -/
def maskAfter? (mask : Nat) (clause : String) : Option Nat :=
  let cs := clause.toList
  let who := cs.takeWhile fun c => ['u', 'g', 'o', 'a'].contains c
  match cs.drop who.length with
  | sign :: letters =>
    let known := fun (c : Char) => ['r', 'w', 'x', 'X', 's', 't'].contains c
    if !(['+', '-', '='].contains sign) || !letters.all known then none
    else
      let bit (c : Char) : Nat :=
        match c with
        | 'r' => 4
        | 'w' => 2
        | 'x' | 'X' => 1
        | _ => 0
      let bits := letters.foldl (fun n c => n ||| bit c) 0
      let named (c : Char) : Bool := who.isEmpty || who.contains 'a' || who.contains c
      let whom := (if named 'u' then 0o700 else 0) + (if named 'g' then 0o070 else 0) +
        (if named 'o' then 0o007 else 0)
      let bits := (bits * 0o111) &&& whom
      let allowed := 0o777 - (mask &&& 0o777)
      let allowed := match sign with
        | '+' => allowed ||| bits
        | '-' => allowed - (allowed &&& bits)
        | _ => (allowed - (allowed &&& whom)) ||| bits
      some (0o777 - allowed)
  | [] => none

/-- Sets or shows what new files are not allowed. -/
def umask : Utility := fun args => do
  let isLetters := args.head? = some "-S"
  let mask := (← get).mask
  match (if isLetters then args.tail else args) with
  | [] =>
    say ((if isLetters then maskText mask else octal 4 mask) ++ "\n")
    return 0
  | a :: _ =>
    if a.toList.head?.any Char.isDigit then
      if a.toList.all fun c => '0' ≤ c && c ≤ '7' then
        modify fun s => { s with mask := Numeral.ofDigits 8 a.toList &&& 0o777 }
        return 0
      else refuse ("Illegal number: " ++ a)
    else
      match (a.splitOn ",").foldl (fun m c => m.bind fun m => maskAfter? m c) (some mask) with
      | some m =>
        modify fun s => { s with mask := m }
        return 0
      | none => refuse ("Illegal mode: " ++ a)

end EnvRegistry.Shell.Builtin
