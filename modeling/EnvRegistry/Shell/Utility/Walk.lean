import EnvRegistry.Shell.Utility.Listing

/-! # Walking through directories

    Everything at and below some paths is looked at, each directory before what lies in it
    unless it is to be the other way round.  A condition is worked out for every path, and
    on the way things are done with the path. -/

namespace EnvRegistry.Shell.Utility

open ShellM

/-! ## Conditions -/

/-- How a number is compared: it is to be greater, less or the same. -/
inductive Measure where
  | above (n : Nat)
  | below (n : Nat)
  | just (n : Nat)

/-- Whether a number is as it is to be. -/
def Measure.admits (n : Nat) : Measure → Bool
  | .above m => m < n
  | .below m => n < m
  | .just m => n = m

/-- What is asked of a path, or done with it. -/
inductive WalkTest where
  | always (answer : Bool)
  | name (folded : Bool) (p : Pattern)
  | path (folded : Bool) (p : Pattern)
  | kind (letters : List Char)
  | empty
  /-- The size in blocks of a number of bytes. -/
  | size (m : Measure) (block : Nat)
  | newer (written : Nat)
  | executable
  | mode (bits : Nat)
  | links (m : Measure)
  | show (ending : String)
  | format (text : String)
  | list
  | delete
  | run (arguments : List String)
  /-- Runs a command once for all paths. -/
  | collect (number : Nat) (arguments : List String)
  /-- What lies in a directory is not looked at. -/
  | prune
  | quit
  | not (t : WalkTest)
  | both (first second : WalkTest)
  | either (first second : WalkTest)
  | inTurn (first second : WalkTest)

/-- Whether something is done with a path. -/
def WalkTest.acts : WalkTest → Bool
  | .show _ | .format _ | .list | .delete | .run _ | .collect _ _ | .quit => true
  | .not t => t.acts
  | .both a b | .either a b | .inTurn a b => a.acts || b.acts
  | _ => false

/-- How deep directories can lie. -/
def deepestWalk : Nat := 200

/-- How far directories are walked through. -/
structure WalkLimits where
  least : Nat := 0
  most : Nat := deepestWalk
  /-- What lies in a directory is looked at before the directory. -/
  depthFirst : Bool := false
  followed : Bool := false

/-! ## Reading conditions -/

/-- What is left of the arguments. -/
structure WalkSource where
  rest : List String
  limits : WalkLimits := {}
  /-- How many commands are run for all paths. -/
  commands : Nat := 0

/-- A step of reading; its error says in words what is wrong. -/
abbrev WalkReadM := StateT WalkSource (ExceptT String ShellM)

/-- The measure that a text says, and the rest of the text. -/
def measure? (s : String) : Option (Measure × List Char) :=
  let read (cs : List Char) : Option (Nat × List Char) :=
    let ds := cs.takeWhile Char.isDigit
    if ds.isEmpty then none
    else some (Fraction.Binary64.ofDigits ds, cs.drop ds.length)
  match s.toList with
  | '+' :: cs => (read cs).map fun (n, rest) => (.above n, rest)
  | '-' :: cs => (read cs).map fun (n, rest) => (.below n, rest)
  | cs => (read cs).map fun (n, rest) => (.just n, rest)

/-- The number of bytes of a block of a letter. -/
def blockSize? : List Char → Option Nat
  | [] | ['b'] => some 512
  | ['c'] => some 1
  | ['w'] => some 2
  | ['k'] => some 1024
  | ['M'] => some (1024 * 1024)
  | ['G'] => some (1024 * 1024 * 1024)
  | _ => none

/-- Takes the next argument. -/
def takeArgument (name : String) : WalkReadM String := do
  let s ← get
  match s.rest with
  | a :: rest =>
    set { s with rest }
    return a
  | [] => throw ("missing argument to \x60" ++ name ++ "'")

/-- Takes the arguments of a command. -/
def takeCommand (name : String) : WalkReadM (List String × Bool) := do
  let s ← get
  let rec go : (acc : List String) → List String → Option (List String × Bool × List String)
    | _, [] => none
    | acc, ";" :: rest => some (acc.reverse, false, rest)
    | acc, "+" :: rest =>
      if acc.head? = some "\x7b\x7d" then some (acc.reverse, true, rest) else go ("+" :: acc) rest
    | acc, a :: rest => go (a :: acc) rest
  match go [] s.rest with
  | some (args, all, rest) =>
    if args.isEmpty then throw ("missing argument to \x60" ++ name ++ "'")
    set { s with rest }
    return (args, all)
  | none => throw ("missing argument to \x60" ++ name ++ "'")

/-- Reads what is asked of a path after its name. -/
def simpleTest (name : String) : WalkReadM WalkTest := do
  let pattern : WalkReadM Pattern := return Pattern.ofText (← takeArgument name)
  let folded : WalkReadM Pattern := return Pattern.ofText (← takeArgument name).toLower
  let number : WalkReadM Nat := do
    let a ← takeArgument name
    match a.toNat? with
    | some n => return n
    | none =>
      throw ("Expected a positive decimal integer argument to " ++ name ++ ", but got " ++ quoted a)
  let change (f : WalkLimits → WalkLimits) : WalkReadM WalkTest := do
    modify fun s => { s with limits := f s.limits }
    return .always true
  match name with
  | "-true" => return .always true
  | "-false" => return .always false
  | "-name" => return .name false (← pattern)
  | "-iname" => return .name true (← folded)
  | "-path" | "-wholename" => return .path false (← pattern)
  | "-ipath" => return .path true (← folded)
  | "-type" =>
    let a ← takeArgument name
    return .kind (a.toList.filter (· ≠ ','))
  | "-empty" => return .empty
  | "-size" =>
    let a ← takeArgument name
    match measure? a with
    | some (m, rest) =>
      match blockSize? rest with
      | some n => return .size m n
      | none => throw ("invalid -size type \x60" ++ String.ofList (rest.take 1) ++ "'")
    | none => throw ("Invalid argument \x60" ++ a ++ "' to -size")
  | "-links" =>
    let a ← takeArgument name
    match measure? a with
    | some (m, _) => return .links m
    | none => throw ("invalid argument \x60" ++ a ++ "' to \x60-links'")
  | "-newer" =>
    let a ← takeArgument name
    let found : Except FileFault (Place × FileEntry) ← (entryAt true a : ShellM _)
    match found with
    | .ok (p, _) =>
      let s : State ← (MonadState.get : ShellM State)
      return .newer (((s.files.fileAt? p).map File.written).getD 0)
    | .error f => throw (quoted a ++ ": " ++ f.reason)
  | "-executable" => return .executable
  | "-perm" =>
    let a ← takeArgument name
    return .mode ((a.toList.filter Char.isDigit).foldl (fun n c => 8 * n + (c.toNat - '0'.toNat)) 0)
  | "-mtime" | "-mmin" | "-atime" | "-ctime" | "-user" | "-group" =>
    let _ ← takeArgument name
    return .always true
  | "-print" => return .show "\n"
  | "-print0" => return .show "\x00"
  | "-printf" => return .format (← takeArgument name)
  | "-ls" => return .list
  | "-delete" =>
    modify fun s => { s with limits := { s.limits with depthFirst := true } }
    return .delete
  | "-prune" => return .prune
  | "-quit" => return .quit
  | "-exec" | "-execdir" | "-ok" =>
    let (args, all) ← takeCommand name
    if all then
      let n := (← get).commands
      modify fun s => { s with commands := n + 1 }
      return .collect n args
    return .run args
  | "-maxdepth" =>
    let n ← number
    change fun l => { l with most := n }
  | "-mindepth" =>
    let n ← number
    change fun l => { l with least := n }
  | "-depth" => change fun l => { l with depthFirst := true }
  | "-follow" => change fun l => { l with followed := true }
  | "-mount" | "-xdev" | "-noleaf" => return .always true
  | _ =>
    if name.startsWith "-" then throw ("unknown predicate \x60" ++ name ++ "'")
    else throw ("paths must precede expression: \x60" ++ name ++ "'")

mutual

/-- Reads conditions of which one is to hold, or that are worked out in turn. -/
def walkChoice : (fuel : Nat) → WalkReadM WalkTest
  | 0 => throw "too many arguments"
  | fuel + 1 => do
    let first ← walkAll fuel
    match (← get).rest with
    | "-o" :: rest | "-or" :: rest =>
      modify fun s => { s with rest }
      return .either first (← walkChoice fuel)
    | "," :: rest =>
      modify fun s => { s with rest }
      return .inTurn first (← walkChoice fuel)
    | _ => return first

/-- Reads conditions that are all to hold. -/
def walkAll : (fuel : Nat) → WalkReadM WalkTest
  | 0 => throw "too many arguments"
  | fuel + 1 => do
    let first ← walkOne fuel
    match (← get).rest with
    | [] | "-o" :: _ | "-or" :: _ | "," :: _ | ")" :: _ => return first
    | "-a" :: rest | "-and" :: rest =>
      modify fun s => { s with rest }
      return .both first (← walkAll fuel)
    | _ => return .both first (← walkAll fuel)

/-- Reads one condition. -/
def walkOne : (fuel : Nat) → WalkReadM WalkTest
  | 0 => throw "too many arguments"
  | fuel + 1 => do
    match (← get).rest with
    | [] => throw "expected an expression"
    | "!" :: rest | "-not" :: rest =>
      modify fun s => { s with rest }
      return .not (← walkOne fuel)
    | "(" :: rest =>
      modify fun s => { s with rest }
      let t ← walkChoice fuel
      match (← get).rest with
      | ")" :: rest =>
        modify fun s => { s with rest }
        return t
      | _ =>
        throw "invalid expression; I was expecting to find a ')' somewhere but did not see one."
    | name :: rest =>
      modify fun s => { s with rest }
      simpleTest name

end

/-! ## Walking -/

/-- What is known on the way. -/
structure Walk where
  pruned : Bool := false
  done : Bool := false
  status : Nat := 0
  /-- The commands that are run for all paths, with the paths, the last one first. -/
  collected : List (Nat × List String × List String) := []

/-- A step of a walk. -/
abbrev WalkM := StateT Walk ShellM

/-- What is looked at: the path, how deep it lies below the path where the walk has started, that
path, and what lies there. -/
structure Visit where
  path : String
  depth : Nat
  start : String
  place : Place
  entry : FileEntry

/-- The letter of what lies at a place. -/
def walkLetter : FileEntry → Char
  | .directory => 'd'
  | .file _ => 'f'
  | .link _ => 'l'

/-- The number of bytes of what lies at a place. -/
def sizeAt (files : FileTree) (v : Visit) : Nat :=
  match v.entry with
  | .directory => 4096
  | .link path => path.utf8ByteSize
  | .file n => ((files.files.lookup n).map fun f => (rawContent f.content).length).getD 0

/-- A format with what is known of a path. -/
def visitText (files : FileTree) (v : Visit) : List Char → String
  | '%' :: c :: rest =>
    let text := match c with
      | 'p' => v.path
      | 'f' => lastName v.path
      | 'h' => directoryOf v.path
      | 'P' => String.ofList ((v.path.toList.drop v.start.length).dropWhile (· = '/'))
      | 'H' => v.start
      | 's' => toString (sizeAt files v)
      | 'd' => toString v.depth
      | 'y' => String.singleton (walkLetter v.entry)
      | 'm' => String.ofList (Nat.toDigits 8
          (((files.fileAt? v.place).map File.mode).getD 0o755))
      | 'l' => match v.entry with
        | .link path => Raw.ofText path
        | _ => ""
      | '%' => "%"
      | c => "%" ++ String.singleton c
    text ++ visitText files v rest
  | '\\' :: c :: rest =>
    (match c with
      | 'n' => "\n"
      | 't' => "\t"
      | '0' => "\x00"
      | '\\' => "\\"
      | c => "\\" ++ String.singleton c) ++ visitText files v rest
  | c :: rest => String.singleton c ++ visitText files v rest
  | [] => ""

/-- Works a condition out for a path. -/
def WalkTest.holds (command : List String → ShellM Nat) (v : Visit) : WalkTest → WalkM Bool
  | .always answer => return answer
  | .name folded p =>
    let name := lastName v.path
    return p.accepts (if folded then name.toLower else name).toList
  | .path folded p => return p.accepts (if folded then v.path.toLower else v.path).toList
  | .kind letters => return letters.contains (walkLetter v.entry)
  | .empty => do
    let s ← (MonadState.get : ShellM State)
    match v.entry with
    | .directory => return (s.files.names v.place).isEmpty
    | .file _ => return sizeAt s.files v = 0
    | .link _ => return false
  | .size m block => do
    let s ← (MonadState.get : ShellM State)
    return m.admits ((sizeAt s.files v + block - 1) / block)
  | .newer written => do
    let s ← (MonadState.get : ShellM State)
    return ((s.files.fileAt? v.place).map File.written).any (written < ·)
  | .executable => do
    let s ← (MonadState.get : ShellM State)
    match s.files.fileAt? v.place with
    | some f => return f.mode &&& 0o111 ≠ 0
    | none => return true
  | .mode bits => do
    let s ← (MonadState.get : ShellM State)
    return ((s.files.fileAt? v.place).map File.mode).getD 0o755 = bits
  | .links m => return m.admits 1
  | .show ending => do
    (say (v.path ++ ending) : ShellM Unit)
    return true
  | .format text => do
    let s ← (MonadState.get : ShellM State)
    (say (visitText s.files v text.toList) : ShellM Unit)
    return true
  | .list => do
    (say (v.path ++ "\n") : ShellM Unit)
    return true
  | .delete => do
    if v.path = "." then return true
    let s ← (MonadState.get : ShellM State)
    let path := Raw.toText v.path
    let change : FileTree.ChangeM Unit := if v.entry = .directory then
        FileTree.removeDirectory s.cwd path
      else FileTree.unlink s.cwd path
    match ← (ShellM.change change : ShellM _) with
    | .ok () => return true
    | .error f => do
      (complain ("find: cannot delete " ++ quoted v.path ++ ": " ++ f.reason) : ShellM Unit)
      modify fun w => { w with status := 1 }
      return false
  | .run arguments => do
    let filled := arguments.map fun a => String.intercalate v.path (a.splitOn "\x7b\x7d")
    return (← (command filled : ShellM Nat)) = 0
  | .collect number arguments => do
    modify fun w =>
      let paths := ((w.collected.lookup number).map (·.2)).getD []
      { w with
        collected := (number, arguments, v.path :: paths) ::
          w.collected.filter (·.1 ≠ number) }
    return true
  | .prune => do
    modify fun w => { w with pruned := true }
    return true
  | .quit => do
    modify fun w => { w with done := true }
    return true
  | .not t => return !(← t.holds command v)
  | .both a b => do
    if ← a.holds command v then
      if (← get).done then return true
      b.holds command v
    else return false
  | .either a b => do
    if ← a.holds command v then return true
    b.holds command v
  | .inTurn a b => do
    let _ ← a.holds command v
    b.holds command v

/-- Walks through what lies at a path and below it. -/
def walk (command : List String → ShellM Nat) (limits : WalkLimits) (t : WalkTest)
    (start : String) : (fuel depth : Nat) → (path : String) → WalkM Unit
  | 0, _, _ => return
  | fuel + 1, depth, path => do
    if (← get).done then return
    let found : Except FileFault (Place × FileEntry) ← (entryAt limits.followed path : ShellM _)
    match found with
    | .error f => do
      (complain ("find: " ++ quoted path ++ ": " ++ f.reason) : ShellM Unit)
      modify fun w => { w with status := 1 }
    | .ok (place, entry) =>
      let v : Visit := ⟨path, depth, start, place, entry⟩
      let look : WalkM Unit := do
        modify fun w => { w with pruned := false }
        if limits.least ≤ depth then
          let _ ← t.holds command v
      let inner : WalkM Unit := do
        if entry = .directory && depth < limits.most then
          let s ← (MonadState.get : ShellM State)
          (s.files.names place).forM fun name =>
            walk command limits t start fuel (depth + 1) (below path (Raw.ofText name))
      if limits.depthFirst then
        inner
        if !(← get).done then look
      else
        look
        if !(← get).pruned then inner

/-- Looks for paths that meet a condition. -/
def find (command : List String → ShellM Nat) : Utility := fun args => do
  let args := args.dropWhile fun a => a = "-H" || a = "-L" || a = "-P"
  let isTest (a : String) : Bool :=
    (a.startsWith "-" && a ≠ "-") || a = "(" || a = "!" || a = ")" || a = ","
  let starts := args.takeWhile (!isTest ·)
  let rest := args.drop starts.length
  let read : WalkReadM WalkTest := do
    if rest.isEmpty then return .always true
    let t ← walkChoice (3 * rest.length + 3)
    match (← get).rest with
    | [] => return t
    | ")" :: _ => throw "invalid expression; you have too many ')'"
    | a :: _ => throw ("paths must precede expression: \x60" ++ a ++ "'")
  match ← (read.run { rest }).run with
  | .error text => fail "find" text 1
  | .ok (t, source) =>
    let t := if t.acts then t else .both t (.show "\n")
    let whole : WalkM Unit := do
      (if starts.isEmpty then ["."] else starts).forM fun start =>
        walk command source.limits t start (deepestWalk + 1) 0 start
      let w ← get
      w.collected.reverse.forM fun (_, arguments, paths) => do
        let filled := arguments.dropLast ++ paths.reverse
        let status ← (command filled : ShellM Nat)
        if status ≠ 0 then modify fun w => { w with status := 1 }
    let ((), w) ← whole.run {}
    return w.status

end EnvRegistry.Shell.Utility
