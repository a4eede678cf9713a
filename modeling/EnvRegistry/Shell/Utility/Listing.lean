import EnvRegistry.Shell.Condition
import EnvRegistry.Shell.Field
import EnvRegistry.Shell.Utility.Output

/-! # Utilities that show what lies where -/

namespace EnvRegistry.Shell.Utility

open ShellM

/-! ## Names on paths -/

/-- The last name on a path. -/
def lastName (path : String) : String :=
  if path.isEmpty then "" else (Path.names path).getLastD "/"

/-- A name below a path. -/
def below (path name : String) : String :=
  if path.endsWith "/" then path ++ name else path ++ "/" ++ name

/-- A name without an ending that it does not only consist of. -/
def withoutEnding (ending name : String) : String :=
  if ending.length < name.length && ending.toList.isSuffixOf name.toList then
    String.ofList (name.toList.take (name.length - ending.length))
  else name

/-- The last names on paths. -/
def basename : Utility := fun args =>
  withOptions "basename" 1
    { plain := "az", valued := "s", mixed := false, long := [("multiple", 'a'), ("suffix", 's')] }
    args fun o => do
    let endLine := if o.has 'z' then "\x00" else "\n"
    match o.operands with
    | [] => failUsage "basename" "missing operand" 1
    | paths =>
      if o.has 'a' || o.has 's' then
        say (String.join (paths.map fun p =>
          withoutEnding ((o.value? 's').getD "") (lastName p) ++ endLine))
        return 0
      match paths with
      | _ :: _ :: extra :: _ => failUsage "basename" ("extra operand " ++ quoted extra) 1
      | _ =>
        say (withoutEnding (paths.getD 1 "") (lastName (paths.headD "")) ++ endLine)
        return 0

/-- The path of the directory in which the last name on a path is. -/
def directoryOf (path : String) : String :=
  let cs := path.toList.reverse.dropWhile (· = '/')
  let above := (cs.dropWhile (· ≠ '/')).dropWhile (· = '/')
  if !above.isEmpty then String.ofList above.reverse
  else if path.startsWith "/" then "/"
  else "."

/-- The paths of the directories in which the last names on paths are. -/
def dirname : Utility := fun args =>
  withOptions "dirname" 1 { plain := "z" } args fun o => do
    if o.operands.isEmpty then return ← failUsage "dirname" "missing operand" 1
    say (ofLines (o.operands.map directoryOf))
    return 0

/-! ## Entries -/

/-- What lies at a path, through links or not. -/
def entryAt (followed : Bool) (path : String) : ShellM (Except FileFault (Place × FileEntry)) := do
  let s ← get
  let located := if followed then s.files.locate s.cwd (Raw.toText path)
    else s.files.locateName s.cwd (Raw.toText path)
  match located with
  | .error f => return .error f
  | .ok p =>
    match s.files.get? p with
    | some e => return .ok (p, e)
    | none => return .error .notFound

/-- The number of bytes that an entry has; that of a database cannot be told. -/
def entrySize (files : FileTree) : FileEntry → Nat
  | .directory => 4096
  | .link path => (Raw.ofText path).length
  | .file n =>
    match files.files.lookup n with
    | some f => (rawContent f.content).length
    | none => 0

/-- What is allowed to be done with an entry. -/
def entryMode (files : FileTree) : FileEntry → Nat
  | .directory => 0o755
  | .link _ => 0o777
  | .file n => ((files.files.lookup n).map File.mode).getD 0o644

/-- When an entry was written last. -/
def entryTime (files : FileTree) : FileEntry → Nat
  | .file n => ((files.files.lookup n).map File.written).getD 0
  | _ => 0

/-- The number of names of an entry. -/
def entryNames (files : FileTree) : FileEntry → Nat
  | .file n => (files.entries.filter (·.2 = .file n)).length
  | .directory => 2
  | .link _ => 1

/-- What is allowed to be done, in letters. -/
def modeText (mode : Nat) : String :=
  let bit (n : Nat) (c : Char) : Char := if mode.testBit n then c else '-'
  String.ofList [bit 8 'r', bit 7 'w', bit 6 'x', bit 5 'r', bit 4 'w', bit 3 'x', bit 2 'r',
    bit 1 'w', bit 0 'x']

/-- The letter for the kind of an entry. -/
def kindLetter : FileEntry → Char
  | .directory => 'd'
  | .link _ => 'l'
  | .file _ => '-'

/-- A name with a sign for its kind. -/
def decorated (o : Options) (files : FileTree) (name : String) (e : FileEntry) : String :=
  let sign := match e with
    | .directory => if o.has 'F' || o.has 'p' then "/" else ""
    | .link _ => if o.has 'F' && !o.has 'l' then "@" else ""
    | .file _ => if o.has 'F' && entryMode files e &&& 0o111 ≠ 0 then "*" else ""
  name ++ sign

/-- A day on which all files seem to have been written. -/
def someDay : String := "Jan  1 00:00"

/-- Names with what lies there, in the order that is asked for. -/
def ordered (o : Options) (files : FileTree) (names : List (String × FileEntry)) :
    List (String × FileEntry) :=
  let byName := names.mergeSort fun a b => isNotAfter a.1 b.1
  let sorted := match o.last? "StUX" with
    | some 't' => byName.mergeSort fun a b => entryTime files a.2 ≥ entryTime files b.2
    | some 'S' => byName.mergeSort fun a b => entrySize files a.2 ≥ entrySize files b.2
    | _ => byName
  if o.has 'r' then sorted.reverse else sorted

/-- The lines for names. -/
def listed (o : Options) (files : FileTree) (names : List (String × FileEntry)) : String :=
  if o.has 'l' then
    let width := (names.map fun n => (toString (entrySize files n.2)).length).foldl max 0
    ofLines (names.map fun (name, e) =>
      let target := match e with
        | .link path => " -> " ++ Raw.ofText path
        | _ => ""
      String.singleton (kindLetter e) ++ modeText (entryMode files e) ++ " " ++
        toString (entryNames files e) ++ " root root " ++
        padLeft width (toString (entrySize files e)) ++ " " ++ someDay ++ " " ++
        decorated o files name e ++ target)
  else
    let shownNames := names.map fun (name, e) =>
      let title := decorated o files name e
      if o.has 'Q' then "\"" ++ title ++ "\"" else title
    if o.has 'm' then
      if names.isEmpty then "" else String.intercalate ", " shownNames ++ "\n"
    else if o.has 'x' || o.has 'C' then
      if names.isEmpty then "" else String.intercalate "  " shownNames ++ "\n"
    else ofLines shownNames

/-- The names in a directory that are shown. -/
def namesIn (o : Options) (files : FileTree) (p : Place) : List (String × FileEntry) :=
  let names := (files.names p).filterMap fun n =>
    (files.get? (p ++ [n])).map fun e => (Raw.ofText n, e)
  let isHidden (n : String × FileEntry) : Bool := n.1.toList.head? = some '.'
  let names := if o.has 'a' || o.has 'A' then names else names.filter (!isHidden ·)
  let selves := if o.has 'a' then [(".", FileEntry.directory), ("..", .directory)] else []
  ordered o files (selves ++ names)

/-- The lines for a directory. -/
def listedDirectory (o : Options) (files : FileTree) (p : Place) : String :=
  (if o.has 'l' then "total 0\n" else "") ++ listed o files (namesIn o files p)

/-- The lines for a directory and those below it, each after a title. -/
def listedDeep (o : Options) (files : FileTree) : (fuel : Nat) → (title : String) → Place →
    List String
  | 0, _, _ => []
  | fuel + 1, title, p =>
    let own := title ++ ":\n" ++ listedDirectory o files p
    let inner := (namesIn o files p).filter fun (n, e) => e = .directory && n ≠ "." && n ≠ ".."
    own :: inner.flatMap fun (n, _) =>
      listedDeep o files fuel (below title n) (p ++ [Raw.toText n])

/-- The names of files and of what directories hold. -/
def ls : Utility := fun args =>
  withOptions "ls" 2
    { plain := "aAbBcCdfFgGhHiklLmnNopqQrRsStuUvxX1"
      long := [("all", 'a'), ("almost-all", 'A'), ("directory", 'd'), ("recursive", 'R'),
        ("reverse", 'r'), ("classify", 'F'), ("size", 's'), ("quote-name", 'Q')] }
    (args.filter fun a => !a.startsWith "--color") fun o => do
    let paths := if o.operands.isEmpty then ["."] else o.operands
    let found ← paths.mapM fun path => do
      let deref := !(o.has 'd' || o.has 'l' || o.has 'F')
      match ← entryAt true path with
      | .ok r => if deref then return (path, some r) else
        match ← entryAt false path with
        | .ok r => return (path, some r)
        | .error _ => return (path, some r)
      | .error f =>
        match ← entryAt false path with
        | .ok r => return (path, some r)
        | .error _ =>
          if (device? path).isSome || (Program.at? path).isSome then
            return (path, some ([], .file 0))
          complain ("ls: cannot access " ++ quoted path ++ ": " ++ f.reason)
          return (path, none)
    let files := (← get).files
    let there := found.filterMap fun (path, r) => r.map fun (p, e) => (path, p, e)
    let isOpened (e : FileEntry) : Bool := e = .directory && !o.has 'd'
    let (directories, others) := there.partition fun t => isOpened t.2.2
    let sortedPaths (ts : List (String × Place × FileEntry)) : List (String × Place × FileEntry) :=
      let names := ordered o files (ts.map fun t => (t.1, t.2.2))
      names.filterMap fun n => ts.find? fun t => t.1 = n.1
    let fileText := listed o files ((sortedPaths others).map fun t => (t.1, t.2.2))
    let blocks := (sortedPaths directories).flatMap fun (path, p, _) =>
      if o.has 'R' then listedDeep o files 100 path p
      else
        let title := if 1 < paths.length then path ++ ":\n" else ""
        [title ++ listedDirectory o files p]
    say (String.intercalate "\n" ((if fileText.isEmpty then [] else [fileText]) ++ blocks))
    return if found.any (·.2.isNone) then 2 else 0

/-! ## Links and whole paths -/

/-- The path of a place. -/
def placePath (p : Place) : String := "/" ++ String.intercalate "/" (p.map Raw.ofText)

/-- The path without links to where a path leads; only the last name may be missing. -/
def wholePath? (path : String) : ShellM (Except FileFault String) := do
  match ← locate path with
  | .error f => return .error f
  | .ok p => return .ok (placePath p)

/-- Where links lead. -/
def readlink : Utility := fun args =>
  withOptions "readlink" 1
    { plain := "femnqsvz", long := [("canonicalize", 'f'), ("no-newline", 'n')] } args fun o => do
    if o.operands.isEmpty then return ← failUsage "readlink" "missing operand" 1
    forEach (fun path => do
      let found ← if o.has 'f' || o.has 'e' || o.has 'm' then do
          match ← wholePath? path with
          | .ok whole =>
            if o.has 'e' && (← find? path).isNone then pure none else pure (some whole)
          | .error _ => pure none
        else do
          match ← entryAt false path with
          | .ok (_, .link target) => pure (some (Raw.ofText target))
          | _ => pure none
      match found with
      | some text =>
        say (text ++ (if o.has 'n' then "" else "\n"))
        return 0
      | none => return 1) o.operands

/-- The whole paths to where paths lead. -/
def realpath : Utility := fun args =>
  withOptions "realpath" 1 { plain := "eLmPqsz" } args fun o => do
    if o.operands.isEmpty then return ← failUsage "realpath" "missing operand" 1
    forEach (fun path => do
      match ← wholePath? path with
      | .ok whole =>
        if o.has 'e' && (← find? path).isNone then failFor "realpath" path .notFound 1
        else
          say (whole ++ "\n")
          return 0
      | .error f => failFor "realpath" path f 1) o.operands

/-- What is known of files, in a form that is given. -/
def stat : Utility := fun args =>
  withOptions "stat" 1 { plain := "fLt", valued := "c\x01", long := [("format", 'c'),
      ("printf", '\x01')] } args fun o => do
    if o.operands.isEmpty then return ← failUsage "stat" "missing operand" 1
    forEach (fun path => do
      match ← entryAt (o.has 'L') path with
      | .error f => fail "stat" ("cannot statx " ++ quoted path ++ ": " ++ f.reason) 1
      | .ok (_, e) =>
        let files := (← get).files
        let directive (c : Char) : String :=
          match c with
          | 'n' => path
          | 's' => toString (entrySize files e)
          | 'a' => String.ofList (Nat.toDigits 8 (entryMode files e))
          | 'A' => String.singleton (kindLetter e) ++ modeText (entryMode files e)
          | 'h' => toString (entryNames files e)
          | 'u' | 'g' => "0"
          | 'U' | 'G' => "root"
          | 'N' => match e with
            | .link target => quoted path ++ " -> " ++ quoted (Raw.ofText target)
            | _ => quoted path
          | 'F' => match e with
            | .directory => "directory"
            | .link _ => "symbolic link"
            | .file _ => if entrySize files e = 0 then "regular empty file" else "regular file"
          | '%' => "%"
          | _ => "0"
        let rec filled : List Char → String
          | '%' :: c :: rest => directive c ++ filled rest
          | c :: rest => String.singleton c ++ filled rest
          | [] => ""
        let format := (o.value? 'c').or (o.value? '\x01')
        match format with
        | some text =>
          let body := filled text.toList
          say (if o.has 'c' then body ++ "\n" else (Format.interpreted body).1)
        | none => say ("  File: " ++ path ++ "\n  Size: " ++ directive 's' ++ "\n")
        return 0) o.operands

end EnvRegistry.Shell.Utility
