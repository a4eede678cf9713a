import EnvRegistry.Shell.Utility.Listing

/-! # Utilities that make, copy, move and remove files -/

namespace EnvRegistry.Shell.Utility

open ShellM

/-- Changes the files; `task` says what else cannot be done. -/
def attempt (name task path : String) (m : FileTree.ChangeM Unit) : ShellM Nat := do
  match ← change m with
  | .ok () => return 0
  | .error f => fail name (task ++ " " ++ quoted path ++ ": " ++ f.reason) 1

/-! ## Making -/

/-- Makes files that are missing. -/
def touch : Utility := fun args =>
  withOptions "touch" 1
    { plain := "achmf", valued := "drt", long := [("no-create", 'c'), ("date", 'd'),
      ("reference", 'r')] } args fun o => do
    if o.operands.isEmpty then return ← failUsage "touch" "missing file operand" 1
    forEach (fun path => do
      match ← find? path with
      | some (.file n) =>
        stamp n
        return 0
      | some _ => return 0
      | none =>
        if o.has 'c' then return 0
        if path.endsWith "/" then
          return ← fail "touch" ("setting times of " ++ quoted path ++
            ": No such file or directory") 1
        match ← openPath path .append with
        | .ok _ => return 0
        | .error f => fail "touch" ("cannot touch " ++ quoted path ++ ": " ++ f.reason) 1)
      o.operands

/-- Makes a directory and says so if asked to. -/
def makeOne (verbose : Bool) (path : String) : ShellM Nat := do
  let cwd := (← get).cwd
  let status ← attempt "mkdir" "cannot create directory" path
    (FileTree.makeDirectory cwd (Raw.toText path))
  if status = 0 && verbose then say ("mkdir: created directory " ++ quoted path ++ "\n")
  return status

/-- The paths that lead to a path, from the shortest on. -/
def pathSteps (path : String) : List String :=
  let start := if path.startsWith "/" then "/" else ""
  let names := Path.names path
  (List.range names.length).map fun i =>
    start ++ String.intercalate "/" (names.take (i + 1))

/-- Makes directories. -/
def mkdir : Utility := fun args =>
  withOptions "mkdir" 1
    { plain := "pv", valued := "mZ", long := [("parents", 'p'), ("verbose", 'v'), ("mode", 'm')] }
    args fun o => do
    if o.operands.isEmpty then return ← failUsage "mkdir" "missing operand" 1
    forEach (fun path => do
      if !o.has 'p' then return ← makeOne (o.has 'v') path
      let rec go : List String → ShellM Nat
        | [] => return 0
        | step :: rest => do
          if (← find? step) = some .directory then go rest
          else
            -- A file in the way is no directory, or is there already.
            let isLast := rest.isEmpty
            if (← find? step).isSome && !isLast then
              fail "mkdir" ("cannot create directory " ++ quoted step ++ ": Not a directory") 1
            else
              let status ← makeOne (o.has 'v') step
              if status = 0 then go rest else return status
      go (pathSteps path)) o.operands

/-- Makes names for files or links. -/
def ln : Utility := fun args =>
  withOptions "ln" 1
    { plain := "bfinsrvTLP", valued := "tS"
      long := [("symbolic", 's'), ("force", 'f'), ("no-dereference", 'n'), ("verbose", 'v'),
        ("relative", 'r'), ("target-directory", 't'), ("no-target-directory", 'T')] }
    args fun o => do
    let cwd := (← get).cwd
    let one (source target : String) : ShellM Nat := do
      let kind := if o.has 's' then "symbolic" else "hard"
      let what := "failed to create " ++ kind ++ " link " ++ quoted target
      if o.has 'f' then
        let _ ← change (FileTree.unlink cwd (Raw.toText target))
      let made ← if o.has 's' then
          change (FileTree.addName cwd (Raw.toText target) (.link (Raw.toText source)))
        else do
          match ← entryAt false source with
          | .error f =>
            return ← fail "ln" ("failed to access " ++ quoted source ++ ": " ++ f.reason) 1
          | .ok (_, .directory) =>
            return ← fail "ln" (shown source ++ ": hard link not allowed for directory") 1
          | .ok (_, e) => change (FileTree.addName cwd (Raw.toText target) e)
      match made with
      | .ok () =>
        if o.has 'v' then
          say (quoted target ++ (if o.has 's' then " -> " else " => ") ++ quoted source ++ "\n")
        return 0
      | .error f =>
        let between := if !o.has 's' && f ≠ .exists then " => " ++ quoted source else ""
        fail "ln" (what ++ between ++ ": " ++ f.reason) 1
    let into (directory source : String) : ShellM Nat :=
      one source (below directory (lastName source))
    let isDirectory (path : String) : ShellM Bool := do
      if o.has 'T' then return false
      if o.has 'n' then
        match ← entryAt false path with
        | .ok (_, .directory) => return true
        | _ => return false
      return (← find? path) = some .directory
    match o.value? 't', o.operands with
    | _, [] => failUsage "ln" "missing file operand" 1
    | some directory, sources => forEach (into directory) sources
    | none, [source] => into "." source
    | none, [source, target] =>
      if ← isDirectory target then into target source else one source target
    | none, operands =>
      let target := operands.getLastD ""
      if ← isDirectory target then forEach (into target) operands.dropLast
      else fail "ln" ("target " ++ quoted target ++ " is not a directory") 1

/-! ## Removing -/

/-- The paths below a path, each after those below it. -/
def pathsBelow (files : FileTree) : (fuel : Nat) → String → Place → List String
  | 0, path, _ => [path]
  | fuel + 1, path, p =>
    if files.get? p = some .directory then
      ((files.names p).flatMap fun n =>
        pathsBelow files fuel (below path (Raw.ofText n)) (p ++ [n])) ++ [path]
    else [path]

/-- Takes files away. -/
def rm : Utility := fun args =>
  withOptions "rm" 1
    { plain := "dfiIrRv"
      long := [("recursive", 'r'), ("force", 'f'), ("verbose", 'v'), ("dir", 'd'),
        ("interactive", 'i'), ("no-preserve-root", 'I')] } args fun o => do
    let force := o.has 'f'
    let recursive := o.has 'r' || o.has 'R'
    if o.operands.isEmpty && !force then return ← failUsage "rm" "missing operand" 1
    let cwd := (← get).cwd
    forEach (fun path => do
      let refused (f : FileFault) : ShellM Nat :=
        fail "rm" ("cannot remove " ++ quoted path ++ ": " ++ f.reason) 1
      let removed (kind path : String) : ShellM Unit :=
        if o.has 'v' then say ("removed " ++ kind ++ quoted path ++ "\n") else pure ()
      match ← entryAt false path with
      | .error f => if force && (f = .notFound || f = .notADirectory) then return 0 else refused f
      | .ok (p, .directory) =>
        let last := lastName path
        if recursive && (last = "." || last = "..") then
          fail "rm" ("refusing to remove '.' or '..' directory: skipping " ++ quoted path) 1
        else if recursive && p.isEmpty then
          complain "rm: it is dangerous to operate recursively on '/'"
          fail "rm" "use --no-preserve-root to override this failsafe" 1
        else if recursive then
          let files := (← get).files
          (pathsBelow files 100 path p).forM fun q => do
            let kind := if files.isDirectoryAt cwd (Raw.toText q) then "directory " else ""
            removed kind q
          modify fun s => { s with files := s.files.remove p }
          return 0
        else if o.has 'd' then
          match ← change (FileTree.removeDirectory cwd (Raw.toText path)) with
          | .ok () =>
            removed "directory " path
            return 0
          | .error f => refused f
        else refused .isADirectory
      | .ok _ =>
        match ← change (FileTree.unlink cwd (Raw.toText path)) with
        | .ok () =>
          removed "" path
          return 0
        | .error f => refused f) o.operands

/-- Takes empty directories away. -/
def rmdir : Utility := fun args =>
  withOptions "rmdir" 1
    { plain := "pv\x01", long := [("parents", 'p'), ("verbose", 'v'),
      ("ignore-fail-on-non-empty", '\x01')] } args fun o => do
    if o.operands.isEmpty then return ← failUsage "rmdir" "missing operand" 1
    let cwd := (← get).cwd
    let one (path : String) : ShellM Nat := do
      if o.has 'v' then say ("rmdir: removing directory, " ++ quoted path ++ "\n")
      match ← change (FileTree.removeDirectory cwd (Raw.toText path)) with
      | .ok () => return 0
      | .error f =>
        if f = .notEmpty && o.has '\x01' then return 0
        fail "rmdir" ("failed to remove " ++ quoted path ++ ": " ++ f.reason) 1
    forEach (fun path =>
      if o.has 'p' then
        let rec go : List String → ShellM Nat
          | [] => return 0
          | p :: rest => do
            let status ← one p
            if status = 0 then go rest else return status
        go (pathSteps path).reverse
      else one path) o.operands

/-- Takes a single name away. -/
def unlink : Utility := fun args => do
  match args with
  | [] => failUsage "unlink" "missing operand" 1
  | [path] =>
    attempt "unlink" "cannot unlink" path (FileTree.unlink (← get).cwd (Raw.toText path))
  | _ :: extra :: _ => failUsage "unlink" ("extra operand " ++ quoted extra) 1

/-! ## Copying -/

/-- How something is copied. -/
structure Copying where
  recursive : Bool
  /-- Whether links are copied as links. -/
  keepsLinks : Bool
  /-- Whether what is there already stays. -/
  sparing : Bool
  verbose : Bool
  /-- Whether all that can be kept is kept. -/
  keepsMode : Bool

/-- Copies what lies at a path to another path. -/
def copyTo (how : Copying) : (fuel : Nat) → (source target : String) → ShellM Nat
  | 0, _, _ => return 1
  | fuel + 1, source, target => do
    let say? : ShellM Unit :=
      if how.verbose then say (quoted source ++ " -> " ++ quoted target ++ "\n") else pure ()
    let there := (← entryAt true target).toOption
    match ← entryAt (!how.keepsLinks) source with
    | .error f => fail "cp" ("cannot stat " ++ quoted source ++ ": " ++ f.reason) 1
    | .ok (p, .directory) =>
      if !how.recursive then
        return ← fail "cp" ("-r not specified; omitting directory " ++ quoted source) 1
      match there with
      | some (_, .file _) | some (_, .link _) =>
        fail "cp" ("cannot overwrite non-directory " ++ quoted target ++ " with directory " ++
          quoted source) 1
      | _ =>
        let names := (← get).files.names p
        let cwd := (← get).cwd
        if there.isNone then
          match ← change (FileTree.makeDirectory cwd (Raw.toText target)) with
          | .error f =>
            return ← fail "cp" ("cannot create directory " ++ quoted target ++ ": " ++ f.reason) 1
          | .ok () => say?
        let copied := (← entryAt true target).toOption.map (·.1)
        let status ← forEach (fun n => do
          if copied = some (p ++ [n]) then return 0
          copyTo how fuel (below source (Raw.ofText n)) (below target (Raw.ofText n))) names
        match copied with
        | some q =>
          if p.isPrefixOf q && p ≠ q then
            fail "cp" ("cannot copy a directory, " ++ quoted source ++ ", into itself, " ++
              quoted target) 1
          else return status
        | none => return status
    | .ok (p, e) =>
      match there with
      | some (_, .directory) =>
        fail "cp" ("cannot overwrite directory " ++ quoted target ++ " with non-directory") 1
      | _ =>
        if there.any fun t => t.1 = p || (t.2 = e && !(e matches .link _)) then
          return ← fail "cp" (quoted source ++ " and " ++ quoted target ++ " are the same file") 1
        if there.isSome && how.sparing then return 0
        let cwd := (← get).cwd
        let refused (f : FileFault) : ShellM Nat :=
          fail "cp" ("cannot create regular file " ++ quoted target ++ ": " ++ f.reason) 1
        match e with
        | .link path =>
          let _ ← change (FileTree.unlink cwd (Raw.toText target))
          match ← change (FileTree.addName cwd (Raw.toText target) (.link path)) with
          | .ok () =>
            say?
            return 0
          | .error f =>
            fail "cp" ("cannot create symbolic link " ++ quoted target ++ ": " ++ f.reason) 1
        | _ =>
          let s ← get
          let file := (s.files.fileAt? p).getD { content := .text "" }
          if target.endsWith "/" then refused .notADirectory
          else
            match ← change (FileTree.openFile cwd (Raw.toText target)) with
            | .error f => refused f
            | .ok n =>
              modify fun s =>
                let old := (s.files.files.lookup n).getD file
                let mode := if there.isNone || how.keepsMode then file.mode else old.mode
                { s with files := s.files.setFile n { old with content := file.content, mode } }
              stamp n
              say?
              return 0

/-- The target of each source: a path, or the paths of that name in a directory. -/
def withTargets (name : String) (o : Options) (one : String → String → ShellM Nat) :
    ShellM Nat := do
  let into (directory source : String) : ShellM Nat :=
    one source (below directory (lastName source))
  match o.value? 't', o.operands with
  | _, [] => failUsage name "missing file operand" 1
  | some directory, sources =>
    match ← find? directory with
    | some .directory => forEach (into directory) sources
    | some _ => fail name ("target directory " ++ quoted directory ++ ": Not a directory") 1
    | none => fail name ("target directory " ++ quoted directory ++ ": No such file or directory") 1
  | none, [source] =>
    failUsage name ("missing destination file operand after " ++ quoted source) 1
  | none, [source, target] =>
    if !o.has 'T' && (← find? target) = some .directory then into target source
    else one source target
  | none, operands =>
    let target := operands.getLastD ""
    if o.has 'T' then failUsage name ("extra operand " ++ quoted target) 1
    else
      match ← find? target with
      | some .directory => forEach (into target) operands.dropLast
      | some _ => fail name ("target " ++ quoted target ++ ": Not a directory") 1
      | none => fail name ("target " ++ quoted target ++ ": No such file or directory") 1

/-- Puts copies of files elsewhere. -/
def cp : Utility := fun args =>
  withOptions "cp" 1
    { plain := "abdfHilLnpPrRsuvxT", valued := "tS\x01"
      long := [("archive", 'a'), ("recursive", 'r'), ("force", 'f'), ("no-clobber", 'n'),
        ("verbose", 'v'), ("update", 'u'), ("target-directory", 't'), ("interactive", 'i'),
        ("no-target-directory", 'T'), ("dereference", 'L'), ("no-dereference", 'P'),
        ("preserve", 'p')] }
    args fun o =>
    let recursive := o.has 'r' || o.has 'R' || o.has 'a'
    let how : Copying :=
      { recursive
        keepsLinks := (recursive || o.has 'P' || o.has 'd') && !o.has 'L'
        sparing := o.has 'n'
        verbose := o.has 'v'
        keepsMode := o.has 'p' || o.has 'a' }
    withTargets "cp" o (copyTo how 100)

/-- Moves files. -/
def mv : Utility := fun args =>
  withOptions "mv" 1
    { plain := "bfinuvTZ", valued := "tS"
      long := [("force", 'f'), ("no-clobber", 'n'), ("verbose", 'v'), ("update", 'u'),
        ("target-directory", 't'), ("interactive", 'i'), ("no-target-directory", 'T')] }
    args fun o =>
    withTargets "mv" o fun source target => do
      let cwd := (← get).cwd
      match ← entryAt false source with
      | .error f => fail "mv" ("cannot stat " ++ quoted source ++ ": " ++ f.reason) 1
      | .ok (p, e) =>
        let there := (← entryAt false target).toOption
        if there.any fun t => t.1 = p then
          return ← fail "mv" (quoted source ++ " and " ++ quoted target ++ " are the same file") 1
        if there.isSome && o.has 'n' then return 0
        -- A slash at the end of a new name does not matter for a directory.
        match ← change (FileTree.rename cwd (Raw.toText source) (Raw.toText target)) with
        | .ok () =>
          if o.has 'v' then say ("renamed " ++ quoted source ++ " -> " ++ quoted target ++ "\n")
          return 0
        | .error f =>
          let isDirectory := there.any fun t => t.2 = .directory
          fail "mv" (match f with
            | .invalid => "cannot move " ++ quoted source ++ " to a subdirectory of itself, " ++
                quoted target
            | .notEmpty => "cannot overwrite " ++ quoted target ++ ": Directory not empty"
            | .isADirectory => "cannot overwrite directory " ++ quoted target ++
                " with non-directory"
            | .notADirectory =>
              if there.isSome && !isDirectory && e = .directory then
                "cannot overwrite non-directory " ++ quoted target ++ " with directory " ++
                  quoted source
              else "cannot move " ++ quoted source ++ " to " ++ quoted target ++ ": " ++ f.reason
            | f => "cannot move " ++ quoted source ++ " to " ++ quoted target ++ ": " ++
                f.reason) 1

/-- Puts copies of files elsewhere, which are allowed to be run. -/
def install : Utility := fun args =>
  withOptions "install" 1
    { plain := "bcCdDpsvT", valued := "gmoSt"
      long := [("directory", 'd'), ("mode", 'm'), ("target-directory", 't'), ("verbose", 'v')] }
    args fun o => do
    if o.has 'd' then return ← mkdir ("-p" :: "--" :: o.operands)
    let mode := (Numeral.ofDigits 8 ((o.value? 'm').getD "755").toList)
    withTargets "install" o fun source target => do
      if o.has 'D' then
        let _ ← mkdir ["-p", "--", directoryOf target]
      match ← entryAt true source with
      | .error f => fail "install" ("cannot stat " ++ quoted source ++ ": " ++ f.reason) 1
      | .ok _ =>
        let status ← copyTo ⟨false, false, false, o.has 'v', false⟩ 2 source target
        if let .ok (_, .file n) ← entryAt true target then
          modify fun s => match s.files.files.lookup n with
            | some f => { s with files := s.files.setFile n { f with mode } }
            | none => s
        return status

/-! ## Changing -/

/-- What is allowed after a clause of a mode; `mask` takes away what new files are not allowed. -/
def clause? (mask : Nat) (mode : Nat) (s : String) : Option Nat :=
  let cs := s.toList
  let who := cs.takeWhile fun c => ['u', 'g', 'o', 'a'].contains c
  let bitsOf (c : Char) : Nat :=
    match c with
    | 'u' => 0o700
    | 'g' => 0o070
    | 'o' => 0o007
    | _ => 0o777
  let whom := if who.isEmpty then 0o777 - (0o777 &&& mask) else
    who.foldl (fun n c => n ||| bitsOf c) 0
  let rec go : (fuel : Nat) → Nat → List Char → Option Nat
    | 0, _, _ => none
    | _, mode, [] => some mode
    | fuel + 1, mode, o :: rest =>
      if !(['+', '-', '='].contains o) then none
      else
        let letters := rest.takeWhile fun c => !(['+', '-', '='].contains c)
        let after := rest.dropWhile fun c => !(['+', '-', '='].contains c)
        let bits := letters.foldl (fun (acc : Option Nat) c =>
          acc.bind fun n => match c with
            | 'r' => some (n ||| 0o444)
            | 'w' => some (n ||| 0o222)
            | 'x' => some (n ||| 0o111)
            | 'X' => some (if mode &&& 0o111 ≠ 0 then n ||| 0o111 else n)
            | 's' | 't' => some n
            | 'u' => some (n ||| (mode >>> 6 &&& 7) * 0o111)
            | 'g' => some (n ||| (mode >>> 3 &&& 7) * 0o111)
            | 'o' => some (n ||| (mode &&& 7) * 0o111)
            | _ => none) (some 0)
        match bits with
        | none => none
        | some bits =>
          let bits := bits &&& whom
          let mode := match o with
            | '+' => mode ||| bits
            | '-' => mode - (mode &&& bits)
            | _ => (mode - (mode &&& whom)) ||| bits
          go fuel mode after
  let actions := cs.drop who.length
  if actions.isEmpty then none else go (actions.length + 1) mode actions

/-- What is allowed after a mode has been set. -/
def newModeOf? (mask : Nat) (mode : Nat) (s : String) : Option Nat :=
  if !s.isEmpty && s.toList.all fun c => '0' ≤ c && c ≤ '7' then some (Numeral.ofDigits 8 s.toList)
  else (s.splitOn ",").foldl (fun acc c => acc.bind fun m => clause? mask m c) (some mode)

/-- Says what may be done with files. -/
def chmod : Utility := fun args => do
  let rules : OptionRules := { plain := "cfRv", long := [("recursive", 'R')] }
  -- A mode may start with a dash.
  let isMode (a : String) : Bool :=
    a.startsWith "-" && 1 < a.length && a.toList.tail.all fun c =>
      ['r', 'w', 'x', 'X', 's', 't', 'u', 'g', 'o', ',', '+', '-', '='].contains c
  let args := match args.findIdx? isMode with
    | some i => if (args.take i).all (·.startsWith "-") then args.take i ++ "--" :: args.drop i
        else args
    | none => args
  withOptions "chmod" 1 rules args fun o => do
    match o.operands with
    | [] => failUsage "chmod" "missing operand" 1
    | [mode] => failUsage "chmod" ("missing operand after " ++ quoted mode) 1
    | mode :: paths =>
      let mask := (← get).mask
      if (newModeOf? mask 0o644 mode).isNone then
        return ← failUsage "chmod" ("invalid mode: " ++ quoted mode) 1
      forEach (fun path => do
        match ← entryAt true path with
        | .error f => fail "chmod" ("cannot access " ++ quoted path ++ ": " ++ f.reason) 1
        | .ok (p, _) =>
          modify fun s =>
            let inside := s.files.entries.filter fun e =>
              e.1 = p || (o.has 'R' && p.isPrefixOf e.1)
            let files := inside.foldl (fun (files : FileTree) e =>
              match e.2 with
              | .file n => match files.files.lookup n with
                | some f =>
                  files.setFile n { f with mode := (newModeOf? mask f.mode mode).getD f.mode }
                | none => files
              | _ => files) s.files
            { s with files }
          return 0) paths

/-- Gives files a length. -/
def truncate : Utility := fun args =>
  withOptions "truncate" 1
    { plain := "co", valued := "rs", long := [("size", 's'), ("no-create", 'c')] } args fun o => do
    match o.value? 's' with
    | none => failUsage "truncate" "you must specify either '--size' or '--reference'" 1
    | some size =>
      if o.operands.isEmpty then return ← failUsage "truncate" "missing file operand" 1
      match amount? size with
      | none => fail "truncate" ("Invalid number: " ++ quoted size) 1
      | some (sign, n) =>
        forEach (fun path => do
          if o.has 'c' && (← find? path).isNone then return 0
          match ← openPath path .append with
          | .error f =>
            fail "truncate" ("cannot open " ++ quoted path ++ " for writing: " ++ f.reason) 1
          | .ok _ =>
            if let some (.file number) ← find? path then
              modify fun s =>
                let file := (s.files.files.lookup number).getD { content := .text "" }
                let cs := (rawContent file.content).toList
                let length := match sign with
                  | some '+' => cs.length + n
                  | some '-' => cs.length - n
                  | _ => n
                let fill := List.replicate (length - cs.length) '\x00'
                let content := contentOfRaw (String.ofList (cs.take length ++ fill))
                { s with files := s.files.setFile number { file with content } }
            return 0) o.operands

/-- Makes a file or directory with a name that is new. -/
def mktemp : Utility := fun args =>
  withOptions "mktemp" 1
    { plain := "dqtu", valued := "p\x01"
      long := [("directory", 'd'), ("dry-run", 'u'), ("tmpdir", 'p'), ("suffix", '\x01')] }
    args fun o => do
    let s ← get
    let temporary := (((s.bindings.lookup "TMPDIR").bind Variable.value).getD "/tmp")
    let (directory, template) := match o.operands, o.value? 'p' with
      | [], some p => (p, "tmp.XXXXXXXXXX")
      | [], none => (temporary, "tmp.XXXXXXXXXX")
      | t :: _, some p => (p, t)
      | t :: _, none => (if o.has 't' then temporary else "", t)
    let marks := (template.toList.reverse.takeWhile (· = 'X')).length
    if marks < 3 then
      return ← fail "mktemp" ("too few X's in template " ++ quoted template) 1
    modify fun s => { s with nextProcess := s.nextProcess + 1 }
    let digits := (toString (s.nextProcess * 7919 + 1000003)).toList
    let letters := digits.map fun d => Char.ofNat (d.toNat - '0'.toNat + 'b'.toNat)
    let fill := (List.replicate marks letters).flatten.take marks
    let name := String.ofList (template.toList.take (template.length - marks) ++ fill)
    let path := if directory.isEmpty then name else below directory name
    if !o.has 'u' then
      let made ← if o.has 'd' then change (FileTree.makeDirectory s.cwd (Raw.toText path)) else do
          match ← openPath path .append with
          | .ok _ => pure (.ok ())
          | .error f => pure (.error f)
      if let .error f := made then
        let kind := if o.has 'd' then "directory" else "file"
        let title := if directory.isEmpty then template else below directory template
        return ← fail "mktemp" ("failed to create " ++ kind ++ " via template " ++ quoted title ++
          ": " ++ f.reason) 1
    say (path ++ "\n")
    return 0

end EnvRegistry.Shell.Utility
