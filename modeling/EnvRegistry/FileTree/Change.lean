import EnvRegistry.FileTree

/-! # Changing files and directories

    Directories are made, files are written, and names are given, moved and taken
    away.  A change that fails half-way keeps what it has done so far. -/

namespace EnvRegistry.FileTree

/-- A change of the files: it may fail. -/
abbrev ChangeM := ExceptT FileFault (StateM FileTree)

/-- Looks something up. -/
def query {α : Type} (f : FileTree → Except FileFault α) : ChangeM α := fun t => (f t, t)

/-! ## The last step of a path -/

/-- What the last step of a path is. -/
inductive LastStep where
  | name (n : String)
  /-- The directory itself. -/
  | here
  /-- The directory above. -/
  | above
  /-- There is no step. -/
  | top
  deriving DecidableEq, Repr

/-- The last step of a path, and the directory it is taken in. -/
structure Target where
  directory : Place
  last : LastStep
  /-- Whether a slash follows. -/
  slash : Bool

/-- The place that a step leads to. -/
def Target.place (g : Target) : Place :=
  match g.last with
  | .name n => g.directory ++ [n]
  | .here => g.directory
  | .above => g.directory.dropLast
  | .top => []

/-- The last step of a path as seen from the place `cwd`. -/
def target (t : FileTree) (cwd : Place) (path : String) : Except FileFault Target := do
  checkPath path
  let names := Path.names path
  let slash := path.toList.getLast? = some '/'
  match names.getLast? with
  | none => return ⟨[], .top, slash⟩
  | some last =>
    let p ← t.follow true mostLinks (startOf cwd path) (names.dropLast ++ ["."])
    if last = "." then return ⟨p, .here, slash⟩
    if last = ".." then return ⟨p, .above, slash⟩
    if longestName < last.utf8ByteSize then throw .nameTooLong
    return ⟨p, .name last, slash⟩

/-! ## Directories -/

/-- Makes a directory. -/
def makeDirectory (cwd : Place) (path : String) : ChangeM Unit := do
  let g ← query (·.target cwd path)
  match g.last with
  | .name _ =>
    if ((← get).get? g.place).isSome then throw .exists
    modify (·.set g.place .directory)
  | _ => throw .exists

/-- Makes the last of some directories, each of which lies in the one that follows in the list, and
before that those of the others that are missing. -/
def makeChain (cwd : Place) : List String → ChangeM Unit
  | [] => return
  | path :: above => do
    if path.isEmpty || (Path.parent? path).isNone then return
    let make : ChangeM Unit := fun t =>
      match makeDirectory cwd path t with
      | (.error .exists, t') => (if t.isDirectoryAt cwd path then .ok () else .error .exists, t')
      | r => r
    fun t =>
      match make t with
      | (.error .notFound, _) => (do
        makeChain cwd above
        make) t
      | r => r

/-- Makes the directory at a path and those above it, as far as they are missing. -/
def makeDirectories (cwd : Place) (path : String) : ChangeM Unit :=
  makeChain cwd (Path.ancestors path)

/-! ## Files -/

/-- Opens the file at a path for writing, which is made if it is missing.  Gives its number. -/
def openFile (cwd : Place) (path : String) : ChangeM Nat := do
  query fun _ => checkPath path
  if path.toList.getLast? = some '/' then throw .isADirectory
  let p ← query (·.locate cwd path)
  let t ← get
  match t.get? p with
  | some (.file n) => return n
  | some .directory | some (.link _) => throw .isADirectory
  | none =>
    if !t.isDirectory p.dropLast then throw .notFound
    modify (·.addFile p { content := .text "" })
    return t.next

/-- Refuses to let the last step of a path lead to something else: a directory gives way only to a
directory and only if it is empty, and a file only to a file. -/
def checkReplace (t : FileTree) (g : Target) (byDirectory : Bool) : Except FileFault Unit := do
  match g.last with
  | .name _ =>
    if g.slash && !byDirectory then throw .notADirectory
    match t.get? g.place with
    | none => return
    | some .directory =>
      if !byDirectory then throw .isADirectory
      if !(t.names g.place).isEmpty then throw .notEmpty
    | some _ => if byDirectory then throw .notADirectory
  | _ => throw .busy

/-- Writes a new file, and lets a path lead to it in place of an earlier file once it is complete.
Makes the directories above it. -/
def replaceFile (cwd : Place) (path : String) (c : FileContent) : ChangeM Unit := do
  if let some parent := Path.parent? path then makeDirectories cwd parent
  let g ← query (·.target cwd path)
  query (·.checkReplace g false)
  modify (·.addFile g.place { content := c })

/-- Writes a file at a path unless something lies there.  Says whether it was written. -/
def writeMissing (cwd : Place) (path : String) (c : FileContent) : ChangeM Bool := do
  if (← get).exists? cwd path then return false
  replaceFile cwd path c
  return true

/-! ## Names -/

/-- The place below `new` that lies there like `p` lies below `old`. -/
def transplant (old new p : Place) : Place :=
  if old.isPrefixOf p then new ++ p.drop old.length else p

/-- Moves what has a path as its name to another path. -/
def rename (cwd : Place) (oldPath newPath : String) : ChangeM Unit := do
  let old ← query (·.target cwd oldPath)
  let new ← query (·.target cwd newPath)
  let t ← get
  match old.last, t.get? old.place with
  | .name _, none => throw .notFound
  | .name _, some e =>
    let isDirectory := e = .directory
    if old.slash && !isDirectory then throw .notADirectory
    if isDirectory && old.place.isPrefixOf new.place && old.place ≠ new.place then throw .invalid
    if old.place = new.place || (!isDirectory && t.get? new.place = some e) then return
    query (·.checkReplace new isDirectory)
    modify fun t =>
      let others := t.entries.filter fun e => !new.place.isPrefixOf e.1
      { t with entries := others.map fun e => (transplant old.place new.place e.1, e.2) }
  | _, _ => throw .busy

/-- Takes a name away that leads to no directory. -/
def unlink (cwd : Place) (path : String) : ChangeM Unit := do
  let g ← query (·.target cwd path)
  match g.last, (← get).get? g.place with
  | .name _, none => throw .notFound
  | .name _, some .directory => throw .isADirectory
  | .name _, some _ =>
    if g.slash then throw .notADirectory
    modify (·.remove g.place)
  | _, _ => throw .isADirectory

/-- Takes an empty directory away. -/
def removeDirectory (cwd : Place) (path : String) : ChangeM Unit := do
  let g ← query (·.target cwd path)
  match g.last, (← get).get? g.place with
  | .name _, none => throw .notFound
  | .name _, some .directory =>
    if !((← get).names g.place).isEmpty then throw .notEmpty
    modify (·.remove g.place)
  | .name _, some _ => throw .notADirectory
  | .here, _ => throw .invalid
  | .above, _ => throw .notEmpty
  | .top, _ => throw .busy

/-- Gives a path to what another path leads to, or to a link. -/
def addName (cwd : Place) (path : String) (e : FileEntry) : ChangeM Unit := do
  let g ← query (·.target cwd path)
  match g.last with
  | .name _ =>
    if ((← get).get? g.place).isSome then throw .exists
    if g.slash then throw .notFound
    modify (·.set g.place e)
  | _ => throw .exists

end EnvRegistry.FileTree
