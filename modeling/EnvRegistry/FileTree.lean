import EnvRegistry.Database
import EnvRegistry.Path
import EnvRegistry.Text.Utf8

/-! # Files and directories

    A `FileTree` holds what lies under the top directory.  A place is the list of the
    names that lead to it from the top, and a name leads to a directory, to a file or
    on along the path of a link.  Files have numbers: several names may lead to the
    same file, and a file that is open stays the same when its names change.

    The text of a path becomes a place by going through the directories it names. -/

namespace EnvRegistry

/-- What a file holds. -/
inductive FileContent where
  | text (s : String)
  /-- Bytes that are not the bytes of a text. -/
  | binary (bytes : List UInt8)
  | database (db : Database)
  deriving Inhabited

namespace FileContent

/-- What a file with some bytes holds. -/
def ofBytes (bytes : List UInt8) : FileContent :=
  match Text.decode? bytes with
  | some s => .text s
  | none => .binary bytes

/-- The bytes of a file, unless it is a database. -/
def bytes? : FileContent → Option (List UInt8)
  | .text s => some (Text.encode s)
  | .binary b => some b
  | .database _ => none

end FileContent

/-- A file: what it holds, what is allowed to be done with it, and when it has been written last. -/
structure File where
  content : FileContent
  mode : Nat := 0o644
  written : Nat := 0
  deriving Inhabited

/-- What a name leads to. -/
inductive FileEntry where
  | directory
  /-- The file with a number. -/
  | file (number : Nat)
  /-- Whatever lies at a path. -/
  | link (path : String)
  deriving DecidableEq, Inhabited

/-- The names that lead to a place from the top. -/
abbrev Place := List String

/-- Files and directories. -/
structure FileTree where
  /-- What lies at each place other than the top. -/
  entries : List (Place × FileEntry) := []
  /-- The files by number. -/
  files : List (Nat × File) := []
  /-- The number of the next file. -/
  next : Nat := 0
  deriving Inhabited

namespace FileTree

/-! ## Entries -/

/-- What lies at a place. -/
def get? (t : FileTree) (p : Place) : Option FileEntry :=
  if p.isEmpty then some .directory else t.entries.lookup p

/-- The tree with something else at a place. -/
def set (t : FileTree) (p : Place) (e : FileEntry) : FileTree :=
  { t with entries := (p, e) :: t.entries.filter (·.1 ≠ p) }

/-- The tree without what lies at a place and below it. -/
def remove (t : FileTree) (p : Place) : FileTree :=
  { t with entries := t.entries.filter fun e => !p.isPrefixOf e.1 }

/-- Whether a directory lies at a place. -/
def isDirectory (t : FileTree) (p : Place) : Bool := t.get? p = some .directory

/-- Inserts a name into an ascending list of names. -/
def insertName (n : String) : List String → List String
  | [] => [n]
  | m :: rest => if n < m then n :: m :: rest else m :: insertName n rest

/-- The names in a directory, ascending. -/
def names (t : FileTree) (p : Place) : List String :=
  t.entries.foldl (fun acc e =>
    match e.1.getLast? with
    | some n => if e.1.dropLast = p then insertName n acc else acc
    | none => acc) []

/-! ## Files -/

/-- The file at a place, unless something else lies there. -/
def fileAt? (t : FileTree) (p : Place) : Option File :=
  match t.get? p with
  | some (.file n) => t.files.lookup n
  | _ => none

/-- The tree with another file under a number. -/
def setFile (t : FileTree) (n : Nat) (f : File) : FileTree :=
  { t with files := (n, f) :: t.files.filter (·.1 ≠ n) }

/-- The tree with other content in the file with a number, if there is one. -/
def fill (t : FileTree) (n : Nat) (c : FileContent) : FileTree :=
  match t.files.lookup n with
  | some f => t.setFile n { f with content := c }
  | none => t

/-- The tree with a new file at a place. -/
def addFile (t : FileTree) (p : Place) (f : File) : FileTree :=
  ({ t with next := t.next + 1 }.setFile t.next f).set p (.file t.next)

/-! ## Paths -/

/-- The greatest number of bytes of a name. -/
def longestName : Nat := 255

/-- The greatest number of bytes of a path. -/
def longestPath : Nat := 4095

/-- How many links may be followed on the way to a place. -/
def mostLinks : Nat := 40

/-- The steps of a path; a slash at the end stands for a step to the directory itself. -/
def steps (path : String) : List String :=
  let names := Path.names path
  if path.toList.getLast? = some '/' then names ++ ["."] else names

/-- Where a path starts from, as seen from the place `cwd`. -/
def startOf (cwd : Place) (path : String) : Place := if Path.isAbsolute path then [] else cwd

/-- Refuses a text that can be no path. -/
def checkPath (path : String) : Except FileFault Unit :=
  if path.contains '\x00' then .error .nullByte
  else if path.isEmpty then .error .notFound
  else if longestPath < path.utf8ByteSize then .error .nameTooLong
  else .ok ()

/-- The place that some steps lead to.  Whatever a step is taken from has to be a directory; nothing
has to lie at the place itself.  Links on the way are followed, and one at the end only if
`throughLast` says so. -/
def follow (t : FileTree) (throughLast : Bool) :
    (links : Nat) → Place → List String → Except FileFault Place
  | _, p, [] => .ok p
  | links, p, step :: rest =>
    match t.get? p with
    | none => .error .notFound
    | some .directory =>
      if step = "." then follow t throughLast links p rest
      else if step = ".." then follow t throughLast links p.dropLast rest
      else if longestName < step.utf8ByteSize then .error .nameTooLong
      else
        match t.get? (p ++ [step]) with
        | some (.link path) =>
          if rest.isEmpty && !throughLast then .ok (p ++ [step])
          else
            match links with
            | 0 => .error .tooManyLinks
            | links + 1 => follow t throughLast links (startOf p path) (steps path ++ rest)
        | _ => follow t throughLast links (p ++ [step]) rest
    | some _ => .error .notADirectory
  termination_by links _ steps => (links, steps.length)

/-- The place that a path leads to from the place `cwd`. -/
def locate (t : FileTree) (cwd : Place) (path : String) : Except FileFault Place := do
  checkPath path
  t.follow true mostLinks (startOf cwd path) (steps path)

/-- The place of what has a path as its name, be it a link. -/
def locateName (t : FileTree) (cwd : Place) (path : String) : Except FileFault Place := do
  checkPath path
  t.follow false mostLinks (startOf cwd path) (steps path)

/-- What lies at a path. -/
def find? (t : FileTree) (cwd : Place) (path : String) : Option FileEntry :=
  match t.locate cwd path with
  | .ok p => t.get? p
  | .error _ => none

/-- Whether something lies at a path. -/
def exists? (t : FileTree) (cwd : Place) (path : String) : Bool := (t.find? cwd path).isSome

/-- Whether a directory lies at a path. -/
def isDirectoryAt (t : FileTree) (cwd : Place) (path : String) : Bool :=
  t.find? cwd path = some .directory

/-- What the file at a path holds, and the number of the file. -/
def open? (t : FileTree) (cwd : Place) (path : String) : Except FileFault (Nat × FileContent) := do
  match t.get? (← t.locate cwd path) with
  | none | some (.link _) => throw .notFound
  | some .directory => throw .isADirectory
  | some (.file n) =>
    match t.files.lookup n with
    | some f => return (n, f.content)
    | none => throw .notFound

/-- The text of the file at a path. -/
def readText (t : FileTree) (cwd : Place) (path : String) : Except FileFault String := do
  match (← t.open? cwd path).2 with
  | .text s => return s
  | .binary _ | .database _ => throw .notUtf8

end FileTree

end EnvRegistry
