/-! # Paths

    Paths are texts whose parts are separated by slashes.  Joining paths changes
    nothing within them.  The files of a project lie under its root. -/

namespace EnvRegistry.Path

/-- Whether a path starts at the top. -/
def isAbsolute (p : String) : Bool := p.toList.head? = some '/'

/-- The names in a path: what stands between its slashes. -/
def names (p : String) : List String :=
  ((p.toList.splitOn '/').filter (!·.isEmpty)).map String.ofList

/-- A path seen from another one: an absolute path stays as it is, and a relative one follows after
a slash, which is not repeated. -/
def join (base p : String) : String :=
  if isAbsolute p then p
  else if base.isEmpty || base.toList.getLast? = some '/' then base ++ p
  else base ++ "/" ++ p

/-- A list of characters without the slashes, and the dots between slashes, that it ends with; it
is given in reverse. -/
def dropEnd : List Char → List Char
  | '/' :: rest => dropEnd rest
  | '.' :: '/' :: rest => dropEnd rest
  | cs => cs

/-- The path of the directory that holds what a path leads to; nothing for the top and for the
empty path. -/
def parent? (p : String) : Option String :=
  match dropEnd p.toList.reverse with
  | [] => none
  | cs =>
    let above := cs.dropWhile (· ≠ '/')
    let dir := dropEnd above
    some (String.ofList (if dir.isEmpty && !above.isEmpty then ['/'] else dir.reverse))

/-- A path and the paths of the directories above it, nearest first. -/
def ancestors (p : String) : List String := go p.length p
where
  /-- The same, with so many steps up at most. -/
  go : Nat → String → List String
    | 0, p => [p]
    | n + 1, p => p :: (match parent? p with
      | some q => go n q
      | none => [])

/-! ## The files of a project -/

/-- The name of the directory of a project's files. -/
def directoryName : String := ".envrel"

/-- The name of the configuration file under the root. -/
def configName : String := ".envrel/config.yaml"

/-- The name of the database file under the root, unless another is configured. -/
def databaseName : String := ".envrel/relations.db"

/-- The directory of the files of the project with this root. -/
def directory (root : String) : String := join root directoryName

/-- The configuration file of the project with this root. -/
def config (root : String) : String := join root configName

/-- The database file of the project with this root, given the configured path. -/
def database (root configured : String) : String := join root configured

end EnvRegistry.Path
