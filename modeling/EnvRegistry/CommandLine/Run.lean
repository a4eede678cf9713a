import EnvRegistry.CommandLine.Invocation
import EnvRegistry.CommandLine.Report
import EnvRegistry.Database.File
import EnvRegistry.Hook

/-! # Running commands

    `run` carries a command line out: it changes the files and gives an answer.  A
    command that fails says for which purpose and why.  A command line that is none has
    the code two. -/

namespace EnvRegistry.CommandLine

/-- What a run leaves behind besides the files. -/
structure Answer where
  code : Nat
  output : String
  complaint : String
  deriving DecidableEq, Repr

/-- The files, and what has been written to the output. -/
structure Session where
  files : FileTree
  output : String := ""

/-- A step of a command; its error is the complaint. -/
abbrev SessionM := ExceptT String (StateM Session)

/-- Where a command is run. -/
structure Site where
  /-- The place it is started at. -/
  cwd : Place
  /-- The root of the project. -/
  root : String
  /-- What runs the hook of the project. -/
  runner : Hook.Runner

namespace SessionM

/-- Runs an operation on the files; `purpose` says in a complaint what it was for. -/
def attempt {α : Type} (purpose : String) (m : FileM α) : SessionM α := fun s =>
  let (r, files) := m s.files
  (r.mapError fun e => purpose ++ ": " ++ e.message, { s with files })

/-- Writes a line to the output. -/
def say (line : String) : SessionM Unit :=
  modify fun s => { s with output := s.output ++ line ++ "\n" }

/-- Answers with lines, or with JSON if that is asked for. -/
def answer (json : Bool) (j : Json) (lines : List String) : SessionM Unit :=
  if json then say j.pretty else lines.forM say

end SessionM

open SessionM

namespace Site

/-- The configuration of the project. -/
def config (s : Site) : SessionM Config :=
  attempt "failed to load config" (Config.load s.cwd s.root)

/-- Opens the database of the project.  Gives the configuration, too. -/
def database (s : Site) (purpose : String) : SessionM (Config × Database.Opened) := do
  let c ← s.config
  let path := c.databaseFile s.root
  let opened ← attempt (purpose ++ " database at " ++ path) (Database.open s.cwd path)
  return (c, opened)

/-- Reads from the database of the project. -/
def query {α : Type} (s : Site) (purpose : String)
    (f : Database → Except RegistryError α) : SessionM α := do
  let (_, opened) ← s.database "failed to open"
  attempt purpose (FileM.query fun _ => f opened.database)

/-- Writes to the database of the project. -/
def write {α : Type} (s : Site) (purpose : String) (m : StoreM Database α) : SessionM α := do
  let (_, opened) ← s.database "failed to open"
  attempt purpose do
    let (r, db) := m opened.database
    opened.keep db
    MonadExcept.ofExcept r

/-- How those downstream are told. -/
def refresher (s : Site) (c : Config) : Refresher FileTree :=
  match c.hook? with
  | some command => Hook.refresher s.runner s.cwd s.root command
  | none => Refresher.silent

/-- Changes relations in the database of the project, and tells those downstream once the changes
are in the file. -/
def relate {α : Type} (s : Site) (purpose : String)
    (m : Relations.RunM Database (List Environment) α) : SessionM α := do
  let (c, opened) ← s.database "failed to open"
  attempt purpose do
    let (r, (db, queue)) := m (opened.database, [])
    opened.keep db
    let a ← MonadExcept.ofExcept r
    let (told, files) := Refresher.flush (s.refresher c) queue (← get)
    set files
    MonadExcept.ofExcept told
    return a

/-- Makes the files of the project. -/
def init (s : Site) : SessionM Unit := do
  attempt "failed to create .envrel/" (FileM.change
    (FileTree.makeDirectories s.cwd (Path.directory s.root)))
  let written ← attempt "failed to write config" (Config.init s.cwd s.root)
  let _ ← s.database "failed to create"
  say (if written then "Initialized envrel in " ++ s.root
    else "Already initialized: " ++ Path.config s.root)

end Site

/-- Does what is asked for. -/
def Action.perform (s : Site) (json : Bool) : Action → SessionM Unit
  | .init => s.init
  | .createEnvironment name group tags => do
    let e ← s.write ("failed to create environment '" ++ name ++ "'")
      (Database.createEnvironment name group tags)
    answer json e.toJson [createdLine .environment e.id e.name]
  | .listEnvironments => do
    let es ← s.query "failed to list environments" Database.allEnvironments
    answer json (.list (es.map Environment.toJson)) (environmentLines es)
  | .showEnvironment id => do
    let (_, opened) ← s.database "failed to open"
    let e ← attempt ("environment '" ++ idText id ++ "' not found")
      (FileM.query fun _ => opened.database.environment id)
    let edgeGroups ← attempt "failed to scan edge groups"
      (FileM.query fun _ => opened.database.environmentEdgeGroups id)
    answer json (environmentDetailsJson e edgeGroups) (environmentDetails e edgeGroups)
  | .createTag name => do
    let t ← s.write ("failed to create tag '" ++ name ++ "'") (Database.createTag name)
    answer json t.toJson [createdLine .tag t.id t.name]
  | .listTags => do
    let ts ← s.query "failed to list tags" Database.allTags
    answer json (.list (ts.map Tag.toJson)) (tagLines ts)
  | .createEdgeGroup name => do
    let g ← s.write ("failed to create edge group '" ++ name ++ "'") (Database.createEdgeGroup name)
    answer json g.toJson [createdLine .edgeGroup g.id g.name]
  | .listEdgeGroups => do
    let gs ← s.query "failed to list edge groups" Database.allEdgeGroups
    answer json (.list (gs.map EdgeGroup.toJson)) (edgeGroupLines gs)
  | .update id u => do
    let o ← s.relate ("failed to update relations of environment '" ++ idText id ++ "'")
      (Database.update .ascending Refresher.enqueue id u)
    answer json (updateJson id o) [updateLine id o]
  | .assign ids request => do
    let l ← s.relate "failed to assign environments"
      (Database.assign (fun _ => .ascending) Refresher.enqueue ids request)
    answer json (.list (l.map Relations.Assigned.toJson)) (assignedLines l)
  | .showConfig => do
    let c ← s.config
    answer json c.toJson (configLines c s.root)
  | .validateConfig => do
    let c ← s.config
    answer json (warningsJson c.warnings) (warningLines c.warnings)
    if c.warnings.any (·.level = .error) then throw "config validation found errors"
  | .setHook command => do
    let c ← s.config
    attempt "failed to save config"
      (Config.save s.cwd s.root { c with refreshCommand := command })
    say (hookLine command)

/-- The root of the project that a place lies in: the nearest directory, from the place upward, that
holds the files of a project, or the place itself if there is none. -/
def nearestRoot (files : FileTree) (cwd : Place) : String :=
  let path := "/" ++ String.intercalate "/" cwd
  let isRoot (p : String) : Bool := files.isDirectoryAt cwd (Path.directory p)
  ((Path.ancestors path).find? isRoot).getD path

/-- How the program is used, in short. -/
def usage : String := "Usage: " ++ programName ++ " [OPTIONS] <COMMAND>\n"

/-- Carries a command line out, as started at a place; `presetRoot` is the root to use if the
command line gives none, and `runner` runs the hook. -/
def run (runner : Hook.Runner) (cwd : Place) (presetRoot : Option String) (args : List String)
    (files : FileTree) : Answer × FileTree :=
  match Invocation.ofArguments presetRoot args with
  | .error .misuse => (⟨2, "", "error: invalid arguments\n\n" ++ usage⟩, files)
  | .error (.version command) => (⟨0, command ++ " " ++ programVersion ++ "\n", ""⟩, files)
  | .error .help => (⟨0, usage, ""⟩, files)
  | .ok i =>
    let site : Site := ⟨cwd, i.root.getD (nearestRoot files cwd), runner⟩
    match i.action.perform site i.json { files } with
    | (.ok (), s) => (⟨0, s.output, ""⟩, s.files)
    | (.error complaint, s) => (⟨1, s.output, "error: " ++ complaint ++ "\n"⟩, s.files)

end EnvRegistry.CommandLine
