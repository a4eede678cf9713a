import EnvRegistry.Config.Yaml
import EnvRegistry.FileTree.Change

/-! # The configuration of a project

    The configuration lies in a file under the root of a project.  Reading it fails
    as long as the project has none. -/

namespace EnvRegistry

/-- An operation on files: it may fail, and it keeps what it wrote before failing. -/
abbrev FileM := ExceptT RegistryError (StateM FileTree)

namespace FileM

/-- Looks something up. -/
def query {α : Type} (f : FileTree → Except RegistryError α) : FileM α := fun t => (f t, t)

/-- Changes the tree. -/
def change {α : Type} (m : FileTree.ChangeM α) : FileM α := fun t =>
  let (r, t') := m t
  (r.mapError .file, t')

end FileM

namespace Config

/-- Reads the configuration of the project with this root, as seen from the place `cwd`. -/
def load (cwd : Place) (root : String) : FileM Config := FileM.query fun t =>
  if t.exists? cwd (Path.config root) then
    match t.readText cwd (Path.config root) with
    | .ok text => ofYaml text
    | .error e => .error (.file e)
  else .error .notInitialized

/-- Writes the configuration of a project. -/
def save (cwd : Place) (root : String) (c : Config) : FileM Unit :=
  FileM.change (FileTree.replaceFile cwd (Path.config root) (.text c.toYaml))

/-- Writes the default configuration unless there is one.  Says whether it was written. -/
def init (cwd : Place) (root : String) : FileM Bool :=
  FileM.change (FileTree.writeMissing cwd (Path.config root) (.text ({} : Config).toYaml))

/-- Sets or removes the command to run after a change, and keeps all else. -/
def setHook (cwd : Place) (root : String) (command : Option String) : FileM Unit := do
  let c ← load cwd root
  save cwd root { c with refreshCommand := command }

end Config

end EnvRegistry
