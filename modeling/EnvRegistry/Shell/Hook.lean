import EnvRegistry.Hook
import EnvRegistry.Shell.Run

/-! # A shell that runs hooks

    The process of a hook is a shell that is given the command.  Its input is a
    pipe that holds all there is to read, its output goes nowhere, and what it says
    of faults is kept in another pipe. -/

namespace EnvRegistry.Shell

/-! ## Where it runs -/

/-- The place of the directory that a process runs in. -/
def startPlace (files : FileTree) (cwd : Place) (directory : String) : Except FileFault Place := do
  let p ← files.locate cwd directory
  match files.get? p with
  | some .directory => return p
  | some _ => throw .notADirectory
  | none => throw .notFound

/-- The place that a process is started at, unless it cannot be started; the text says why. -/
def start (files : FileTree) (l : Hook.Launch) : Except String Place :=
  if l.command.contains '\x00' then .error "nul byte found in provided data"
  else (startPlace files l.cwd l.directory).mapError FileFault.message

/-! ## What it starts with -/

/-- A variable that programs see. -/
def visible (value : String) : Variable := { value := some value, exported := true }

/-- The variables that every shell has at its start; `path` is that of its directory. -/
def usualVariables (path : String) : List (String × Variable) :=
  [("PATH", visible "/usr/local/sbin:/usr/local/bin:/usr/sbin:/usr/bin:/sbin:/bin"),
   ("HOME", visible "/root"),
   ("PWD", visible path),
   ("IFS", { value := some " \t\n" }),
   ("OPTIND", { value := some "1" }),
   ("PS1", { value := some "# " }),
   ("PS2", { value := some "> " }),
   ("PS4", { value := some "+ " }),
   ("PPID", { value := some "4241" })]

/-- The shell of a hook before it runs anything. -/
def startOf (l : Hook.Launch) (place : Place) (files : FileTree) : State :=
  let path := Raw.ofText ("/" ++ String.intercalate "/" place)
  { files
    cwd := place
    path
    bindings := l.bindings.map (fun v => (v.1, visible (Raw.ofText v.2))) ++ usualVariables path
    pipes := #[Raw.ofText l.input, ""]
    streams := #[{ stream := .pipe 0 }, { stream := .nowhere }, { stream := .pipe 1 }]
    channels := [(0, 0), (1, 1), (2, 2)] }

/-- Runs hooks in a shell. -/
def runner : Hook.Runner := fun l files =>
  match start files l with
  | .error text => (.error (.failed text), files)
  | .ok place =>
    let (ending, s) := execute (Raw.ofText l.command) (startOf l place files)
    (.ok ⟨.taken, .ok ⟨ending, Raw.toBytes (s.pipes.getD 1 "")⟩⟩, s.files)

end EnvRegistry.Shell
