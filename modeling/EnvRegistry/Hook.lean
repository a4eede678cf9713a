import EnvRegistry.FileTree
import EnvRegistry.Process
import EnvRegistry.Record.Codec
import EnvRegistry.Refresh
import EnvRegistry.Text.Blank

/-! # The refresh hook

    A hook is a command that is run for every changed environment, by a process of
    its own.  The process runs in the directory of the registry; it gets the
    environment on its input and the main parts of it in variables.  If it fails,
    the start of what it says is part of the error.

    What a command does is not for the registry to know.  A `Runner` runs the
    process, and the hook is defined for any of them. -/

namespace EnvRegistry.Hook

/-! ## The process -/

/-- What the process of a hook is started with. -/
structure Launch where
  command : String
  /-- Where the path of the directory is followed from. -/
  cwd : Place
  /-- The path of the directory that the process runs in. -/
  directory : String
  /-- The variables that it gets besides those that the registry has itself. -/
  bindings : List (String × String)
  /-- What it can read from its input. -/
  input : String
  deriving DecidableEq, Repr

/-- Why a process is not started; the text says more. -/
inductive NoStart where
  | noShell (text : String)
  | failed (text : String)
  deriving DecidableEq, Repr

/-- What becomes of the input of a process while it is written. -/
inductive Feed where
  /-- The process has taken all of it. -/
  | taken
  /-- The process ends, or closes its input, before it has taken all of it. -/
  | refused
  | failed (text : String)
  /-- What writes it has crashed. -/
  | crashed
  deriving DecidableEq, Repr

/-- What is left of a process when it has ended. -/
structure Remains where
  ending : Ending
  /-- What it has said of faults. -/
  said : List UInt8
  deriving DecidableEq, Repr

/-- What the registry sees of a process that was started. -/
structure Report where
  feed : Feed
  /-- What is left of the process, unless waiting for its end fails; the text says why. -/
  remains : Except String Remains

/-- Runs the process of a hook to its end.  The process may change any file. -/
abbrev Runner := Launch → StateM FileTree (Except NoStart Report)

/-! ## The start -/

/-- The variables that tell of an environment. -/
def bindings (e : Environment) : List (String × String) :=
  [("ENVREL_ENVIRONMENT_ID", toString e.id.toNat),
   ("ENVREL_GROUP_ID", toString e.groupId.toNat),
   ("ENVREL_TAG_IDS", String.intercalate "," (e.tagIds.map fun id => toString id.toNat))]

/-- What a hook is started with for a changed environment. -/
def launch (command : String) (cwd : Place) (directory : String) (e : Environment) : Launch :=
  { command, cwd, directory, bindings := bindings e, input := e.toJson.compact }

/-- The fault in words. -/
def NoStart.message : NoStart → String
  | .noShell text => "no shell to run hook: " ++ text
  | .failed text => "failed to spawn hook: " ++ text

/-! ## The end -/

/-- What is wrong with the writing of the input, if anything.  A hook need not read it. -/
def Feed.fault? : Feed → Option String
  | .taken | .refused => none
  | .failed text => some ("failed to write hook stdin: " ++ text)
  | .crashed => some "hook stdin writer panicked"

/-- How many characters of what a hook says are part of an error. -/
def hintLength : Nat := 500

/-- The part of what a hook says that is told. -/
def hint (said : List UInt8) : String :=
  String.ofList ((Text.trim (Text.decodeLossy said)).toList.take hintLength)

/-- What the end of a process means for the refresh; the error says what has failed. -/
def Remains.verdict (r : Remains) : Except String Unit :=
  if r.ending = .exited 0 then .ok ()
  else .error ("hook exited with " ++ r.ending.text ++ ": " ++ hint r.said)

/-- What a process means for the refresh: its input comes first, then its end. -/
def Report.verdict (r : Report) : Except String Unit :=
  match r.feed.fault? with
  | some text => .error text
  | none => do (← r.remains).verdict

/-- What comes of a hook for the refresh. -/
def verdict : Except NoStart Report → Except String Unit
  | .error n => .error n.message
  | .ok r => r.verdict

/-- Tells those downstream by running a command in a directory. -/
def refresher (run : Runner) (cwd : Place) (directory command : String) : Refresher FileTree :=
  fun e => do
    let r ← run (launch command cwd directory e)
    return (verdict r).mapError .refresh

end EnvRegistry.Hook
