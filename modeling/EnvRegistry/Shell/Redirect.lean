import EnvRegistry.Shell.State

/-! # Where channels are led before a command runs -/

namespace EnvRegistry.Shell

open ShellM

/-- The words for a file that cannot be opened. -/
def openFault (writing : Bool) (f : FileFault) : String :=
  match f with
  | .notFound | .notADirectory => if writing then "Directory nonexistent" else "No such file"
  | f => f.reason

/-- Leads a channel to what a path leads to. -/
def redirectTo (channel : Nat) (access : Access) (path : String) : ShellM Unit := do
  let writing := access ≠ .read
  match ← openPath path access with
  | .ok stream => setChannel channel stream
  | .error f =>
    refuse ("cannot " ++ (if writing then "create " else "open ") ++ path ++ ": " ++
      openFault writing f)

/-- Whether a regular file lies at a path. -/
def isRegular (path : String) : ShellM Bool := do
  match ← find? path with
  | some (.file _) => return true
  | _ => return false

/-- Redirects a channel. -/
def redirect (channel : Nat) (kind : RedirectKind) (target : String) : ShellM Unit := do
  match kind with
  | .text _ => setChannel channel (← openPipe target)
  | .duplicate =>
    match target.toList with
    | ['-'] => closeChannel channel
    | [d] =>
      if !d.isDigit then refuse "Syntax error: Bad fd number"
      match ← channel? (d.toNat - '0'.toNat) with
      | some stream => setChannel channel stream
      | none =>
        closeChannel channel
        refuse (target ++ ": " ++ FileFault.badChannel.reason)
    | _ => refuse "Syntax error: Bad fd number"
  | .input => redirectTo channel .read target
  | .both => redirectTo channel .both target
  | .append => redirectTo channel .append target
  | .overwrite => redirectTo channel .write target
  | .output =>
    if (← option 'C') && (← isRegular target) then
      refuse ("cannot create " ++ target ++ ": " ++ FileFault.exists.reason)
    redirectTo channel .write target

end EnvRegistry.Shell
