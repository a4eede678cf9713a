import EnvRegistry.Process

/-! # Signals as a shell knows them

    A shell has names for most signals, and says a description when it has waited
    for a process that a signal ends. -/

namespace EnvRegistry.Shell.Signal

/-- What is said of the signals with names that end a process. -/
def descriptions : List (Nat × String) :=
  [(1, "Hangup"), (3, "Quit"), (4, "Illegal instruction"), (5, "Trace/breakpoint trap"),
   (6, "Aborted"), (7, "Bus error"), (8, "Floating point exception"), (9, "Killed"),
   (10, "User defined signal 1"), (11, "Segmentation fault"), (12, "User defined signal 2"),
   (14, "Alarm clock"), (15, "Terminated"), (16, "Stack fault"), (24, "CPU time limit exceeded"),
   (25, "File size limit exceeded"), (26, "Virtual timer expired"),
   (27, "Profiling timer expired"), (29, "I/O possible"), (30, "Power failure"),
   (31, "Bad system call")]

/-- The signals that a process does not notice unless it has asked for them. -/
def unnoticed : List Signal := [⟨17, "CHLD"⟩, ⟨18, "CONT"⟩, ⟨23, "URG"⟩, ⟨28, "WINCH"⟩]

/-- The signals that keep a process waiting. -/
def stopping : List Signal := [⟨19, "STOP"⟩, ⟨20, "TSTP"⟩, ⟨21, "TTIN"⟩, ⟨22, "TTOU"⟩]

/-- The number of the first signal without a name of its own, and of the first one of these that
programs may use. -/
def firstUnnamed : Nat := 32

/-- The number of the first signal that programs may use for what they like. -/
def firstFree : Nat := 34

/-- The greatest number of a signal. -/
def greatest : Nat := 64

/-- Whether a signal of a number ends a process. -/
def isFatal (n : Nat) : Bool :=
  (Signal.ofNumber? n).isSome || (firstUnnamed ≤ n && n ≤ greatest)

/-- What is said when a signal of a number has ended a process. -/
def described (n : Nat) : String :=
  if (Signal.ofNumber? n).isSome then (descriptions.lookup n).getD ""
  else if firstFree ≤ n && n ≤ greatest then "Real-time signal " ++ toString (n - firstFree)
  else "Unknown signal " ++ toString n

/-- The number of the signal that a shell has no name for. -/
def stackFault : Nat := 16

/-- The name that a shell has for the signal of a number. -/
def nameOf (n : Nat) : String :=
  match (Signal.fatal ++ unnoticed ++ stopping).find? fun s => s.number = n && n ≠ stackFault with
  | some s => s.name
  | none =>
    if n = firstFree then "RTMIN"
    else if n = greatest then "RTMAX"
    else if firstFree < n && n < greatest then
      if n < 50 then "RTMIN+" ++ toString (n - firstFree) else "RTMAX-" ++ toString (greatest - n)
    else toString n

/-- The number of the signal that a text names, by name or number. -/
def number? (s : String) : Option Nat :=
  if !s.isEmpty && s.toList.all Char.isDigit then s.toNat?.filter (· ≤ greatest)
  else
    let upper := s.toUpper
    let name := if "SIG".toList.isPrefixOf upper.toList then String.ofList (upper.toList.drop 3)
      else upper
    if name = "EXIT" then some 0
    else ((List.range greatest).map (· + 1)).find? fun n => nameOf n = name

end EnvRegistry.Shell.Signal
