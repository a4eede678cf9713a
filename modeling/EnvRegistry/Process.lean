/-! # Processes

    A process ends by itself, with a status, or a signal ends it. -/

namespace EnvRegistry

/-! ## Signals -/

/-- A signal with a name. -/
structure Signal where
  number : Nat
  name : String
  deriving DecidableEq, Repr

namespace Signal

/-- The signals with names that end a process. -/
def fatal : List Signal :=
  [⟨1, "HUP"⟩, ⟨2, "INT"⟩, ⟨3, "QUIT"⟩, ⟨4, "ILL"⟩, ⟨5, "TRAP"⟩, ⟨6, "ABRT"⟩, ⟨7, "BUS"⟩,
   ⟨8, "FPE"⟩, ⟨9, "KILL"⟩, ⟨10, "USR1"⟩, ⟨11, "SEGV"⟩, ⟨12, "USR2"⟩, ⟨13, "PIPE"⟩,
   ⟨14, "ALRM"⟩, ⟨15, "TERM"⟩, ⟨16, "STKFLT"⟩, ⟨24, "XCPU"⟩, ⟨25, "XFSZ"⟩, ⟨26, "VTALRM"⟩,
   ⟨27, "PROF"⟩, ⟨29, "IO"⟩, ⟨30, "PWR"⟩, ⟨31, "SYS"⟩]

/-- The signal of a number that ends a process, if it has a name. -/
def ofNumber? (n : Nat) : Option Signal := fatal.find? (·.number = n)

end Signal

/-! ## Endings -/

/-- How a process ends. -/
inductive Ending where
  | exited (status : Nat)
  /-- A signal has ended it; `dumped` says whether its memory was written to a file. -/
  | killed (signal : Nat) (dumped : Bool)
  deriving DecidableEq, Repr

namespace Ending

/-- The name of a signal as it follows the number. -/
def signalName (n : Nat) : String :=
  match Signal.ofNumber? n with
  | some s => " (SIG" ++ s.name ++ ")"
  | none => ""

/-- How a process has ended, in words. -/
def text : Ending → String
  | .exited status => "exit status: " ++ toString status
  | .killed signal dumped =>
    "signal: " ++ toString signal ++ signalName signal ++ if dumped then " (core dumped)" else ""

end Ending

end EnvRegistry
