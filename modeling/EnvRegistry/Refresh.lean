import EnvRegistry.Error

/-! # Telling those downstream

    A `Refresher` is told of every environment whose relations have changed.  It has
    a state of its own and may fail.  `enqueue` only notes the environments, and
    `flush` passes them on later: to everyone in order, whatever fails on the way. -/

namespace EnvRegistry

/-- How those downstream are told of a changed environment; `ρ` is their own state. -/
abbrev Refresher (ρ : Type) := Environment → StateM ρ (Except RegistryError Unit)

namespace Refresher

/-- Nobody is downstream. -/
def silent {ρ : Type} : Refresher ρ := fun _ => return .ok ()

/-- Notes the environment, newest last. -/
def enqueue : Refresher (List Environment) := fun e queue => (.ok (), queue ++ [e])

variable {ρ : Type}

/-- Passes every environment of a queue on, in order and whatever fails; `first` is the first
failure so far. -/
def flushFrom (r : Refresher ρ) (first : Option RegistryError) :
    List Environment → StateM ρ (Except RegistryError Unit)
  | [] => return match first with
    | some e => .error e
    | none => .ok ()
  | e :: rest => do
    match ← r e with
    | .ok () => flushFrom r first rest
    | .error err => flushFrom r (first.or (some err.asRefresh)) rest

/-- Passes every environment of a queue on.  The first failure, if any, is the result. -/
def flush (r : Refresher ρ) (queue : List Environment) : StateM ρ (Except RegistryError Unit) :=
  flushFrom r none queue

end Refresher

end EnvRegistry
