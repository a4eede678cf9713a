import EnvRegistry.Yaml.Basic

/-! # The blanks and breaks between words

    Between two words of a scalar that goes over several lines stands a `Gap`.
    Blanks within a line are kept.  Blanks around a line break are dropped; a single
    break becomes a space, and of several breaks all but the first are kept. -/

namespace EnvRegistry.Yaml

/-- What stands between two words. -/
structure Gap where
  /-- Whether the gap goes over a line break, be it one that an escape takes back. -/
  broken : Bool := false
  /-- The blanks before the first break. -/
  blanks : List Char := []
  /-- The first break, unless it is taken back. -/
  first : Option Char := none
  /-- The breaks after the first. -/
  later : List Char := []
  deriving Repr, DecidableEq

namespace Gap

/-- Nothing between two words. -/
def none : Gap := {}

/-- Whether nothing has been seen yet. -/
def isNone (g : Gap) : Bool := !g.broken && g.blanks.isEmpty

/-- A line break that an escape takes back. -/
def escapedBreak : Gap := { broken := true }

/-- The gap with one more blank. -/
def addBlank (g : Gap) (c : Char) : Gap :=
  if g.broken then g else { g with blanks := g.blanks ++ [c] }

/-- The gap with one more break. -/
def addBreak (g : Gap) (c : Char) : Gap :=
  if g.broken then { g with later := g.later ++ [breakValue c] }
  else { broken := true, first := some (breakValue c) }

/-- What the gap stands for. -/
def value (g : Gap) : List Char :=
  if g.broken then
    match g.first with
    | some '\n' => if g.later.isEmpty then [' '] else g.later
    | first => first.toList ++ g.later
  else g.blanks

end Gap

end EnvRegistry.Yaml
