import EnvRegistry.Shell.Expression

/-! # Scripts that edit lines

    A script is a list of steps.  Every step says which lines it is for and what is done
    with them.  A block is a step that is followed by the steps in it; where the block ends
    is known by number. -/

namespace EnvRegistry.Shell.Edit

/-! ## Lines -/

/-- What is looked for in a line; without an expression, what was looked for last. -/
structure Sought where
  expression : Option Expression
  folded : Bool := false
  /-- Every line of a text that has several of them has a start and an end. -/
  multiline : Bool := false
  deriving Inhabited

/-- Some lines. -/
inductive Address where
  | line (n : Nat)
  /-- Every so manieth line from the first one on. -/
  | every (first step : Nat)
  | last
  | having (s : Sought)
  deriving Inhabited

/-- Where a range of lines ends. -/
inductive RangeEnd where
  | at (a : Address)
  /-- So many lines after the first one. -/
  | after (count : Nat)
  /-- At a line whose number is a multiple. -/
  | multiple (factor : Nat)

/-- The lines that a step is for: all of them, those of an address, or ranges that start at those of
an address. -/
structure Selector where
  first : Option Address := none
  last : Option RangeEnd := none
  negated : Bool := false

/-! ## Steps -/

/-- How the letters that follow are written. -/
inductive LetterCase where
  | asIs
  | upper
  | lower
  deriving DecidableEq, Repr

/-- A piece of what is put in the place of something. -/
inductive Piece where
  | text (s : String)
  /-- The text of a group, or all that was found. -/
  | group (number : Nat)
  /-- How all letters that follow are written. -/
  | letters (c : LetterCase)
  /-- How the next letter is written. -/
  | letter (c : LetterCase)

/-- Something put in the place of what is found. -/
structure Substitution where
  sought : Sought
  pieces : List Piece
  /-- The number of the first one that is replaced. -/
  number : Nat := 1
  /-- Whether all later ones are replaced, too. -/
  all : Bool := false
  /-- Whether the line is shown if something is replaced. -/
  shown : Bool := false
  /-- A file that the line is written to if something is replaced. -/
  target : Option String := none

/-- When a jump is done: always, or if something has been replaced, or if nothing has been. -/
inductive JumpKind where
  | always
  | replaced
  | unchanged
  deriving DecidableEq, Repr

/-- What is done with a line. -/
inductive Action where
  /-- The steps up to the one with a number belong to a block. -/
  | block (close : Nat)
  | nothing
  /-- Goes on at a label, or at the end of the script. -/
  | jump (kind : JumpKind) (label : String)
  | showNumber
  | showName
  | append (text : String)
  | insert (text : String)
  | change (text : String)
  | delete
  | deleteFirst
  | fromHold
  | fromHoldAppended
  | toHold
  | toHoldAppended
  | exchange
  | showEscaped (width : Option Nat)
  | next
  | nextAppended
  | show
  | showFirst
  | quit (silently : Bool) (status : Nat)
  | readFile (path : String)
  | readLine (path : String)
  | substitute (s : Substitution)
  | write (path : String)
  | writeFirst (path : String)
  | exchangeChars (pairs : List (Char × Char))
  | clear

/-- A step of a script. -/
structure Step where
  selector : Selector
  action : Action

/-- A script, and the numbers of the steps that labels stand before. -/
structure Script where
  steps : Array Step := #[]
  labels : List (String × Nat) := []
  /-- Whether lines are shown only where the script says so. -/
  quiet : Bool := false

/-- Why a text is no script: the place, counted in characters, and the words for it. -/
structure ScriptFault where
  place : Nat
  text : String

end EnvRegistry.Shell.Edit
