import EnvRegistry.Shell.Fraction.Functions
import EnvRegistry.Shell.Expression

/-! # Programs that work on records

    A program is a list of rules.  A rule says for which records it is and what is done
    with them.  Statements are made of terms, which have values. -/

namespace EnvRegistry.Shell.Awk

open Fraction

/-! ## Terms -/

/-- What is done with two numbers. -/
inductive Arithmetic where
  | add
  | subtract
  | multiply
  | divide
  | remainder
  | power
  deriving DecidableEq, Repr

/-- How two values are compared. -/
inductive Comparison where
  | less
  | atMost
  | equal
  | different
  | greater
  | atLeast
  deriving DecidableEq, Repr

/-- A term, which has a value. -/
inductive Term where
  | number (x : Binary64)
  | text (s : String)
  /-- Whether the record has a part that looks so. -/
  | looks (e : Expression)
  | variable (name : String)
  | field (index : Term)
  /-- A value in a table. -/
  | entry (table : String) (keys : List Term)
  | assign (target value : Term)
  | update (a : Arithmetic) (target value : Term)
  /-- Adds one to a variable, or takes one away; the value is that before or after. -/
  | step (before up : Bool) (target : Term)
  | conditional (test yes no : Term)
  | both (first second : Term)
  | either (first second : Term)
  | not (t : Term)
  | negative (t : Term)
  | positive (t : Term)
  | arithmetic (a : Arithmetic) (first second : Term)
  | compare (c : Comparison) (first second : Term)
  | joined (first second : Term)
  | similar (negated : Bool) (text pattern : Term)
  /-- Whether a table has a value for some keys. -/
  | within (keys : List Term) (table : String)
  | call (name : String) (arguments : List Term)
  /-- A function that every program has; without brackets, `arguments` is nothing. -/
  | function (name : String) (arguments : Option (List Term))
  /-- Reads the next record of the input into a variable, or into the record itself. -/
  | nextRecord (target : Option Term)
  | nextOfFile (target : Option Term) (path : Term)
  | nextOfCommand (target : Option Term) (command : Term)
  deriving Inhabited

/-- Whether something can be assigned to a term. -/
def Term.isPlace : Term → Bool
  | .variable _ | .field _ | .entry _ _ => true
  | _ => false

/-! ## Statements -/

/-- Where something is written to. -/
inductive Sink where
  | output
  | file (path : Term)
  | append (path : Term)
  | command (text : Term)
  deriving Inhabited

/-- A statement. -/
inductive Statement where
  | nothing
  | value (t : Term)
  | write (terms : List Term) (sink : Sink)
  /-- Writes terms as the first of them says. -/
  | format (terms : List Term) (sink : Sink)
  | sequence (first second : Statement)
  | conditional (test : Term) (yes no : Statement)
  | loop (test : Term) (body : Statement)
  /-- A loop whose test comes after its body. -/
  | bodyFirst (body : Statement) (test : Term)
  | counting (start : Statement) (test : Option Term) (step body : Statement)
  | forKeys (name table : String) (body : Statement)
  | leaveLoop
  | nextTurn
  | nextRecord
  | nextFile
  | exit (status : Option Term)
  | giveBack (value : Option Term)
  /-- Takes a value out of a table, or all values. -/
  | delete (table : String) (keys : Option (List Term))
  deriving Inhabited

/-- For which records a rule is. -/
inductive Pattern where
  | atStart
  | atEnd
  | always
  | test (t : Term)
  | range (first last : Term)

/-- A rule; without a statement, the record is written. -/
structure Rule where
  pattern : Pattern
  statement : Option Statement

/-- A function of a program. -/
structure Function where
  name : String
  parameters : List String
  body : Statement

/-- A program. -/
structure Program where
  rules : List Rule := []
  functions : List Function := []

/-- Why a text is no program: the line, and the words for it. -/
structure ProgramFault where
  line : Nat
  text : String

end EnvRegistry.Shell.Awk
