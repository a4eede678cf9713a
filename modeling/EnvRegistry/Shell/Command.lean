/-! # Shell commands

    What a command text says: words made of pieces, redirections, and the ways of
    putting commands together. -/

namespace EnvRegistry.Shell

/-! ## Names -/

/-- Whether a name may start with a character. -/
def isNameStart (c : Char) : Bool := c.isAlpha || c = '_'

/-- Whether a name may go on with a character. -/
def isNameChar (c : Char) : Bool := c.isAlphanum || c = '_'

/-- Whether a text can be the name of a variable. -/
def isShellName (s : String) : Bool := s.toList.head?.any isNameStart && s.toList.all isNameChar

/-! ## Words and commands -/

/-- What a redirection does. -/
inductive RedirectKind where
  | input
  | output
  /-- Output even if the shell is not to write over files. -/
  | overwrite
  | append
  | both
  | duplicate
  /-- The text with a number, which follows the command. -/
  | text (number : Nat)
  deriving DecidableEq, Repr

mutual

/-- What an expansion does with the value of a variable. -/
inductive ValueUse where
  /-- The value itself. -/
  | plain
  /-- The number of its characters. -/
  | length
  /-- Another word if there is no value; `orEmpty` counts an empty value as none, and `keep` makes
  the word the new value. -/
  | otherwise (orEmpty keep : Bool) (word : List Piece)
  /-- The value, which must not be missing; the word says why, or nothing. -/
  | required (orEmpty : Bool) (word : List Piece)
  /-- Another word if there is a value. -/
  | instead (orEmpty : Bool) (word : List Piece)
  /-- The value without what a pattern matches at its start or end. -/
  | cut (fromStart longest : Bool) (pattern : List Piece)

/-- A piece of a word. -/
inductive Piece where
  /-- Quotes, which make a word even of nothing. -/
  | mark
  | text (quoted : Bool) (s : String)
  | variable (quoted : Bool) (name : String) (use : ValueUse)
  | arithmetic (quoted : Bool) (expression : List Piece)
  /-- The output of commands. -/
  | output (quoted : Bool) (command : Command)
  /-- Braces that hold no expansion. -/
  | nonsense

/-- A redirection of a channel. -/
inductive Redirect where
  | of (channel : Nat) (kind : RedirectKind) (target : List Piece)

/-- A command; a line is that on which it stands. -/
inductive Command where
  /-- Nothing to do. -/
  | nothing
  /-- A program or function with its arguments, or assignments alone. -/
  | simple (line : Nat) (assignments : List (String × List Piece)) (words : List (List Piece))
      (redirects : List Redirect)
  /-- One after the other. -/
  | sequence (first second : Command)
  /-- The second if the first succeeds. -/
  | both (first second : Command)
  /-- The second if the first fails. -/
  | either (first second : Command)
  | not (c : Command)
  /-- The output of each is the input of the next. -/
  | pipeline (commands : List Command)
  /-- Not waited for. -/
  | background (c : Command)
  /-- In a shell of its own. -/
  | subshell (line : Nat) (c : Command) (redirects : List Redirect)
  | redirected (line : Nat) (c : Command) (redirects : List Redirect)
  | conditional (test yes no : Command)
  /-- Repeated as long as the test succeeds, or fails if `untilTrue`. -/
  | loop (untilTrue : Bool) (test body : Command)
  /-- For every item; without items, for every argument. -/
  | forEach (line : Nat) (name : String) (items : Option (List (List Piece))) (body : Command)
  | choice (line : Nat) (subject : List Piece) (cases : List (List (List Piece) × Command))
  | define (line : Nat) (name : String) (body : Command)

end

instance : Inhabited Command := ⟨.nothing⟩
instance : Inhabited Piece := ⟨.mark⟩

/-- A command and the one after it, if there is something to do. -/
def Command.followedBy (first : Command) : Command → Command
  | .nothing => first
  | second => .sequence first second

/-- A word. -/
abbrev Word := List Piece

/-- The text of a word that has no quotes and no expansions. -/
def bareText? : Word → Option String
  | [.text false s] => some s
  | _ => none

/-- The name and the value of an assignment. -/
def assignment? : Word → Option (String × Word)
  | .text false s :: rest =>
    let name := String.ofList (s.toList.takeWhile (· ≠ '='))
    match s.toList.dropWhile (· ≠ '=') with
    | _ :: value =>
      if isShellName name then
        some (name, if value.isEmpty then rest else .text false (String.ofList value) :: rest)
      else none
    | [] => none
  | _ => none

end EnvRegistry.Shell
