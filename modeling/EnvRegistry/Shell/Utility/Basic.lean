import EnvRegistry.Shell.State

/-! # Utilities

    The programs that commands run, each a function of its arguments.  A utility gives
    its status: zero says that it succeeded.  Its arguments are options, which start
    with a dash and may have values, and operands. -/

namespace EnvRegistry.Shell

/-- A utility. -/
abbrev Utility := List String → ShellM Nat

namespace Utility

open ShellM

/-! ## Messages -/

/-- Says why a utility fails. -/
def fail (name text : String) (status : Nat) : ShellM Nat := do
  complain (name ++ ": " ++ text)
  return status

/-- Says why a utility fails, and where to learn how to use it. -/
def failUsage (name text : String) (status : Nat) : ShellM Nat :=
  fail name (text ++ "\nTry '" ++ name ++ " --help' for more information.") status

/-- A text between quotes. -/
def quoted (s : String) : String :=
  if s.contains '\'' then "\"" ++ s ++ "\"" else "'" ++ s ++ "'"

/-- Characters that make a path stand between quotes. -/
def isSpecial (c : Char) : Bool :=
  [' ', '!', '"', '$', '&', '(', ')', '*', ';', '<', '=', '>', '[', '^', '\x60', '|', '\'', '\\',
   '?', '\t', '\n'].contains c

/-- A path, between quotes if it has characters that need them. -/
def shown (path : String) : String :=
  let first := path.toList.head?
  if path.isEmpty || path.toList.any isSpecial || first = some '#' || first = some '~' then
    quoted path
  else path

/-- Says which path a utility fails for. -/
def failFor (name path : String) (f : FileFault) (status : Nat) : ShellM Nat :=
  fail name (shown path ++ ": " ++ f.reason) status

/-- Runs a step for every item; the status is the greatest one. -/
def forEach {α : Type} (step : α → ShellM Nat) : List α → ShellM Nat
  | [] => return 0
  | a :: rest => do
    let status ← step a
    return max status (← forEach step rest)

/-! ## Options -/

/-- The options of a utility: the letters of those without a value and of those with one, and long
names for letters. -/
structure OptionRules where
  plain : String
  valued : String := ""
  long : List (String × Char) := []
  /-- Whether options may follow operands. -/
  mixed : Bool := true

/-- Options and operands as they are given. -/
structure Options where
  taken : List (Char × String)
  operands : List String

namespace Options

/-- Whether an option is given. -/
def has (o : Options) (letter : Char) : Bool := o.taken.any (·.1 = letter)

/-- The last value of an option. -/
def value? (o : Options) (letter : Char) : Option String :=
  (o.taken.reverse.find? (·.1 = letter)).map (·.2)

/-- All values of an option. -/
def values (o : Options) (letter : Char) : List String :=
  (o.taken.filter (·.1 = letter)).map (·.2)

/-- The last one given of some options. -/
def last? (o : Options) (letters : String) : Option Char :=
  (o.taken.reverse.find? fun t => letters.contains t.1).map (·.1)

end Options

/-- What is wrong with the options of a utility. -/
inductive OptionFault where
  | unknown (letter : Char)
  | unknownLong (name : String)
  | noValue (letter : Char)
  | noLongValue (name : String)
  | valueGiven (name : String)

/-- The fault in words. -/
def OptionFault.message : OptionFault → String
  | .unknown c => "invalid option -- '" ++ String.singleton c ++ "'"
  | .unknownLong name => "unrecognized option '" ++ name ++ "'"
  | .noValue c => "option requires an argument -- '" ++ String.singleton c ++ "'"
  | .noLongValue name => "option '--" ++ name ++ "' requires an argument"
  | .valueGiven name => "option '--" ++ name ++ "' doesn't allow an argument"

namespace OptionRules

/-- Reads the letters after a dash.  Gives the options and whether the value of the last one is the
next argument. -/
def letters (r : OptionRules) : List Char → Except OptionFault (List (Char × String) × Option Char)
  | [] => .ok ([], none)
  | c :: rest =>
    if r.valued.contains c then
      if rest.isEmpty then .ok ([], some c) else .ok ([(c, String.ofList rest)], none)
    else if r.plain.contains c then do
      let (later, open?) ← letters r rest
      return ((c, "") :: later, open?)
    else .error (.unknown c)

/-- The long name that a text starts or is, and its letter. -/
def longName? (r : OptionRules) (name : String) : Option (String × Char) :=
  match r.long.find? (·.1 = name) with
  | some l => some l
  | none =>
    match r.long.filter fun l => name.toList.isPrefixOf l.1.toList with
    | [l] => some l
    | _ => none

/-- Takes options and operands apart. -/
def splitFrom (r : OptionRules) : (fuel : Nat) → List String → Except OptionFault Options
  | 0, args => .ok ⟨[], args⟩
  | _, [] => .ok ⟨[], []⟩
  | fuel + 1, a :: rest => do
    let go (taken : List (Char × String)) (rest : List String) : Except OptionFault Options := do
      let o ← splitFrom r fuel rest
      return { o with taken := taken ++ o.taken }
    match a.toList with
    | ['-', '-'] => return ⟨[], rest⟩
    | '-' :: '-' :: cs =>
      let name := String.ofList (cs.takeWhile (· ≠ '='))
      match r.longName? name with
      | none => throw (.unknownLong ("--" ++ name))
      | some (long, letter) =>
        match r.valued.contains letter, cs.dropWhile (· ≠ '='), rest with
        | true, _ :: value, _ => go [(letter, String.ofList value)] rest
        | true, [], value :: rest => go [(letter, value)] rest
        | true, [], [] => throw (.noLongValue long)
        | false, _ :: _, _ => throw (.valueGiven long)
        | false, [], _ => go [(letter, "")] rest
    | '-' :: c :: cs =>
      let (taken, open?) ← r.letters (c :: cs)
      match open?, rest with
      | none, _ => go taken rest
      | some letter, value :: rest => go (taken ++ [(letter, value)]) rest
      | some letter, [] => throw (.noValue letter)
    | _ =>
      if r.mixed then
        let o ← splitFrom r fuel rest
        return { o with operands := a :: o.operands }
      else return ⟨[], a :: rest⟩

/-- Takes options and operands apart. -/
def split (r : OptionRules) (args : List String) : Except OptionFault Options :=
  r.splitFrom args.length args

end OptionRules

/-- Runs a utility after its options have been taken; `status` is its status if they make no
sense. -/
def withOptions (name : String) (status : Nat) (r : OptionRules) (args : List String)
    (body : Options → ShellM Nat) : ShellM Nat := do
  match r.split args with
  | .ok o => body o
  | .error f => failUsage name f.message status

/-! ## Lines -/

/-- The lines of a text, without their line breaks. -/
def linesOf (s : String) : List String :=
  if s.isEmpty then []
  else
    let parts := s.splitOn "\n"
    if parts.getLast? = some "" then parts.dropLast else parts

/-- Whether a text ends within a line. -/
def endsOpen (s : String) : Bool := !s.isEmpty && !s.endsWith "\n"

/-- Lines with line breaks. -/
def ofLines (ls : List String) : String := String.join (ls.map (· ++ "\n"))

/-- Lines with line breaks after all of them, or after all but the last one. -/
def ofLinesLike (source : String) (ls : List String) : String :=
  if endsOpen source then String.intercalate "\n" ls else ofLines ls

/-- Lists of so many items at most. -/
def chunks {α : Type} (n : Nat) : (fuel : Nat) → List α → List (List α)
  | 0, _ => []
  | _, [] => []
  | fuel + 1, as => as.take n :: chunks n fuel (as.drop n)

/-! ## Inputs -/

/-- Reads a file; a dash stands for the input. -/
def readOperand (path : String) : ShellM (Except FileFault String) :=
  if path = "-" then read 0 none else readPath path none

/-- Runs a step on the text of every file; without any, on the input. -/
def onInputs (name : String) (failure : Nat) (paths : List String)
    (step : (path : String) → String → ShellM Nat) : ShellM Nat :=
  forEach (fun path => do
    match ← readOperand path with
    | .ok text => step path text
    | .error f => failFor name path f failure) (if paths.isEmpty then ["-"] else paths)

/-- The texts of files one after the other, and the status of reading them. -/
def joinedInputs (name : String) (failure : Nat) (paths : List String) :
    ShellM (String × Nat) := do
  let rec go : List String → ShellM (List String × Nat)
    | [] => return ([], 0)
    | path :: rest => do
      match ← readOperand path with
      | .ok text =>
        let (texts, status) ← go rest
        return (text :: texts, status)
      | .error f =>
        let own ← failFor name path f failure
        let (texts, status) ← go rest
        return (texts, max own status)
  let (texts, status) ← go (if paths.isEmpty then ["-"] else paths)
  return (String.join texts, status)

end Utility

end EnvRegistry.Shell
