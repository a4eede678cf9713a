/-! # Reading arguments

    A command line names a command, which may lie in a group of commands, and gives it
    options and operands.  `Menu` says which commands there are and what each takes,
    and `Menu.read` reads arguments one after the other.  Options that all commands
    share may stand at every level; the innermost one counts.

    An option is a name after two dashes or a letter after one.  Its value is the next
    argument or follows an equals sign.  After two dashes alone, all arguments are
    operands. -/

namespace EnvRegistry.CommandLine

/-! ## Values -/

/-- What an option or operand takes. -/
inductive Taking where
  /-- Nothing: the option is there or not. -/
  | nothing
  | number
  | text
  /-- A text that is not empty. -/
  | path
  /-- Numbers with commas between them. -/
  | numbers
  /-- Texts with commas between them. -/
  | texts
  deriving DecidableEq, Repr

/-- What has been given for an option or operand. -/
inductive Value where
  | switch
  | numbers (l : List UInt32)
  | texts (l : List String)
  deriving DecidableEq, Repr

/-- Reads a number of 32 bits, which may have a sign. -/
def number? (s : String) : Option UInt32 :=
  let (negative, digits) := match s.toList with
    | '-' :: cs => (true, cs)
    | '+' :: cs => (false, cs)
    | cs => (false, cs)
  if digits.isEmpty || !digits.all Char.isDigit then none
  else
    let n := digits.foldl (fun acc c => 10 * acc + (c.toNat - '0'.toNat)) 0
    if n < UInt32.size && (!negative || n = 0) then some (UInt32.ofNat n) else none

/-- Reads the argument for an option or operand. -/
def Taking.read? (t : Taking) (s : String) : Option Value :=
  match t with
  | .nothing => none
  | .number => (number? s).map fun n => .numbers [n]
  | .text => some (.texts [s])
  | .path => if s.isEmpty then none else some (.texts [s])
  | .numbers => ((s.splitOn ",").mapM number?).map .numbers
  | .texts => some (.texts (s.splitOn ","))

/-- Whether an option may be given more than once. -/
def Taking.repeats : Taking → Bool
  | .numbers | .texts => true
  | _ => false

/-- What has been given earlier together with what is given now. -/
def Value.append : Value → Value → Value
  | .numbers a, .numbers b => .numbers (a ++ b)
  | .texts a, .texts b => .texts (a ++ b)
  | _, b => b

/-- The options and operands of a command line by name. -/
structure Given where
  values : List (String × Value) := []
  deriving DecidableEq, Repr

namespace Given

/-- Adds what is given under a name to what has been given under it. -/
def add (g : Given) (name : String) (v : Value) : Given :=
  match g.values.lookup name with
  | some earlier => ⟨(name, earlier.append v) :: g.values.filter (·.1 ≠ name)⟩
  | none => ⟨(name, v) :: g.values⟩

/-- Whether something has been given under a name. -/
def has (g : Given) (name : String) : Bool := (g.values.lookup name).isSome

/-- The numbers given under a name, if any have been given. -/
def numbers? (g : Given) (name : String) : Option (List UInt32) :=
  match g.values.lookup name with
  | some (.numbers l) => some l
  | _ => none

/-- The number given under a name. -/
def number? (g : Given) (name : String) : Option UInt32 := (g.numbers? name).bind List.head?

/-- The texts given under a name, if any have been given. -/
def texts? (g : Given) (name : String) : Option (List String) :=
  match g.values.lookup name with
  | some (.texts l) => some l
  | _ => none

/-- The text given under a name. -/
def text? (g : Given) (name : String) : Option String := (g.texts? name).bind List.head?

end Given

/-! ## Rules -/

/-- An option. -/
structure OptionRule where
  name : String
  letter : Option Char := none
  taking : Taking

/-- The operands of a command, all known under one name. -/
structure OperandRule where
  name : String
  taking : Taking
  many : Bool := false

/-- A command. -/
structure CommandRule (α : Type) where
  options : List OptionRule := []
  operand : Option OperandRule := none
  /-- Options that may not be given together. -/
  conflicts : List (String × String) := []
  /-- What the command does; nothing if something it needs has not been given. -/
  action : Given → Option α

/-- The commands there are. -/
inductive Menu (α : Type) where
  | command (rule : CommandRule α)
  | group (items : List (String × Menu α))

/-- Why a command line asks for no action. -/
inductive Stop where
  /-- It is no command line of this program. -/
  | misuse
  /-- It asks for the version of a command. -/
  | version (command : String)
  /-- It asks for help. -/
  | help
  deriving DecidableEq, Repr

/-! ## Reading -/

/-- What has been read of a command line. -/
structure Reading (α : Type) where
  /-- The command so far, its words joined by dashes. -/
  name : String
  menu : Menu α
  /-- What has been given to the groups that the command is in, innermost first. -/
  outer : List Given := []
  given : Given := {}
  /-- The option whose value comes next. -/
  pending : Option OptionRule := none
  onlyOperands : Bool := false
  /-- Whether help is asked for, so that only names of commands may follow. -/
  helping : Bool := false

namespace Reading

variable {α : Type}

/-- The options that may come next. -/
def options (common : List OptionRule) (r : Reading α) : List OptionRule :=
  match r.menu with
  | .command rule => rule.options ++ common
  | .group _ => common

/-- Takes the argument for an option. -/
def give (r : Reading α) (o : OptionRule) (v : Value) : Except Stop (Reading α) :=
  if r.given.has o.name && !o.taking.repeats then .error .misuse
  else .ok { r with given := r.given.add o.name v, pending := none }

/-- Takes the value of an option. -/
def giveText (r : Reading α) (o : OptionRule) (s : String) : Except Stop (Reading α) :=
  match o.taking.read? s with
  | some v => r.give o v
  | none => .error .misuse

/-- Takes an option whose value, if it needs one, follows here or comes next. -/
def takeOption (r : Reading α) (o : OptionRule) (attached : Option String) :
    Except Stop (Reading α) :=
  match o.taking, attached with
  | .nothing, none => r.give o .switch
  | .nothing, some _ => .error .misuse
  | _, some s => r.giveText o s
  | _, none => .ok { r with pending := some o }

/-- Takes an option by name, without its dashes. -/
def takeLong (common : List OptionRule) (r : Reading α) (cs : List Char) :
    Except Stop (Reading α) :=
  let name := String.ofList (cs.takeWhile (· ≠ '='))
  let attached := match cs.dropWhile (· ≠ '=') with
    | _ :: v => some (String.ofList v)
    | [] => none
  match (r.options common).find? (·.name = name) with
  | some o => r.takeOption o attached
  | none =>
    if attached.isSome then .error .misuse
    else if name = "version" then .error (.version r.name)
    else if name = "help" then .error .help
    else .error .misuse

/-- Takes options by letter. -/
def takeShort (common : List OptionRule) : (r : Reading α) → List Char → Except Stop (Reading α)
  | r, [] => .ok r
  | r, c :: rest => do
    match (r.options common).find? (·.letter = some c) with
    | some o =>
      if o.taking = .nothing then takeShort common (← r.give o .switch) rest
      else if rest.isEmpty then r.takeOption o none
      else r.giveText o (String.ofList (if rest.head? = some '=' then rest.tail else rest))
    | none =>
      if c = 'V' then throw (.version r.name)
      else if c = 'h' then throw .help
      else throw .misuse

/-- Takes an operand. -/
def takeOperand (r : Reading α) (s : String) : Except Stop (Reading α) :=
  match r.menu with
  | .group _ => .error .misuse
  | .command rule =>
    match rule.operand with
    | none => .error .misuse
    | some o =>
      if r.given.has o.name && !o.many then .error .misuse
      else match o.taking.read? s with
        | some v => .ok { r with given := r.given.add o.name v }
        | none => .error .misuse

/-- Takes a word that is no option. -/
def takeWord (r : Reading α) (s : String) : Except Stop (Reading α) :=
  match r.menu with
  | .command _ => r.takeOperand s
  | .group items =>
    match items.lookup s with
    | some menu => .ok { name := r.name ++ "-" ++ s, menu, outer := r.given :: r.outer }
    | none => if s = "help" then .ok { r with helping := true } else .error .misuse

/-- Takes the name of a command that help is asked for.  Every group has a command for help, which
has no commands of its own. -/
def takeTopic (r : Reading α) (s : String) : Except Stop (Reading α) :=
  match r.menu with
  | .command _ => .error .misuse
  | .group items =>
    match items.lookup s with
    | some menu => .ok { r with menu }
    | none =>
      if s = "help" && !items.isEmpty then .ok { r with menu := .group [] } else .error .misuse

/-- Takes an argument. -/
def step (common : List OptionRule) (r : Reading α) (arg : String) : Except Stop (Reading α) :=
  if r.helping then r.takeTopic arg
  else if r.onlyOperands then r.takeOperand arg
  else
    let isOption := match arg.toList with
      | '-' :: _ :: _ => true
      | _ => false
    match r.pending with
    | some o => if isOption then .error .misuse else r.giveText o arg
    | none =>
      match arg.toList with
      | ['-', '-'] => .ok { r with onlyOperands := true }
      | '-' :: '-' :: cs => r.takeLong common cs
      | '-' :: c :: cs => takeShort common r (c :: cs)
      | _ => r.takeWord arg

/-- What the command line asks for, with what has been given to the command and to the groups
it is in, innermost first. -/
def finish (r : Reading α) : Except Stop (α × List Given) :=
  match r.menu with
  | .group _ => .error (if r.helping then .help else .misuse)
  | .command rule =>
    if r.helping then .error .help
    else if r.pending.isSome ||
        rule.conflicts.any (fun c => r.given.has c.1 && r.given.has c.2) then
      .error .misuse
    else match rule.action r.given with
      | some a => .ok (a, r.given :: r.outer)
      | none => .error .misuse

end Reading

/-- Reads the arguments of a program. -/
def Menu.read {α : Type} (program : String) (common : List OptionRule) (menu : Menu α)
    (args : List String) : Except Stop (α × List Given) := do
  (← args.foldlM (Reading.step common) { name := program, menu }).finish

end EnvRegistry.CommandLine
