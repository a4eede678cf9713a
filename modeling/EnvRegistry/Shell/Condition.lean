import EnvRegistry.Shell.Numeral
import EnvRegistry.Shell.Program
import EnvRegistry.Shell.State

/-! # Conditions

    Texts, numbers and files compared by a command.  What an argument means depends on
    what follows: a word for a test is an operand if nothing is left for it to test. -/

namespace EnvRegistry.Shell.Condition

/-! ## Words of conditions -/

/-- Words that test the operand after them. -/
def unaryWords : List String :=
  ["-r", "-w", "-x", "-e", "-f", "-d", "-c", "-b", "-p", "-u", "-g", "-k", "-s", "-t", "-z", "-n",
   "-h", "-L", "-O", "-G", "-S"]

/-- Words that compare the operands around them. -/
def binaryWords : List String :=
  ["=", "!=", "<", ">", "-eq", "-ne", "-ge", "-gt", "-le", "-lt", "-nt", "-ot", "-ef"]

/-- What an argument is. -/
inductive Token where
  | operand
  | unary
  | binary
  | not
  | and
  | or
  | opening
  | closing
  | finish
  deriving DecidableEq, Repr

/-- What the first of some arguments is, seen by what follows it. -/
def token : List String → Token
  | [] => .finish
  | a :: rest =>
    if unaryWords.contains a then
      match rest with
      | [] => .operand
      | [_] => .unary
      | b :: _ :: _ => if binaryWords.contains b then .operand else .unary
    else if binaryWords.contains a then .binary
    else match a with
      | "!" => .not
      | "-a" => .and
      | "-o" => .or
      | "(" => if rest.isEmpty then .operand else .opening
      | ")" => .closing
      | _ => .operand

/-! ## Single conditions -/

/-- Why a condition neither holds nor fails. -/
inductive Fault where
  | noBracket
  | noArgument (operator : String)
  | unexpected (operator : String)
  | notClosed
  | noNumber (text : String)
  deriving DecidableEq, Repr

/-- The fault in words. -/
def Fault.message : Fault → String
  | .noBracket => "missing ]"
  | .noArgument o => o ++ ": argument expected"
  | .unexpected o => if o.isEmpty then "unexpected operator" else o ++ ": unexpected operator"
  | .notClosed => "closing paren expected"
  | .noNumber s => "Illegal number: " ++ s

/-- The number that an operand says. -/
def number (s : String) : Except Fault Int :=
  match Numeral.whole? false s with
  | some n => .ok n
  | none => .error (.noNumber s)

/-- Whether what a path leads to is a file that satisfies `p`. -/
def isFile (s : State) (path : String) (p : File → Bool) : Bool :=
  match s.files.locate s.cwd (Raw.toText path) with
  | .ok place => (s.files.fileAt? place).any p
  | .error _ => false

/-- The number of the file at a path. -/
def fileNumber? (s : State) (path : String) : Option Nat :=
  match s.files.find? s.cwd (Raw.toText path) with
  | some (.file n) => some n
  | _ => none

/-- Whether a file holds anything. -/
def isFilled (f : File) : Bool :=
  match f.content with
  | .database _ => true
  | c => !(rawContent c).isEmpty

/-- What a path leads to that is no file of the tree: a device, a channel or a program. -/
def stream? (s : State) (path : String) : Option Stream :=
  (ShellM.device? path).or do
    let n ← s.channels.lookup (← ShellM.channelPath? path)
    return (← s.streams[n]?).stream

/-- Whether a path leads to anything. -/
def leadsSomewhere (s : State) (path : String) : Bool :=
  s.files.exists? s.cwd (Raw.toText path) || (stream? s path).isSome || (Program.at? path).isSome

/-- Whether a path leads to a directory. -/
def isDirectory (s : State) (path : String) : Bool :=
  s.files.isDirectoryAt s.cwd (Raw.toText path) || Program.directories.contains path

/-- Whether a path is the name of a link. -/
def isLink (s : State) (path : String) : Bool :=
  match s.files.locateName s.cwd (Raw.toText path) with
  | .ok p =>
    match s.files.get? p with
    | some (.link _) => true
    | _ => false
  | .error _ => false

/-- A test of one operand. -/
def unary (s : State) (operator a : String) : Except Fault Bool := do
  let isDevice := (stream? s a).any fun t => t = .nowhere || t = .zeros || t = .full
  let isPipe := (stream? s a).any fun t => ({ stream := t } : OpenStream).isPipe
  let isProgram := (Program.at? a).isSome
  match operator with
  | "-n" => return !a.isEmpty
  | "-z" => return a.isEmpty
  | "-e" | "-r" | "-w" | "-O" | "-G" => return leadsSomewhere s a
  | "-f" => return isFile s a (fun _ => true) || isProgram
  | "-d" => return isDirectory s a
  | "-x" => return isDirectory s a || isProgram || isFile s a fun f => f.mode &&& 0o111 ≠ 0
  | "-s" => return isDirectory s a || isProgram || isFile s a isFilled
  | "-L" | "-h" => return isLink s a
  | "-p" => return isPipe
  | "-c" => return isDevice
  | "-u" => return isFile s a fun f => f.mode &&& 0o4000 ≠ 0
  | "-g" => return isFile s a fun f => f.mode &&& 0o2000 ≠ 0
  | "-k" => return isFile s a fun f => f.mode &&& 0o1000 ≠ 0
  | "-t" =>
    let _ ← number a
    return false
  | _ => return false

/-- A comparison of two operands. -/
def binary (s : State) (operator a b : String) : Except Fault Bool := do
  let numeric (compare : Int → Int → Bool) : Except Fault Bool :=
    return compare (← number a) (← number b)
  let written (path : String) : Option Nat := do
    return (← s.files.files.lookup (← fileNumber? s path)).written
  let later (a b : Option Nat) : Bool := match a, b with
    | some m, some n => n < m
    | _, _ => false
  match operator with
  | "=" => return a = b
  | "!=" => return a ≠ b
  | "<" => return a < b
  | ">" => return b < a
  | "-eq" => numeric (· = ·)
  | "-ne" => numeric (· ≠ ·)
  | "-lt" => numeric (· < ·)
  | "-le" => numeric (· ≤ ·)
  | "-gt" => numeric (· > ·)
  | "-ge" => numeric (· ≥ ·)
  | "-nt" => return later (written a) (written b)
  | "-ot" => return later (written b) (written a)
  | _ =>
    match s.files.locate s.cwd (Raw.toText a), s.files.locate s.cwd (Raw.toText b) with
    | .ok p, .ok q =>
      return (s.files.get? p).isSome &&
        (p = q || ((fileNumber? s a).isSome && fileNumber? s a = fileNumber? s b))
    | _, _ => return false

/-! ## Whole conditions -/

/-- The arguments after the first one. -/
def later (args : List String) : List String := args.drop 1

section

variable (s : State)

mutual

/-- A condition of which one part has to hold.  Gives the arguments from the last one that belongs
to it. -/
def anyOf : (fuel : Nat) → Token → List String → Except Fault (Bool × List String)
  | 0, _, args => return (false, args)
  | fuel + 1, t, args => do
    let (first, args) ← allOf fuel t args
    if token (later args) = .or then
      let args := later (later args)
      let (second, args) ← anyOf fuel (token args) args
      return (first || second, args)
    return (first, args)

/-- A condition of which all parts have to hold. -/
def allOf : (fuel : Nat) → Token → List String → Except Fault (Bool × List String)
  | 0, _, args => return (false, args)
  | fuel + 1, t, args => do
    let (first, args) ← negatable fuel t args
    if token (later args) = .and then
      let args := later (later args)
      let (second, args) ← allOf fuel (token args) args
      return (first && second, args)
    return (first, args)

/-- A condition that may be negated. -/
def negatable : (fuel : Nat) → Token → List String → Except Fault (Bool × List String)
  | 0, _, args => return (false, args)
  | fuel + 1, t, args => do
    if t ≠ .not then return ← single fuel t args
    let next := token (later args)
    let (b, args) ← negatable fuel next (if next = .finish then args else later args)
    return (!b, args)

/-- A single condition, or one in brackets. -/
def single : (fuel : Nat) → Token → List String → Except Fault (Bool × List String)
  | 0, _, args => return (false, args)
  | fuel + 1, t, args => do
    match t with
    | .finish => return (false, args)
    | .opening =>
      let inner := later args
      if token inner = .closing then return (false, inner)
      let (b, args) ← anyOf fuel (token inner) inner
      if token (later args) ≠ .closing then throw .notClosed
      return (b, later args)
    | .unary =>
      match args with
      | o :: a :: rest => return (← unary s o a, a :: rest)
      | _ => throw (.noArgument (args.headD ""))
    | _ =>
      match args with
      | a :: o :: rest =>
        if token (o :: rest) = .binary then
          match rest with
          | b :: rest => return (← binary s o a b, b :: rest)
          | [] => throw (.noArgument o)
        return (!a.isEmpty, args)
      | _ => return (!(args.headD "").isEmpty, args)

end

/-- Whether a condition holds whose first argument is known. -/
def whole (t : Token) (args : List String) : Except Fault Bool := do
  let (b, rest) ← anyOf s (4 * args.length + 4) t args
  match rest with
  | a :: _ :: _ => throw (.unexpected a)
  | _ => return b

/-- Whether a condition holds. -/
def holds (args : List String) : Except Fault Bool := do
  match args with
  | [] => return false
  | [_, o, _] =>
    if binaryWords.contains o then whole s .operand args else bracketed args
  | [_, _, _, _] => bracketed args
  | _ => whole s (token args) args
where
  /-- The same for conditions that may stand in brackets or be negated as a whole. -/
  bracketed (args : List String) : Except Fault Bool := do
    match args with
    | "(" :: rest =>
      if rest.getLast? = some ")" then
        let inner := rest.dropLast
        whole s (token inner) inner
      else whole s (token args) args
    | "!" :: rest =>
      match rest with
      | [_, o, _] =>
        if binaryWords.contains o then return !(← whole s .operand rest)
        else return !(← whole s (token rest) rest)
      | _ => return !(← whole s (token rest) rest)
    | _ => whole s (token args) args

end

end EnvRegistry.Shell.Condition
