import EnvRegistry.Shell.Arithmetic
import EnvRegistry.Shell.Builtin

/-! # Parameters

    What stands after a dollar sign: variables, the arguments of the shell one by one or
    together, and what the shell knows of itself. -/

namespace EnvRegistry.Shell

open ShellM

/-- The value of a parameter. -/
inductive Parameter where
  | missing
  | value (s : String)
  /-- All arguments; between quotes they are one text unless they stay `separate`. -/
  | arguments (separate : Bool)
  deriving DecidableEq, Repr

/-- What parts the arguments when they are put together: the first character that parts fields. -/
def argumentSeparator : ShellM String :=
  return String.ofList ((← separators).toList.take 1)

namespace Parameter

/-- The parameter of a name. -/
def named (name : String) : ShellM Parameter := do
  let s ← get
  let known (v : Option String) : Parameter := match v with
    | some v => .value v
    | none => .missing
  match name with
  | "?" => return .value (toString s.status)
  | "$" => return .value (toString s.number)
  | "#" => return .value (toString s.arguments.length)
  | "@" => return .arguments true
  | "*" => return .arguments false
  | "!" => return known (s.lastJob.map toString)
  | "-" => return .value (Builtin.lettersOn s)
  | "0" => return .value s.name
  | _ =>
    match Numeral.digits? name with
    | some 0 => return .value s.name
    | some n => return known s.arguments[n - 1]?
    | none => return known (← lookup? name)

/-- The value as one text. -/
def text (p : Parameter) : ShellM String := do
  match p with
  | .missing => return ""
  | .value s => return s
  | .arguments _ => return String.intercalate (← argumentSeparator) (← get).arguments

/-- Whether there is no value, or, if `orEmpty`, none but an empty one. -/
def isMissing (orEmpty : Bool) (p : Parameter) : ShellM Bool := do
  match p with
  | .missing => return true
  | .value s => return orEmpty && s.isEmpty
  | .arguments _ => return (← get).arguments.isEmpty || (orEmpty && (← p.text).isEmpty)

/-- Texts with borders between them. -/
def bordered : List String → List Expanded
  | [] => []
  | [s] => [.text true false s]
  | s :: rest => .text true false s :: .border :: bordered rest

/-- What a parameter stands for in a word, which is to fall into fields if `full`. -/
def expanded (full quoted : Bool) (p : Parameter) : ShellM (List Expanded) := do
  match p with
  | .arguments separate =>
    let arguments := (← get).arguments
    if full && quoted && separate then return bordered arguments
    if full && !quoted then
      return [.text false true
        (String.intercalate (String.singleton Gaps.argumentGap) arguments)]
    return [.text quoted (!quoted) (← p.text)]
  | _ => return [.text quoted (!quoted) (← p.text)]

end Parameter

/-! ## Home directories -/

/-- The home directory of a user; that of the one who is working if there is no name. -/
def home? (user : String) : ShellM (Option String) := do
  if user.isEmpty then lookup? "HOME"
  else if user = "root" then return some "/root"
  else return none

/-- The pieces of a text that may start with the name of a home directory; `isLast` says that
nothing follows it in the word. -/
def homePieces (isLast : Bool) (s : String) : ShellM Word := do
  let plain : Word := if s.isEmpty then [] else [.text false s]
  match s.toList with
  | '~' :: cs =>
    let user := cs.takeWhile (· ≠ '/')
    let rest := cs.dropWhile (· ≠ '/')
    if rest.isEmpty && !isLast then return plain
    match ← home? (String.ofList user) with
    | some path =>
      return .text true path :: (if rest.isEmpty then [] else [.text false (String.ofList rest)])
    | none => return plain
  | _ => return plain

/-- The pieces of a text in which every part after a colon may start with the name of a home
directory. -/
def homesPieces (isLast : Bool) : List String → ShellM Word
  | [] => return []
  | [s] => homePieces isLast s
  | s :: rest => do
    return (← homePieces true s) ++ [.text false ":"] ++ (← homesPieces isLast rest)

/-- A word with home directories in place of their names. -/
def withHomes (inAssignment : Bool) (w : Word) : ShellM Word := do
  let rec parts (first : Bool) : Word → ShellM Word
    | [] => return []
    | .text false s :: rest => do
      let isLast := rest.isEmpty
      let here ← if inAssignment then
          match s.splitOn ":" with
          | a :: as =>
            if first then homesPieces isLast (a :: as)
            else if as.isEmpty then pure [.text false s]
            else do
              let later ← homesPieces isLast as
              pure (.text false (a ++ ":") :: later)
          | [] => pure []
        else if first then homePieces isLast s
        else pure [.text false s]
      return here ++ (← parts false rest)
    | p :: rest => do return p :: (← parts false rest)
  if w.any fun p => (p matches .text false _) && ((bareText? [p]).getD "").contains '~' then
    parts true w
  else return w

/-! ## Arithmetic -/

/-- Works an expression out, and gives variables the values it gives them. -/
def calculate (expression : String) : ShellM Int := do
  let s ← get
  let value (name : String) : Except Arithmetic.Fault Int :=
    match (s.bindings.lookup name).bind Variable.value with
    | some v =>
      match Arithmetic.ofValue? v with
      | some n => .ok n
      | none => .error (.noNumber v)
    | none => .ok (if name = "LINENO" then s.line else 0)
  match Arithmetic.evaluate value expression with
  | .ok (n, assigned) =>
    assigned.reverse.forM fun v => assign v.1 (toString v.2)
    return n
  | .error f => refuse (f.message expression)

end EnvRegistry.Shell
