import EnvRegistry.Shell.Command
import EnvRegistry.Shell.Numeral

/-! # Arithmetic of expansions

    Whole numbers of 64 bits with the usual operators.  A comparison gives one or
    zero, and zero counts as false.  An expression can give variables values. -/

namespace EnvRegistry.Shell.Arithmetic

/-- A part of an expression. -/
inductive Token where
  | number (n : Nat)
  | name (s : String)
  | operator (s : String)
  /-- A character that is no part of an expression. -/
  | other (c : Char)
  deriving DecidableEq, Repr

/-- Why an expression has no value. -/
inductive Fault where
  | divisionByZero
  /-- An operand is missing. -/
  | noOperand
  /-- Something follows the expression. -/
  | notEnded
  /-- A bracket is not closed. -/
  | openBracket
  /-- The second half of a choice is missing. -/
  | noOtherwise
  /-- The value of a variable is no number. -/
  | noNumber (value : String)
  deriving DecidableEq, Repr

/-- What a fault of an expression says. -/
def Fault.message (expression : String) : Fault → String
  | .noNumber value => "Illegal number: " ++ value
  | f =>
    let reason := match f with
      | .divisionByZero => "division by zero"
      | .noOperand => "expecting primary"
      | .notEnded => "expecting EOF"
      | .openBracket => "expecting ')'"
      | _ => "expecting ':'"
    "arithmetic expression: " ++ reason ++ ": \"" ++ expression ++ "\""

/-- The number that the value of a variable says; a blank one says zero. -/
def ofValue? (s : String) : Option Int :=
  if s.toList.all Numeral.isSpace then some 0 else Numeral.whole? true s

/-- The operators between two operands and how strongly they bind. -/
def operators : List (String × Nat) :=
  [("||", 1), ("&&", 2), ("|", 3), ("^", 4), ("&", 5), ("==", 6), ("!=", 6), ("<=", 7), (">=", 7),
   ("<<", 8), (">>", 8), ("<", 7), (">", 7), ("+", 9), ("-", 9), ("*", 10), ("/", 10), ("%", 10)]

/-- The operators that give a variable a value, and what they do with its old one first. -/
def assignments : List (String × Option String) :=
  [("<<=", some "<<"), (">>=", some ">>"), ("+=", some "+"), ("-=", some "-"), ("*=", some "*"),
   ("/=", some "/"), ("%=", some "%"), ("&=", some "&"), ("|=", some "|"), ("^=", some "^"),
   ("=", none)]

/-- All operators, longer ones before those that they start with. -/
def allOperators : List String :=
  ["<<=", ">>=", "==", "!=", "<=", ">="] ++ assignments.map (·.1) ++ operators.map (·.1) ++
    ["(", ")", "!", "~", "?", ":"]

/-- Cuts an expression into its parts. -/
def tokens : (fuel : Nat) → List Char → List Token
  | 0, _ => []
  | _, [] => []
  | fuel + 1, c :: rest =>
    if c = ' ' || c = '\t' || c = '\n' then tokens fuel rest
    else if c.isDigit then
      match Numeral.natural? true (c :: rest) with
      | some (n, rest) => .number (min n (UInt64.size / 2 - 1)) :: tokens fuel rest
      | none => .other c :: tokens fuel rest
    else if isNameStart c then
      .name (String.ofList ((c :: rest).takeWhile isNameChar)) ::
        tokens fuel ((c :: rest).dropWhile isNameChar)
    else
      match allOperators.find? fun o => o.toList.isPrefixOf (c :: rest) with
      | some o => .operator o :: tokens fuel ((c :: rest).drop o.length)
      | none => .other c :: tokens fuel rest

/-- A number in 64 bits. -/
def wrap (n : Int) : Int := Int.bmod n UInt64.size

/-- The number for a truth value. -/
def truth (b : Bool) : Int := if b then 1 else 0

/-- A number as 64 bits. -/
def bits (n : Int) : Nat := (n % UInt64.size).toNat

/-- What an operator makes of two operands; a division by zero makes nothing. -/
def apply (operator : String) (a b : Int) : Option Int :=
  match operator with
  | "||" => some (truth (a ≠ 0 || b ≠ 0))
  | "&&" => some (truth (a ≠ 0 && b ≠ 0))
  | "|" => some (wrap (bits a ||| bits b : Nat))
  | "^" => some (wrap (bits a ^^^ bits b : Nat))
  | "&" => some (wrap (bits a &&& bits b : Nat))
  | "==" => some (truth (a = b))
  | "!=" => some (truth (a ≠ b))
  | "<=" => some (truth (a ≤ b))
  | ">=" => some (truth (a ≥ b))
  | "<" => some (truth (a < b))
  | ">" => some (truth (a > b))
  | "<<" => some (wrap (a * (Nat.pow 2 (b.toNat % 64) : Nat)))
  | ">>" => some (Int.fdiv a (Nat.pow 2 (b.toNat % 64) : Nat))
  | "+" => some (wrap (a + b))
  | "-" => some (wrap (a - b))
  | "*" => some (wrap (a * b))
  | "/" => if b = 0 then none else some (wrap (Int.tdiv a b))
  | "%" => if b = 0 then none else some (Int.tmod a b)
  | _ => none

/-- What is left of an expression, and the variables that have been given values. -/
structure Sheet where
  rest : List Token
  assigned : List (String × Int)

/-- A step of working an expression out. -/
abbrev WorkM := StateT Sheet (Except Fault)

namespace WorkM

/-- The next part. -/
def peek : WorkM (Option Token) := return (← get).rest.head?

/-- Passes over the next part. -/
def skip : WorkM Unit := modify fun s => { s with rest := s.rest.tail }

end WorkM

open WorkM

section

variable (value : String → Except Fault Int)

/-- The value of a variable; one that does not matter is not looked at. -/
def current (live : Bool) (name : String) : WorkM Int := do
  if !live then return 0
  match (← get).assigned.lookup name with
  | some n => return n
  | none => value name

/-- What an operator makes of two operands; one that does not matter makes no fault. -/
def combine (live : Bool) (operator : String) (a b : Int) : WorkM Int := do
  match apply operator a b with
  | some n => return n
  | none => if live then throw .divisionByZero else return 0

mutual

/-- Works out an expression that may give variables values; `live` says that it matters. -/
def assignment : (fuel : Nat) → (live : Bool) → WorkM Int
  | 0, _ => throw .noOperand
  | fuel + 1, live => do
    match (← get).rest with
    | .name name :: .operator o :: rest =>
      match assignments.lookup o with
      | none => choice fuel live
      | some before =>
        modify fun s => { s with rest }
        let b ← assignment fuel live
        let n ← match before with
          | some operator => combine live operator (← current value live name) b
          | none => pure b
        if live then modify fun s => { s with assigned := (name, n) :: s.assigned }
        return n
    | _ => choice fuel live

/-- Works out a choice between two expressions, or a single one. -/
def choice : (fuel : Nat) → (live : Bool) → WorkM Int
  | 0, _ => throw .noOperand
  | fuel + 1, live => do
    let test ← expression fuel live 0
    if (← peek) = some (.operator "?") then
      skip
      let yes ← assignment fuel (live && test ≠ 0)
      if (← peek) ≠ some (.operator ":") then throw .noOtherwise
      skip
      let no ← choice fuel (live && test = 0)
      return if test ≠ 0 then yes else no
    return test

/-- Works out operands joined by operators that bind at least as strongly as `least`. -/
def expression : (fuel : Nat) → (live : Bool) → (least : Nat) → WorkM Int
  | 0, _, _ => throw .noOperand
  | fuel + 1, live, least => do following fuel live least (← operand fuel live)

/-- Goes on after an operand. -/
def following : (fuel : Nat) → (live : Bool) → (least : Nat) → Int → WorkM Int
  | 0, _, _, a => return a
  | fuel + 1, live, least, a => do
    match ← peek with
    | some (.operator o) =>
      match operators.lookup o with
      | some strength =>
        if strength < least then return a
        skip
        let matters := match o with
          | "&&" => a ≠ 0
          | "||" => a = 0
          | _ => true
        let b ← expression fuel (live && matters) (strength + 1)
        following fuel live least (← combine live o a b)
      | none => return a
    | _ => return a

/-- Works out an operand. -/
def operand : (fuel : Nat) → (live : Bool) → WorkM Int
  | 0, _ => throw .noOperand
  | fuel + 1, live => do
    match ← peek with
    | some (.number n) =>
      skip
      return n
    | some (.name name) =>
      skip
      current value live name
    | some (.operator "(") =>
      skip
      let n ← assignment fuel live
      if (← peek) ≠ some (.operator ")") then throw .openBracket
      skip
      return n
    | some (.operator "-") =>
      skip
      return wrap (-(← operand fuel live))
    | some (.operator "+") =>
      skip
      operand fuel live
    | some (.operator "!") =>
      skip
      return truth ((← operand fuel live) = 0)
    | some (.operator "~") =>
      skip
      return -(← operand fuel live) - 1
    | _ => throw .noOperand

end

/-- The value of an expression, given those of the variables in it, and the variables that it gives
values, the last one first. -/
def evaluate (text : String) : Except Fault (Int × List (String × Int)) := do
  let ts := tokens text.length text.toList
  let (n, s) ← (assignment value (8 * ts.length + 16) true).run ⟨ts, []⟩
  if s.rest.isEmpty then return (n, s.assigned) else throw .notEnded

end

end EnvRegistry.Shell.Arithmetic
