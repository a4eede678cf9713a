import EnvRegistry.Shell.Expression
import EnvRegistry.Shell.Utility.Basic

/-! # Calculations with arguments

    Every argument is an operand or an operator: numbers are added and compared, and
    texts are compared, measured and cut. -/

namespace EnvRegistry.Shell.Utility

open ShellM

namespace Calculation

/-- Why a calculation has no result. -/
inductive Fault where
  | noOperand
  | missingAfter (word : String)
  | unexpected (word : String)
  | expectedBracketAfter (word : String)
  | noInteger
  | divisionByZero
  | expression (f : ExpressionFault)

/-- The fault in words. -/
def Fault.message : Fault → String
  | .noOperand => "missing operand\nTry 'expr --help' for more information."
  | .missingAfter w => "syntax error: missing argument after " ++ quoted w
  | .unexpected w => "syntax error: unexpected argument " ++ quoted w
  | .expectedBracketAfter w => "syntax error: expecting ')' after " ++ quoted w
  | .noInteger => "non-integer argument"
  | .divisionByZero => "division by zero"
  | .expression f => f.message

/-- Arguments that are left, and the one before them. -/
structure Tape where
  rest : List String
  last : String := ""

/-- A step of a calculation. -/
abbrev CalcM := StateT Tape (Except Fault)

/-- The next argument. -/
def peek : CalcM (Option String) := return (← get).rest.head?

/-- Passes over the next argument. -/
def skip : CalcM Unit := modify fun t => { rest := t.rest.tail, last := t.rest.headD t.last }

/-- The whole number that a text says. -/
def integer? (s : String) : Option Int :=
  match s.toList with
  | '-' :: ds => (Numeral.digits? (String.ofList ds)).map fun n => -(n : Int)
  | _ => (Numeral.digits? s).map Int.ofNat

/-- Whether a result counts as nothing. -/
def isNull (s : String) : Bool :=
  let ds := match s.toList with
    | '-' :: ds => ds
    | ds => ds
  s.isEmpty || (!ds.isEmpty && ds.all (· = '0'))

/-- The number of a text, which has to be one unless the result does not matter. -/
def number (live : Bool) (s : String) : CalcM Int :=
  match integer? s with
  | some n => return n
  | none => if live then throw .noInteger else return 0

/-- What a text looks like from its start on: the first group, or how much of it. -/
def matchStart (live : Bool) (text pattern : String) : CalcM String := do
  match Expression.ofText { extended := false } pattern with
  | .error f => if live then throw (.expression f) else return ""
  | .ok e =>
    let subject : Expression.Subject := { chars := text.toList.toArray }
    let grouped := (pattern.splitOn "\\(").length > 1
    match e.start? subject with
    | some p => return if grouped then p.group subject 1 else toString (p.last - p.first)
    | none => return if grouped then "" else "0"

/-- What an operator makes of two operands. -/
def combine (live : Bool) (operator a b : String) : CalcM String := do
  match operator with
  | "+" => return toString ((← number live a) + (← number live b))
  | "-" => return toString ((← number live a) - (← number live b))
  | "*" => return toString ((← number live a) * (← number live b))
  | "/" | "%" =>
    let m ← number live a
    let n ← number live b
    if n = 0 then
      if live then throw .divisionByZero
      return "0"
    return toString (if operator = "/" then Int.tdiv m n else Int.tmod m n)
  | ":" => matchStart live a b
  | _ =>
    let order := match integer? a, integer? b with
      | some m, some n => compare m n
      | _, _ => compare a b
    let holds : Bool := match operator with
      | "<" => order = .lt
      | "<=" => order ≠ .gt
      | "=" | "==" => order = .eq
      | "!=" => order ≠ .eq
      | ">=" => order ≠ .lt
      | _ => order = .gt
    return if holds then "1" else "0"

/-- The operators between two operands, those that bind least first. -/
def levels : List (List String) :=
  [["|"], ["&"], ["<", "<=", "=", "==", "!=", ">=", ">"], ["+", "-"], ["*", "/", "%"], [":"]]

mutual

/-- Works out operands joined by the operators of a level and those that bind more. -/
def level : (fuel : Nat) → (live : Bool) → (n : Nat) → CalcM String
  | 0, _, _ => do throw (.missingAfter (← get).last)
  | fuel + 1, live, n => do
    match levels[n]? with
    | none => operand fuel live
    | some operators =>
      let first ← level fuel live (n + 1)
      following fuel live n operators first

/-- Goes on after an operand. -/
def following : (fuel : Nat) → (live : Bool) → (n : Nat) → List String → String → CalcM String
  | 0, _, _, _, a => return a
  | fuel + 1, live, n, operators, a => do
    match (← peek).filter operators.contains with
    | none => return a
    | some o =>
      skip
      match o with
      | "|" =>
        let b ← level fuel (live && isNull a) (n + 1)
        let result := if !isNull a then a else if isNull b then "0" else b
        following fuel live n operators result
      | "&" =>
        let b ← level fuel (live && !isNull a) (n + 1)
        following fuel live n operators (if isNull a || isNull b then "0" else a)
      | _ =>
        let b ← level fuel live (n + 1)
        let result ← combine live o a b
        following fuel live n operators result

/-- Works out an operand: an argument, a calculation in brackets, or a word with its operands. -/
def operand : (fuel : Nat) → (live : Bool) → CalcM String
  | 0, _ => do throw (.missingAfter (← get).last)
  | fuel + 1, live => do
    match ← peek with
    | none => throw (.missingAfter (← get).last)
    | some word =>
      skip
      match word with
      | "(" =>
        let inner ← level fuel live 0
        if (← peek) ≠ some ")" then
          match ← peek with
          | none => throw (.expectedBracketAfter (← get).last)
          | some w => throw (.unexpected w)
        skip
        return inner
      | ")" => throw (.unexpected ")")
      | "+" =>
        match ← peek with
        | none => throw (.missingAfter "+")
        | some w =>
          skip
          return w
      | "length" => return toString (← operand fuel live).length
      | "match" =>
        let text ← operand fuel live
        matchStart live text (← operand fuel live)
      | "index" =>
        let text ← operand fuel live
        let chars ← operand fuel live
        return toString ((text.toList.findIdx? chars.toList.contains).map (· + 1) |>.getD 0)
      | "substr" =>
        let text ← operand fuel live
        let first ← operand fuel live
        let size ← operand fuel live
        match integer? first, integer? size with
        | some i, some n =>
          if i ≤ 0 || n ≤ 0 then return ""
          return String.ofList ((text.toList.drop (i.toNat - 1)).take n.toNat)
        | _, _ => return ""
      | _ => return word

end

/-- The result of a calculation. -/
def result (args : List String) : Except Fault String := do
  if args.isEmpty then throw .noOperand
  let (r, t) ← (level (16 * args.length + 16) true 0).run { rest := args }
  match t.rest with
  | [] => return r
  | w :: _ => throw (.unexpected w)

end Calculation

/-- The result of a calculation; its status is one if the result counts as nothing. -/
def expr : Utility := fun args => do
  match Calculation.result (if args.head? = some "--" then args.tail else args) with
  | .ok r =>
    say (r ++ "\n")
    return if Calculation.isNull r then 1 else 0
  | .error f => fail "expr" f.message 2

end EnvRegistry.Shell.Utility
