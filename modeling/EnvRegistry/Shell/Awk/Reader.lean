import EnvRegistry.Shell.Awk.Token

/-! # Reading programs

    Terms are read by the strength of their signs: a sign that binds more strongly is read
    by a later one of the functions below. -/

namespace EnvRegistry.Shell.Awk

/-! ## Tokens -/

/-- What is left of a program. -/
structure Source where
  rest : List (Token × Nat)
  line : Nat := 1
  /-- How many braces and brackets are open. -/
  braces : Nat := 0
  brackets : Nat := 0
  inFunction : Bool := false
  /-- Whether there is a record to leave for the next one. -/
  hasRecord : Bool := false
  loops : Nat := 0
  /-- The functions that are called. -/
  called : List String := []

/-- A step of reading a program. -/
abbrev ReadM := StateT Source (Except ProgramFault)

/-- Says that the next token makes no sense. -/
def unexpected {α : Type} : ReadM α := do
  let s ← get
  let atLineEnd := "syntax error at or near end of line"
  match s.rest with
  | (t, line) :: _ =>
    if 0 < s.brackets && [.lineEnd, .sign "\x7d", .sign ";"].contains t then
      throw ⟨line, "missing ) near " ++ t.shown⟩
    if t = .sign "\x7d" && s.braces = 0 then
      throw ⟨line, "extra '\x7d'\nawk: line " ++ toString line ++ ": " ++ atLineEnd⟩
    throw ⟨line, "syntax error at or near " ++ t.shown⟩
  | [] =>
    if 0 < s.brackets then throw ⟨s.line, "missing ) near end of line"⟩
    if 0 < s.braces then throw ⟨s.line + 1, "missing \x7d near end of file"⟩
    throw ⟨s.line + 1, "syntax error at or near end of file"⟩

/-- The next token, which stays. -/
def peek : ReadM (Option Token) := return (← get).rest.head?.map (·.1)

/-- The token after the next one. -/
def peekSecond : ReadM (Option Token) := return (← get).rest.tail.head?.map (·.1)

/-- Passes over a token. -/
def skip : ReadM Unit := modify fun s =>
  match s.rest with
  | (_, line) :: rest => { s with rest, line }
  | [] => s

/-- Whether the next token is a sign. -/
def isSign (sign : String) : ReadM Bool := return (← peek) = some (.sign sign)

/-- Whether the next token is a keyword. -/
def isKeyword (word : String) : ReadM Bool := return (← peek) = some (.keyword word)

/-- Passes over a sign if it is the next token. -/
def takeSign (sign : String) : ReadM Bool := do
  if ← isSign sign then
    skip
    return true
  return false

/-- Passes over a keyword if it is the next token. -/
def takeKeyword (word : String) : ReadM Bool := do
  if ← isKeyword word then
    skip
    return true
  return false

/-- Passes over a sign that has to be the next token. -/
def needSign (sign : String) : ReadM Unit := do
  if !(← takeSign sign) then unexpected

/-- Passes over the ends of lines. -/
def skipLines : ReadM Unit := modify fun s =>
  { s with rest := s.rest.dropWhile fun t => t.1 = .lineEnd }

/-- Passes over the ends of lines and statements. -/
def skipEnds : ReadM Unit := modify fun s =>
  { s with rest := s.rest.dropWhile fun t => t.1 = .lineEnd || t.1 = .sign ";" }

/-- Reads between brackets. -/
def bracketed {α : Type} (m : ReadM α) : ReadM α := do
  needSign "("
  modify fun s => { s with brackets := s.brackets + 1 }
  let a ← m
  needSign ")"
  modify fun s => { s with brackets := s.brackets - 1 }
  return a

/-- The name that is the next token. -/
def needName : ReadM String := do
  match ← peek with
  | some (.name s) => do
    skip
    return s
  | _ => unexpected

/-- The expression for the text of a pattern. -/
def expressionOf (s : String) : Except ExpressionFault Expression :=
  Expression.ofText { extended := true, setEscapes := true } s

/-! ## Signs -/

/-- The comparison that a sign stands for. -/
def comparison? (inPrint : Bool) : Option Token → Option Comparison
  | some (.sign "<") => some .less
  | some (.sign "<=") => some .atMost
  | some (.sign "==") => some .equal
  | some (.sign "!=") => some .different
  | some (.sign ">") => if inPrint then none else some .greater
  | some (.sign ">=") => some .atLeast
  | _ => none

/-- What a sign of assignment does with the old value, apart from dropping it. -/
def update? : Option Token → Option Arithmetic
  | some (.sign "+=") => some .add
  | some (.sign "-=") => some .subtract
  | some (.sign "*=") => some .multiply
  | some (.sign "/=") => some .divide
  | some (.sign "%=") => some .remainder
  | some (.sign "^=") => some .power
  | _ => none

/-- Whether a term that is joined to the one before it starts with a token. -/
def startsTerm : Option Token → Bool
  | some (.number _ _) | some (.text _) | some (.pattern _) | some (.name _)
  | some (.callName _) | some (.function _) => true
  | some (.sign s) => ["$", "(", "++", "--"].contains s
  | _ => false

/-- Whether the brackets at the start of some tokens hold all that is written. -/
def holdsAll : (fuel depth : Nat) → List Token → Bool
  | 0, _, _ => false
  | _, _, [] => false
  | fuel + 1, depth, t :: rest =>
    if t = .sign "(" then holdsAll fuel (depth + 1) rest
    else if t = .sign ")" then
      if depth = 1 then
        match rest with
        | [] | .lineEnd :: _ => true
        | .sign s :: _ => [";", "\x7d", ">", ">>", "|"].contains s
        | _ => false
      else holdsAll fuel (depth - 1) rest
    else holdsAll fuel depth rest

mutual

/-- Reads a term; `inPrint` says that a sign of comparison may say where something is written. -/
def term : (fuel : Nat) → (inPrint : Bool) → ReadM Term
  | 0, _ => unexpected
  | fuel + 1, inPrint => do
    let first ← choice fuel inPrint
    if first.isPlace then
      if ← takeSign "=" then
        skipLines
        return .assign first (← term fuel inPrint)
      if let some a := update? (← peek) then
        skip
        skipLines
        return .update a first (← term fuel inPrint)
    return first

/-- Reads a term that may depend on a test. -/
def choice : (fuel : Nat) → (inPrint : Bool) → ReadM Term
  | 0, _ => unexpected
  | fuel + 1, inPrint => do
    let test ← disjunction fuel inPrint
    if ← takeSign "?" then
      skipLines
      let yes ← term fuel inPrint
      skipLines
      needSign ":"
      skipLines
      return .conditional test yes (← term fuel inPrint)
    return test

/-- Reads terms of which one is to hold. -/
def disjunction : (fuel : Nat) → (inPrint : Bool) → ReadM Term
  | 0, _ => unexpected
  | fuel + 1, inPrint => do moreDisjunction fuel inPrint (← conjunction fuel inPrint)

/-- Reads what follows a term of which one is to hold. -/
def moreDisjunction : (fuel : Nat) → (inPrint : Bool) → Term → ReadM Term
  | 0, _, _ => unexpected
  | fuel + 1, inPrint, first => do
    if ← takeSign "||" then
      skipLines
      moreDisjunction fuel inPrint (.either first (← conjunction fuel inPrint))
    else return first

/-- Reads terms that are all to hold. -/
def conjunction : (fuel : Nat) → (inPrint : Bool) → ReadM Term
  | 0, _ => unexpected
  | fuel + 1, inPrint => do moreConjunction fuel inPrint (← membership fuel inPrint)

/-- Reads what follows a term that is to hold. -/
def moreConjunction : (fuel : Nat) → (inPrint : Bool) → Term → ReadM Term
  | 0, _, _ => unexpected
  | fuel + 1, inPrint, first => do
    if ← takeSign "&&" then
      skipLines
      moreConjunction fuel inPrint (.both first (← membership fuel inPrint))
    else return first

/-- Reads whether tables have values. -/
def membership : (fuel : Nat) → (inPrint : Bool) → ReadM Term
  | 0, _ => unexpected
  | fuel + 1, inPrint => do moreMembership fuel (← similarity fuel inPrint)

/-- Reads what tables are to have a value for a term. -/
def moreMembership : (fuel : Nat) → Term → ReadM Term
  | 0, _ => unexpected
  | fuel + 1, first => do
    if ← takeKeyword "in" then moreMembership fuel (.within [first] (← needName))
    else return first

/-- Reads what texts look like. -/
def similarity : (fuel : Nat) → (inPrint : Bool) → ReadM Term
  | 0, _ => unexpected
  | fuel + 1, inPrint => do moreSimilarity fuel inPrint (← comparison fuel inPrint)

/-- Reads what a text is to look like. -/
def moreSimilarity : (fuel : Nat) → (inPrint : Bool) → Term → ReadM Term
  | 0, _, _ => unexpected
  | fuel + 1, inPrint, first => do
    if ← takeSign "~" then
      moreSimilarity fuel inPrint (.similar false first (← comparison fuel inPrint))
    else if ← takeSign "!~" then
      moreSimilarity fuel inPrint (.similar true first (← comparison fuel inPrint))
    else return first

/-- Reads a comparison. -/
def comparison : (fuel : Nat) → (inPrint : Bool) → ReadM Term
  | 0, _ => unexpected
  | fuel + 1, inPrint => do
    let first ← piped fuel (← joining fuel)
    match comparison? inPrint (← peek) with
    | some c =>
      skip
      return .compare c first (← joining fuel)
    | none => return first

/-- Reads how records of what a command writes are read. -/
def piped : (fuel : Nat) → Term → ReadM Term
  | 0, _ => unexpected
  | fuel + 1, first => do
    if (← isSign "|") && (← peekSecond) = some (.keyword "getline") then
      skip
      skip
      piped fuel (.nextOfCommand (← place? fuel) first)
    else return first

/-- Reads terms that are joined. -/
def joining : (fuel : Nat) → ReadM Term
  | 0 => unexpected
  | fuel + 1 => do moreJoining fuel (← sum fuel)

/-- Reads what is joined to a term. -/
def moreJoining : (fuel : Nat) → Term → ReadM Term
  | 0, _ => unexpected
  | fuel + 1, first => do
    if startsTerm (← peek) then moreJoining fuel (.joined first (← sum fuel)) else return first

/-- Reads a sum. -/
def sum : (fuel : Nat) → ReadM Term
  | 0 => unexpected
  | fuel + 1 => do moreSum fuel (← product fuel)

/-- Reads what is added to a term. -/
def moreSum : (fuel : Nat) → Term → ReadM Term
  | 0, _ => unexpected
  | fuel + 1, first => do
    if ← takeSign "+" then moreSum fuel (.arithmetic .add first (← product fuel))
    else if ← takeSign "-" then moreSum fuel (.arithmetic .subtract first (← product fuel))
    else return first

/-- Reads a product. -/
def product : (fuel : Nat) → ReadM Term
  | 0 => unexpected
  | fuel + 1 => do moreProduct fuel (← signed fuel)

/-- Reads what a term is multiplied with. -/
def moreProduct : (fuel : Nat) → Term → ReadM Term
  | 0, _ => unexpected
  | fuel + 1, first => do
    if ← takeSign "*" then moreProduct fuel (.arithmetic .multiply first (← signed fuel))
    else if ← takeSign "/" then moreProduct fuel (.arithmetic .divide first (← signed fuel))
    else if ← takeSign "%" then moreProduct fuel (.arithmetic .remainder first (← signed fuel))
    else return first

/-- Reads a term with signs before it. -/
def signed : (fuel : Nat) → ReadM Term
  | 0 => unexpected
  | fuel + 1 => do
    if ← takeSign "!" then return .not (← signed fuel)
    else if ← takeSign "-" then return .negative (← signed fuel)
    else if ← takeSign "+" then return .positive (← signed fuel)
    else power fuel

/-- Reads a power. -/
def power : (fuel : Nat) → ReadM Term
  | 0 => unexpected
  | fuel + 1 => do
    let first ← stepped fuel
    if ← takeSign "^" then
      let exponent ← if ← takeSign "-" then Term.negative <$> power fuel
        else if ← takeSign "+" then Term.positive <$> power fuel
        else if ← takeSign "!" then Term.not <$> power fuel
        else power fuel
      return .arithmetic .power first exponent
    return first

/-- Reads a term to which one may be added. -/
def stepped : (fuel : Nat) → ReadM Term
  | 0 => unexpected
  | fuel + 1 => do
    if ← takeSign "++" then return .step true true (← needPlace fuel)
    if ← takeSign "--" then return .step true false (← needPlace fuel)
    let t ← simple fuel
    if t.isPlace then
      if ← takeSign "++" then return .step false true t
      if ← takeSign "--" then return .step false false t
    return t

/-- Reads something that can be assigned to. -/
def needPlace : (fuel : Nat) → ReadM Term
  | 0 => unexpected
  | fuel + 1 => do
    let t ← simple fuel
    if t.isPlace then return t
    unexpected

/-- Reads something that can be assigned to, if the next token is the start of it. -/
def place? : (fuel : Nat) → ReadM (Option Term)
  | 0 => unexpected
  | fuel + 1 => do
    match ← peek with
    | some (.name _) | some (.sign "$") => return some (← simple fuel)
    | _ => return none

/-- Reads terms with commas between them. -/
def terms : (fuel : Nat) → (inPrint : Bool) → ReadM (List Term)
  | 0, _ => unexpected
  | fuel + 1, inPrint => do
    let first ← term fuel inPrint
    if ← takeSign "," then
      skipLines
      return first :: (← terms fuel inPrint)
    return [first]

/-- Reads the arguments of a function between brackets. -/
def arguments : (fuel : Nat) → ReadM (List Term)
  | 0 => unexpected
  | fuel + 1 => bracketed do
    skipLines
    if ← isSign ")" then return []
    terms fuel false

/-- Reads a term without signs between its parts. -/
def simple : (fuel : Nat) → ReadM Term
  | 0 => unexpected
  | fuel + 1 => do
    match ← peek with
    | some (.number x _) => do
      skip
      return .number x
    | some (.text s) => do
      skip
      return .text s
    | some (.pattern s) =>
      match expressionOf s with
      | .ok e => do
        skip
        return .looks e
      | .error f => do
        let words := "regular expression compile failed (" ++ f.message ++ ")\n" ++ s
        throw ⟨(← get).line, words⟩
    | some (.sign "$") => do
      skip
      if ← takeSign "++" then return .field (.step true true (← needPlace fuel))
      if ← takeSign "--" then return .field (.step true false (← needPlace fuel))
      if ← takeSign "-" then return .field (.negative (← simple fuel))
      if ← takeSign "+" then return .field (← simple fuel)
      return .field (← simple fuel)
    | some (.sign "(") => do
      let ts ← bracketed do
        skipLines
        let ts ← terms fuel false
        skipLines
        return ts
      match ts with
      | [t] => return t
      | ts =>
        if ← takeKeyword "in" then return .within ts (← needName)
        unexpected
    | some (.name s) => do
      skip
      if ← takeSign "[" then
        let keys ← terms fuel false
        needSign "]"
        return .entry s keys
      return .variable s
    | some (.callName s) => do
      skip
      modify fun source => { source with called := s :: source.called }
      return .call s (← arguments fuel)
    | some (.function s) => do
      skip
      if ← isSign "(" then return .function s (some (← arguments fuel))
      if s = "length" then return .function s none
      unexpected
    | some (.keyword "getline") => do
      skip
      let target ← place? fuel
      if ← takeSign "<" then return .nextOfFile target (← stepped fuel)
      return .nextRecord target
    | _ => unexpected

end

/-! ## Statements -/

/-- Reads the end of a statement. -/
def endStatement : ReadM Unit := do
  match ← peek with
  | some .lineEnd | some (.sign ";") => skip
  | some (.sign "\x7d") | none => return
  | _ => unexpected

/-- Reads where something is written to. -/
def sink (fuel : Nat) : ReadM Sink := do
  if ← takeSign ">" then return .file (← joining fuel)
  if ← takeSign ">>" then return .append (← joining fuel)
  if ← takeSign "|" then return .command (← joining fuel)
  return .output

/-- Reads what is written. -/
def written (fuel : Nat) : ReadM (List Term × Sink) := do
  let all : List Token := (← get).rest.map (·.1)
  let ts ← match all with
    | [] | .lineEnd :: _ => pure []
    | .sign s :: _ =>
      if [";", "\x7d", ">", ">>", "|"].contains s then pure []
      else if s = "(" && holdsAll (all.length + 1) 0 all then arguments fuel
      else terms fuel true
    | _ => terms fuel true
  return (ts, ← sink fuel)

/-- Reads a statement of one term or keyword, without its end. -/
def simpleStatement (fuel : Nat) : ReadM Statement := do
  match ← peek with
  | some (.keyword "print") => do
    skip
    let (ts, sink) ← written fuel
    return .write ts sink
  | some (.keyword "printf") => do
    skip
    let (ts, sink) ← written fuel
    if ts.isEmpty then unexpected
    return .format ts sink
  | some (.keyword "delete") => do
    skip
    let name ← needName
    if ← takeSign "[" then
      let keys ← terms fuel false
      needSign "]"
      return .delete name (some keys)
    return .delete name none
  | _ => return .value (← term fuel false)

mutual

/-- Reads a statement with its end. -/
def statement : (fuel : Nat) → ReadM Statement
  | 0 => unexpected
  | fuel + 1 => do
    let line := (← get).line
    let ended (s : Statement) : ReadM Statement := do
      endStatement
      return s
    let optional : ReadM (Option Term) := do
      match ← peek with
      | none | some .lineEnd | some (.sign ";") | some (.sign "\x7d") => return none
      | _ => some <$> term fuel false
    match ← peek with
    | some (.sign "\x7b") => block fuel
    | some (.sign ";") => do
      skip
      return .nothing
    | some (.keyword "if") => do
      skip
      let test ← bracketed (term fuel false)
      skipLines
      let yes ← statement fuel
      let before ← get
      skipEnds
      if ← takeKeyword "else" then
        skipLines
        return .conditional test yes (← statement fuel)
      set before
      return .conditional test yes .nothing
    | some (.keyword "while") => do
      skip
      let test ← bracketed (term fuel false)
      if ← takeSign ";" then return .loop test .nothing
      skipLines
      return .loop test (← body fuel)
    | some (.keyword "do") => do
      skip
      skipLines
      let inner ← body fuel
      skipEnds
      if !(← takeKeyword "while") then unexpected
      ended (.bodyFirst inner (← bracketed (term fuel false)))
    | some (.keyword "for") => do
      skip
      needSign "("
      modify fun s => { s with brackets := s.brackets + 1 }
      let closed : ReadM Unit := do
        needSign ")"
        modify fun s => { s with brackets := s.brackets - 1 }
        skipLines
      let coming : List Token := (← get).rest.map (·.1)
      match coming with
      | .name n :: .keyword "in" :: .name t :: .sign ")" :: _ =>
        skip
        skip
        skip
        closed
        return .forKeys n t (← body fuel)
      | _ =>
        let start ← if ← isSign ";" then pure .nothing else simpleStatement fuel
        needSign ";"
        skipLines
        let test ← if ← isSign ";" then pure none else some <$> term fuel false
        needSign ";"
        skipLines
        let step ← if ← isSign ")" then pure .nothing else simpleStatement fuel
        needSign ")"
        modify fun s => { s with brackets := s.brackets - 1 }
        if ← takeSign ";" then return .counting start test step .nothing
        skipLines
        return .counting start test step (← body fuel)
    | some (.keyword "next") => do
      skip
      if !(← get).hasRecord then throw ⟨line, "improper use of next"⟩
      ended .nextRecord
    | some (.keyword "nextfile") => do
      skip
      if !(← get).hasRecord then throw ⟨line, "improper use of nextfile"⟩
      ended .nextFile
    | some (.keyword "exit") => do
      skip
      ended (.exit (← optional))
    | some (.keyword "return") => do
      skip
      if !(← get).inFunction then throw ⟨line, "return outside function body"⟩
      ended (.giveBack (← optional))
    | some (.keyword "break") => do
      skip
      if (← get).loops = 0 then throw ⟨line, "break statement outside of loop"⟩
      ended .leaveLoop
    | some (.keyword "continue") => do
      skip
      if (← get).loops = 0 then throw ⟨line, "continue statement outside of loop"⟩
      ended .nextTurn
    | _ => do
      let s ← simpleStatement fuel
      ended s

/-- Reads the body of a loop. -/
def body : (fuel : Nat) → ReadM Statement
  | 0 => unexpected
  | fuel + 1 => do
    modify fun s => { s with loops := s.loops + 1 }
    let s ← statement fuel
    modify fun s => { s with loops := s.loops - 1 }
    return s

/-- Reads statements between braces. -/
def block : (fuel : Nat) → ReadM Statement
  | 0 => unexpected
  | fuel + 1 => do
    needSign "\x7b"
    modify fun s => { s with braces := s.braces + 1 }
    let s ← statements fuel
    needSign "\x7d"
    modify fun s => { s with braces := s.braces - 1 }
    return s

/-- Reads statements up to the end of a block. -/
def statements : (fuel : Nat) → ReadM Statement
  | 0 => unexpected
  | fuel + 1 => do
    skipEnds
    match ← peek with
    | some (.sign "\x7d") | none => return .nothing
    | _ =>
      let first ← statement fuel
      return .sequence first (← statements fuel)

end

/-! ## Programs -/

/-- Reads the names of the values that a function is given. -/
def parameters : (fuel : Nat) → ReadM (List String)
  | 0 => unexpected
  | fuel + 1 => do
    if ← isSign ")" then return []
    let name ← needName
    if ← takeSign "," then
      skipLines
      return name :: (← parameters fuel)
    return [name]

/-- Reads rules and functions. -/
def program : (fuel : Nat) → Program → ReadM Program
  | 0, _ => unexpected
  | fuel + 1, p => do
    skipEnds
    match ← peek with
    | none => return { rules := p.rules.reverse, functions := p.functions.reverse }
    | some (.keyword "function") =>
      skip
      let name ← match ← peek with
        | some (.name s) | some (.callName s) => do
          skip
          pure s
        | _ => unexpected
      let names ← bracketed (parameters fuel)
      skipLines
      modify fun s => { s with inFunction := true }
      let b ← block fuel
      modify fun s => { s with inFunction := false }
      program fuel { p with functions := ⟨name, names, b⟩ :: p.functions }
    | some t =>
      let pattern ← match t with
        | .keyword "BEGIN" => do
          skip
          pure Pattern.atStart
        | .keyword "END" => do
          skip
          pure .atEnd
        | .sign "\x7b" => pure .always
        | _ => do
          let first ← term fuel false
          if ← takeSign "," then
            skipLines
            pure (.range first (← term fuel false))
          else pure (.test first)
      let needsBlock := pattern matches .atStart | .atEnd
      if ← isSign "\x7b" then
        modify fun s => { s with hasRecord := !needsBlock }
        let b ← block fuel
        modify fun s => { s with hasRecord := false }
        program fuel { p with rules := ⟨pattern, some b⟩ :: p.rules }
      else if needsBlock then unexpected
      else
        match ← peek with
        | none | some .lineEnd | some (.sign ";") =>
          program fuel { p with rules := ⟨pattern, none⟩ :: p.rules }
        | _ => unexpected

/-- The program that a text is. -/
def Program.ofText (text : String) : Except ProgramFault Program := do
  let ts ← tokens (text.length + 1) 1 none text.toList
  let (p, s) ← (program (40 * ts.length + 100) {}).run { rest := ts }
  let defined := p.functions.map Function.name
  match s.called.reverse.find? fun name => !defined.contains name with
  | some name => throw ⟨s.line + 1, "function " ++ name ++ " never defined"⟩
  | none => return p

end EnvRegistry.Shell.Awk
