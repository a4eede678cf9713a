import EnvRegistry.Shell.Awk.Machine

/-! # Running programs on records

    The rules of a program are tried on every record.  Before the first record and after
    the last one, the rules that are meant for these places are run. -/

namespace EnvRegistry.Shell.Awk

open ShellM Fraction

/-! ## Formats -/

/-- The whole number nearest to zero from a value, kept within 64 bits. -/
def wholeOf (x : Binary64) : Int :=
  match x with
  | .finite negative y =>
    let n := if negative then -y.floor else y.floor
    max (Numeral.least + 1) (min (UInt64.size - 1) n)
  | .infinite false => UInt64.size - 1
  | _ => Numeral.least

/-- A value as a directive with a letter says. -/
def directed (d : Directive) (letter : Char) (numbers : String) (v : Value) : String :=
  let n := wholeOf v.toNumber
  let unsigned := n % UInt64.size
  String.ofList (match letter with
    | 's' => d.text (v.toText numbers)
    | 'c' =>
      match v with
      | .number _ => d.pad [Raw.char n.toNat]
      | v => d.pad ((v.toText numbers ++ "\x00").toList.take 1)
    | 'd' | 'i' => d.whole 10 false n
    | 'u' => d.whole 10 false unsigned
    | 'o' => d.whole 8 false unsigned
    | 'x' => d.whole 16 false unsigned
    | 'X' => d.whole 16 true unsigned
    | c => d.real c v.toNumber)

/-- What is wrong with a format, and what it has written before. -/
inductive FormatFault where
  | tooFew (before : String)
  | badLetter (before : String)

/-- The fault with something written before it. -/
def FormatFault.after (text : String) : FormatFault → FormatFault
  | .tooFew before => .tooFew (text ++ before)
  | .badLetter before => .badLetter (text ++ before)

/-- Writes values as a format says. -/
def formatted (numbers : String) : (fuel : Nat) → List Char → List Value →
    Except FormatFault String
  | 0, _, _ => .ok ""
  | _, [], _ => .ok ""
  | fuel + 1, c :: rest, vs => do
    let onward (text : String) (rest : List Char) (vs : List Value) :
        Except FormatFault String :=
      match formatted numbers fuel rest vs with
      | .ok later => .ok (text ++ later)
      | .error f => .error (f.after text)
    if c ≠ '%' then return ← onward (String.singleton c) rest vs
    if rest.head? = some '%' then return ← onward "%" rest.tail vs
    let (d, rest) := Directive.flags rest
    let measure (cs : List Char) (vs : List Value) :
        Except FormatFault (Int × List Char × List Value) :=
      match cs, vs with
      | '*' :: cs, v :: vs => return (wholeOf v.toNumber, cs, vs)
      | '*' :: _, [] => throw (.tooFew "")
      | cs, vs =>
        let ds := cs.takeWhile Char.isDigit
        return (Numeral.ofDigits 10 ds, cs.drop ds.length, vs)
    let (width, rest, vs) ← measure rest vs
    let d := d.withWidth width
    let (d, rest, vs) ← match rest with
      | '.' :: rest => do
        let (n, rest, vs) ← measure rest vs
        pure (d.withPrecision n, rest, vs)
      | rest => pure (d, rest, vs)
    let rest := rest.dropWhile fun c => c = 'l' || c = 'h'
    match rest with
    | [] => throw (.badLetter "")
    | letter :: rest =>
      if "sdicuoxXeEfFgG".contains letter then
        match vs with
        | [] => throw (.tooFew "")
        | v :: vs => onward (directed d letter numbers v) rest vs
      else throw (.badLetter "")

/-- Writes values as the first of them says. -/
def formattedText (name : String) (vs : List Value) : AwkM String := do
  let pattern ← textOf (vs.headD .unset)
  match formatted (← format) (pattern.length + 1) pattern.toList vs.tail with
  | .ok s => return s
  | .error (.tooFew before) => do
    if name = "printf" then put before
    fault ("not enough arguments passed to " ++ name ++ "(\"" ++ pattern ++ "\")")
  | .error (.badLetter before) => do
    if name = "printf" then put before
    fault ("bad conversion in " ++ name ++ "(\"" ++ pattern ++ "\")")

/-! ## Texts -/

/-- What is put in the place of a text that was found. -/
def replacement (found : String) : List Char → String
  | '\\' :: '\\' :: '&' :: rest => "\\" ++ found ++ replacement found rest
  | '\\' :: '&' :: rest => "&" ++ replacement found rest
  | '&' :: rest => found ++ replacement found rest
  | c :: rest => String.singleton c ++ replacement found rest
  | [] => ""

/-- A text with something in the place of parts of it, from a place on. -/
def replaceParts (new : String) (subject : Expression.Subject) (place : Nat) :
    List Expression.Part → String
  | [] => subject.between place subject.chars.size
  | p :: rest =>
    subject.between place p.first ++ replacement (subject.between p.first p.last) new.toList ++
      replaceParts new subject p.last rest

/-- A part of a text that starts at a place, counted from one, and has a length. -/
def part (s : String) (start : Binary64) (length : Option Binary64) : String :=
  let size : Int := s.length
  let bounded (x : Binary64) : Int :=
    match x with
    | .finite _ _ => max (-1) (min (size + 1) (roundToEven x.toRat))
    | .infinite negative => if negative then -1 else size + 1
    | .notANumber => 0
  let first := bounded start
  let last := match length with
    | some n => bounded (start.add n)
    | none => size + 1
  let first := max 1 first
  if last ≤ first then ""
  else String.ofList ((s.toList.drop (first - 1).toNat).take (last - first).toNat)

/-- The place of a text in another one, counted from one, or zero. -/
def placeIn (wanted : List Char) : (place : Nat) → List Char → Nat
  | place, [] => if wanted.isEmpty then place else 0
  | place, c :: rest =>
    if wanted.isPrefixOf (c :: rest) then place else placeIn wanted (place + 1) rest

/-- The arithmetic of two numbers. -/
def Arithmetic.apply (a : Arithmetic) (x y : Binary64) : Binary64 :=
  match a with
  | .add => x.add y
  | .subtract => x.subtract y
  | .multiply => x.multiply y
  | .divide => x.divide y
  | .remainder => x.remainder y
  | .power => x.power y

/-- The number after another one in a sequence without a rule that is easily seen. -/
def nextSeed (n : Nat) : Nat := (n * 1103515245 + 12345) % (UInt32.size / 2)

/-! ## Places -/

/-- Something that can be assigned to. -/
inductive Spot where
  | variable (name : String)
  | field (number : Nat)
  /-- A value in the table with a number. -/
  | entry (table : Nat) (isNumber : Bool) (key : String)
  | nowhere

/-- The value that is there. -/
def Spot.read : Spot → AwkM Value
  | .variable name => namedValue name
  | .field n => Awk.field n
  | .entry n isNumber key => do
    let (v, t) := (← table n).get isNumber key
    setTable n t
    return v
  | .nowhere => return .unset

/-- Puts a value there. -/
def Spot.write (v : Value) : Spot → AwkM Unit
  | .variable name => setVariable name v
  | .field n => setField n v
  | .entry n isNumber key => do setTable n ((← table n).set isNumber key v)
  | .nowhere => return

/-! ## Terms and statements -/

mutual

/-- The value of a term. -/
def value : (fuel : Nat) → Term → AwkM Value
  | 0, _ => inShell (throw .exhausted)
  | fuel + 1, t => do
    match t with
    | .number x => return .number x
    | .text s => return .text s
    | .looks e =>
      let s ← textOf (← get).record
      return .ofBool (e.find? { chars := s.toList.toArray } 0).isSome
    | .variable _ | .field _ | .entry _ _ => do (← spotOf fuel t).read
    | .assign target new =>
      let spot ← spotOf fuel target
      let v ← value fuel new
      spot.write v
      return v
    | .update a target new =>
      let spot ← spotOf fuel target
      let y ← numberOfTerm fuel new
      let v := Value.number (a.apply (← spot.read).toNumber y)
      spot.write v
      return v
    | .step before up target =>
      let spot ← spotOf fuel target
      let x := (← spot.read).toNumber
      let y := x.add (.ofRat (if up then 1 else -1))
      spot.write (.number y)
      return .number (if before then y else x)
    | .conditional test yes no =>
      if (← value fuel test).holds then value fuel yes else value fuel no
    | .both first second =>
      if (← value fuel first).holds then return .ofBool (← value fuel second).holds
      return .ofBool false
    | .either first second =>
      if (← value fuel first).holds then return .ofBool true
      return .ofBool (← value fuel second).holds
    | .not t => return .ofBool !(← value fuel t).holds
    | .negative t => return .number (← numberOfTerm fuel t).negate
    | .positive t => return .number (← numberOfTerm fuel t)
    | .arithmetic a first second =>
      let x ← numberOfTerm fuel first
      let y ← numberOfTerm fuel second
      return .number (a.apply x y)
    | .compare c first second =>
      let a ← value fuel first
      let b ← value fuel second
      return .ofBool (Value.compares (← format) c a b)
    | .joined first second =>
      let s ← textOfTerm fuel first
      return .text (s ++ (← textOfTerm fuel second))
    | .similar negated text pattern =>
      let s ← textOfTerm fuel text
      let e ← expressionOfTerm fuel pattern
      return .ofBool ((e.find? { chars := s.toList.toArray } 0).isSome != negated)
    | .within keys name =>
      let (isNumber, key) ← keyOf fuel keys
      let n ← tableOf name
      let t ← table n
      if t.has key then setTable n (t.touch isNumber key)
      return .ofBool (t.has key)
    | .call name arguments => call fuel name arguments
    | .function name arguments => apply fuel name arguments
    | .nextRecord target =>
      match target with
      | none =>
        match ← nextOfInput 1000000 with
        | some s => do
          setRecord (.ofInput s)
          return .ofNat 1
        | none => return .ofNat 0
      | some target =>
        let spot ← spotOf fuel target
        match ← nextOfInput 1000000 with
        | some s => do
          spot.write (.ofInput s)
          return .ofNat 1
        | none => return .ofNat 0
    | .nextOfFile target path => nextInto fuel target false (← textOfTerm fuel path)
    | .nextOfCommand target command => nextInto fuel target true (← textOfTerm fuel command)

/-- Reads the next record of a file or command. -/
def nextInto : (fuel : Nat) → Option Term → (isCommand : Bool) → String → AwkM Value
  | 0, _, _, _ => inShell (throw .exhausted)
  | fuel + 1, target, isCommand, name => do
    match ← nextOf isCommand name with
    | .error () => return .number (.ofRat (-1))
    | .ok none => return .ofNat 0
    | .ok (some s) =>
      match target with
      | none => setRecord (.ofInput s)
      | some target => (← spotOf fuel target).write (.ofInput s)
      return .ofNat 1

/-- The value of a term as a number. -/
def numberOfTerm : (fuel : Nat) → Term → AwkM Binary64
  | 0, _ => inShell (throw .exhausted)
  | fuel + 1, t => return (← value fuel t).toNumber

/-- The value of a term as a text. -/
def textOfTerm : (fuel : Nat) → Term → AwkM String
  | 0, _ => inShell (throw .exhausted)
  | fuel + 1, t => do textOf (← value fuel t)

/-- The expression that a term stands for. -/
def expressionOfTerm : (fuel : Nat) → Term → AwkM Expression
  | 0, _ => inShell (throw .exhausted)
  | fuel + 1, t => do
    match t with
    | .looks e => return e
    | t => return patternOf (← textOfTerm fuel t)

/-- The key that terms make, and whether it is a whole number. -/
def keyOf : (fuel : Nat) → List Term → AwkM (Bool × String)
  | 0, _ => inShell (throw .exhausted)
  | fuel + 1, keys => do
    match keys with
    | [t] =>
      let v ← value fuel t
      match v with
      | .number x => return ((wholeText? x).isSome, ← textOf v)
      | v => return (false, ← textOf v)
    | keys =>
      let separator ← textOfVariable "SUBSEP"
      return (false, String.intercalate separator (← textsOf fuel keys))

/-- The values of terms. -/
def valuesOf : (fuel : Nat) → List Term → AwkM (List Value)
  | 0, _ => inShell (throw .exhausted)
  | _, [] => return []
  | fuel + 1, t :: rest => do
    let v ← value fuel t
    return v :: (← valuesOf fuel rest)

/-- The values of terms as texts. -/
def textsOf : (fuel : Nat) → List Term → AwkM (List String)
  | 0, _ => inShell (throw .exhausted)
  | fuel + 1, ts => do (← valuesOf fuel ts).mapM textOf

/-- What a term that can be assigned to stands for. -/
def spotOf : (fuel : Nat) → Term → AwkM Spot
  | 0, _ => inShell (throw .exhausted)
  | fuel + 1, t => do
    match t with
    | .variable name => return .variable name
    | .field index => return .field (← fieldNumber (← value fuel index))
    | .entry name keys =>
      let (isNumber, key) ← keyOf fuel keys
      return .entry (← tableOf name) isNumber key
    | _ => return .nowhere

/-- What functions are given for terms: names of tables stand for these. -/
def cellsOf : (fuel : Nat) → List Term → AwkM (List Cell)
  | 0, _ => inShell (throw .exhausted)
  | _, [] => return []
  | fuel + 1, t :: rest => do
    let c : Cell ← match t with
      | .variable name => do
        match ← cell? name with
        | some (.table n) => pure (Cell.table n)
        | some (.undecided n) => pure (Cell.undecided n)
        | some (.value .unset) | none =>
          if name = "NF" then pure (Cell.value (← namedValue name))
          else
            let n := (← get).nextTable
            modify fun m => { m with nextTable := n + 1 }
            setCell name (.undecided n)
            pure (Cell.undecided n)
        | some (.value v) => pure (Cell.value v)
      | t => pure (Cell.value (← value fuel t))
    return c :: (← cellsOf fuel rest)

/-- Calls a function of the program. -/
def call : (fuel : Nat) → String → List Term → AwkM Value
  | 0, _, _ => inShell (throw .exhausted)
  | fuel + 1, name, arguments => do
    match (← get).functions.find? fun f => f.name = name with
    | none => return .unset
    | some f =>
      let cells ← cellsOf fuel arguments
      let missing := List.replicate (f.parameters.length - cells.length) (Cell.value .unset)
      let outer := (← get).locals
      modify fun m => { m with locals := f.parameters.zip (cells ++ missing) }
      let inner : AwkM Value := do
        perform fuel f.body
        return .unset
      let v ← tryCatch inner fun l =>
        match l with
        | .giveBack v => return v
        | l => throw l
      modify fun m => { m with locals := outer }
      return v

/-- Applies a function that every program has. -/
def apply : (fuel : Nat) → String → Option (List Term) → AwkM Value
  | 0, _, _ => inShell (throw .exhausted)
  | fuel + 1, name, arguments => do
    let ts := arguments.getD []
    let number (f : Binary64 → Binary64) : AwkM Value := do
      match ts with
      | t :: _ => return .number (f (← numberOfTerm fuel t))
      | [] => return .number (f zero)
    let textArgument : AwkM String := do
      match ts with
      | t :: _ => textOfTerm fuel t
      | [] => textOf (← get).record
    match name, ts with
    | "length", [.variable v] =>
      match ← cell? v with
      | some (.table n) => return .ofNat (← table n).values.length
      | _ => return .ofNat (← textOfTerm fuel (.variable v)).length
    | "length", _ => return .ofNat (← textArgument).length
    | "index", [s, t] =>
      let s ← textOfTerm fuel s
      let t ← textOfTerm fuel t
      return .ofNat (placeIn t.toList 1 s.toList)
    | "substr", s :: start :: rest =>
      let s ← textOfTerm fuel s
      let start ← numberOfTerm fuel start
      let length ← match rest with
        | n :: _ => some <$> numberOfTerm fuel n
        | [] => pure none
      return .text (part s start length)
    | "split", s :: .variable name :: rest =>
      let s ← textOfTerm fuel s
      let texts ← match rest with
        | .looks e :: _ => pure (if s.isEmpty then [] else between e s)
        | t :: _ => pure (fieldsOf (← textOfTerm fuel t) false s)
        | [] => pure (fieldsOf (← textOfVariable "FS") false s)
      let n ← tableOf name
      setTable n (.ofList (texts.map Value.ofInput))
      return .ofNat texts.length
    | "sub", e :: new :: rest => replaceIn fuel false e new rest.head?
    | "gsub", e :: new :: rest => replaceIn fuel true e new rest.head?
    | "match", [s, e] =>
      let s ← textOfTerm fuel s
      let e ← expressionOfTerm fuel e
      match e.find? { chars := s.toList.toArray } 0 with
      | some p =>
        setVariable "RSTART" (.ofNat (p.first + 1))
        setVariable "RLENGTH" (.ofNat (p.last - p.first))
        return .ofNat (p.first + 1)
      | none =>
        setVariable "RSTART" (.ofNat 0)
        setVariable "RLENGTH" (.number (.ofRat (-1)))
        return .ofNat 0
    | "sprintf", ts => return .text (← formattedText "sprintf" (← valuesOf fuel ts))
    | "tolower", _ => return .text (← textArgument).toLower
    | "toupper", _ => return .text (← textArgument).toUpper
    | "int", _ => number Binary64.truncate
    | "sqrt", _ => number Binary64.squareRoot
    | "exp", _ => number Binary64.exp
    | "log", _ => number Binary64.log
    | "sin", _ => number Binary64.sine
    | "cos", _ => number Binary64.cosine
    | "atan2", [y, x] =>
      let y ← numberOfTerm fuel y
      return .number (y.angle (← numberOfTerm fuel x))
    | "rand", _ =>
      let n := nextSeed (← get).seed
      modify fun m => { m with seed := n }
      return .number (.ofRat ((n : Nat) / (UInt32.size / 2 : Nat)))
    | "srand", _ =>
      let old := (← get).seed
      let new ← match ts with
        | t :: _ => pure (← numberOfTerm fuel t).toRat.floor.toNat
        | [] => pure (old + 1)
      modify fun m => { m with seed := new }
      return .ofNat old
    | "close", [t] =>
      match ← close (← textOfTerm fuel t) with
      | some n => return .ofNat n
      | none => return .number (.ofRat (-1))
    | "system", [t] => return .ofNat (← runCommand (← textOfTerm fuel t))
    | "fflush", _ =>
      flush
      return .ofNat 0
    | _, _ => return .unset

/-- Puts something in the place of one part of a text, or of all parts that look so.  Gives how many
there are. -/
def replaceIn : (fuel : Nat) → (all : Bool) → (pattern new : Term) → (target : Option Term) →
    AwkM Value
  | 0, _, _, _, _ => inShell (throw .exhausted)
  | fuel + 1, all, pattern, new, target => do
    let e ← expressionOfTerm fuel pattern
    let new ← textOfTerm fuel new
    let target := target.getD (.field (.number zero))
    let spot ← spotOf fuel target
    let s ← if target.isPlace then textOf (← spot.read) else textOfTerm fuel target
    let subject : Expression.Subject := { chars := s.toList.toArray }
    let parts := if all then e.allParts subject else (e.find? subject 0).toList
    if !parts.isEmpty then spot.write (.text (replaceParts new subject 0 parts))
    return .ofNat parts.length

/-- Writes a text to where it is meant to go. -/
def putTo : (fuel : Nat) → Sink → String → AwkM Unit
  | 0, _, _ => inShell (throw .exhausted)
  | fuel + 1, sink, s => do
    match sink with
    | .output => put s
    | .file path => putFile false (← textOfTerm fuel path) s
    | .append path => putFile true (← textOfTerm fuel path) s
    | .command c => putCommand (← textOfTerm fuel c) s

/-- Runs a statement. -/
def perform : (fuel : Nat) → Statement → AwkM Unit
  | 0, _ => inShell (throw .exhausted)
  | fuel + 1, s => do
    match s with
    | .nothing => return
    | .value t =>
      let _ ← value fuel t
    | .write ts sink =>
      let ending ← textOfVariable "ORS"
      if ts.isEmpty then
        let record ← textOf (← get).record
        putTo fuel sink (record ++ ending)
      else
        let vs ← valuesOf fuel ts
        let numbers ← textOfVariable "OFMT"
        let texts := vs.map fun v => v.toText numbers
        putTo fuel sink (String.intercalate (← textOfVariable "OFS") texts ++ ending)
    | .format ts sink => do
      let text ← formattedText "printf" (← valuesOf fuel ts)
      putTo fuel sink text
    | .sequence first second =>
      perform fuel first
      perform fuel second
    | .conditional test yes no =>
      if (← value fuel test).holds then perform fuel yes else perform fuel no
    | .loop test body => repeatLoop fuel test body .nothing
    | .bodyFirst body test =>
      if ← turn fuel body then repeatLoop fuel test body .nothing
    | .counting start test step body =>
      perform fuel start
      repeatLoop fuel (test.getD (.number (.ofRat 1))) body step
    | .forKeys name source body =>
      let n ← tableOf source
      let (keys, t) := (← table n).keys
      setTable n t
      forKeys fuel name keys body
    | .leaveLoop => leave .leaveLoop
    | .nextTurn => leave .nextTurn
    | .nextRecord => leave .nextRecord
    | .nextFile => leave .nextFile
    | .exit status =>
      if let some t := status then
        let n := (← numberOfTerm fuel t).toRat.floor
        modify fun m => { m with status := (n % 256).toNat }
      leave .exit
    | .giveBack t =>
      match t with
      | some t => leave (.giveBack (← value fuel t))
      | none => leave (.giveBack .unset)
    | .delete name keys =>
      let n ← tableOf name
      match keys with
      | none => setTable n {}
      | some keys =>
        let (_, key) ← keyOf fuel keys
        setTable n ((← table n).erase key)

/-- Runs the body of a loop, and says whether the loop goes on. -/
def turn : (fuel : Nat) → Statement → AwkM Bool
  | 0, _ => inShell (throw .exhausted)
  | fuel + 1, body => do
    let once : AwkM Bool := do
      perform fuel body
      return true
    tryCatch once fun l =>
      match l with
      | .leaveLoop => return false
      | .nextTurn => return true
      | l => throw l

/-- Runs a body and a step as long as a test holds. -/
def repeatLoop : (fuel : Nat) → (test : Term) → (body step : Statement) → AwkM Unit
  | 0, _, _, _ => inShell (throw .exhausted)
  | fuel + 1, test, body, step => do
    if (← value fuel test).holds then
      if ← turn fuel body then
        perform fuel step
        repeatLoop fuel test body step

/-- Runs a body for every key. -/
def forKeys : (fuel : Nat) → (name : String) → List String → Statement → AwkM Unit
  | 0, _, _, _ => inShell (throw .exhausted)
  | _, _, [], _ => return
  | fuel + 1, name, key :: rest, body => do
    setVariable name (.text key)
    if ← turn fuel body then forKeys fuel name rest body

end

/-! ## Rules -/

/-- How many steps one below the other a program may take. -/
def patience : Nat := 1000000

/-- Runs what a rule says for the record; without anything, the record is written. -/
def Rule.fire (r : Rule) : AwkM Unit := perform patience (r.statement.getD (.write [] .output))

/-- Whether the rule with a number is for the record. -/
def Rule.isFor (r : Rule) (number : Nat) : AwkM Bool := do
  match r.pattern with
  | .atStart | .atEnd => return false
  | .always => return true
  | .test t => return (← value patience t).holds
  | .range first last =>
    let inside := (← get).ranges.contains number
    if !inside && !(← value patience first).holds then return false
    if (← value patience last).holds then
      modify fun m => { m with ranges := m.ranges.filter (· ≠ number) }
    else if !inside then modify fun m => { m with ranges := number :: m.ranges }
    return true

/-- Runs rules on the record; the first one has a number. -/
def fireRules (number : Nat) : List Rule → AwkM Unit
  | [] => return
  | r :: rest => do
    if ← r.isFor number then r.fire
    fireRules (number + 1) rest

/-- Runs the rules on all records. -/
def fireOnAll (rules : List Rule) : (fuel : Nat) → AwkM Unit
  | 0 => inShell (throw .exhausted)
  | fuel + 1 => do
    match ← nextOfInput 1000000 with
    | none => return
    | some s =>
      setRecord (.ofInput s)
      tryCatch (fireRules 0 rules) fun l =>
        match l with
        | .nextRecord => return
        | .nextFile => modify fun m => { m with input := none }
        | l => throw l
      fireOnAll rules fuel

/-- Runs a step, which the program may end.  Says whether it goes on. -/
def untilExit (m : AwkM Unit) : AwkM Bool := do
  let whole : AwkM Bool := do
    m
    return true
  tryCatch whole fun l =>
    match l with
    | .exit => return false
    | _ => return true

/-- Runs a program to its end, and gives its status. -/
def Program.run (p : Program) : AwkM Nat := do
  let isAtStart (r : Rule) : Bool := r.pattern matches .atStart
  let isAtEnd (r : Rule) : Bool := r.pattern matches .atEnd
  let first := p.rules.filter isAtStart
  let last := p.rules.filter isAtEnd
  let others := p.rules.filter fun r => !isAtStart r && !isAtEnd r
  let goesOn ← untilExit (first.forM Rule.fire)
  if goesOn && (!others.isEmpty || !last.isEmpty) then
    let _ ← untilExit (fireOnAll others patience)
  let _ ← untilExit (last.forM Rule.fire)
  let commands := (← get).commands
  commands.forM fun (c, text) => do
    let _ ← runOn c text
  flush
  return (← get).status

/-! ## The utility -/

/-- What is said of a wrong use. -/
def usage : String := "Usage: awk [Options] [Program] [file ...]"

/-- The options of the utility. -/
def rules : Utility.OptionRules where
  plain := ""
  valued := "Ffv"
  long := [("field-separator", 'F'), ("file", 'f'), ("assign", 'v')]
  mixed := false

/-- Works on records. -/
def awk (shell : String → ShellM Unit) : Utility := fun args =>
  Utility.withOptions "awk" 2 rules args fun o => do
    let mut texts : List String := []
    for path in o.values 'f' do
      match ← Utility.readOperand path with
      | .ok text => texts := texts ++ [text]
      | .error f =>
        return ← Utility.fail "awk" ("cannot open \"" ++ path ++ "\" (" ++ f.reason ++ ")") 2
    if texts.isEmpty && o.operands.isEmpty then return ← Utility.fail "awk" usage 2
    let (text, operands) := if texts.isEmpty then (o.operands.headD "", o.operands.tail)
      else (String.intercalate "\n" texts, o.operands)
    match Program.ofText text with
    | .error f => Utility.fail "awk" ("line " ++ toString f.line ++ ": " ++ f.text) 2
    | .ok p =>
      let environment := (← get).bindings.filterMap fun (name, v) =>
        if v.exported then v.value.map fun value => (name, Value.ofInput value) else none
      let arguments := ("awk" :: operands).zipIdx.map fun (a, n) =>
        (toString n, Value.ofInput a)
      let text (s : String) : Cell := .value (.text s)
      let start : Machine :=
        { functions := p.functions
          shell
          globals :=
            [("FS", text " "), ("OFS", text " "), ("ORS", text "\n"), ("RS", text "\n"),
             ("SUBSEP", text "\x1c"), ("CONVFMT", text "%.6g"), ("OFMT", text "%.6g"),
             ("FILENAME", text ""), ("NR", .value (.ofNat 0)), ("FNR", .value (.ofNat 0)),
             ("RSTART", .value (.ofNat 0)), ("RLENGTH", .value (.number (.ofRat (-1)))),
             ("ARGC", .value (.ofNat arguments.length)), ("ENVIRON", .table 0),
             ("ARGV", .table 1)]
          tables :=
            [(0, { values := environment, texts := environment.map (·.1), byText := true }),
             (1, { values := arguments, numbers := (arguments.map (·.1)).reverse })]
          nextTable := 2 }
      let whole : AwkM Nat := do
        for (letter, value) in o.taken do
          if letter = 'v' then
            let _ ← assignArgument value
          else if letter = 'F' then setVariable "FS" (.text (unescape value))
        p.run
      match ← (whole.run).run start with
      | (.ok status, _) => return status
      | (.error _, m) => do
        say m.output
        return m.status

end EnvRegistry.Shell.Awk
