import EnvRegistry.Shell.Expression
import EnvRegistry.Shell.Utility.Output

/-! # Looking for lines -/

namespace EnvRegistry.Shell.Utility

open ShellM

/-- How lines are looked for. -/
structure Search where
  expression : Option Expression
  folded : Bool
  inverted : Bool

namespace Search

/-- A line as a subject. -/
def subject (s : Search) (line : String) : Expression.Subject :=
  { chars := line.toList.toArray, folded := s.folded }

/-- Whether a line is one of those that are looked for. -/
def selects (s : Search) (line : String) : Bool :=
  (s.expression.any fun e => (e.find? (s.subject line) 0).isSome) != s.inverted

/-- The parts of a line that are looked for. -/
def partsOf (s : Search) (line : String) : List String :=
  match s.expression with
  | none => []
  | some e =>
    let subject := s.subject line
    let parts := (e.allParts subject).filter fun p => p.first < p.last
    parts.map fun p => subject.between p.first p.last

/-- The expression for lines that look like one of some patterns. -/
def ofPatterns? (extended fixed words whole : Bool) (patterns : List String) :
    Except ExpressionFault (Option Expression) := do
  let read (p : String) : Except ExpressionFault Expression := do
    let e ← if fixed then pure (Expression.literal p)
      else Expression.ofText { extended } p
    return if whole then .sequence .textStart (.sequence e .textEnd)
      else if words then .sequence .noWordBefore (.sequence e .noWordAfter)
      else e
  match ← patterns.mapM read with
  | [] => return none
  | e :: es => return some (es.foldl .either e)

end Search

/-- What is said about a wrong use. -/
def grepUsage : String :=
  "Usage: grep [OPTION]... PATTERNS [FILE]...\nTry 'grep --help' for more information."

/-- The options of a search. -/
def grepRules : OptionRules where
  plain := "EFGPabHhicLlnoqRrsUvwxyzT"
  valued := "efmABC\x01\x02"
  long := [("extended-regexp", 'E'), ("fixed-strings", 'F'), ("basic-regexp", 'G'),
    ("ignore-case", 'i'), ("invert-match", 'v'), ("word-regexp", 'w'), ("line-regexp", 'x'),
    ("count", 'c'), ("files-without-match", 'L'), ("files-with-matches", 'l'), ("max-count", 'm'),
    ("only-matching", 'o'), ("quiet", 'q'), ("silent", 'q'), ("no-messages", 's'),
    ("with-filename", 'H'), ("no-filename", 'h'), ("line-number", 'n'), ("after-context", 'A'),
    ("before-context", 'B'), ("context", 'C'), ("recursive", 'r'), ("text", 'a'), ("regexp", 'e'),
    ("file", 'f'), ("include", '\x01'), ("exclude", '\x02')]

/-- The files below a path, in order. -/
def filesBelow (files : FileTree) (cwd : Place) : (fuel : Nat) → String → List String
  | 0, _ => []
  | fuel + 1, path =>
    match files.locate cwd (Raw.toText path) with
    | .error _ => [path]
    | .ok p =>
      if files.isDirectory p then
        (files.names p).flatMap fun n =>
          filesBelow files cwd fuel
            (if path.endsWith "/" then path ++ Raw.ofText n else path ++ "/" ++ Raw.ofText n)
      else [path]

/-- How deep directories can lie. -/
def deepest : Nat := 200

/-- What a search writes about the lines of a text. -/
def searchOutput (s : Search) (o : Options) (title : String) (text : String) : String × Nat :=
  let most := (o.value? 'm').bind Numeral.digits?
  let around (c : Char) : Nat :=
    (((o.value? c).or (o.value? 'C')).bind Numeral.digits?).getD 0
  let ls := (linesOf text).zipIdx
  let selected := ls.filter fun l => s.selects l.1
  let selected := match most with
    | some n => selected.take n
    | none => selected
  let count := selected.length
  let front (n : Nat) (mark : String) : String :=
    (if title.isEmpty then "" else title ++ mark) ++
      (if o.has 'n' then toString (n + 1) ++ mark else "")
  if o.has 'o' then
    let parts := selected.flatMap fun (line, n) =>
      (if s.inverted then [] else s.partsOf line).map fun p => front n ":" ++ p
    (ofLines parts, count)
  else
    let before := around 'B'
    let after := around 'A'
    if before = 0 && after = 0 then
      (ofLines (selected.map fun (line, n) => front n ":" ++ line), count)
    else
      let numbers := selected.map (·.2)
      let isNear (n : Nat) : Bool := numbers.any fun m => m ≤ n + before && n ≤ m + after
      let near := ls.filter fun l => isNear l.2
      let (rows, _) := near.foldl (fun ((rows : List String), (last : Option Nat)) (line, n) =>
        let row := front n (if numbers.contains n then ":" else "-") ++ line
        let gap := last.any fun m => m + 1 < n
        (row :: (if gap then "--" :: rows else rows), some n)) ([], none)
      (ofLines rows.reverse, count)

/-- The lines of files that look like an expression says: zero if there are any, otherwise one, and
two if a file cannot be read. -/
def grepWith (preset : List (Char × String)) : Utility := fun args => do
  let args := args.filter fun a => !(a.startsWith "--color" || a.startsWith "--colour")
  match grepRules.split args with
  | .error f =>
    complain ("grep: " ++ f.message ++ "\n" ++ grepUsage)
    return 2
  | .ok o =>
    let o := { o with taken := preset ++ o.taken }
    let given := o.values 'e'
    let lists ← (o.values 'f').mapM fun path => do return (path, ← readOperand path)
    for (path, r) in lists do
      if let .error f := r then return ← failFor "grep" path f 2
    let listed := lists.flatMap fun (_, r) => match r with
      | .ok text => linesOf text
      | .error _ => []
    let isGiven := o.has 'e' || o.has 'f'
    if !isGiven && o.operands.isEmpty then
      complain grepUsage
      return 2
    let (patterns, paths) := if isGiven then (given.flatMap (·.splitOn "\n") ++ listed, o.operands)
      else ((o.operands.headD "").splitOn "\n", o.operands.tail)
    let kind := (o.last? "EFGP").getD 'G'
    match Search.ofPatterns? (kind = 'E' || kind = 'P') (kind = 'F') (o.has 'w') (o.has 'x')
      patterns with
    | .error f => fail "grep" f.message 2
    | .ok expression =>
      let s : Search := { expression, folded := o.has 'i' || o.has 'y', inverted := o.has 'v' }
      let deep := o.has 'r' || o.has 'R'
      let state ← get
      let named (path : String) : Bool :=
        let name := (path.splitOn "/").getLastD ""
        let fits (glob : String) : Bool := (Pattern.ofText glob).accepts name.toList
        ((o.values '\x01').isEmpty || (o.values '\x01').any fits) && !(o.values '\x02').any fits
      let paths := if deep then
          (if paths.isEmpty then ["."] else paths).flatMap fun path =>
            let below := (filesBelow state.files state.cwd deepest path).filter named
            if o.operands.length ≤ (if isGiven then 0 else 1) then
              below.map fun p => String.ofList (p.toList.drop 2)
            else below
        else if paths.isEmpty then ["-"] else paths
      let titled := (1 < paths.length || deep || o.has 'H') && !o.has 'h'
      let quiet := o.has 'q'
      let statuses ← paths.mapM fun path => do
        let name := if path = "-" then "(standard input)" else path
        match ← readOperand path with
        | .error f =>
          unless o.has 's' do
            let _ ← fail "grep" (path ++ ": " ++ f.reason) 2
          return 2
        | .ok text =>
          let (shownText, count) := searchOutput s o (if titled then name else "") text
          let front := if titled then name ++ ":" else ""
          if quiet then pure ()
          else if o.has 'L' then if count = 0 then say (name ++ "\n")
          else if o.has 'l' then if 0 < count then say (name ++ "\n")
          else if o.has 'c' then say (front ++ toString count ++ "\n")
          else if text.contains '\x00' && !o.has 'a' && 0 < count then
            say ("grep: " ++ name ++ ": binary file matches\n")
          else say shownText
          let found := if o.has 'L' then count = 0 else 0 < count
          return if found then 0 else 1
      return if quiet && statuses.contains 0 then 0
        else if statuses.contains 2 then 2
        else if statuses.contains 0 then 0
        else 1

/-- Looks for lines. -/
def grep : Utility := grepWith []

/-- Looks for lines with an expression in which brackets and braces mean something. -/
def egrep : Utility := fun args => do
  complain "egrep: warning: egrep is obsolescent; using grep -E"
  grepWith [('E', "")] args

/-- Looks for lines with a text itself. -/
def fgrep : Utility := fun args => do
  complain "fgrep: warning: fgrep is obsolescent; using grep -F"
  grepWith [('F', "")] args

end EnvRegistry.Shell.Utility
