import EnvRegistry.Shell.Fraction.Binary64
import EnvRegistry.Shell.Field
import EnvRegistry.Shell.Utility.Output

/-! # Utilities that order, count, cut and join lines -/

namespace EnvRegistry.Shell.Utility

open ShellM

/-! ## Places in lines -/

/-- Places: from one to another, or to the end. -/
structure PlaceRange where
  first : Nat
  last : Option Nat

namespace PlaceRange

/-- Whether a place, counted from one, is one of some places. -/
def includes (rs : List PlaceRange) (n : Nat) : Bool :=
  rs.any fun r => r.first ≤ n && r.last.all (n ≤ ·)

/-- The places that a part of a list of places names. -/
def ofPart? (s : String) : Option PlaceRange :=
  match s.splitOn "-" with
  | [a] => (Numeral.digits? a).bind fun n => if n = 0 then none else some ⟨n, some n⟩
  | [a, b] =>
    let first := if a.isEmpty then some 1 else (Numeral.digits? a).filter (0 < ·)
    let last := if b.isEmpty then some none else (Numeral.digits? b).map some
    if a.isEmpty && b.isEmpty then none
    else do
      let first ← first
      let last ← last
      if last.any (· < first) then none else some ⟨first, last⟩
  | _ => none

/-- The places that a list of places names. -/
def ofText? (s : String) : Option (List PlaceRange) :=
  let s := String.ofList (s.toList.map fun c => if c = ' ' then ',' else c)
  (s.splitOn ",").mapM ofPart?

end PlaceRange

/-- What is wrong with a list of places. -/
def placeFault (fields : Bool) (s : String) : String :=
  let wrong := ((s.splitOn ",").find? fun p => (PlaceRange.ofPart? p).isNone).getD s
  let isPlaceChar := fun (c : Char) => c.isDigit || c = '-'
  if !wrong.toList.all isPlaceChar then
    "invalid " ++ (if fields then "field value " else "byte/character position ") ++
      quoted (String.ofList (wrong.toList.dropWhile isPlaceChar))
  else if wrong = "-" then "invalid range with no endpoint: -"
  else if wrong.isEmpty || wrong = "0" || wrong.startsWith "0-" then
    (if fields then "fields" else "byte/character positions") ++ " are numbered from 1"
  else "invalid decreasing range"

/-- Parts of the lines of files: bytes, or fields between delimiters. -/
def cut : Utility := fun args =>
  withOptions "cut" 1
    { plain := "nsz\x01", valued := "bcdf\x02"
      long := [("bytes", 'b'), ("characters", 'c'), ("delimiter", 'd'), ("fields", 'f'),
        ("only-delimited", 's'), ("complement", '\x01'), ("output-delimiter", '\x02')] }
    args fun o => do
    let lists := o.values 'b' ++ o.values 'c' ++ o.values 'f'
    let fields := o.has 'f'
    match lists with
    | [] => failUsage "cut" "you must specify a list of bytes, characters, or fields" 1
    | _ :: _ :: _ => failUsage "cut" "only one list may be specified" 1
    | [list] =>
      let delimiter := (o.value? 'd').getD "\t"
      if 1 < delimiter.length then
        return ← failUsage "cut" "the delimiter must be a single character" 1
      if !fields && o.has 'd' then
        return ← failUsage "cut"
          "an input delimiter may be specified only when operating on fields" 1
      if !fields && o.has 's' then
        return ← failUsage "cut"
          "suppressing non-delimited lines makes sense\n\tonly when operating on fields" 1
      match PlaceRange.ofText? list with
      | none => failUsage "cut" (placeFault fields list) 1
      | some ranges =>
        let wanted (n : Nat) : Bool := PlaceRange.includes ranges n != o.has '\x01'
        let d := delimiter.toList.headD '\x00'
        let kept (line : String) : Option String :=
          if fields then
            if line.contains d then
              let parts := (line.splitOn (String.singleton d)).zipIdx
              let left := parts.filter fun p => wanted (p.2 + 1)
              some (String.intercalate ((o.value? '\x02').getD (String.singleton d))
                (left.map (·.1)))
            else if o.has 's' then none
            else some line
          else
            let left := line.toList.zipIdx.filter fun p => wanted (p.2 + 1)
            some (String.ofList (left.map (·.1)))
        onInputs "cut" 1 o.operands fun _ text => do
          say (ofLines ((linesOf text).filterMap kept))
          return 0

/-! ## Order -/

/-- How keys are compared. -/
structure KeyOrder where
  numeric : Bool := false
  general : Bool := false
  human : Bool := false
  versions : Bool := false
  months : Bool := false
  folded : Bool := false
  dictionary : Bool := false
  printable : Bool := false
  reversed : Bool := false
  deriving DecidableEq

namespace KeyOrder

/-- The order that letters ask for. -/
def ofLetters (cs : List Char) : KeyOrder where
  numeric := cs.contains 'n'
  general := cs.contains 'g'
  human := cs.contains 'h'
  versions := cs.contains 'V'
  months := cs.contains 'M'
  folded := cs.contains 'f'
  dictionary := cs.contains 'd'
  printable := cs.contains 'i'
  reversed := cs.contains 'r'

end KeyOrder

/-- The number at the start of a text, zero if there is none, and what follows. -/
def leadingDecimal (cs : List Char) : Rat × List Char :=
  let cs := cs.dropWhile fun c => c = ' ' || c = '\t'
  let (negative, cs) := match cs with
    | '-' :: cs => (true, cs)
    | cs => (false, cs)
  let whole := cs.takeWhile Char.isDigit
  let rest := cs.dropWhile Char.isDigit
  let (places, rest) := match rest with
    | '.' :: rest => (rest.takeWhile Char.isDigit, rest.dropWhile Char.isDigit)
    | _ => ([], rest)
  let x : Rat := (Numeral.ofDigits 10 (whole ++ places) : Nat)
  let x := x * Fraction.power10 (-(places.length : Int))
  (if negative then -x else x, rest)

/-- Compares numbers. -/
def compareRat (a b : Rat) : Ordering := if a < b then .lt else if b < a then .gt else .eq

/-- The number of the month whose name a text starts with. -/
def monthOf (cs : List Char) : Nat :=
  let start := String.ofList
    (((cs.dropWhile fun c => c = ' ' || c = '\t').take 3).map Char.toUpper)
  (["JAN", "FEB", "MAR", "APR", "MAY", "JUN", "JUL", "AUG", "SEP", "OCT", "NOV",
    "DEC"].findIdx? (· = start)).map (· + 1) |>.getD 0

/-- The rank of the letter after a number. -/
def magnitude (c : Option Char) : Nat :=
  match c with
  | some c => (['K', 'M', 'G', 'T', 'P', 'E', 'Z', 'Y'].findIdx? (· = c.toUpper)).map (· + 1)
      |>.getD 0
  | none => 0

/-- The rank of a character among those of versions that are no digits. -/
def versionRank (c : Char) : Int :=
  if c = '~' then -1 else if c.isAlpha then c.toNat else (c.toNat : Int) + 256

/-- Compares versions: parts without digits and numbers in turn. -/
def compareVersions : (fuel : Nat) → List Char → List Char → Ordering
  | 0, _, _ => .eq
  | _, [], [] => .eq
  | fuel + 1, a, b =>
    let notDigit := fun (c : Char) => !c.isDigit
    let textA := (a.takeWhile notDigit).map versionRank
    let textB := (b.takeWhile notDigit).map versionRank
    let size := max textA.length textB.length
    let fill (t : List Int) : List Int := t ++ List.replicate (size - t.length) 0
    let numbersA := a.dropWhile notDigit
    let numbersB := b.dropWhile notDigit
    let number (cs : List Char) : Nat := Numeral.ofDigits 10 (cs.takeWhile Char.isDigit)
    (compare (fill textA) (fill textB)).then <|
      (compare (number numbersA) (number numbersB)).then
        (compareVersions fuel (numbersA.dropWhile Char.isDigit) (numbersB.dropWhile Char.isDigit))

/-- Compares keys without regard to the direction. -/
def KeyOrder.compareKeys (k : KeyOrder) (a b : String) : Ordering :=
  let plain (s : String) : List Char :=
    let cs := s.toList
    let cs := if k.dictionary then cs.filter fun c => c.isAlphanum || c = ' ' || c = '\t' else cs
    let cs := if k.printable then cs.filter fun c => ' ' ≤ c && c ≤ '~' else cs
    if k.folded then cs.map Char.toUpper else cs
  if k.numeric then compareRat (leadingDecimal a.toList).1 (leadingDecimal b.toList).1
  else if k.general then
    let value (s : String) : Rat := match Fraction.Binary64.leading? s.toList with
      | some (.finite negative x, _) => if negative then -x else x
      | some (.infinite negative, _) =>
        if negative then -Fraction.power10 400 else Fraction.power10 400
      | _ => -Fraction.power10 401
    compareRat (value a) (value b)
  else if k.human then
    let (x, restA) := leadingDecimal a.toList
    let (y, restB) := leadingDecimal b.toList
    let signed (x : Rat) (rest : List Char) : Int :=
      let m : Int := magnitude rest.head?
      if x < 0 then -m else m
    (compare (signed x restA) (signed y restB)).then (compareRat x y)
  else if k.months then compare (monthOf a.toList) (monthOf b.toList)
  else if k.versions then compareVersions (a.length + b.length + 1) a.toList b.toList
  else compare (String.ofList (plain a)) (String.ofList (plain b))

/-- A place in a line: a field, a character in it, and whether blanks before it do not count. -/
structure KeyPlace where
  field : Nat
  char : Option Nat
  skipsBlanks : Bool

/-- The part of a line by which it is put in order. -/
structure SortKey where
  first : KeyPlace
  last : Option KeyPlace
  order : KeyOrder
  /-- Whether the key has letters of its own. -/
  own : Bool

namespace SortKey

/-- Reads a place of a key and the letters after it, and gives what follows. -/
def place? (cs : List Char) : Option (KeyPlace × List Char × List Char) :=
  let ds := cs.takeWhile Char.isDigit
  if ds.isEmpty then none
  else
    let cs := cs.dropWhile Char.isDigit
    let (char, cs) := match cs with
      | '.' :: cs =>
        (some (Numeral.ofDigits 10 (cs.takeWhile Char.isDigit)), cs.dropWhile Char.isDigit)
      | cs => (none, cs)
    let letters := cs.takeWhile Char.isAlpha
    some (⟨Numeral.ofDigits 10 ds, char, letters.contains 'b'⟩, letters,
      cs.dropWhile Char.isAlpha)

/-- The key that a text says. -/
def ofText? (s : String) : Option SortKey := do
  let (first, letters, rest) ← place? s.toList
  if first.field = 0 then none
  match rest with
  | [] => return ⟨first, none, .ofLetters letters, !letters.isEmpty⟩
  | ',' :: rest =>
    let (last, more, rest) ← place? rest
    if !rest.isEmpty then none
    let all := letters ++ more
    return ⟨first, some last, .ofLetters all, !all.isEmpty⟩
  | _ => none

/-- The places in a line at which fields start and end.  Without a separator the blanks before a
field belong to it. -/
def fieldBounds (separator : Option Char) (cs : List Char) : List (Nat × Nat) :=
  let step := fun (acc : List (Nat × Nat) × Nat × Nat × Bool) (c : Char) =>
    let (done, start, n, inText) := acc
    match separator with
    | some d =>
      if c = d then ((start, n) :: done, n + 1, n + 1, false) else (done, start, n + 1, true)
    | none =>
      let blank := c = ' ' || c = '\t'
      if blank && inText then ((start, n) :: done, n, n + 1, false)
      else (done, start, n + 1, inText || !blank)
  let (done, start, n, _) := cs.foldl step ([], 0, 0, false)
  ((start, n) :: done).reverse

/-- The part of a line that a key names. -/
def part (separator : Option Char) (skipsBlanks : Bool) (k : SortKey) (line : String) : String :=
  let cs := line.toList
  let bounds := fieldBounds separator cs
  let blanksFrom (n : Nat) : Nat :=
    ((cs.drop n).takeWhile fun c => c = ' ' || c = '\t').length
  let startOf (p : KeyPlace) (skips : Bool) : Nat :=
    match bounds[p.field - 1]? with
    | some (a, _) => if skips then a + blanksFrom a else a
    | none => cs.length
  let first := min cs.length
    (startOf k.first (k.first.skipsBlanks || skipsBlanks) + (k.first.char.getD 1 - 1))
  let last := match k.last with
    | none => cs.length
    | some p =>
      match p.char with
      | none | some 0 => (bounds[p.field - 1]?.map (·.2)).getD cs.length
      | some n => min cs.length (startOf p (p.skipsBlanks || skipsBlanks) + n)
  String.ofList ((cs.take last).drop first)

end SortKey

/-- The lines of files in order. -/
def sort : Utility := fun args =>
  withOptions "sort" 2
    { plain := "bcCdfghiMmnrRsuVz", valued := "kotST"
      long := [("numeric-sort", 'n'), ("reverse", 'r'), ("unique", 'u'), ("ignore-case", 'f'),
        ("key", 'k'), ("field-separator", 't'), ("output", 'o'), ("stable", 's'), ("check", 'c'),
        ("version-sort", 'V'), ("general-numeric-sort", 'g'), ("human-numeric-sort", 'h'),
        ("ignore-leading-blanks", 'b'), ("dictionary-order", 'd'), ("month-sort", 'M')] }
    args fun o => do
    let letters := o.taken.map (·.1)
    let order := KeyOrder.ofLetters letters
    let keys := (o.values 'k').map fun s => (s, SortKey.ofText? s)
    if let some (s, _) := keys.find? (·.2.isNone) then
      return ← fail "sort"
        ("invalid number at field start: invalid count at start of " ++ quoted s) 2
    let keys := keys.filterMap (·.2)
    let separator := (o.value? 't').map fun s => if s = "\\0" then '\x00' else s.toList.headD '\t'
    if (o.value? 't').any fun s => 1 < s.length && s ≠ "\\0" then
      return ← fail "sort" ("multi-character tab " ++ quoted ((o.value? 't').getD "")) 2
    let byKey (k : SortKey) (a b : String) : Ordering :=
      let own := if k.own then k.order else order
      let blanks := !k.own && letters.contains 'b'
      let c := own.compareKeys (k.part separator blanks a) (k.part separator blanks b)
      if own.reversed then c.swap else c
    let whole (a b : String) : Ordering :=
      let strip (s : String) : String :=
        if letters.contains 'b' then String.ofList (s.toList.dropWhile fun c => c = ' ' || c = '\t')
        else s
      let c := order.compareKeys (strip a) (strip b)
      if order.reversed then c.swap else c
    let compareLines (a b : String) : Ordering :=
      if keys.isEmpty then whole a b
      else keys.foldl (fun c k => c.then (byKey k a b)) .eq
    let last (a b : String) : Ordering :=
      let c := compare a b
      if order.reversed then c.swap else c
    let full (a b : String) : Ordering :=
      let c := compareLines a b
      if o.has 's' || o.has 'u' then c else c.then (last a b)
    let paths := if o.operands.isEmpty then ["-"] else o.operands
    let inputs ← paths.mapM fun path => do return (path, ← readOperand path)
    for (path, r) in inputs do
      if let .error f := r then
        let verb := if f = .isADirectory then "read failed: " else "cannot read: "
        return ← fail "sort" (verb ++ shown path ++ ": " ++ f.reason) 2
    let lines := inputs.flatMap fun (_, r) => match r with
      | .ok text => linesOf text
      | .error _ => []
    if o.has 'c' || o.has 'C' then
      let wrong := (lines.zip (lines.drop 1)).zipIdx.find? fun ((a, b), _) =>
        match full a b with
        | .gt => true
        | .eq => o.has 'u'
        | .lt => false
      match wrong with
      | none => return 0
      | some ((_, b), n) =>
        if o.has 'C' then return 1
        return ← fail "sort" (paths.headD "-" ++ ":" ++ toString (n + 2) ++ ": disorder: " ++ b) 1
    let sorted := lines.mergeSort fun a b => full a b != .gt
    let sorted := if o.has 'u' then
        (sorted.foldl (fun kept l => match kept with
          | k :: _ => if compareLines k l = .eq then kept else l :: kept
          | [] => [l]) []).reverse
      else sorted
    match o.value? 'o' with
    | none =>
      say (ofLines sorted)
      return 0
    | some path =>
      match ← openPath path .write with
      | .ok stream =>
        let _ ← writeStream stream (ofLines sorted)
        return 0
      | .error f => fail "sort" ("open failed: " ++ shown path ++ ": " ++ f.reason) 2

/-- Runs of lines that count as the same, each with its lines. -/
def runsOf (same : String → String → Bool) (ls : List String) : List (List String) :=
  (ls.foldl (fun (runs : List (List String)) l =>
    match runs with
    | (k :: ks) :: rest => if same k l then (k :: ks ++ [l]) :: rest else [l] :: runs
    | _ => [l] :: runs) []).reverse

/-- Lines of which those that repeat the line before are left out. -/
def uniq : Utility := fun args =>
  withOptions "uniq" 1
    { plain := "cdDiuz", valued := "fsw"
      long := [("count", 'c'), ("repeated", 'd'), ("all-repeated", 'D'), ("ignore-case", 'i'),
        ("unique", 'u'), ("skip-fields", 'f'), ("skip-chars", 's'), ("check-chars", 'w')] }
    args fun o => do
    let number (c : Char) : Option Nat := (o.value? c).bind Numeral.digits?
    let keyOf (line : String) : String :=
      let cs := line.toList
      let isBlank := fun (c : Char) => c = ' ' || c = '\t'
      let cs := (List.range ((number 'f').getD 0)).foldl
        (fun cs _ => (cs.dropWhile isBlank).dropWhile (!isBlank ·)) cs
      let cs := cs.drop ((number 's').getD 0)
      let cs := match number 'w' with
        | some n => cs.take n
        | none => cs
      String.ofList (if o.has 'i' then cs.map Char.toLower else cs)
    let input := o.operands.headD "-"
    match ← readOperand input with
    | .error f => failFor "uniq" input f 1
    | .ok text =>
      let runs := runsOf (fun a b => keyOf a = keyOf b) (linesOf text)
      let runs := if o.has 'd' || o.has 'D' then runs.filter fun r => 1 < r.length else runs
      let runs := if o.has 'u' then runs.filter fun r => r.length = 1 else runs
      let shownRun (run : List String) : List String :=
        if o.has 'D' then run
        else if o.has 'c' then
          [padLeft 7 (toString run.length) ++ " " ++ run.headD ""]
        else [run.headD ""]
      let result := ofLines (runs.flatMap shownRun)
      match o.operands with
      | [_, path] =>
        match ← openPath path .write with
        | .ok stream =>
          let _ ← writeStream stream result
          return 0
        | .error f => failFor "uniq" path f 1
      | _ =>
        say result
        return 0

/-! ## Lines side by side -/

/-- The delimiters that a text lists. -/
def delimiterList : List Char → List String
  | [] => []
  | '\\' :: c :: rest =>
    let d := match c with
      | 'n' => "\n"
      | 't' => "\t"
      | '0' => ""
      | c => String.singleton c
    d :: delimiterList rest
  | c :: rest => String.singleton c :: delimiterList rest

/-- Texts with delimiters between them, which are used in turn. -/
def joinedInTurn (delimiters : List String) : (n : Nat) → List String → String
  | _, [] => ""
  | _, [s] => s
  | n, s :: rest =>
    let d := delimiters.getD (n % max 1 delimiters.length) ""
    s ++ d ++ joinedInTurn delimiters (n + 1) rest

/-- The lines of files side by side. -/
def paste : Utility := fun args =>
  withOptions "paste" 1
    { plain := "sz", valued := "d", long := [("serial", 's'), ("delimiters", 'd')] } args
    fun o => do
    let delimiters := delimiterList ((o.value? 'd').getD "\t").toList
    let paths := if o.operands.isEmpty then ["-"] else o.operands
    let dashes := (paths.filter (· = "-")).length
    let input ← if dashes = 0 then pure [] else do
      pure (linesOf (((← read 0 none).toOption).getD ""))
    let rec columns (turn : Nat) : List String → ShellM (Option (List (List String)))
      | [] => return some []
      | path :: rest => do
        if path = "-" then
          let own := if o.has 's' then if turn = 0 then input else []
            else (input.zipIdx.filter fun l => l.2 % dashes = turn).map (·.1)
          return (← columns (turn + 1) rest).map (own :: ·)
        match ← readPath path none with
        | .error f =>
          let _ ← failFor "paste" path f 1
          return none
        | .ok text => return (← columns turn rest).map (linesOf text :: ·)
    match ← columns 0 paths with
    | none => return 1
    | some cs =>
      if o.has 's' then say (ofLines (cs.map (joinedInTurn delimiters 0)))
      else
        let height := (cs.map List.length).foldl max 0
        say (ofLines ((List.range height).map fun i =>
          joinedInTurn delimiters 0 (cs.map fun c => c.getD i "")))
      return 0

/-- Lines with their numbers. -/
def nl : Utility := fun args =>
  withOptions "nl" 1 { plain := "p", valued := "bdfhilnsvw" } args fun o => do
    let (text, status) ← joinedInputs "nl" 1 o.operands
    let style := (o.value? 'b').getD "t"
    let width := ((o.value? 'w').bind Numeral.digits?).getD 6
    let step := ((o.value? 'i').bind Numeral.digits?).getD 1
    let start := ((o.value? 'v').bind Numeral.digits?).getD 1
    let gap := (o.value? 's').getD "\t"
    let layout := (o.value? 'n').getD "rn"
    let numbered (line : String) : Bool := style = "a" || (style = "t" && !line.isEmpty)
    let shownNumber (n : Nat) : String :=
      if layout = "ln" then padRight width (toString n)
      else if layout = "rz" then padZeros width (toString n)
      else padLeft width (toString n)
    let (done, _) := (linesOf text).foldl (fun (done, n) line =>
      if numbered line then ((shownNumber n ++ gap ++ line) :: done, n + step)
      else ((padLeft (width + gap.length) "" ++ line) :: done, n)) ([], start)
    say (ofLines done.reverse)
    return status

/-- Lines with their characters in reverse. -/
def rev : Utility := fun args =>
  onInputs "rev" 1 args fun _ text => do
    say (ofLinesLike text ((linesOf text).map fun l => String.ofList l.toList.reverse))
    return 0

/-- Lines broken so that none is longer than a width. -/
def fold : Utility := fun args =>
  let args := match args with
    | a :: rest =>
      match a.toList with
      | '-' :: d :: ds => if d.isDigit then "-w" :: String.ofList (d :: ds) :: rest else args
      | _ => args
    | [] => args
  withOptions "fold" 1
    { plain := "bs", valued := "w", long := [("width", 'w'), ("spaces", 's'), ("bytes", 'b')] }
    args fun o => do
    let width := max 1 (((o.value? 'w').bind Numeral.digits?).getD 80)
    let rec broken : (fuel : Nat) → List Char → List (List Char)
      | 0, cs => [cs]
      | fuel + 1, cs =>
        if cs.length ≤ width then [cs]
        else
          let part := cs.take width
          let end? := (part.reverse.dropWhile (· ≠ ' ')).length
          let size := if o.has 's' && 0 < end? then end? else width
          cs.take size :: broken fuel (cs.drop size)
    onInputs "fold" 1 o.operands fun _ text => do
      let ls := (linesOf text).flatMap fun l =>
        (broken (l.length + 1) l.toList).map String.ofList
      say (ofLinesLike text ls)
      return 0

/-- Lines of two ordered lists: those of the first, of the second, and of both. -/
def compared : (fuel : Nat) → List String → List String → List (Nat × String)
  | 0, _, _ => []
  | _, [], bs => bs.map ((2, ·))
  | _, as, [] => as.map ((1, ·))
  | fuel + 1, a :: as, b :: bs =>
    if a = b then (3, a) :: compared fuel as bs
    else if isNotAfter a b then (1, a) :: compared fuel as (b :: bs)
    else (2, b) :: compared fuel (a :: as) bs

/-- The lines that two ordered files have in common, and those that only one has. -/
def comm : Utility := fun args =>
  withOptions "comm" 1 { plain := "123z" } args fun o => do
    match o.operands with
    | [first, second] =>
      match ← readOperand first, ← readOperand second with
      | .error f, _ => failFor "comm" first f 1
      | _, .error f => failFor "comm" second f 1
      | .ok a, .ok b =>
        let as := linesOf a
        let bs := linesOf b
        let hidden (n : Nat) : Bool := o.has (Char.ofNat (n + '0'.toNat))
        let indent (n : Nat) : String :=
          String.join (((List.range (n - 1)).filter fun i => !hidden (i + 1)).map fun _ => "\t")
        let rows := (compared (as.length + bs.length + 1) as bs).filter fun r => !hidden r.1
        say (ofLines (rows.map fun r => indent r.1 ++ r.2))
        return 0
    | [] => failUsage "comm" "missing operand" 1
    | [a] => failUsage "comm" ("missing operand after " ++ quoted a) 1
    | _ :: _ :: c :: _ => failUsage "comm" ("extra operand " ++ quoted c) 1

/-- The fields of a line at blanks or at a separator. -/
def joinFields (separator : Option Char) (line : String) : List String :=
  match separator with
  | some c => line.splitOn (String.singleton c)
  | none =>
    let cs := line.toList.map fun c => if c = '\t' then ' ' else c
    ((String.ofList cs).splitOn " ").filter (!·.isEmpty)

/-- The lines of two files that agree in a field. -/
def join : Utility := fun args =>
  withOptions "join" 1 { plain := "i", valued := "12jtavoe" } args fun o => do
    match o.operands with
    | [first, second] =>
      match ← readOperand first, ← readOperand second with
      | .error f, _ => failFor "join" first f 1
      | _, .error f => failFor "join" second f 1
      | .ok a, .ok b =>
        let separator := (o.value? 't').bind fun s => s.toList.head?
        let key (letter : Char) : Nat :=
          ((((o.value? letter).or (o.value? 'j')).bind Numeral.digits?).getD 1) - 1
        let rows (text : String) (k : Nat) : List (String × List String) :=
          (linesOf text).map fun l =>
            let fs := joinFields separator l
            (fs.getD k "", fs.eraseIdx k)
        let as := rows a (key '1')
        let bs := rows b (key '2')
        let gap := match separator with
          | some c => String.singleton c
          | none => " "
        let line (k : String) (others : List String) : String :=
          String.intercalate gap (k :: others)
        let paired := as.flatMap fun (k, fs) =>
          let found := bs.filter (·.1 = k)
          if found.isEmpty then
            if (o.values 'a' ++ o.values 'v').contains "1" then [line k fs] else []
          else if o.has 'v' then []
          else found.map fun (_, gs) => line k (fs ++ gs)
        let alone := bs.filter fun (k, _) => !as.any (·.1 = k)
        let alone := if (o.values 'a' ++ o.values 'v').contains "2" then
            alone.map fun (k, gs) => line k gs else []
        say (ofLines (paired ++ alone))
        return 0
    | [] => failUsage "join" "missing operand" 1
    | [a] => failUsage "join" ("missing operand after " ++ quoted a) 1
    | _ :: _ :: c :: _ => failUsage "join" ("extra operand " ++ quoted c) 1

/-- Tabs put as blanks. -/
def expandTabs : Utility := fun args =>
  withOptions "expand" 1 { plain := "i", valued := "t", long := [("tabs", 't')] } args fun o => do
    let width := max 1 (((o.value? 't').bind Numeral.digits?).getD 8)
    let wide (line : String) : String :=
      let (cs, _) := line.toList.foldl (fun ((acc : List Char), n) c =>
        if c = '\t' then
          let k := width - n % width
          (List.replicate k ' ' ++ acc, n + k)
        else (c :: acc, n + 1)) ([], 0)
      String.ofList cs.reverse
    onInputs "expand" 1 o.operands fun _ text => do
      say (ofLinesLike text ((linesOf text).map wide))
      return 0

end EnvRegistry.Shell.Utility
