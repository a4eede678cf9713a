import EnvRegistry.Shell.Format
import EnvRegistry.Shell.Utility.Basic

/-! # Utilities that write texts and parts of them -/

namespace EnvRegistry.Shell.Utility

open ShellM

/-! ## Arguments -/

/-- The output of arguments, with their escapes taken for what they mean. -/
def echo : Utility := fun args => do
  let (line, args) := if args.head? = some "-n" then (false, args.tail) else (true, args)
  let (text, ended) := Format.interpreted (String.intercalate " " args)
  say (if line && !ended then text ++ "\n" else text)
  return 0

/-- The output of a format. -/
def printf : Utility := fun args => do
  match (if args.head? = some "--" then args.tail else args) with
  | [] => refuse "usage: printf format [arg ...]"
  | format :: rest =>
    let p := Format.write format rest
    say p.text
    if p.broken then
      p.faults.tail.reverse.forM protest
      refuse (p.faults.headD "")
    p.faults.reverse.forM protest
    return if p.faults.isEmpty then 0 else 1

/-- How much a program writes that would go on for ever. -/
def endlessLength : Nat := 131072

/-- The same line over and over, as often as a reader of the output may want it. -/
def yes : Utility := fun args => do
  let line := (if args.isEmpty then "y" else String.intercalate " " args) ++ "\n"
  say (String.join (List.replicate (endlessLength / line.length + 1) line))
  return 0

/-! ## Whole files -/

/-- A character in signs that can be seen. -/
def visible (c : Char) : String :=
  let low (n : Nat) : String :=
    if n < 0x20 then "^" ++ String.singleton (Char.ofNat (n + 0x40))
    else if n = 0x7f then "^?"
    else String.singleton (Char.ofNat n)
  if c = '\n' || c = '\t' then String.singleton c
  else if c.toNat < 0x80 then low c.toNat
  else "M-" ++ low (c.toNat - 0x80)

/-- A number filled up with blanks to a width. -/
def padLeft (width : Nat) (s : String) : String :=
  String.ofList (List.replicate (width - s.length) ' ') ++ s

/-- A text filled up with blanks to a width. -/
def padRight (width : Nat) (s : String) : String :=
  s ++ String.ofList (List.replicate (width - s.length) ' ')

/-- Whether something is left to read in the file to which the output goes. -/
def isOutputFile (path : String) : ShellM Bool := do
  let s ← get
  let target := ((← channel? 1).bind fun n => s.streams[n]?).map OpenStream.stream
  match target with
  | some (.file n) =>
    let opened ← if path = "-" then channel? 0 else do
      match s.files.locate s.cwd (Raw.toText path) with
      | .ok p =>
        match s.files.get? p with
        | some (.file _) => pure ((← openPath path .read).toOption)
        | _ => pure none
      | .error _ => pure none
    match opened with
    | some stream =>
      let text := ((← pending stream).toOption).getD ""
      return ((← get).streams[stream]?.any fun o => o.stream = .file n) && !text.isEmpty
    | none => return false
  | _ => return false

/-- The texts of files; a file to which the output goes is left out. -/
def catInputs (paths : List String) (step : String → ShellM Unit) : ShellM Nat :=
  forEach (fun path => do
    if ← isOutputFile path then
      complain ("cat: " ++ path ++ ": input file is output file")
      return 1
    match ← readOperand path with
    | .ok text =>
      step text
      return 0
    | .error f => failFor "cat" path f 1) (if paths.isEmpty then ["-"] else paths)

/-- The output of files. -/
def cat : Utility := fun args =>
  withOptions "cat" 1
    { plain := "AbeEnstTuv"
      long := [("show-all", 'A'), ("number-nonblank", 'b'), ("show-ends", 'E'), ("number", 'n'),
        ("squeeze-blank", 's'), ("show-tabs", 'T'), ("show-nonprinting", 'v')] } args fun o => do
    if o.taken.all fun t => t.1 = 'u' then return ← catInputs o.operands say
    let (text, status) ← joinedInputs "cat" 1 o.operands
    let all := o.has 'A'
    let showEnds := all || o.has 'E' || o.has 'e'
    let showTabs := all || o.has 'T' || o.has 't'
    let showOthers := all || o.has 'v' || o.has 'e' || o.has 't'
    let shownChar (c : Char) : String :=
      if c = '\t' && showTabs then "^I"
      else if showOthers then visible c
      else String.singleton c
    let step := fun (acc : List String × Nat × Bool) (line : String) =>
      let (done, n, afterEmpty) := acc
      if o.has 's' && afterEmpty && line.isEmpty then acc
      else
        let numbered := if o.has 'b' then !line.isEmpty else o.has 'n'
        let title := if numbered then padLeft 6 (toString n) ++ "\t" else ""
        let body := String.join (line.toList.map shownChar)
        ((title ++ body) :: done, if numbered then n + 1 else n, line.isEmpty)
    let (shownLines, _, _) := (linesOf text).foldl step ([], 1, false)
    let ending := if showEnds then "$\n" else "\n"
    let open? := endsOpen text
    let ls := shownLines.reverse
    say (if open? then String.intercalate ending ls else String.join (ls.map (· ++ ending)))
    return status

/-- The lines of files, the last one first. -/
def tac : Utility := fun args =>
  withOptions "tac" 1 { plain := "br", valued := "s" } args fun o =>
    onInputs "tac" 1 o.operands fun _ text => do
      let parts := text.splitOn "\n"
      let ended := parts.dropLast.map (· ++ "\n")
      say (String.join (((if endsOpen text then [parts.getLastD ""] else []) ++ ended.reverse)))
      return 0

/-- The input written to the output and to files. -/
def tee : Utility := fun args =>
  withOptions "tee" 1 { plain := "aip", long := [("append", 'a'), ("ignore-interrupts", 'i')] } args
    fun o => do
      let text := ((← read 0 none).toOption).getD ""
      let streams ← o.operands.mapM fun path => do
        return (path, ← openPath path (if o.has 'a' then .append else .write))
      say text
      forEach (fun (path, stream) => do
        match stream with
        | .ok n =>
          match ← writeStream n text with
          | .ok () => return 0
          | .error f => failFor "tee" path f 1
        | .error f => failFor "tee" path f 1) streams

/-! ## Starts and ends of files -/

/-- The factor that letters after a number stand for. -/
def factor? (letters : String) : Option Nat :=
  match letters with
  | "" => some 1
  | "b" => some 512
  | "k" | "K" | "KiB" => some 1024
  | "kB" | "KB" => some 1000
  | "M" | "MiB" => some 1048576
  | "MB" => some 1000000
  | "G" | "GiB" => some 1073741824
  | "GB" => some 1000000000
  | _ => none

/-- An amount: a sign, if there is one, and a number. -/
def amount? (s : String) : Option (Option Char × Nat) :=
  let (sign, cs) := match s.toList with
    | '-' :: cs => (some '-', cs)
    | '+' :: cs => (some '+', cs)
    | cs => (none, cs)
  let ds := cs.takeWhile Char.isDigit
  if ds.isEmpty then none
  else
    (factor? (String.ofList (cs.dropWhile Char.isDigit))).map fun f =>
      (sign, f * Numeral.ofDigits 10 ds)

/-- Arguments in which a number after a dash is an amount of lines. -/
def withoutShorthand (args : List String) : List String :=
  match args with
  | a :: rest =>
    match a.toList with
    | '-' :: d :: ds =>
      if d.isDigit then
        let count := (d :: ds).takeWhile Char.isDigit
        let letters := (d :: ds).dropWhile Char.isDigit
        let unit := if letters.contains 'c' then "-c" else "-n"
        let others := letters.filter fun c => c ≠ 'c' && c ≠ 'l'
        [unit, String.ofList count] ++
          (if others.isEmpty then [] else [String.ofList ('-' :: others)]) ++ rest
      else args
    | _ => args
  | [] => []

/-- Characters up to and with the `n`-th line break. -/
def firstLines : (n : Nat) → List Char → List Char
  | 0, _ => []
  | _, [] => []
  | n + 1, c :: cs => c :: firstLines (if c = '\n' then n else n + 1) cs
  termination_by _ cs => cs.length

/-- The number of line breaks, and a last line without one. -/
def lineCount (cs : List Char) : Nat :=
  cs.count '\n' + (if cs.isEmpty || cs.getLast? = some '\n' then 0 else 1)

/-- The start of a text that is asked for. -/
def headOf (inBytes fromEnd : Bool) (n : Nat) (cs : List Char) : List Char :=
  match inBytes, fromEnd with
  | true, false => cs.take n
  | true, true => cs.take (cs.length - n)
  | false, false => firstLines n cs
  | false, true => firstLines (lineCount cs - n) cs

/-- The end of a text that is asked for. -/
def tailOf (inBytes fromStart : Bool) (n : Nat) (cs : List Char) : List Char :=
  match inBytes, fromStart with
  | true, true => cs.drop (n - 1)
  | true, false => cs.drop (cs.length - n)
  | false, true => cs.drop (firstLines (n - 1) cs).length
  | false, false => cs.drop (firstLines (lineCount cs - n) cs).length

/-- The options of the utilities for starts and ends of files. -/
def amountRules : OptionRules where
  plain := "qvzfF"
  valued := "cn"
  long := [("bytes", 'c'), ("lines", 'n'), ("quiet", 'q'), ("silent", 'q'), ("verbose", 'v'),
    ("zero-terminated", 'z'), ("follow", 'f')]

/-- How much of a pipe is taken to find the lines at its start. -/
def blockLength : Nat := 8192

/-- The part of each file that `part` takes; `consumed` says how much of the input is used up. -/
def partsOfFiles (name : String) (o : Options) (consumed : (isPipe : Bool) → List Char → Nat)
    (part : List Char → List Char) : ShellM Nat := do
  let paths := if o.operands.isEmpty then ["-"] else o.operands
  let titled := (1 < paths.length || o.has 'v') && !o.has 'q'
  let write (first : Bool) (path : String) (stream : Nat) : ShellM Nat := do
    let title := if path = "-" then "standard input" else path
    if titled then say ((if first then "" else "\n") ++ "==> " ++ title ++ " <==\n")
    match ← pending stream with
    | .error f => fail name ("error reading " ++ quoted title ++ ": " ++ f.reason) 1
    | .ok text =>
      let cs := text.toList
      say (String.ofList (part cs))
      let isPipe := !(← get).streams[stream]?.any OpenStream.isFile
      advance stream (consumed isPipe cs)
      return 0
  let rec go (first : Bool) : List String → ShellM Nat
    | [] => return 0
    | path :: rest => do
      let opened ← if path = "-" then do
          match ← channel? 0 with
          | some n => pure (.ok n)
          | none => pure (.error FileFault.badChannel)
        else openPath path .read
      match opened with
      | .error f =>
        let _ ← fail name ("cannot open " ++ quoted path ++ " for reading: " ++ f.reason) 1
        return max 1 (← go first rest)
      | .ok stream =>
        let status ← write first path stream
        return max status (← go false rest)
  go true paths

/-- What is said about an amount that is none. -/
def amountFault (inBytes : Bool) (value : String) : String :=
  "invalid number of " ++ (if inBytes then "bytes" else "lines") ++ ": " ++ quoted value

/-- The start of files. -/
def head : Utility := fun args =>
  withOptions "head" 1 amountRules (withoutShorthand args) fun o => do
    let inBytes := o.last? "cn" = some 'c'
    let value := (o.value? (if inBytes then 'c' else 'n')).getD "10"
    match amount? value with
    | none => fail "head" (amountFault inBytes value) 1
    | some (sign, n) =>
      let fromEnd := sign = some '-'
      -- Single zero bytes are given as often as they are asked for.
      if let ["/dev/zero"] := o.operands then
        if inBytes && !fromEnd then
          say (String.ofList (List.replicate n '\x00'))
          return 0
      let part := headOf inBytes fromEnd n
      partsOfFiles "head" o (fun isPipe cs =>
        if fromEnd then cs.length
        else if inBytes || !isPipe then (part cs).length
        else if n = 0 then 0
        else max (part cs).length (min blockLength cs.length)) part

/-- The end of files. -/
def tail : Utility := fun args =>
  withOptions "tail" 1 amountRules (withoutShorthand args) fun o => do
    let inBytes := o.last? "cn" = some 'c'
    let value := (o.value? (if inBytes then 'c' else 'n')).getD "10"
    match amount? value with
    | none => fail "tail" (amountFault inBytes value) 1
    | some (sign, n) =>
      partsOfFiles "tail" o (fun _ cs => cs.length) (tailOf inBytes (sign = some '+') n)

/-! ## Counts -/

/-- The number of words. -/
def wordCount (cs : List Char) : Nat :=
  (cs.foldl (fun (n, inWord) c =>
    if Numeral.isSpace c then (n, false) else (if inWord then n else n + 1, true)) (0, false)).1

/-- The length of the longest line. -/
def longestLine (s : String) : Nat := ((linesOf s).map String.length).foldl max 0

/-- The numbers of lines, words and bytes of files; every byte counts as a character. -/
def wc : Utility := fun args =>
  withOptions "wc" 1
    { plain := "clmwL"
      long := [("bytes", 'c'), ("chars", 'm'), ("lines", 'l'), ("words", 'w'),
        ("max-line-length", 'L')] } args fun o => do
    let asked (c : Char) := o.has c || (o.taken.isEmpty && ['l', 'w', 'c'].contains c)
    let countsOf (text : String) : List Nat :=
      let cs := text.toList
      (if asked 'l' then [cs.count '\n'] else []) ++
      (if asked 'w' then [wordCount cs] else []) ++
      (if asked 'm' then [cs.length] else []) ++
      (if asked 'c' then [cs.length] else []) ++
      (if asked 'L' then [longestLine text] else [])
    let paths := if o.operands.isEmpty then ["-"] else o.operands
    let isFile (path : String) : ShellM Bool := do
      if path ≠ "-" then return (← find? path).isSome && (device? path).isNone
      match ← channel? 0 with
      | some n => return (← get).streams[n]?.any OpenStream.isFile
      | none => return false
    let inputs ← paths.mapM fun path => do
      return (path, ← isFile path, ← readOperand path)
    let sizes := inputs.map fun (_, _, r) => match r with
      | .ok text => text.length
      | .error _ => 0
    let kinds := (countsOf "").length
    let width :=
      if paths.length = 1 && kinds = 1 then 1
      else
        let wide := if inputs.all fun i => i.2.1 then 1 else 7
        max wide (toString (sizes.foldl (· + ·) 0)).length
    let line (counts : List Nat) (title : Option String) : String :=
      String.intercalate " " (counts.map (fun n => padLeft width (toString n)) ++ title.toList) ++
        "\n"
    let status ← forEach (fun (path, _, r) => do
      match r with
      | .ok text =>
        say (line (countsOf text) (if o.operands.isEmpty then none else some path))
        return 0
      | .error f =>
        let _ ← failFor "wc" path f 1
        if f = .isADirectory then say (line (countsOf "") (some path))
        return 1) inputs
    if 1 < paths.length then
      let all := inputs.filterMap fun (_, _, r) => r.toOption.map countsOf
      let total := all.foldl (fun acc c => acc.zipWith max c) (List.replicate kinds 0)
      let sums := all.foldl (fun acc c => acc.zipWith (· + ·) c) (List.replicate kinds 0)
      let last := if asked 'L' then sums.dropLast ++ total.getLast?.toList else sums
      say (line last (some "total"))
    return status

/-! ## Numbers -/

/-- A decimal number: its value and the number of its places. -/
structure Decimal where
  value : Rat
  places : Nat

/-- The decimal number that a text says. -/
def decimal? (s : String) : Option Decimal := do
  let (negative, cs) := match s.toList with
    | '-' :: cs => (true, cs)
    | '+' :: cs => (false, cs)
    | cs => (false, cs)
  let (x, rest) ← Fraction.Binary64.decimal? cs
  if !rest.isEmpty then none
  else
    let mantissa := cs.takeWhile fun c => c ≠ 'e' && c ≠ 'E'
    let places := (mantissa.dropWhile (· ≠ '.')).length - 1
    let exponent := match cs.dropWhile fun c => c ≠ 'e' && c ≠ 'E' with
      | _ :: e => ((Fraction.Binary64.exponent? e).map (·.1)).getD 0
      | [] => 0
    some ⟨if negative then -x else x, ((places : Int) - exponent).toNat⟩

/-- A decimal with a number of places. -/
def decimalText (places : Nat) (x : Rat) : String :=
  (if x < 0 then "-" else "") ++ Fraction.Binary64.fixedText places false (if x < 0 then -x else x)

/-- A number filled up with zeros after its sign. -/
def padZeros (width : Nat) (s : String) : String :=
  let (sign, cs) := match s.toList with
    | '-' :: cs => (['-'], cs)
    | cs => ([], cs)
  String.ofList (sign ++ List.replicate (width - s.length) '0' ++ cs)

/-- The most numbers that are written. -/
def mostNumbers : Nat := 1000000

/-- Numbers from the first one on, with a step between them, as long as none is beyond the last
one. -/
def numbersFrom (first step last : Rat) : List Rat :=
  if step = 0 then []
  else
    let n := ((last - first) / step).floor + 1
    (List.range (min n.toNat mostNumbers)).map fun (i : Nat) => first + step * (i : Rat)

/-- A number written with a format that has a single directive. -/
def formatted? (format : String) (x : Rat) : Option String :=
  let cs := format.toList
  let before := cs.takeWhile (· ≠ '%')
  match cs.dropWhile (· ≠ '%') with
  | _ :: rest =>
    let (d, rest) := Directive.flags rest
    let d := d.withWidth (Numeral.ofDigits 10 (rest.takeWhile Char.isDigit))
    let rest := rest.dropWhile Char.isDigit
    let (d, rest) := match rest with
      | '.' :: rest =>
        (d.withPrecision (Numeral.ofDigits 10 (rest.takeWhile Char.isDigit)),
          rest.dropWhile Char.isDigit)
      | rest => (d, rest)
    match rest with
    | letter :: after =>
      if ['e', 'E', 'f', 'F', 'g', 'G'].contains letter then
        let number := d.real letter (.finite (x < 0) (if x < 0 then -x else x))
        some (String.ofList (before ++ number ++ after))
      else none
    | [] => none
  | [] => none

/-- Arguments before which negative numbers are kept from being options. -/
def protectNumbers : List String → List String
  | [] => []
  | a :: rest =>
    match a.toList with
    | '-' :: c :: _ =>
      if c.isDigit || c = '.' then "--" :: a :: rest
      else if a = "-s" || a = "-f" then
        match rest with
        | v :: rest => a :: v :: protectNumbers rest
        | [] => [a]
      else a :: protectNumbers rest
    | _ => a :: rest

/-- Numbers in order. -/
def seq : Utility := fun args =>
  withOptions "seq" 1
    { plain := "w", valued := "sf", mixed := false
      long := [("separator", 's'), ("format", 'f'), ("equal-width", 'w')] }
    (protectNumbers args) fun o => do
    if let some wrong := o.operands.find? fun a => (decimal? a).isNone then
      return ← failUsage "seq" ("invalid floating point argument: " ++ quoted wrong) 1
    let one : Decimal := ⟨1, 0⟩
    let count (first step last : Decimal) (stepText : String) : ShellM Nat := do
      if step.value = 0 then
        return ← failUsage "seq" ("invalid Zero increment value: " ++ quoted stepText) 1
      let places := max first.places step.places
      let numbers := numbersFrom first.value step.value last.value
      let texts := match o.value? 'f' with
        | some format => numbers.map fun x => (formatted? format x).getD ""
        | none => numbers.map (decimalText places)
      let ends := [decimalText places first.value, decimalText places last.value]
      let width := (ends.map String.length).foldl max 0
      let texts := if o.has 'w' then texts.map (padZeros width) else texts
      if !texts.isEmpty then say (String.intercalate ((o.value? 's').getD "\n") texts ++ "\n")
      return 0
    match o.operands, o.operands.filterMap decimal? with
    | _, [last] => count one one last "1"
    | _, [first, last] => count first one last "1"
    | [_, s, _], [first, step, last] => count first step last s
    | _ :: _ :: _ :: extra :: _, _ => failUsage "seq" ("extra operand " ++ quoted extra) 1
    | _, _ => failUsage "seq" "missing operand" 1

end EnvRegistry.Shell.Utility
