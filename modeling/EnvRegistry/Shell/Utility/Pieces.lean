import EnvRegistry.Shell.Utility.Listing

/-! # Utilities that take files and numbers to pieces -/

namespace EnvRegistry.Shell.Utility

open ShellM

/-! ## Prime factors -/

/-- The prime factors of a number, none of which is below `p`. -/
def factorsFrom : (fuel : Nat) → (p n : Nat) → List Nat
  | 0, _, n => [n]
  | fuel + 1, p, n =>
    if n < p * p then if n ≤ 1 then [] else [n]
    else if n % p = 0 then p :: factorsFrom fuel p (n / p)
    else factorsFrom fuel (p + (if p = 2 then 1 else 2)) n

/-- How many numbers are tried. -/
def mostDivisors : Nat := 10000000

/-- Shows the prime factors of numbers. -/
def factor : Utility := fun args => do
  let words ← if args.isEmpty then do
      let text := ((← read 0 none).toOption).getD ""
      pure (((text.split Char.isWhitespace).toList.map (·.toString)).filter (!·.isEmpty))
    else pure args
  forEach (fun word => do
    match word.toNat? with
    | some n => do
      let fs := (factorsFrom mostDivisors 2 n).map toString
      say (String.intercalate " " ((toString n ++ ":") :: fs) ++ "\n")
      return 0
    | none => fail "factor" (quoted word ++ " is not a valid positive integer") 1) words

/-! ## Parts of files -/

/-- The number of bytes that a text says, with a letter of a unit. -/
def byteCount? (s : String) : Option Nat :=
  let ds := s.toList.takeWhile Char.isDigit
  if ds.isEmpty then none
  else
    let n := Fraction.Binary64.ofDigits ds
    match String.ofList (s.toList.drop ds.length) with
    | "" | "c" => some n
    | "w" => some (2 * n)
    | "b" => some (512 * n)
    | "k" | "K" | "KiB" => some (1024 * n)
    | "kB" | "KB" => some (1000 * n)
    | "M" | "MiB" => some (1024 * 1024 * n)
    | "MB" => some (1000000 * n)
    | "G" => some (1024 * 1024 * 1024 * n)
    | _ => none

/-- A number of blocks that are whole, and of one that is not. -/
def blockCount (size n : Nat) : String :=
  toString (n / size) ++ "+" ++ (if n % size = 0 then "0" else "1")

/-- The letters that a conversion is made of. -/
def converted (names : List String) (s : String) : String :=
  if names.contains "ucase" then s.toUpper else if names.contains "lcase" then s.toLower else s

/-- Copies a part of a file. -/
def dd : Utility := fun args => do
  let settings := args.map fun a =>
    let name := a.toList.takeWhile (· ≠ '=')
    (String.ofList name, String.ofList (a.toList.drop (name.length + 1)), a)
  let known := ["if", "of", "bs", "ibs", "obs", "cbs", "count", "skip", "seek", "conv", "status",
    "iflag", "oflag"]
  let isWrong := fun (name, _, a) => !known.contains name || !a.contains '='
  if let some (_, _, a) := settings.find? isWrong then
    return ← failUsage "dd" ("unrecognized operand " ++ quoted a) 1
  let value? (name : String) : Option String :=
    (settings.reverse.find? (·.1 = name)).map fun t => t.2.1
  let numbers := ["bs", "ibs", "obs", "count", "skip", "seek"]
  if let some (_, text, _) := settings.find? fun (name, text, _) =>
      numbers.contains name && (byteCount? text).isNone then
    return ← fail "dd" ("invalid number: " ++ quoted text) 1
  let number (name : String) (usual : Nat) : Nat := ((value? name).bind byteCount?).getD usual
  let size := number "bs" (number "ibs" 512)
  let conversions := ((value? "conv").getD "").splitOn ","
  let skipped := size * number "skip" 0
  let most := (value? "count").map fun _ => size * number "count" 0
  let source ← match value? "if" with
    | some path => readPath path (most.map (· + skipped))
    | none => read 0 (most.map (· + skipped))
  match source with
  | .error f =>
    fail "dd" ("failed to open " ++ quoted ((value? "if").getD "") ++ ": " ++ f.reason) 1
  | .ok text =>
    let part := text.toList.drop skipped
    let part := match most with
      | some n => part.take n
      | none => part
    let out := converted conversions (String.ofList part)
    let report := match value? "status" with
      | some "none" => ""
      | _ =>
        blockCount size part.length ++ " records in\n" ++ blockCount size part.length ++
          " records out"
    match value? "of" with
    | some path =>
      let offset := number "obs" size * number "seek" 0
      let old := ((← readPath path none).toOption).getD ""
      let old := if conversions.contains "notrunc" then old
        else String.ofList (old.toList.take offset)
      match ← openPath path .write with
      | .ok n =>
        let _ ← writeStream n (splice old offset out)
      | .error f => return ← fail "dd" ("failed to open " ++ quoted path ++ ": " ++ f.reason) 1
    | none => say out
    if !report.isEmpty then complain report
    return 0

/-- Names made of letters, in order. -/
def partNames (length : Nat) (letters : List Char) : (count : Nat) → List String
  | 0 => []
  | count + 1 =>
    let base := letters.length
    let digits (n : Nat) : List Char :=
      (List.range length).reverse.map fun i => letters.getD (n / Nat.pow base i % base) 'a'
    partNames length letters count ++ [String.ofList (digits count)]

/-- Writes parts of a file to files of their own. -/
def split : Utility := fun args =>
  withOptions "split" 1
    { plain := "d", valued := "lban", long := [("lines", 'l'), ("bytes", 'b'),
      ("suffix-length", 'a'), ("numeric-suffixes", 'd')] } args fun o => do
    match ← readOperand (o.operands.headD "-") with
    | .error f =>
      fail "split"
        ("cannot open " ++ quoted (o.operands.headD "-") ++ " for reading: " ++ f.reason) 1
    | .ok text =>
      let parts := match (o.value? 'b').bind byteCount? with
        | some n => (chunks (max 1 n) text.length text.toList).map String.ofList
        | none =>
          let n := ((o.value? 'l').bind String.toNat?).getD 1000
          let lines := linesOf text
          (chunks (max 1 n) lines.length lines).map ofLines
      let parts := if endsOpen text && (o.value? 'b').isNone then
          parts.dropLast ++ (parts.getLast?.map fun p => (p.dropEnd 1).toString).toList
        else parts
      let letters := if o.has 'd' then "0123456789".toList
        else "abcdefghijklmnopqrstuvwxyz".toList
      let length := ((o.value? 'a').bind String.toNat?).getD 2
      let start := o.operands.getD 1 "x"
      forEach (fun (name, part) => do
        match ← openPath (start ++ name) .write with
        | .ok n => do
          let _ ← writeStream n part
          return 0
        | .error f => failFor "split" (start ++ name) f 1)
        ((partNames length letters parts.length).zip parts)

/-- Shows items or lines in some order, for which the one that they are given in will do. -/
def shuf : Utility := fun args =>
  withOptions "shuf" 1 { plain := "er", valued := "in", long := [("echo", 'e'), ("head-count", 'n'),
    ("input-range", 'i')] } args fun o => do
    let items ← match o.value? 'i' with
      | some range =>
        let low := ((range.splitOn "-").headD "").toNat?.getD 0
        let high := ((range.splitOn "-").getD 1 "").toNat?.getD 0
        pure ((List.range (high + 1 - low)).map fun n => toString (n + low))
      | none =>
        if o.has 'e' then pure o.operands
        else do
          let (text, _) ← joinedInputs "shuf" 1 o.operands
          pure (linesOf text)
    let count := ((o.value? 'n').bind String.toNat?).getD items.length
    say (ofLines (items.take count))
    return 0

end EnvRegistry.Shell.Utility
