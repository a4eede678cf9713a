import EnvRegistry.Shell.Utility.Output

/-! # Utilities that show bytes and compare files byte by byte or line by line -/

namespace EnvRegistry.Shell.Utility

open ShellM

/-! ## Bytes in digits -/

/-- How bytes are shown: so many at a time, in which form, and in which width. -/
structure ByteForm where
  size : Nat
  letter : Char
  width : Nat

namespace ByteForm

/-- The width of a number of so many bytes in a form, with the blank before it. -/
def widthOf (letter : Char) (size : Nat) : Nat :=
  match letter, size with
  | 'x', n => 2 * n + 1
  | 'o', 1 => 4
  | 'o', 2 => 7
  | 'o', 4 => 12
  | 'o', _ => 23
  | 'u', 1 => 4
  | 'u', 2 => 6
  | 'u', 4 => 11
  | 'u', _ => 21
  | 'd', 1 => 5
  | 'd', 2 => 7
  | 'd', 4 => 12
  | 'd', _ => 21
  | _, _ => 4

/-- The form that a text says. -/
def ofText? (s : String) : Option ByteForm :=
  match s.toList.filter (· ≠ 'z') with
  | 'a' :: _ => some ⟨1, 'a', 4⟩
  | 'c' :: _ => some ⟨1, 'c', 4⟩
  | letter :: rest =>
    if !(['d', 'o', 'u', 'x'].contains letter) then none
    else
      let size := match rest with
        | [] | 'I' :: _ => 4
        | 'C' :: _ => 1
        | 'S' :: _ => 2
        | 'L' :: _ => 8
        | ds => Numeral.ofDigits 10 ds
      if [1, 2, 4, 8].contains size then some ⟨size, letter, widthOf letter size⟩ else none
  | [] => none

/-- A byte as a character. -/
def charText (n : Nat) : String :=
  match n with
  | 0 => "\\0"
  | 7 => "\\a"
  | 8 => "\\b"
  | 9 => "\\t"
  | 10 => "\\n"
  | 11 => "\\v"
  | 12 => "\\f"
  | 13 => "\\r"
  | n =>
    if 32 ≤ n && n < 127 then String.singleton (Char.ofNat n)
    else padZeros 3 (String.ofList (Nat.toDigits 8 n))

/-- The names of characters that cannot be seen. -/
def controlNames : List String :=
  ["nul", "soh", "stx", "etx", "eot", "enq", "ack", "bel", "bs", "ht", "nl", "vt", "ff", "cr", "so",
   "si", "dle", "dc1", "dc2", "dc3", "dc4", "nak", "syn", "etb", "can", "em", "sub", "esc", "fs",
   "gs", "rs", "us", "sp"]

/-- Bytes, of which the first one counts least, in the form. -/
def text (f : ByteForm) (bytes : List Nat) : String :=
  let n := bytes.foldr (fun b acc => b + 256 * acc) 0
  let shown := match f.letter with
    | 'c' => charText n
    | 'a' =>
      let n := n % 128
      if n = 127 then "del" else controlNames.getD n (String.singleton (Char.ofNat n))
    | 'x' => padZeros (2 * f.size) (String.ofList (Nat.toDigits 16 n))
    | 'o' => padZeros (f.width - 1) (String.ofList (Nat.toDigits 8 n))
    | 'u' => toString n
    | _ => toString (Int.bmod n (Nat.pow 256 f.size))
  padLeft f.width shown

/-- A line of bytes in the form. -/
def line (f : ByteForm) : (fuel : Nat) → List Nat → String
  | 0, _ => ""
  | _, [] => ""
  | fuel + 1, bytes => f.text (bytes.take f.size) ++ f.line fuel (bytes.drop f.size)

end ByteForm

/-- An address in a base; without one it is not shown. -/
def addressText (base : String) (n : Nat) : String :=
  match base with
  | "d" => padZeros 7 (toString n)
  | "x" => padZeros 6 (String.ofList (Nat.toDigits 16 n))
  | "n" => ""
  | _ => padZeros 7 (String.ofList (Nat.toDigits 8 n))

/-- The bytes of files in digits. -/
def od : Utility := fun args =>
  withOptions "od" 1
    { plain := "abcdiloxv", valued := "AtNjw"
      long := [("address-radix", 'A'), ("format", 't'), ("read-bytes", 'N'), ("skip-bytes", 'j'),
        ("width", 'w'), ("output-duplicates", 'v')] } args fun o => do
    let ofLetter (t : Char × String) : Option ByteForm :=
      match t.1 with
      | 't' => ByteForm.ofText? t.2
      | 'a' => ByteForm.ofText? "a"
      | 'b' => ByteForm.ofText? "o1"
      | 'c' => ByteForm.ofText? "c"
      | 'd' => ByteForm.ofText? "u2"
      | 'x' => ByteForm.ofText? "x2"
      | 'o' => ByteForm.ofText? "o2"
      | 'i' => ByteForm.ofText? "d4"
      | _ => none
    let forms := o.taken.filterMap ofLetter
    let forms := if forms.isEmpty then [⟨2, 'o', 7⟩] else forms
    let (text, status) ← joinedInputs "od" 1 o.operands
    let skipped := ((o.value? 'j').bind amount?).map (·.2) |>.getD 0
    let bytes := (text.toList.map Char.toNat).drop skipped
    let bytes := match (o.value? 'N').bind amount? with
      | some (_, n) => bytes.take n
      | none => bytes
    let perLine := ((o.value? 'w').bind Numeral.digits?).getD 16
    let base := (o.value? 'A').getD "o"
    -- All forms take as much room as the widest one.
    let perByte := (forms.map fun f => f.width / f.size).foldl max 0
    let widened := forms.map fun f =>
      if 1 < forms.length && f.size = 1 then { f with width := max f.width perByte } else f
    let rows := chunks (max 1 perLine) (bytes.length + 1) bytes
    let step := fun (acc : List String × Nat × Option (List Nat) × Bool) (row : List Nat) =>
      let (done, address, last, starred) := acc
      if last = some row && !o.has 'v' then
        (if starred then done else "*" :: done, address + row.length, last, true)
      else
        let lines := widened.zipIdx.map fun (f, i) =>
          let title := addressText base address
          (if i = 0 then title else padLeft title.length "") ++ f.line (row.length + 1) row
        (lines.reverse ++ done, address + row.length, some row, false)
    let (done, address, _, _) := rows.foldl step ([], skipped, none, false)
    let last := if base = "n" then [] else [addressText base address]
    say (ofLines (done.reverse ++ last))
    return status

/-! ## Bytes in letters -/

/-- The letters for numbers of six bits. -/
def letters64 : List Char :=
  "ABCDEFGHIJKLMNOPQRSTUVWXYZabcdefghijklmnopqrstuvwxyz0123456789+/".toList

/-- Bytes in letters, three bytes in four of them. -/
def encoded64 : List Nat → List Char
  | [] => []
  | [a] =>
    [letters64.getD (a / 4) 'A', letters64.getD (a % 4 * 16) 'A', '=', '=']
  | [a, b] =>
    [letters64.getD (a / 4) 'A', letters64.getD (a % 4 * 16 + b / 16) 'A',
     letters64.getD (b % 16 * 4) 'A', '=']
  | a :: b :: c :: rest =>
    letters64.getD (a / 4) 'A' :: letters64.getD (a % 4 * 16 + b / 16) 'A' ::
      letters64.getD (b % 16 * 4 + c / 64) 'A' :: letters64.getD (c % 64) 'A' :: encoded64 rest

/-- The bytes of letters, and whether the letters make sense. -/
def decoded64 : List Char → List Nat × Bool
  | [] => ([], true)
  | [a, b, '=', '='] =>
    match letters64.idxOf? a, letters64.idxOf? b with
    | some m, some n => ([m * 4 + n / 16], true)
    | _, _ => ([], false)
  | [a, b, c, '='] =>
    match letters64.idxOf? a, letters64.idxOf? b, letters64.idxOf? c with
    | some m, some n, some k => ([m * 4 + n / 16, n % 16 * 16 + k / 4], true)
    | _, _, _ => ([], false)
  | a :: b :: c :: d :: rest =>
    match letters64.idxOf? a, letters64.idxOf? b, letters64.idxOf? c, letters64.idxOf? d with
    | some m, some n, some k, some l =>
      let (bytes, good) := decoded64 rest
      ([m * 4 + n / 16, n % 16 * 16 + k / 4, k % 4 * 64 + l] ++ bytes, good)
    | _, _, _, _ => ([], false)
  | [a, b, c] =>
    match letters64.idxOf? a, letters64.idxOf? b, letters64.idxOf? c with
    | some m, some n, some k => ([m * 4 + n / 16, n % 16 * 16 + k / 4], false)
    | _, _, _ => ([], false)
  | [a, b] =>
    match letters64.idxOf? a, letters64.idxOf? b with
    | some m, some n => ([m * 4 + n / 16], false)
    | _, _ => ([], false)
  | [_] => ([], false)

/-- Files in letters, or back. -/
def base64 : Utility := fun args =>
  withOptions "base64" 1
    { plain := "di", valued := "w"
      long := [("decode", 'd'), ("ignore-garbage", 'i'), ("wrap", 'w')] } args fun o => do
    let (text, status) ← joinedInputs "base64" 1 o.operands
    if status ≠ 0 then return status
    if o.has 'd' then
      let cs := text.toList.filter (· ≠ '\n')
      let cs := if o.has 'i' then cs.filter fun c => letters64.contains c || c = '=' else cs
      let (bytes, good) := decoded64 cs
      say (String.ofList (bytes.map Raw.char))
      return ← if good then pure 0 else fail "base64" "invalid input" 1
    let width := ((o.value? 'w').bind Numeral.digits?).getD 76
    let cs := encoded64 (text.toList.map Char.toNat)
    if width = 0 then say (String.ofList cs)
    else say (ofLines ((chunks width (cs.length + 1) cs).map String.ofList))
    return 0

/-! ## Files compared -/

/-- Whether two files have the same bytes. -/
def cmp : Utility := fun args =>
  withOptions "cmp" 2 { plain := "bls", valued := "in", long := [("silent", 's'), ("quiet", 's')] }
    args fun o => do
    match o.operands with
    | [] =>
      complain "cmp: missing operand after 'cmp'"
      fail "cmp" "Try 'cmp --help' for more information." 2
    | first :: rest =>
      let second := rest.headD "-"
      match ← readOperand first, ← readOperand second with
      | .error f, _ => failFor "cmp" first f 2
      | _, .error f => failFor "cmp" second f 2
      | .ok a, .ok b =>
        if a = b then return 0
        if o.has 's' then return 1
        let as := a.toList
        let bs := b.toList
        let pairs := (as.zip bs).zipIdx
        if o.has 'l' then
          let differing := pairs.filter fun p => p.1.1 ≠ p.1.2
          let octal (c : Char) : String := padLeft 3 (String.ofList (Nat.toDigits 8 c.toNat))
          say (ofLines (differing.map fun ((x, y), n) =>
            toString (n + 1) ++ " " ++ octal x ++ " " ++ octal y))
        match pairs.find? fun p => p.1.1 ≠ p.1.2 with
        | some (_, n) =>
          if !o.has 'l' then
            say (first ++ " " ++ second ++ " differ: char " ++ toString (n + 1) ++ ", line " ++
              toString ((as.take n).count '\n' + 1) ++ "\n")
        | none =>
          let (short, path) := if as.length < bs.length then (as, first) else (bs, second)
          if short.isEmpty then complain ("cmp: EOF on " ++ path ++ " which is empty")
          else
            let breaks := short.count '\n'
            let place := if short.getLast? = some '\n' then ", line " ++ toString breaks
              else ", in line " ++ toString (breaks + 1)
            complain ("cmp: EOF on " ++ path ++ " after byte " ++ toString short.length ++ place)
        return 1

/-- The lengths of the longest common parts of the ends of two lists, for each end of the second
one. -/
def commonLengths (a : String) (bs : List String) (below : List Nat) : List Nat :=
  match bs with
  | [] => [0]
  | b :: rest =>
    let later := commonLengths a rest below.tail
    let here := if a = b then below.tail.headD 0 + 1
      else max (below.headD 0) (later.headD 0)
    here :: later

/-- What becomes of a line. -/
inductive LineFate where
  | kept (s : String)
  | removed (s : String)
  | added (s : String)

/-- What becomes of the lines of a list on the way to another one; the table holds the lengths of
the longest common parts from each line of the first list on. -/
def fates : (table : List (List Nat)) → List String → List String → List LineFate
  | _, [], bs => bs.map .added
  | _, as, [] => as.map .removed
  | table, a :: as, b :: bs =>
    if a = b then .kept a :: fates (table.tail.map List.tail) as bs
    else
      let here := table.headD []
      let below := table.tail.headD []
      if here.tail.headD 0 ≤ below.headD 0 then .removed a :: fates table.tail as (b :: bs)
      else .added b :: fates (table.map List.tail) (a :: as) bs
  termination_by _ as bs => as.length + bs.length

/-- What becomes of the lines of a list on the way to another one. -/
def lineFates (as bs : List String) : List LineFate :=
  let last := List.replicate (bs.length + 1) 0
  let table := as.foldr (fun a (rows : List (List Nat)) =>
    commonLengths a bs (rows.headD last) :: rows) [last]
  fates table as bs

/-- A place in two lists, and the lines that are removed and added there. -/
structure Hunk where
  before : Nat
  after : Nat
  removed : List String
  added : List String

/-- The places at which lines are removed or added. -/
def hunks (fs : List LineFate) : List Hunk :=
  let close (h : Hunk) (done : List Hunk) : List Hunk :=
    if h.removed.isEmpty && h.added.isEmpty then done
    else { h with removed := h.removed.reverse, added := h.added.reverse } :: done
  let step := fun ((done, h) : List Hunk × Hunk) (f : LineFate) =>
    match f with
    | .kept _ =>
      (close h done, ⟨h.before + h.removed.length + 1, h.after + h.added.length + 1, [], []⟩)
    | .removed s => (done, { h with removed := s :: h.removed })
    | .added s => (done, { h with added := s :: h.added })
  let (done, h) := fs.foldl step ([], ⟨0, 0, [], []⟩)
  (close h done).reverse

/-- The lines of a text, marked if the text ends within the last one. -/
def markedLines (s : String) : List String :=
  let ls := linesOf s
  if endsOpen s then ls.dropLast ++ [ls.getLastD "" ++ "\n\\ No newline at end of file"] else ls

/-- The numbers of some lines after a number of lines. -/
def numbersText (before count : Nat) : String :=
  if count ≤ 1 then toString (before + count)
  else toString (before + 1) ++ "," ++ toString (before + count)

/-- A hunk in words. -/
def Hunk.text (h : Hunk) : String :=
  let letter := if h.removed.isEmpty then "a" else if h.added.isEmpty then "d" else "c"
  let title := numbersText h.before h.removed.length ++ letter ++
    numbersText h.after h.added.length
  let between := if h.removed.isEmpty || h.added.isEmpty then [] else ["---"]
  ofLines (title :: h.removed.map ("< " ++ ·) ++ between ++ h.added.map ("> " ++ ·))

/-- The lines in which two files differ. -/
def diff : Utility := fun args =>
  withOptions "diff" 2
    { plain := "abBcdeiNnpqrstTuwy", valued := "U"
      long := [("brief", 'q'), ("report-identical-files", 's'), ("unified", 'u')] } args fun o => do
    match o.operands with
    | [] =>
      complain "diff: missing operand after 'diff'"
      fail "diff" "Try 'diff --help' for more information." 2
    | [a] =>
      complain ("diff: missing operand after " ++ quoted a)
      fail "diff" "Try 'diff --help' for more information." 2
    | first :: second :: _ =>
      let a ← readOperand first
      let b ← readOperand second
      let mut status := 0
      if let .error f := a then status ← failFor "diff" first f 2
      if let .error f := b then status ← failFor "diff" second f 2
      if status ≠ 0 then return status
      let a := a.toOption.getD ""
      let b := b.toOption.getD ""
      if a = b then
        if o.has 's' then say ("Files " ++ first ++ " and " ++ second ++ " are identical\n")
        return 0
      if o.has 'q' then
        say ("Files " ++ first ++ " and " ++ second ++ " differ\n")
        return 1
      let fs := lineFates (markedLines a) (markedLines b)
      if o.has 'u' then
        let rows := fs.map fun f => match f with
          | .kept s => " " ++ s
          | .removed s => "-" ++ s
          | .added s => "+" ++ s
        let range (n : Nat) : String :=
          if n = 1 then "1" else (if n = 0 then "0" else "1") ++ "," ++ toString n
        say (ofLines (("--- " ++ first) :: ("+++ " ++ second) ::
          ("@@ -" ++ range (linesOf a).length ++ " +" ++ range (linesOf b).length ++ " @@") ::
          rows))
      else say (String.join ((hunks fs).map Hunk.text))
      return 1

end EnvRegistry.Shell.Utility
