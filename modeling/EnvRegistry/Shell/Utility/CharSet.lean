import EnvRegistry.Shell.Format
import EnvRegistry.Shell.Pattern
import EnvRegistry.Shell.Utility.Basic

/-! # Characters put in place of others

    A set is written as its characters, with ranges, named classes, and characters that
    are repeated as often as is needed. -/

namespace EnvRegistry.Shell.Utility

open ShellM

namespace CharSet

/-- A part of a set. -/
inductive Part where
  | chars (cs : List Char)
  | named (name : String)
  /-- A character as often as is needed. -/
  | fill (c : Char)

/-- What is wrong with a set. -/
inductive Fault where
  | reversed (range : String)
  | noClass (name : String)

/-- The fault in words. -/
def Fault.message : Fault → String
  | .reversed range => "range-endpoints of " ++ quoted range ++
      " are in reverse collating sequence order"
  | .noClass name => "invalid character class " ++ quoted name

/-- A character of a set with what stands before it if it is escaped, and what follows. -/
def next? : List Char → Option (Char × Bool × List Char)
  | [] => none
  | '\\' :: rest =>
    match rest with
    | [] => some ('\\', true, [])
    | c :: after =>
      let (d, others) := Format.escape rest
      -- A backslash before any other character says that this stands for itself.
      if others.length = rest.length then some (c, true, after) else some (d, true, others)
  | c :: rest => some (c, false, rest)

/-- The characters between two characters. -/
def between (a b : Char) : List Char :=
  (List.range (b.toNat + 1 - a.toNat)).map fun i => Char.ofNat (a.toNat + i)

/-- A part in brackets, after the first one, and what follows. -/
def bracketed? (cs : List Char) : Option (Part × List Char) :=
  match cs with
  | ':' :: rest =>
    match rest.dropWhile (· ≠ ':') with
    | ':' :: ']' :: after => some (.named (String.ofList (rest.takeWhile (· ≠ ':'))), after)
    | _ => none
  | '=' :: c :: '=' :: ']' :: rest => some (.chars [c], rest)
  | _ =>
    match next? cs with
    | some (c, _, '*' :: rest) =>
      let ds := rest.takeWhile Char.isDigit
      match rest.dropWhile Char.isDigit with
      | ']' :: after =>
        let n := Numeral.ofDigits (if ds.head? = some '0' then 8 else 10) ds
        some (if n = 0 then .fill c else .chars (List.replicate n c), after)
      | _ => none
    | _ => none

/-- Reads the parts of a set. -/
def parts : (fuel : Nat) → List Char → Except Fault (List Part)
  | 0, _ => .ok []
  | _, [] => .ok []
  | fuel + 1, c :: rest => do
    match (if c = '[' then bracketed? rest else none) with
    | some (p, after) =>
      if let .named name := p then
        if (charClass? name).isNone then throw (.noClass name)
      return p :: (← parts fuel after)
    | none =>
      match next? (c :: rest) with
      | none => return []
      | some (a, _, '-' :: after) =>
        match next? after with
        | none => return .chars [a, '-'] :: (← parts fuel [])
        | some (b, _, after) =>
          if b < a then
            throw (.reversed (String.ofList [a, '-', b]))
          return .chars (between a b) :: (← parts fuel after)
      | some (a, _, after) => return .chars [a] :: (← parts fuel after)

/-- All characters there are. -/
def everyChar : List Char := (List.range 256).map Char.ofNat

/-- The characters of a set that is to have a number of characters at least. -/
def expand (least : Nat) (ps : List Part) : List Char :=
  let plain : Part → List Char
    | .chars cs => cs
    | .named name => match charClass? name with
      | some p => everyChar.filter p
      | none => []
    | .fill _ => []
  let own := ps.foldl (fun n p => n + (plain p).length) 0
  ps.flatMap fun p => match p with
    | .fill c => List.replicate (least - own) c
    | p => plain p

/-- The set that a text is. -/
def ofText (s : String) : Except Fault (List Part) := parts s.length s.toList

end CharSet

/-- Characters of which some are left out when they follow themselves. -/
def squeezed (isListed : Char → Bool) (cs : List Char) : List Char :=
  (cs.foldl (fun kept c => if isListed c && kept.head? = some c then kept else c :: kept)
    []).reverse

/-- What characters become: the `i`-th of some becomes the `i`-th of others. -/
def replacedChars (listed targets : List Char) (cs : List Char) : List Char :=
  let pairs := listed.zip targets
  -- Of several places of a character the last one counts.
  let table : Array Char := (List.range 256).toArray.map Char.ofNat
  let table := pairs.foldl (fun (t : Array Char) p => t.set! p.1.toNat p.2) table
  cs.map fun c => table.getD c.toNat c

/-- The input with some characters put in place of others, or left out. -/
def tr : Utility := fun args =>
  withOptions "tr" 1
    { plain := "cCdst", mixed := false
      long := [("complement", 'c'), ("delete", 'd'), ("squeeze-repeats", 's'),
        ("truncate-set1", 't')] } args fun o => do
    let deletes := o.has 'd'
    let squeezes := o.has 's'
    let others := o.has 'c' || o.has 'C'
    let work (first second : List CharSet.Part) : ShellM Nat := do
      let listed := CharSet.expand 0 first
      let listed := if others then CharSet.everyChar.filter (!listed.contains ·) else listed
      let targets := CharSet.expand listed.length second
      let input := ((← read 0 none).toOption).getD ""
      let cs := input.toList
      let result := match deletes, o.operands with
        | true, _ =>
          let left := cs.filter (!listed.contains ·)
          if squeezes then squeezed targets.contains left else left
        | false, [_] => squeezed listed.contains cs
        | false, _ =>
          let listed := if o.has 't' then listed.take targets.length else listed
          let fill := List.replicate (listed.length - targets.length) (targets.getLastD ' ')
          let changed := replacedChars listed (targets ++ fill) cs
          if squeezes then squeezed targets.contains changed else changed
      say (String.ofList result)
      return 0
    let one := (deletes && !squeezes) || (squeezes && !deletes && o.operands.length = 1)
    match o.operands with
    | [] => failUsage "tr" "missing operand" 1
    | [a] =>
      if !one then
        let why := if deletes then
            "Two strings must be given when both deleting and squeezing repeats."
          else "Two strings must be given when translating."
        failUsage "tr" ("missing operand after " ++ quoted a ++ "\n" ++ why) 1
      else
        match CharSet.ofText a with
        | .error f => fail "tr" f.message 1
        | .ok first => work first []
    | [a, b] =>
      if one then
        failUsage "tr" ("extra operand " ++ quoted b ++
          "\nOnly one string may be given when deleting without squeezing repeats.") 1
      else
        match CharSet.ofText a, CharSet.ofText b with
        | .error f, _ | _, .error f => fail "tr" f.message 1
        | .ok first, .ok second =>
          if b.isEmpty && !deletes && !o.has 't' then
            fail "tr" "when not truncating set1, string2 must be non-empty" 1
          else work first second
    | _ :: _ :: extra :: _ => failUsage "tr" ("extra operand " ++ quoted extra) 1

end EnvRegistry.Shell.Utility
