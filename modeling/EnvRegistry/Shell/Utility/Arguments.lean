import EnvRegistry.Shell.Utility.Basic

/-! # Commands with arguments from the input

    The input falls into items, and a command is run with as many of them as it takes. -/

namespace EnvRegistry.Shell.Utility

open ShellM

/-! ## Items -/

/-- Why a text does not fall into items. -/
inductive ItemFault where
  | open (mark : Char)

/-- The fault in words. -/
def ItemFault.message : ItemFault → String
  | .open mark =>
    "unmatched " ++ (if mark = '"' then "double" else "single") ++
      " quote; by default quotes are special to xargs unless you use the -0 option"

/-- Items between gaps, in lines.  Quotes keep gaps together, and a backslash takes the meaning of
the character after it. -/
structure ItemReader where
  /-- The items of the line, the last one first. -/
  line : List String := []
  /-- The lines before, the last one first. -/
  lines : List (List String) := []
  current : Option String := none

namespace ItemReader

/-- Adds a character to the item. -/
def add (r : ItemReader) (c : Char) : ItemReader :=
  { r with current := some ((r.current.getD "").push c) }

/-- Ends the item. -/
def endItem (r : ItemReader) : ItemReader :=
  match r.current with
  | some s => { r with current := none, line := s :: r.line }
  | none => r

/-- Ends the line. -/
def endLine (r : ItemReader) : ItemReader :=
  let r := r.endItem
  if r.line.isEmpty then r else { r with line := [], lines := r.line.reverse :: r.lines }

/-- Reads characters; `byLine` says that only line breaks part items. -/
def run (byLine : Bool) (r : ItemReader) : (quote : Option Char) → List Char →
    Except ItemFault ItemReader
  | none, [] => .ok r.endLine
  | some q, [] => .error (.open q)
  | some q, c :: rest =>
    if c = q then run byLine { r with current := some (r.current.getD "") } none rest
    else if c = '\n' then .error (.open q)
    else run byLine (r.add c) (some q) rest
  | none, c :: rest =>
    match c with
    | '\n' => run byLine r.endLine none rest
    | '\'' | '"' => run byLine r (some c) rest
    | '\\' =>
      match rest with
      | d :: rest => run byLine (r.add d) none rest
      | [] => .ok r.endLine
    | _ =>
      if c = ' ' || c = '\t' then
        if byLine then run byLine (if r.current.isNone then r else r.add c) none rest
        else run byLine r.endItem none rest
      else run byLine (r.add c) none rest

end ItemReader

/-- The items of a text, in lines. -/
def itemLines (byLine : Bool) (s : String) : Except ItemFault (List (List String)) := do
  let r ← ItemReader.run byLine {} none s.toList
  return r.lines.reverse

/-- The items of a text between marks. -/
def itemsBetween (mark : Char) (s : String) : List String :=
  let parts := s.splitOn (String.singleton mark)
  if parts.getLast? = some "" then parts.dropLast else parts

/-! ## The utility -/

/-- The options of the utility. -/
def xargsRules : OptionRules where
  plain := "0prtxoi"
  valued := "adEeILlnPs"
  mixed := false
  long := [("null", '0'), ("arg-file", 'a'), ("delimiter", 'd'), ("replace", 'I'),
    ("max-lines", 'L'), ("max-args", 'n'), ("max-procs", 'P'), ("no-run-if-empty", 'r'),
    ("verbose", 't')]

/-- Runs a command for lists of arguments, up to one with which it says that no other is to
follow. -/
def runLists (command : List String → ShellM Nat) (shown : Bool) :
    List (List String) → ShellM Nat
  | [] => return 0
  | args :: rest => do
    if shown then complain (String.intercalate " " args)
    let status ← command args
    if status = 126 || status = 127 then return status
    if status = 255 then
      return ← fail "xargs" (args.headD "" ++ ": exited with status 255; aborting") 124
    if 128 < status then
      let text := args.headD "" ++ ": terminated by signal " ++ toString (status - 128)
      return ← fail "xargs" text 125
    let later ← runLists command shown rest
    return if later = 0 && status ≠ 0 then 123 else later

/-- Puts an item in the place of a mark. -/
def withItem (mark item argument : String) : String :=
  String.intercalate item (argument.splitOn mark)

/-- Runs a command with arguments from the input. -/
def xargs (command : List String → ShellM Nat) : Utility := fun args =>
  withOptions "xargs" 1 xargsRules args fun o => do
    let fixed := if o.operands.isEmpty then ["echo"] else o.operands
    let read? ← match o.value? 'a' with
      | some path => readPath path none
      | none => read 0 none
    match read? with
    | .error f => fail "xargs" f.reason 1
    | .ok text =>
      let mark := if o.has 'i' && (o.value? 'I').isNone then some "\x7b\x7d" else o.value? 'I'
      let delimiter := if o.has '0' then some '\x00'
        else match o.value? 'd' with
          | some "\\n" => some '\n'
          | some "\\t" => some '\t'
          | some "\\0" => some '\x00'
          | some s => s.toList.head?
          | none => none
      let lines : Except ItemFault (List (List String)) := match delimiter with
        | some c => .ok ((itemsBetween c text).map fun s => [s])
        | none => itemLines mark.isSome text
      match lines with
      | .error f => fail "xargs" f.message 1
      | .ok lines =>
        let items := lines.flatten
        let count (letter : Char) : Option Nat := (o.value? letter).bind String.toNat?
        let lists := match mark, count 'L', count 'n' with
          | some mark, _, _ =>
            items.map fun item => fixed.map fun a => withItem mark item a
          | none, some n, _ =>
            (chunks (max 1 n) lines.length lines).map fun ls => fixed ++ ls.flatten
          | none, none, some n =>
            (chunks (max 1 n) items.length items).map fun part => fixed ++ part
          | none, none, none => if items.isEmpty then [] else [fixed ++ items]
        let lists := if lists.isEmpty && mark.isNone && !o.has 'r' then [fixed] else lists
        keepingChannels do
          setChannel 0 (← openStream { stream := .nowhere })
          runLists command (o.has 't') lists

end EnvRegistry.Shell.Utility
