import EnvRegistry.Shell.Pattern
import EnvRegistry.Shell.State

/-! # Fields

    After its expansions have given way to what they stand for, a word falls into fields
    at gaps that were not quoted, and a field that is a pattern gives way to the paths it
    accepts. -/

namespace EnvRegistry.Shell

/-! ## Gaps between fields -/

/-- The characters at which texts fall into fields: a run of blanks parts two fields, and so does
every single break. -/
structure Gaps where
  blanks : List Char
  breaks : List Char

namespace Gaps

/-- The characters of a text, as far as they are blanks and as far as they are not. -/
def ofString (s : String) : Gaps :=
  let isBlank := fun (c : Char) => c = ' ' || c = '\t' || c = '\n'
  ⟨s.toList.filter isBlank, s.toList.filter (!isBlank ·)⟩

/-- What parts two arguments that are put into a word together. -/
def argumentGap : Char := '\x00'

/-- Whether a character is a blank. -/
def isBlank (g : Gaps) (c : Char) : Bool := g.blanks.contains c || c = argumentGap

/-- Whether a character is a break. -/
def isBreak (g : Gaps) (c : Char) : Bool := g.breaks.contains c

end Gaps

/-! ## Words after expansion -/

/-- A piece of a word after expansion. -/
inductive Expanded where
  /-- Quotes. -/
  | mark
  /-- A text; `splits` says that it falls into fields at gaps. -/
  | text (quoted splits : Bool) (s : String)
  /-- A field ends and another one begins. -/
  | border
  deriving DecidableEq, Repr

namespace Expanded

/-- The characters of a piece. -/
def marks : Expanded → List Mark
  | .text quoted _ s => s.toList.map fun c => ⟨c, quoted⟩
  | _ => []

/-- The text of a piece. -/
def string : Expanded → String
  | .text _ _ s => s
  | _ => ""

/-- Fields as they are read. -/
structure Reading where
  /-- The earlier fields, in reverse. -/
  done : List (List Mark) := []
  /-- The field being read, in reverse. -/
  current : Option (List Mark) := none
  /-- Whether the last field ended at a blank. -/
  afterBlank : Bool := false

/-- Adds a character at which fields may be parted. -/
def Reading.addSplit (g : Gaps) (r : Reading) (m : Mark) : Reading :=
  if g.isBlank m.char then
    match r.current with
    | some field => ⟨field.reverse :: r.done, none, true⟩
    | none => r
  else if g.isBreak m.char then
    match r.current with
    | some field => ⟨field.reverse :: r.done, none, false⟩
    | none => if r.afterBlank then { r with afterBlank := false } else ⟨[] :: r.done, none, false⟩
  else ⟨r.done, some (m :: r.current.getD []), false⟩

/-- Adds a piece. -/
def Reading.add (g : Gaps) (r : Reading) (e : Expanded) : Reading :=
  match e with
  | .mark => ⟨r.done, some (r.current.getD []), false⟩
  | .border => ⟨(r.current.getD []).reverse :: r.done, some [], false⟩
  | .text quoted splits s =>
    if splits then e.marks.foldl (Reading.addSplit g) r
    else if s.isEmpty && !quoted then r
    else ⟨r.done, some (e.marks.reverse ++ r.current.getD []), false⟩

/-- The fields that pieces make. -/
def fields (g : Gaps) (es : List Expanded) : List (List Mark) :=
  let r := es.foldl (Reading.add g) {}
  match r.current with
  | some field => (field.reverse :: r.done).reverse
  | none => r.done.reverse

end Expanded

/-! ## Paths that a field accepts -/

/-- The text of a field. -/
def fieldText (ms : List Mark) : String := String.ofList (ms.map Mark.char)

/-- The parts of a field between slashes; every part but the last has the slashes after it. -/
def pathParts : (current : List Mark) → List Mark → List (List Mark)
  | current, [] => [current.reverse]
  | current, m :: rest =>
    if m.char = '/' then
      match rest with
      | n :: _ =>
        if n.char = '/' then pathParts (m :: current) rest
        else (m :: current).reverse :: pathParts [] rest
      | [] => [(m :: current).reverse, []]
    else pathParts (m :: current) rest

/-- The text of marks in which backslashes take the meaning of what follows. -/
def plainText : List Mark → List Char
  | [] => []
  | [m] => [m.char]
  | m :: n :: rest =>
    if m.char = '\\' && !m.quoted then n.char :: plainText rest
    else m.char :: plainText (n :: rest)

/-- The paths that some parts accept below a path, which has a slash at its end unless it is
empty. -/
def acceptedPaths (files : FileTree) (cwd : Place) : (parts : List (List Mark)) → (path : String) →
    List String
  | [], path => [path]
  | part :: rest, path =>
    let slashes := part.reverse.takeWhile (·.char = '/')
    let name := part.take (part.length - slashes.length)
    let ending := String.ofList (slashes.map Mark.char)
    if Pattern.isOpen name then
      let names := match files.locate cwd (if path.isEmpty then "." else Raw.toText path) with
        | .ok p => if files.isDirectory p then files.names p else []
        | .error _ => []
      let names := names.map Raw.ofText
      let showsHidden := name.head?.any (·.char = '.')
      let names := if showsHidden then "." :: ".." :: names else names
      let found := names.filter fun n =>
        (showsHidden || n.toList.head? ≠ some '.') && (Pattern.ofMarks name).accepts n.toList
      found.flatMap fun n =>
        if slashes.isEmpty then acceptedPaths files cwd rest (path ++ n)
        else if files.isDirectoryAt cwd (Raw.toText (path ++ n)) then
          acceptedPaths files cwd rest (path ++ n ++ ending)
        else []
    else
      let next := path ++ String.ofList (plainText name) ++ ending
      if !rest.isEmpty then acceptedPaths files cwd rest next
      else
        match files.locateName cwd (Raw.toText next) with
        | .ok p => if (files.get? p).isSome then [next] else []
        | .error _ => []

/-- Whether a text comes no later than another one in the order of their bytes. -/
def isNotAfter (a b : String) : Bool := compare a b != .gt

/-- The texts of a field: the paths it accepts, if it is a pattern and accepts some. -/
def fieldTexts (s : State) (ms : List Mark) : List String :=
  if s.options.contains 'f' || !Pattern.isOpen ms then [fieldText ms]
  else
    let found := acceptedPaths s.files s.cwd (pathParts [] ms) ""
    if found.isEmpty then [fieldText ms] else found.mergeSort isNotAfter

end EnvRegistry.Shell
