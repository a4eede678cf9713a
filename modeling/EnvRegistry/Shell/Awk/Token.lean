import EnvRegistry.Shell.Awk.Program
import EnvRegistry.Shell.Numeral
import EnvRegistry.Shell.Raw

/-! # The signs and words of a program -/

namespace EnvRegistry.Shell.Awk

open Fraction

/-- A sign or a word. -/
inductive Token where
  | number (x : Binary64) (source : String)
  | text (s : String)
  | pattern (s : String)
  | name (s : String)
  /-- A name with a bracket right behind it. -/
  | callName (s : String)
  /-- A function that every program has. -/
  | function (s : String)
  | keyword (s : String)
  | sign (s : String)
  | lineEnd
  deriving DecidableEq

/-- The text of a token, as a message shows it. -/
def Token.shown : Token → String
  | .number _ source => source
  | .text s => "\"" ++ s ++ "\""
  | .pattern s => "/" ++ s ++ "/"
  | .name s | .callName s | .function s | .keyword s | .sign s => s
  | .lineEnd => "end of line"

/-- The words that statements are made of. -/
def keywords : List String :=
  ["BEGIN", "END", "break", "continue", "delete", "do", "else", "exit", "for", "function", "func",
   "getline", "if", "in", "next", "nextfile", "print", "printf", "return", "while"]

/-- The functions that every program has. -/
def functionNames : List String :=
  ["atan2", "close", "cos", "exp", "fflush", "gsub", "index", "int", "length", "log", "match",
   "rand", "sin", "split", "sprintf", "sqrt", "srand", "sub", "substr", "system", "tolower",
   "toupper"]

/-- The signs of two or three characters. -/
def longSigns : List String :=
  ["&&", "||", "==", "!=", "<=", ">=", ">>", "++", "--", "+=", "-=", "*=", "/=", "%=", "^=", "!~"]

/-- The signs of one character. -/
def shortSigns : List Char :=
  ['\x7b', '\x7d', '(', ')', '[', ']', ';', ',', '+', '-', '*', '/', '%', '^', '!', '<', '>', '|',
   '?', ':', '~', '$', '=']

/-- Whether a slash after a token divides; otherwise a pattern starts with it. -/
def divides : Option Token → Bool
  | some (.number _ _) | some (.text _) | some (.name _) | some (.pattern _) => true
  | some (.function s) => s = "length"
  | some (.sign s) => [")", "]", "$", "++", "--"].contains s
  | _ => false

/-! ## Texts -/

/-- The value of a digit of base sixteen. -/
def hexDigit? (c : Char) : Option Nat :=
  if c.isDigit then some (c.toNat - '0'.toNat)
  else if 'a' ≤ c && c ≤ 'f' then some (c.toNat - 'a'.toNat + 10)
  else if 'A' ≤ c && c ≤ 'F' then some (c.toNat - 'A'.toNat + 10)
  else none

/-- The character after a backslash, if it stands for another one, and what follows. -/
def escape? : List Char → Option (Char × List Char)
  | [] => none
  | c :: cs =>
    match c with
    | '"' => some ('"', cs)
    | '\\' => some ('\\', cs)
    | 'a' => some ('\x07', cs)
    | 'b' => some ('\x08', cs)
    | 'f' => some ('\x0c', cs)
    | 'n' => some ('\n', cs)
    | 'r' => some ('\r', cs)
    | 't' => some ('\t', cs)
    | 'v' => some ('\x0b', cs)
    | 'x' =>
      let ds := (cs.take 2).takeWhile fun d => (hexDigit? d).isSome
      if ds.isEmpty then none
      else
        let n := ds.foldl (fun n d => 16 * n + (hexDigit? d).getD 0) 0
        some (Raw.char n, cs.drop ds.length)
    | _ =>
      let ds := ((c :: cs).take 3).takeWhile fun d => '0' ≤ d && d ≤ '7'
      if ds.isEmpty then none
      else some (Raw.char (Numeral.ofDigits 8 ds), (c :: cs).drop ds.length)

/-- A text with its escapes taken for what they mean. -/
def unescaped : (fuel : Nat) → List Char → List Char
  | 0, _ => []
  | fuel + 1, cs =>
    match cs with
    | [] => []
    | '\\' :: '\n' :: rest => unescaped fuel rest
    | '\\' :: rest =>
      match escape? rest with
      | some (c, rest) => c :: unescaped fuel rest
      | none => '\\' :: unescaped fuel rest
    | c :: rest => c :: unescaped fuel rest

/-- A text with its escapes taken for what they mean. -/
def unescape (s : String) : String := String.ofList (unescaped (s.length + 1) s.toList)

/-- The characters up to a quote, and what follows the quote. -/
def quotedPart : List Char → Option (List Char × List Char)
  | [] => none
  | '"' :: rest => some ([], rest)
  | '\\' :: c :: rest => (quotedPart rest).map fun (cs, rest) => ('\\' :: c :: cs, rest)
  | '\n' :: _ => none
  | c :: rest => (quotedPart rest).map fun (cs, rest) => (c :: cs, rest)

/-- The text of a pattern up to the slash that ends it, and what follows; a slash in a set belongs
to the pattern. -/
def patternPart (inSet : Bool) : List Char → Option (List Char × List Char)
  | [] => none
  | '\\' :: '/' :: rest => (patternPart inSet rest).map fun (cs, rest) => ('/' :: cs, rest)
  | '\\' :: '"' :: rest => (patternPart inSet rest).map fun (cs, rest) => ('"' :: cs, rest)
  | '\\' :: c :: rest =>
    (patternPart inSet rest).map fun (cs, rest) => ('\\' :: c :: cs, rest)
  | '\n' :: _ => none
  | '[' :: '^' :: ']' :: rest =>
    if inSet then (patternPart true (']' :: rest)).map fun (cs, rest) => ('[' :: '^' :: cs, rest)
    else (patternPart true rest).map fun (cs, rest) => ('[' :: '^' :: ']' :: cs, rest)
  | '[' :: ']' :: rest =>
    if inSet then (patternPart false rest).map fun (cs, rest) => ('[' :: ']' :: cs, rest)
    else (patternPart true rest).map fun (cs, rest) => ('[' :: ']' :: cs, rest)
  | '[' :: ':' :: rest =>
    (patternPart true rest).map fun (cs, rest) => ('[' :: ':' :: cs, rest)
  | ':' :: ']' :: rest =>
    if inSet then (patternPart true rest).map fun (cs, rest) => (':' :: ']' :: cs, rest)
    else (patternPart false rest).map fun (cs, rest) => (':' :: ']' :: cs, rest)
  | '[' :: rest => (patternPart true rest).map fun (cs, rest) => ('[' :: cs, rest)
  | ']' :: rest => (patternPart false rest).map fun (cs, rest) => (']' :: cs, rest)
  | '/' :: rest =>
    if inSet then (patternPart true rest).map fun (cs, rest) => ('/' :: cs, rest)
    else some ([], rest)
  | c :: rest => (patternPart inSet rest).map fun (cs, rest) => (c :: cs, rest)

/-! ## Tokens -/

/-- Whether a text is the name of a variable or function. -/
def isNamePart (c : Char) : Bool := c.isAlphanum || c = '_'

/-- The token of a word, given what follows it. -/
def wordToken (s : String) (next : Option Char) : Token :=
  if keywords.contains s then .keyword (if s = "func" then "function" else s)
  else if functionNames.contains s then .function s
  else if next = some '(' then .callName s
  else .name s

/-- The beginning of a text that does not end, as a message shows it. -/
def beginning (cs : List Char) : String := String.ofList (cs.take 10) ++ " ..."

/-- Reads a token that is no word, given the token before it.  Gives what follows, too. -/
def signToken (line : Nat) (before : Option Token) (cs : List Char) :
    Except ProgramFault (Token × List Char) :=
  match cs with
  | [] => .ok (.lineEnd, [])
  | '"' :: rest =>
    match quotedPart rest with
    | some (text, rest) => .ok (.text (unescape (String.ofList text)), rest)
    | none => .error ⟨line, "runaway string constant \"" ++ beginning rest⟩
  | c :: rest =>
    if c = '/' && !divides before then
      match patternPart false rest with
      | some (text, rest) => .ok (.pattern (String.ofList text), rest)
      | none => .error ⟨line, "runaway regular expression /" ++ beginning rest⟩
    else
      let two := String.ofList (cs.take 2)
      if longSigns.contains two then .ok (.sign two, cs.drop 2)
      else if shortSigns.contains c then .ok (.sign (String.singleton c), rest)
      else .error ⟨line, "unexpected character '" ++ String.singleton c ++ "'"⟩

/-- The tokens of a text with their lines, given the token before them. -/
def tokens : (fuel : Nat) → (line : Nat) → (before : Option Token) → List Char →
    Except ProgramFault (List (Token × Nat))
  | 0, _, _, _ => .ok []
  | _, _, _, [] => .ok []
  | fuel + 1, line, before, c :: rest => do
    let go (t : Token) (rest : List Char) : Except ProgramFault (List (Token × Nat)) := do
      let later ← tokens fuel line (some t) rest
      return (t, line) :: later
    if c = ' ' || c = '\t' || c = '\r' then tokens fuel line before rest
    else if c = '\n' then do
      let later ← tokens fuel (line + 1) (some .lineEnd) rest
      return (.lineEnd, line) :: later
    else if c = '#' then tokens fuel line before (rest.dropWhile (· ≠ '\n'))
    else if c = '\\' && rest.head? = some '\n' then tokens fuel (line + 1) before rest.tail
    else if c.isDigit || (c = '.' && rest.head?.any Char.isDigit) then
      match Binary64.decimal? (c :: rest) with
      | some (x, after) =>
        let source := String.ofList ((c :: rest).take ((c :: rest).length - after.length))
        go (.number (.ofRat x) source) after
      | none => go (.sign ".") rest
    else if c.isAlpha || c = '_' then
      let word := (c :: rest).takeWhile isNamePart
      let after := (c :: rest).drop word.length
      go (wordToken (String.ofList word) after.head?) after
    else
      let (t, after) ← signToken line before (c :: rest)
      go t after

end EnvRegistry.Shell.Awk
