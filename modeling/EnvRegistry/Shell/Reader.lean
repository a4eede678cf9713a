import EnvRegistry.Shell.Command
import EnvRegistry.Shell.Fault
import EnvRegistry.Shell.Program

/-! # From texts to commands

    A command text is read line by line: the commands of a line are run before those of
    the next one are read.  Words and operators are taken from the text only when they
    are asked for, because a command in a word is read where it stands, and because
    only the place of a word says whether it is a reserved one.

    Every function below that may come back to itself gets fuel.  Each call takes a
    character or goes down one of a few steps, so some times the length of the text is
    fuel enough. -/

namespace EnvRegistry.Shell

/-! ## What is read -/

/-- A word or operator. -/
inductive Lexeme where
  | word (w : Word)
  /-- A word that means something at its place. -/
  | reserved (s : String)
  | operator (s : String)
  | lineEnd
  | redirect (channel : Nat) (sign : String)
  | finish

/-- A text that is to follow: its number, the line after it, whether its expansions stay as they
are, and whether its lines lose the tabs they start with. -/
structure Announced where
  number : Nat
  delimiter : String
  verbatim : Bool
  withoutTabs : Bool

/-- The lines up to the one that ends an announced text, and what follows; `acc` holds the
characters so far in reverse. -/
def Announced.split (a : Announced) : (fuel : Nat) → (acc : List Char) → List Char →
    List Char × List Char
  | 0, acc, cs => (acc.reverse, cs)
  | _, acc, [] => (acc.reverse, [])
  | fuel + 1, acc, c :: cs =>
    let line := (c :: cs).takeWhile (· ≠ '\n')
    let rest := (c :: cs).dropWhile (· ≠ '\n')
    let kept := if a.withoutTabs then line.dropWhile (· = '\t') else line
    if kept = a.delimiter.toList then (acc.reverse, rest.tail)
    else a.split fuel ((kept ++ rest.take 1).reverse ++ acc) rest.tail

/-- Where a reader of commands is. -/
structure Reader where
  rest : List Char
  line : Nat := 1
  /-- A word or operator that has been looked at and not been taken. -/
  waiting : Option Lexeme := none
  /-- The texts that follow at the next line break, the first one first. -/
  announced : List Announced := []
  /-- The texts that have followed commands, the last one first. -/
  texts : List (Nat × Word) := []
  /-- The number of the next text that follows a command. -/
  nextText : Nat := 0
  /-- What is read in place of a name with which a command starts. -/
  aliases : List (String × String) := []
  /-- The names in whose place something is being read, with the length of what follows it. -/
  replaced : List (String × Nat) := []

/-- A step of reading commands; what fails it is a fault on a line. -/
abbrev ReadM := StateT Reader (Except (Nat × SyntaxFault))

namespace Lexeme

/-- The text of a word without quotes and expansions. -/
def bareText? : Lexeme → Option String
  | .word w => Shell.bareText? w
  | _ => none

/-- Whether this is an operator. -/
def isOperator (s : String) : Lexeme → Bool
  | .operator t => s = t
  | _ => false

/-- Whether this is a reserved word. -/
def isReserved (s : String) : Lexeme → Bool
  | .reserved t => s = t
  | _ => false

/-- What this is called. -/
def title : Lexeme → String
  | .word _ => "word"
  | .reserved s | .operator s => SyntaxFault.quoted s
  | .lineEnd => "newline"
  | .redirect _ _ => "redirection"
  | .finish => SyntaxFault.textEnd

/-- Whether a list of commands ends here. -/
def closes : Lexeme → Bool
  | .reserved s => ["then", "else", "elif", "fi", "do", "done", "esac", "\x7d"].contains s
  | .operator s => s = ")" || s = ";;"
  | .finish => true
  | _ => false

end Lexeme

/-- Words that mean something where a command may start. -/
def reservedWords : List String :=
  ["!", "case", "do", "done", "elif", "else", "esac", "fi", "for", "if", "in", "then", "until",
   "while", "\x7b", "\x7d"]

/-- Characters that end a word unless they are quoted. -/
def endsWord (c : Char) : Bool :=
  [' ', '\t', '\n', ';', '&', '|', '<', '>', '(', ')'].contains c

/-- Parameters whose name is a single character. -/
def isSpecialName (c : Char) : Bool := c.isDigit || ['$', '?', '#', '@', '*', '!', '-'].contains c

/-- How far a list of commands goes. -/
inductive ListKind where
  /-- To the end of the line. -/
  | line
  /-- To what closes it; there may be no command at all. -/
  | toBracket
  /-- To what closes it, but there has to be a command. -/
  | inside
  deriving DecidableEq, Repr

namespace ReadM

/-! ## Characters -/

/-- Takes a step in which names stand for themselves. -/
def withoutAliases {α : Type} (m : ReadM α) : ReadM α := do
  let aliases := (← get).aliases
  modify fun r => { r with aliases := [] }
  let a ← m
  modify fun r => { r with aliases }
  return a

/-- Fails with a fault on the line one is on. -/
def fail {α : Type} (f : SyntaxFault) : ReadM α := do throw ((← get).line, f)

/-- Passes over line breaks that a backslash takes back. -/
def joinFrom (line : Nat) : List Char → Nat × List Char
  | '\\' :: '\n' :: rest => joinFrom (line + 1) rest
  | cs => (line, cs)

/-- Passes over line breaks that a backslash takes back. -/
def join : ReadM Unit := modify fun r =>
  let (line, rest) := joinFrom r.line r.rest
  { r with line, rest }

/-- The next character, whatever stands before it. -/
def peekRaw : ReadM (Option Char) := return (← get).rest.head?

/-- Takes the next character. -/
def skipRaw : ReadM Unit := modify fun r =>
  match r.rest with
  | c :: rest => { r with rest, line := if c = '\n' then r.line + 1 else r.line }
  | [] => r

/-- The next character after line breaks that are taken back. -/
def peek : ReadM (Option Char) := do
  join
  peekRaw

/-- Takes a character that has to come next, and says whether it did. -/
def takeIf (c : Char) : ReadM Bool := do
  if (← peek) = some c then
    skipRaw
    return true
  return false

/-- Takes the characters that satisfy `p`. -/
def takeWhile (p : Char → Bool) : (fuel : Nat) → ReadM (List Char)
  | 0 => return []
  | fuel + 1 => do
    match ← peek with
    | some c =>
      if p c then
        skipRaw
        return c :: (← takeWhile p fuel)
      return []
    | none => return []

/-- So many calls are enough to read what is left. -/
def budget : ReadM Nat := return 2 * (← get).rest.length + 8

/-! ## Pieces -/

/-- Adds a character to the last piece of a word in reverse, if that is text of its kind. -/
def addChar (quoted : Bool) (c : Char) : List Piece → List Piece
  | .text q s :: rest =>
    if q = quoted then .text q (s.push c) :: rest
    else .text quoted (String.singleton c) :: .text q s :: rest
  | ps => .text quoted (String.singleton c) :: ps

/-- Adds what a backslash within double quotes makes of the character after it, which loses its
meaning if it is one of `special`. -/
def addEscaped (special : List Char) (acc : List Piece) : ReadM (List Piece) := do
  match ← peekRaw with
  | none => return addChar true '\\' acc
  | some c =>
    skipRaw
    if special.contains c then return addChar true c acc
    return addChar true c (addChar true '\\' acc)

/-- Reads what stands between single quotes. -/
def singleQuoted : (fuel : Nat) → List Piece → ReadM (List Piece)
  | 0, _ => fail .openQuote
  | fuel + 1, acc => do
    match ← peekRaw with
    | none => fail .openQuote
    | some c =>
      skipRaw
      if c = '\'' then return acc
      singleQuoted fuel (addChar true c acc)

/-- Reads the text of a command up to a backquote; a backslash takes the meaning of some characters
after it. -/
def backquotedText (quoted : Bool) : (fuel : Nat) → List Char → ReadM (List Char)
  | 0, _ => fail .openBackquote
  | fuel + 1, acc => do
    match ← peek with
    | none => fail .openBackquote
    | some '\x60' =>
      skipRaw
      return acc.reverse
    | some '\\' =>
      skipRaw
      match ← peekRaw with
      | none => fail .openBackquote
      | some c =>
        skipRaw
        let special := c = '\x60' || c = '\\' || c = '$' || (quoted && c = '"')
        backquotedText quoted fuel (if special then c :: acc else c :: '\\' :: acc)
    | some c =>
      skipRaw
      backquotedText quoted fuel (c :: acc)

/-! ## Words and commands -/

/-- The text of a word that announces another text, and whether a part of it is quoted. -/
def announcement (w : Word) : String × Bool :=
  let text : Piece → String
    | .text _ s => s
    | _ => ""
  let isQuoted : Piece → Bool
    | .mark | .text true _ => true
    | _ => false
  (String.join (w.map text), w.any isQuoted)

/-- The sign of an operator of one or two characters. -/
def operatorSign (c : Char) (double : Bool) : String :=
  if double then String.ofList [c, c] else String.singleton c

/-- The channel that a word names in front of a redirection: a single digit, or nothing. -/
def channelNumber? : Word → Option (Option Nat)
  | [] => some none
  | [.text false s] =>
    match s.toList with
    | [d] => if d.isDigit then some (some (d.toNat - '0'.toNat)) else none
    | _ => none
  | _ => none

/-- Reads the sign of a redirection, whose first character is next. -/
def redirectSign (channel : Option Nat) : ReadM Lexeme := do
  if ← takeIf '>' then
    let channel := channel.getD 1
    if ← takeIf '>' then return .redirect channel ">>"
    if ← takeIf '|' then return .redirect channel ">|"
    if ← takeIf '&' then return .redirect channel ">&"
    return .redirect channel ">"
  skipRaw
  let channel := channel.getD 0
  if ← takeIf '<' then
    if ← takeIf '-' then return .redirect channel "<<-"
    return .redirect channel "<<"
  if ← takeIf '&' then return .redirect channel "<&"
  if ← takeIf '>' then return .redirect channel "<>"
  return .redirect channel "<"

/-- The kind of a redirection. -/
def redirectKind (sign : String) : RedirectKind :=
  match sign with
  | "<" => .input
  | "<>" => .both
  | ">>" => .append
  | ">|" => .overwrite
  | "<&" | ">&" => .duplicate
  | _ => .output

/-- Lets a word or operator be looked at again. -/
def putBack (l : Lexeme) : ReadM Unit := modify fun r => { r with waiting := some l }

/-- Fails because something cannot stand where it stands. -/
def unexpected {α : Type} (l : Lexeme) (expected : Option String) : ReadM α :=
  fail (.unexpected l.title expected)

/-- The kinds of use of a value, by the sign for them. -/
def useOf (orEmpty : Bool) (c : Char) (w : Word) : ValueUse :=
  match c with
  | '-' => .otherwise orEmpty false w
  | '=' => .otherwise orEmpty true w
  | '+' => .instead orEmpty w
  | _ => .required orEmpty w

mutual

/-- Reads a word that is not quoted.  In braces it goes on to the brace that closes them; otherwise
to the first character that ends it. -/
def openWord : (fuel : Nat) → (inBraces : Bool) → List Piece → ReadM (List Piece)
  | 0, _, _ => fail .openBrace
  | fuel + 1, inBraces, acc => do
    match ← peek with
    | none => if inBraces then fail .openBrace else return acc
    | some c =>
      if endsWord c && !inBraces then return acc
      skipRaw
      match c with
      | '\x7d' =>
        if inBraces then return acc
        openWord fuel inBraces (addChar false c acc)
      | '\\' =>
        match ← peekRaw with
        | none => openWord fuel inBraces (addChar true c acc)
        | some d =>
          skipRaw
          openWord fuel inBraces (addChar true d acc)
      | '\'' =>
        let acc ← singleQuoted (← budget) (.mark :: acc)
        openWord fuel inBraces acc
      | '"' =>
        let acc ← quotedText fuel (.mark :: acc)
        openWord fuel inBraces acc
      | '$' =>
        let acc ← dollar fuel false false acc
        openWord fuel inBraces acc
      | '\x60' =>
        let p ← backquoted fuel false
        openWord fuel inBraces (p :: acc)
      | _ => openWord fuel inBraces (addChar false c acc)

/-- Reads up to a double quote. -/
def quotedText : (fuel : Nat) → List Piece → ReadM (List Piece)
  | 0, _ => fail .openQuote
  | fuel + 1, acc => do
    match ← peek with
    | none => fail .openQuote
    | some c =>
      skipRaw
      match c with
      | '"' => return acc
      | '\\' =>
        let acc ← addEscaped ['\\', '\x60', '$', '"'] acc
        quotedText fuel acc
      | '$' =>
        let acc ← dollar fuel true false acc
        quotedText fuel acc
      | '\x60' =>
        let p ← backquoted fuel true
        quotedText fuel (p :: acc)
      | _ => quotedText fuel (addChar true c acc)

/-- Reads the word in braces that are quoted; between two more double quotes, `inner`, a brace does
not close them.  `inText` says that all this is in a text that follows a command. -/
def bracedWord : (fuel : Nat) → (inText inner : Bool) → List Piece → ReadM (List Piece)
  | 0, _, _, _ => fail .openBrace
  | fuel + 1, inText, inner, acc => do
    match ← peek with
    | none => fail (if inText then .openBrace else .openQuote)
    | some c =>
      skipRaw
      match c with
      | '\x7d' =>
        if inner then bracedWord fuel inText inner (addChar true c acc) else return acc
      | '"' => bracedWord fuel inText (!inner) acc
      | '\\' =>
        let acc ← addEscaped ['\\', '\x60', '$', '"', '\x7d'] acc
        bracedWord fuel inText inner acc
      | '$' =>
        let acc ← dollar fuel true inText acc
        bracedWord fuel inText inner acc
      | '\x60' =>
        let p ← backquoted fuel true
        bracedWord fuel inText inner (p :: acc)
      | _ => bracedWord fuel inText inner (addChar true c acc)

/-- Reads an expression up to two brackets that close it. -/
def expression : (fuel : Nat) → (depth : Nat) → List Piece → ReadM (List Piece)
  | 0, _, _ => fail .openArithmetic
  | fuel + 1, depth, acc => do
    match ← peek with
    | none => fail .openArithmetic
    | some c =>
      skipRaw
      match c with
      | '(' => expression fuel (depth + 1) (addChar true c acc)
      | ')' =>
        if 0 < depth then expression fuel (depth - 1) (addChar true c acc)
        else if ← takeIf ')' then return acc
        else expression fuel depth (addChar true c acc)
      | '\\' =>
        let acc ← addEscaped ['\\', '\x60', '$', '"'] acc
        expression fuel depth acc
      | '$' =>
        let acc ← dollar fuel true false acc
        expression fuel depth acc
      | '\x60' =>
        let p ← backquoted fuel true
        expression fuel depth (p :: acc)
      | _ => expression fuel depth (addChar true c acc)

/-- Reads a text in which only expansions and backslashes mean something, up to its end. -/
def followingText : (fuel : Nat) → List Piece → ReadM (List Piece)
  | 0, acc => return acc
  | fuel + 1, acc => do
    match ← peek with
    | none => return acc
    | some c =>
      skipRaw
      match c with
      | '\\' =>
        let acc ← addEscaped ['\\', '\x60', '$'] acc
        followingText fuel acc
      | '$' =>
        let acc ← dollar fuel true true acc
        followingText fuel acc
      | '\x60' =>
        let p ← backquoted fuel true
        followingText fuel (p :: acc)
      | _ => followingText fuel (addChar true c acc)

/-- Reads what follows a dollar sign. -/
def dollar : (fuel : Nat) → (quoted inText : Bool) → List Piece → ReadM (List Piece)
  | 0, _, _, _ => fail .openBrace
  | fuel + 1, quoted, inText, acc => do
    match ← peek with
    | some '(' =>
      skipRaw
      if ← takeIf '(' then
        let e ← expression fuel 0 []
        return .arithmetic quoted e.reverse :: acc
      let c ← list fuel .toBracket
      let l ← token fuel false false
      if !l.isOperator ")" then unexpected l (some (SyntaxFault.quoted ")"))
      return .output quoted c :: acc
    | some '\x7b' =>
      skipRaw
      let p ← braces fuel quoted inText
      return p :: acc
    | some c =>
      if isNameStart c then
        let name ← takeWhile isNameChar (← budget)
        return .variable quoted (String.ofList name) .plain :: acc
      if isSpecialName c then
        skipRaw
        return .variable quoted (String.singleton c) .plain :: acc
      return addChar quoted '$' acc
    | none => return addChar quoted '$' acc

/-- Reads an expansion in braces after the brace that opens them. -/
def braces : (fuel : Nat) → (quoted inText : Bool) → ReadM Piece
  | 0, _, _ => fail .openBrace
  | fuel + 1, quoted, inText => do
    let name? : ReadM (Option String) := do
      match ← peek with
      | some c =>
        if isNameStart c then return some (String.ofList (← takeWhile isNameChar (← budget)))
        if c.isDigit then return some (String.ofList (← takeWhile Char.isDigit (← budget)))
        if isSpecialName c then
          skipRaw
          return some (String.singleton c)
        return none
      | none => return none
    let word : ReadM Word := do
      let w ← if quoted then bracedWord fuel inText false [] else openWord fuel true []
      return w.reverse
    let wrong : ReadM Piece := do
      let _ ← word
      return .nonsense
    if (← peek) = some '#' then
      -- Either the number of characters of a value, or the number of arguments.
      skipRaw
      match ← peek with
      | some c =>
        if isNameStart c || c.isDigit then
          let name := (← name?).getD ""
          if ← takeIf '\x7d' then return .variable quoted name .length
          return ← wrong
        if isSpecialName c && ((← get).rest.drop 1).head? = some '\x7d' then
          skipRaw
          skipRaw
          return .variable quoted (String.singleton c) .length
        valueUse fuel quoted inText "#"
      | none => wrong
    else
      match ← name? with
      | none => wrong
      | some name => valueUse fuel quoted inText name

/-- Reads what stands after the name of a variable in braces. -/
def valueUse : (fuel : Nat) → (quoted inText : Bool) → String → ReadM Piece
  | 0, _, _, _ => fail .openBrace
  | fuel + 1, quoted, inText, name => do
    let word : ReadM Word := do
      let w ← if quoted then bracedWord fuel inText false [] else openWord fuel true []
      return w.reverse
    let isUse (c : Char) : Bool := ['-', '=', '+', '?'].contains c
    match ← peek with
    | some '\x7d' =>
      skipRaw
      return .variable quoted name .plain
    | some ':' =>
      skipRaw
      match ← peek with
      | some c =>
        if isUse c then
          skipRaw
          let w ← word
          return .variable quoted name (useOf true c w)
        let _ ← word
        return .nonsense
      | none =>
        let _ ← word
        return .nonsense
    | some c =>
      if isUse c then
        skipRaw
        let w ← word
        return .variable quoted name (useOf false c w)
      if c = '%' || c = '#' then
        skipRaw
        let longest ← takeIf c
        let w ← openWord fuel true []
        return .variable quoted name (.cut (c = '#') longest w.reverse)
      let _ ← word
      return .nonsense
    | none =>
      let _ ← word
      return .nonsense

/-- Reads commands between backquotes after the first one. -/
def backquoted : (fuel : Nat) → (quoted : Bool) → ReadM Piece
  | 0, _ => fail .openBackquote
  | fuel + 1, quoted => do
    let text ← backquotedText quoted (← budget) []
    let outer ← get
    set { outer with rest := text, line := 1, waiting := none, replaced := [] }
    let c ← list fuel .toBracket
    modify fun r =>
      { r with
        rest := outer.rest
        line := outer.line
        waiting := outer.waiting
        replaced := outer.replaced }
    return .output quoted c

/-- The next word or operator; `skipLines` passes over line breaks before it, and `keywords` says
that reserved words mean something here. -/
def token : (fuel : Nat) → (skipLines keywords : Bool) → ReadM Lexeme
  | 0, _, _ => return .finish
  | fuel + 1, skipLines, keywords => do
    let l ← nextLexeme fuel keywords keywords
    match l with
    | .lineEnd =>
      if !skipLines then return l
      followingTexts fuel
      token fuel skipLines keywords
    | .word w =>
      match bareText? w with
      | some s => return if keywords && reservedWords.contains s then .reserved s else l
      | none => return l
    | l => return l

/-- The next word or operator, with what an alias stands for in its place if a command may start
here. -/
def nextLexeme : (fuel : Nat) → (starts keywords : Bool) → ReadM Lexeme
  | 0, _, _ => return .finish
  | fuel + 1, starts, keywords => do
    let r ← get
    match r.waiting with
    | some l =>
      set { r with waiting := none }
      return l
    | none =>
      if r.aliases.isEmpty then lexeme fuel true
      else
        let rest := r.rest.dropWhile fun c => c = ' ' || c = '\t'
        let left := rest.length
        let replaced := r.replaced.filter (·.2 < left)
        -- What ends with a blank lets the next word be an alias too.
        let before := r.rest.length
        let starts := starts || r.replaced.any fun e => left ≤ e.2 && e.2 < before
        set { r with rest, replaced }
        let l ← lexeme fuel true
        match l.bareText? with
        | some name =>
          match r.aliases.lookup name with
          | some text =>
            if !starts || (keywords && reservedWords.contains name) ||
                replaced.any (·.1 = name) then
              return l
            modify fun r =>
              { r with
                rest := text.toList ++ r.rest
                replaced := (name, r.rest.length) :: replaced }
            nextLexeme fuel starts keywords
          | none => return l
        | none => return l

/-- Reads a word or operator; in a word that announces a text, expansions mean nothing. -/
def lexeme : (fuel : Nat) → (expanding : Bool) → ReadM Lexeme
  | 0, _ => return .finish
  | fuel + 1, expanding => do
    match ← peek with
    | none => return .finish
    | some c =>
      if c = ' ' || c = '\t' then
        skipRaw
        lexeme fuel expanding
      else if c = '#' then
        modify fun r => { r with rest := r.rest.dropWhile (· ≠ '\n') }
        lexeme fuel expanding
      else if c = '\n' then
        skipRaw
        return .lineEnd
      else if c = '&' || c = '|' || c = ';' then
        skipRaw
        return .operator (operatorSign c (← takeIf c))
      else if c = '(' || c = ')' then
        skipRaw
        return .operator (String.singleton c)
      else
        let w ← if expanding then openWord fuel false [] else delimiter fuel []
        let next ← peek
        match channelNumber? w with
        | some channel =>
          if next = some '<' || next = some '>' then redirectSign channel
          else return .word w.reverse
        | none => return .word w.reverse

/-- Reads a word in which only quotes mean something. -/
def delimiter : (fuel : Nat) → List Piece → ReadM (List Piece)
  | 0, acc => return acc
  | fuel + 1, acc => do
    match ← peek with
    | none => return acc
    | some c =>
      if endsWord c then return acc
      skipRaw
      match c with
      | '\\' =>
        match ← peekRaw with
        | none => delimiter fuel (addChar true c acc)
        | some d =>
          skipRaw
          delimiter fuel (addChar true d acc)
      | '\'' =>
        let acc ← singleQuoted (← budget) (.mark :: acc)
        delimiter fuel acc
      | '"' =>
        let acc ← quotedText fuel (.mark :: acc)
        delimiter fuel acc
      | _ => delimiter fuel (addChar false c acc)

/-- Reads the texts that have been announced. -/
def followingTexts : (fuel : Nat) → ReadM Unit
  | 0 => return
  | fuel + 1 => do
    match (← get).announced with
    | [] => return
    | a :: later =>
      let r ← get
      let (text, rest) := Announced.split a (r.rest.length + 1) [] r.rest
      let line := r.line + (r.rest.count '\n' - rest.count '\n')
      let w ← if a.verbatim then pure [Piece.text true (String.ofList text)] else do
        set { r with rest := text, waiting := none, announced := [], replaced := [] }
        let w ← followingText fuel []
        pure w.reverse
      modify fun s =>
        { s with
          rest, line
          waiting := r.waiting
          replaced := r.replaced
          announced := later
          texts := (a.number, w) :: s.texts }
      followingTexts fuel

/-- Reads the target of a redirection. -/
def redirectTarget : (fuel : Nat) → (channel : Nat) → (sign : String) → ReadM Redirect
  | 0, _, _ => fail .openQuote
  | fuel + 1, channel, sign => do
    if sign = "<<" || sign = "<<-" then
      match ← lexeme fuel false with
      | .word w =>
        let (text, verbatim) := announcement w
        let number := (← get).nextText
        let a : Announced := { number, delimiter := text, verbatim, withoutTabs := sign = "<<-" }
        modify fun r => { r with announced := r.announced ++ [a], nextText := number + 1 }
        return .of channel (.text number) []
      | l => unexpected l none
    else
      match ← token fuel false false with
      | .word w => return .of channel (redirectKind sign) w
      | l => unexpected l none

/-- Reads redirections as long as they come. -/
def redirects : (fuel : Nat) → ReadM (List Redirect)
  | 0 => return []
  | fuel + 1 => do
    match ← token fuel false true with
    | .redirect channel sign =>
      let r ← redirectTarget fuel channel sign
      return r :: (← redirects fuel)
    | l =>
      putBack l
      return []

/-- Reads words as long as they come, and what comes then. -/
def words : (fuel : Nat) → ReadM (List Word × Lexeme)
  | 0 => return ([], .finish)
  | fuel + 1 => do
    match ← token fuel false false with
    | .word w =>
      let (ws, l) ← words fuel
      return (w :: ws, l)
    | l => return ([], l)

/-- Reads a list of commands. -/
def list : (fuel : Nat) → ListKind → ReadM Command
  | 0, _ => return .nothing
  | fuel + 1, kind => do
    match ← token fuel (kind ≠ .line) true with
    | .lineEnd =>
      followingTexts fuel
      return .nothing
    | .finish =>
      followingTexts fuel
      putBack .finish
      return .nothing
    | l =>
      putBack l
      if kind = .toBracket && l.closes then return .nothing
      let first ← andOr fuel
      let next ← token fuel false false
      let first := if next.isOperator "&" then .background first else first
      let goOn : ReadM Command := do
        return first.followedBy (← list fuel (if kind = .line then .line else .toBracket))
      match next with
      | .finish =>
        followingTexts fuel
        putBack .finish
        return first
      | .lineEnd =>
        putBack next
        goOn
      | .operator ";" | .operator "&" => goOn
      | _ =>
        if kind = .line then unexpected next none
        putBack next
        return first

/-- Reads commands that depend on each other's success. -/
def andOr : (fuel : Nat) → ReadM Command
  | 0 => return .nothing
  | fuel + 1 => do
    let first ← pipeline fuel false
    andOrRest fuel first

/-- Goes on after a command on whose success others may depend. -/
def andOrRest : (fuel : Nat) → Command → ReadM Command
  | 0, first => return first
  | fuel + 1, first => do
    match ← token fuel false false with
    | .operator "&&" =>
      let second ← pipeline fuel true
      andOrRest fuel (.both first second)
    | .operator "||" =>
      let second ← pipeline fuel true
      andOrRest fuel (.either first second)
    | l =>
      putBack l
      return first

/-- Reads commands each of which hands its output to the next, maybe after line breaks. -/
def pipeline : (fuel : Nat) → (skipLines : Bool) → ReadM Command
  | 0, _ => return .nothing
  | fuel + 1, skipLines => do
    let l ← token fuel skipLines true
    if l.isReserved "!" then
      let c ← pipes fuel
      return .not c
    putBack l
    pipes fuel

/-- Reads commands with bars between them. -/
def pipes : (fuel : Nat) → ReadM Command
  | 0 => return .nothing
  | fuel + 1 => do
    let first ← command fuel false
    let later ← pipesRest fuel
    return if later.isEmpty then first else .pipeline (first :: later)

/-- Reads the commands after the first one. -/
def pipesRest : (fuel : Nat) → ReadM (List Command)
  | 0 => return []
  | fuel + 1 => do
    let l ← token fuel false false
    if l.isOperator "|" then
      let c ← command fuel true
      return c :: (← pipesRest fuel)
    putBack l
    return []

/-- Reads a command with the redirections of its own, maybe after line breaks. -/
def command : (fuel : Nat) → (skipLines : Bool) → ReadM Command
  | 0, _ => return .nothing
  | fuel + 1, skipLines => do
    let l ← token fuel skipLines true
    let line := (← get).line
    match l with
    | .operator "(" =>
      let body ← list fuel .inside
      let closing ← token fuel false false
      if !closing.isOperator ")" then unexpected closing (some (SyntaxFault.quoted ")"))
      let rs ← redirects fuel
      return .subshell line body rs
    | .word _ | .redirect _ _ =>
      putBack l
      simple fuel line [] [] []
    | .reserved word =>
      if ["\x7b", "if", "while", "until", "for", "case"].contains word then
        let body ← compound fuel line word
        let rs ← redirects fuel
        return if rs.isEmpty then body else .redirected line body rs
      else unexpected l none
    | l => unexpected l none

/-- Passes over a reserved word that has to come next, after line breaks. -/
def expect : (fuel : Nat) → String → ReadM Unit
  | 0, _ => return
  | fuel + 1, name => do
    let l ← token fuel true true
    if !l.isReserved name then unexpected l (some (SyntaxFault.quoted name))

/-- Reads a command that starts with a reserved word, after that word. -/
def compound : (fuel : Nat) → (line : Nat) → String → ReadM Command
  | 0, _, _ => return .nothing
  | fuel + 1, line, word => do
    match word with
    | "if" => conditional fuel
    | "while" | "until" =>
      let test ← list fuel .inside
      expect fuel "do"
      let body ← list fuel .inside
      expect fuel "done"
      return .loop (word = "until") test body
    | "for" =>
      let l ← token fuel false false
      match l.bareText?.filter isShellName with
      | none => fail .loopVariable
      | some name =>
        let next ← token fuel true true
        let items ← if next.isReserved "in" then do
            let (items, l) ← words fuel
            match l with
            | .operator ";" | .lineEnd =>
              if l matches .lineEnd then putBack l
              pure (some items)
            | _ => unexpected l none
          else do
            if !next.isOperator ";" then putBack next
            pure none
        expect fuel "do"
        let body ← list fuel .inside
        expect fuel "done"
        return .forEach line name items body
    | "case" =>
      match ← token fuel false false with
      | .word subject =>
        expect fuel "in"
        return .choice line subject (← cases fuel)
      | l => unexpected l (some "word")
    | _ =>
      let body ← list fuel .inside
      expect fuel "\x7d"
      return body

/-- Reads a conditional after the word that asks. -/
def conditional : (fuel : Nat) → ReadM Command
  | 0 => return .nothing
  | fuel + 1 => do
    let test ← list fuel .inside
    expect fuel "then"
    let yes ← list fuel .inside
    let l ← token fuel true true
    match l with
    | .reserved "elif" =>
      let no ← conditional fuel
      return .conditional test yes no
    | .reserved "else" =>
      let no ← list fuel .inside
      expect fuel "fi"
      return .conditional test yes no
    | .reserved "fi" => return .conditional test yes .nothing
    | l => unexpected l (some (SyntaxFault.quoted "fi"))

/-- Reads the cases of a choice. -/
def cases : (fuel : Nat) → ReadM (List (List Word × Command))
  | 0 => return []
  | fuel + 1 => do
    let l ← withoutAliases (token fuel true true)
    if l.isReserved "esac" then return []
    let l ← if l.isOperator "(" then token fuel false false else pure l
    let ps ← patterns fuel l
    let body ← list fuel .toBracket
    let l ← token fuel true true
    match l with
    | .operator ";;" =>
      let later ← cases fuel
      return (ps, body) :: later
    | .reserved "esac" => return [(ps, body)]
    | l => unexpected l (some (SyntaxFault.quoted ";;"))

/-- Reads the patterns of a case, of which the first has been read, up to a bracket. -/
def patterns : (fuel : Nat) → Lexeme → ReadM (List Word)
  | 0, _ => return []
  | fuel + 1, first => do
    let w := match first with
      | .word w => w
      | .reserved s => [.text false s]
      | _ => []
    let l ← token fuel false false
    if l.isOperator "|" then
      let next ← token fuel false false
      let later ← patterns fuel next
      return w :: later
    if l.isOperator ")" then return [w]
    unexpected l (some (SyntaxFault.quoted ")"))

/-- Reads the parts of a simple command on a line as long as they come, or the definition of a
function. -/
def simple : (fuel : Nat) → (line : Nat) →
    List (String × Word) → List Word → List Redirect → ReadM Command
  | 0, line, as, ws, rs => return .simple line as ws rs
  | fuel + 1, line, as, ws, rs => do
    match ← nextLexeme fuel ws.isEmpty false with
    | .word w =>
      match (if ws.isEmpty then assignment? w else none) with
      | some a => simple fuel line (as ++ [a]) ws rs
      | none => simple fuel line as (ws ++ [w]) rs
    | .redirect channel sign =>
      let r ← redirectTarget fuel channel sign
      simple fuel line as ws (rs ++ [r])
    | l =>
      match ws with
      | [name] =>
        if l.isOperator "(" && as.isEmpty && rs.isEmpty then definition fuel name
        else
          putBack l
          return .simple line as ws rs
      | _ =>
        putBack l
        return .simple line as ws rs

/-- Reads the definition of a function after its name and a bracket. -/
def definition : (fuel : Nat) → Word → ReadM Command
  | 0, _ => return .nothing
  | fuel + 1, w => do
    let l ← token fuel false false
    if !l.isOperator ")" then unexpected l (some (SyntaxFault.quoted ")"))
    match (bareText? w).filter fun s => isShellName s && !Program.special.contains s with
    | none => fail .functionName
    | some name =>
      let line := (← get).line
      let body ← command fuel true
      return .define line name body

end

end ReadM

/-- Reads the commands of the first line of a text that is not empty, and gives them with what
follows; nothing at the end of the text. -/
def Reader.nextLine (r : Reader) : Except (Nat × SyntaxFault) (Option (Command × Reader)) := do
  if r.rest.isEmpty then return none
  let growth := r.aliases.foldl (fun n a => n + a.2.length) 1
  let fuel := 24 * r.rest.length * growth + 64
  let (c, r) ← (ReadM.list fuel .line).run { r with waiting := none }
  return some (c, r)

end EnvRegistry.Shell
