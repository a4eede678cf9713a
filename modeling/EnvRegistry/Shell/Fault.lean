/-! # Why a text is no command -/

namespace EnvRegistry.Shell

/-- Why a text is no command. -/
inductive SyntaxFault where
  /-- The text ends within quotes. -/
  | openQuote
  /-- The text ends within a command between backquotes. -/
  | openBackquote
  /-- The text ends within the braces of an expansion. -/
  | openBrace
  /-- The text ends within an arithmetic expansion. -/
  | openArithmetic
  /-- What comes next cannot stand there; only one thing could, if that is `expected`. -/
  | unexpected (found : String) (expected : Option String)
  /-- The variable of a loop has no proper name. -/
  | loopVariable
  /-- A function has no proper name. -/
  | functionName
  /-- A channel is to lead where another one leads that is no number. -/
  | channelNumber
  deriving DecidableEq, Repr

namespace SyntaxFault

/-- What a fault says. -/
def message : SyntaxFault → String
  | .openQuote => "Unterminated quoted string"
  | .openBackquote => "EOF in backquote substitution"
  | .openBrace => "Missing '\x7d'"
  | .openArithmetic => "Missing '))'"
  | .unexpected found none => found ++ " unexpected"
  | .unexpected found (some expected) => found ++ " unexpected (expecting " ++ expected ++ ")"
  | .loopVariable => "Bad for loop variable"
  | .functionName => "Bad function name"
  | .channelNumber => "Bad fd number"

/-- The name of the end of the text. -/
def textEnd : String := "end of file"

/-- The name of an operator or a reserved word. -/
def quoted (s : String) : String := "\"" ++ s ++ "\""

end SyntaxFault

end EnvRegistry.Shell
