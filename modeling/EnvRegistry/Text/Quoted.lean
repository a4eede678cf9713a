import EnvRegistry.Text.Printable

/-! # Quoted texts in messages

    A text inside a message stands between double quotes, with an escape for every
    quote, backslash and character that does not show by itself. -/

namespace EnvRegistry.Text

/-- The escape of a character inside a quoted text. -/
def escapeChar (c : Char) : String :=
  match c with
  | '"' => "\\\""
  | '\\' => "\\\\"
  | '\n' => "\\n"
  | '\r' => "\\r"
  | '\t' => "\\t"
  | '\x00' => "\\0"
  | c =>
    if isPrintable c then c.toString
    else "\\u\x7b" ++ String.ofList (Nat.toDigits 16 c.toNat) ++ "\x7d"

/-- A text in double quotes. -/
def quote (s : String) : String :=
  "\"" ++ String.join (s.toList.map escapeChar) ++ "\""

end EnvRegistry.Text
