/-! # White space

    The white space of Unicode, and the two ways of cutting it off a text. -/

namespace EnvRegistry.Text

/-- Whether a character is white space. -/
def isBlank (c : Char) : Bool :=
  let n := c.toNat
  (9 ≤ n && n ≤ 13) || n = 0x20 || n = 0x85 || n = 0xA0 || n = 0x1680 ||
    (0x2000 ≤ n && n ≤ 0x200A) || n = 0x2028 || n = 0x2029 || n = 0x202F || n = 0x205F || n = 0x3000

/-- A list of characters without the white space it ends with. -/
def dropBlanksEnd (cs : List Char) : List Char := (cs.reverse.dropWhile isBlank).reverse

/-- A text without the white space it ends with. -/
def trimEnd (s : String) : String := String.ofList (dropBlanksEnd s.toList)

/-- A text without the white space it begins and ends with. -/
def trim (s : String) : String := String.ofList (dropBlanksEnd (s.toList.dropWhile isBlank))

/-- Whether a text holds nothing but white space. -/
def isAllBlank (s : String) : Bool := s.toList.all isBlank

end EnvRegistry.Text
