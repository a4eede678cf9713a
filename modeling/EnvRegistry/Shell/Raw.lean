import EnvRegistry.Text.Utf8

/-! # Raw texts

    A shell and its utilities know bytes and no other characters.  A raw text is a text
    whose characters are bytes, so each of them is below 256. -/

namespace EnvRegistry.Shell.Raw

/-- The raw text of some bytes. -/
def ofBytes (bytes : List UInt8) : String :=
  String.ofList (bytes.map fun b => Char.ofNat b.toNat)

/-- The bytes of a raw text. -/
def toBytes (s : String) : List UInt8 := s.toList.map fun c => UInt8.ofNat c.toNat

/-- Whether all characters of a text are single bytes. -/
def isPlain (s : String) : Bool := s.all fun c : Char => c.toNat < 0x80

/-- The raw text of a text. -/
def ofText (s : String) : String := if isPlain s then s else ofBytes (Text.encode s)

/-- The text of a raw text, with a replacement character for bytes that hold none. -/
def toText (s : String) : String := if isPlain s then s else Text.decodeLossy (toBytes s)

/-- The character of a byte. -/
def char (n : Nat) : Char := Char.ofNat (n % 256)

end EnvRegistry.Shell.Raw
