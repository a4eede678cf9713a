/-! # Bytes of texts

    Texts are kept in files as UTF-8.  `decode?` gives back the text that some bytes
    hold, and `decodeLossy` puts a replacement character for every run of bytes that
    begins a character without completing it. -/

namespace EnvRegistry.Text

/-- The bytes of a text. -/
def encode (s : String) : List UInt8 := s.toUTF8.toList

/-- How a character of several bytes begins: how many bytes follow the first one, the bits the
first one gives, and the range of the second one. -/
structure Lead where
  following : Nat
  bits : Nat
  least : UInt8
  greatest : UInt8

/-- What a first byte says of its character. -/
def lead? (b : UInt8) : Option Lead :=
  if 0xC2 ≤ b && b < 0xE0 then some ⟨1, b.toNat - 0xC0, 0x80, 0xBF⟩
  else if b = 0xE0 then some ⟨2, 0, 0xA0, 0xBF⟩
  else if b = 0xED then some ⟨2, 13, 0x80, 0x9F⟩
  else if 0xE1 ≤ b && b < 0xF0 then some ⟨2, b.toNat - 0xE0, 0x80, 0xBF⟩
  else if b = 0xF0 then some ⟨3, 0, 0x90, 0xBF⟩
  else if 0xF1 ≤ b && b < 0xF4 then some ⟨3, b.toNat - 0xF0, 0x80, 0xBF⟩
  else if b = 0xF4 then some ⟨3, 4, 0x80, 0x8F⟩
  else none

/-- What has been read of a character of several bytes. -/
structure Unfinished where
  missing : Nat
  bits : Nat
  least : UInt8
  greatest : UInt8

/-- Decodes bytes after an unfinished character; `none` stands for bytes that are no character.  The
result is in reverse after `acc`. -/
def decodeFrom (acc : List (Option Char)) : Option Unfinished → List UInt8 → List (Option Char)
  | none, [] => acc
  | some _, [] => none :: acc
  | p, b :: rest =>
    let start (acc : List (Option Char)) : List (Option Char) × Option Unfinished :=
      if b < 0x80 then (some (Char.ofNat b.toNat) :: acc, none)
      else
        match lead? b with
        | some l => (acc, some ⟨l.following, l.bits, l.least, l.greatest⟩)
        | none => (none :: acc, none)
    let (acc, p) := match p with
      | none => start acc
      | some q =>
        if q.least ≤ b && b ≤ q.greatest then
          let bits := 64 * q.bits + (b.toNat - 0x80)
          if q.missing ≤ 1 then (some (Char.ofNat bits) :: acc, none)
          else (acc, some ⟨q.missing - 1, bits, 0x80, 0xBF⟩)
        else start (none :: acc)
    decodeFrom acc p rest

/-- The characters that bytes hold, with `none` for bytes that are no character. -/
def decodeChars (bytes : List UInt8) : List (Option Char) := (decodeFrom [] none bytes).reverse

/-- The text that bytes hold, if they hold one. -/
def decode? (bytes : List UInt8) : Option String :=
  ((decodeChars bytes).mapM id).map String.ofList

/-- The text that bytes hold, with a replacement character for bytes that hold none. -/
def decodeLossy (bytes : List UInt8) : String :=
  String.ofList ((decodeChars bytes).map (·.getD '\ufffd'))

end EnvRegistry.Text
