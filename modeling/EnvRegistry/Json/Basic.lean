/-! # JSON values and the places where a text stops being JSON

    `Json` is the tree read from a text.  A text that breaks off or goes wrong
    somewhere still has a tree: everything before the fault is there, and the fault
    stands in the place where reading stopped.  A decoder that goes through the tree
    in reading order therefore meets the same first problem as one that decodes
    while it reads, whether that is a fault of the text or a value of the wrong
    kind.

    A value without faults is built with `Json.string`, `Json.list`, `Json.record`
    and their like. -/

namespace EnvRegistry

namespace Json

/-- Why a text is not JSON. -/
inductive Fault where
  | eofInList
  | eofInObject
  | eofInString
  | eofInValue
  | expectedColon
  | expectedListCommaOrEnd
  | expectedObjectCommaOrEnd
  | expectedIdent
  | expectedValue
  | invalidEscape
  | invalidNumber
  | numberOutOfRange
  | controlCharacter
  | keyMustBeString
  | loneSurrogate
  | trailingComma
  | trailingCharacters
  | unexpectedEndOfEscape
  | nestingTooDeep
  deriving DecidableEq, Repr

/-- Whether the text ended too early, rather than going wrong. -/
def Fault.isEof : Fault → Bool
  | .eofInList | .eofInObject | .eofInString | .eofInValue => true
  | _ => false

/-- The fault in words. -/
def Fault.message : Fault → String
  | .eofInList => "EOF while parsing a list"
  | .eofInObject => "EOF while parsing an object"
  | .eofInString => "EOF while parsing a string"
  | .eofInValue => "EOF while parsing a value"
  | .expectedColon => "expected `:`"
  | .expectedListCommaOrEnd => "expected `,` or `]`"
  | .expectedObjectCommaOrEnd => "expected `,` or `\x7d`"
  | .expectedIdent => "expected ident"
  | .expectedValue => "expected value"
  | .invalidEscape => "invalid escape"
  | .invalidNumber => "invalid number"
  | .numberOutOfRange => "number out of range"
  | .controlCharacter => "control character (\\u0000-\\u001F) found while parsing a string"
  | .keyMustBeString => "key must be a string"
  | .loneSurrogate => "lone leading surrogate in hex escape"
  | .trailingComma => "trailing comma"
  | .trailingCharacters => "trailing characters"
  | .unexpectedEndOfEscape => "unexpected end of hex escape"
  | .nestingTooDeep => "recursion limit exceeded"

/-- A number as it is written. -/
structure Number where
  negative : Bool := false
  /-- The integer part. -/
  whole : Nat
  /-- The digits after the point; none if there is no point. -/
  fraction : List Nat := []
  /-- The exponent, if one is written. -/
  exponent : Option Int := none
  deriving DecidableEq, Repr

/-- What ends a list or an object. -/
inductive Tail where
  /-- The closing bracket. -/
  | closed
  /-- The text goes wrong where a comma or the bracket should stand. -/
  | cut (fault : Fault)
  /-- The text goes wrong after a comma, where another element should start. -/
  | dangling (fault : Fault)
  deriving DecidableEq, Repr

end Json

/-- The tree of a JSON text, up to the point where the text stops being JSON. -/
inductive Json where
  | null
  | bool (b : Bool)
  | number (n : Json.Number)
  | string (s : String)
  /-- A quoted text or a number that cannot be had: `wanted` is the fault for whoever wants it,
  `skipped` the fault, if any, for whoever only passes over it. -/
  | unreadable (wanted : Json.Fault) (skipped : Option Json.Fault)
  | array (items : List Json) (tail : Json.Tail)
  /-- The members in the order of the text; a name that cannot be had is a fault. -/
  | object (members : List (Except Json.Fault String × Json)) (tail : Json.Tail)
  /-- The text goes wrong here. -/
  | broken (fault : Json.Fault)
  deriving Inhabited

namespace Json

/-- A complete list. -/
def list (items : List Json) : Json := .array items .closed

/-- A complete object. -/
def record (members : List (String × Json)) : Json :=
  .object (members.map fun m => (.ok m.1, m.2)) .closed

/-- A natural number. -/
def nat (n : Nat) : Json := .number { whole := n }

/-- A list of ids. -/
def ids (l : List UInt32) : Json := list (l.map fun id => nat id.toNat)

/-- The value of the first member called `name`. -/
def get? (j : Json) (name : String) : Option Json :=
  match j with
  | .object members _ => (members.find? fun m => m.1.toOption = some name).map (·.2)
  | _ => none

/-! ## Passing over a value -/

mutual

/-- The first fault met when a value is passed over without being looked at. -/
def skipFault : Json → Option Fault
  | .null | .bool _ | .number _ | .string _ => none
  | .unreadable _ skipped => skipped
  | .array items tail => (skipFaultItems items).or (tailFault tail)
  | .object members tail => (skipFaultMembers members).or (tailFault tail)
  | .broken f => some f

/-- The first fault met in a list of values. -/
def skipFaultItems : List Json → Option Fault
  | [] => none
  | j :: rest => (skipFault j).or (skipFaultItems rest)

/-- The first fault met in the values of a list of members. -/
def skipFaultMembers : List (Except Fault String × Json) → Option Fault
  | [] => none
  | (_, j) :: rest => (skipFault j).or (skipFaultMembers rest)

/-- The fault at the end of a list or object. -/
def tailFault : Tail → Option Fault
  | .closed => none
  | .cut f | .dangling f => some f

end

end Json

end EnvRegistry
