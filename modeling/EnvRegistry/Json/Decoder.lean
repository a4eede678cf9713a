import EnvRegistry.Json.Reader
import EnvRegistry.Json.Number
import EnvRegistry.KeySet
import EnvRegistry.Text.Quoted

/-! # Decoding JSON values

    A `Decoder` takes the tree of a value to what it stands for, or to the first
    error in reading order: a fault of the text, or a value of the wrong kind.

    A record is an object whose members are looked up by name, or a list of its
    fields in the order of their declaration.  Members with unknown names are passed
    over.  Decoding a record takes two steps: `selectFields` goes through the tree in
    reading order, checks every declared field and gives back the values found, and
    `RecordField.from` takes each field's value out of them. -/

namespace EnvRegistry.Json

/-! ## Errors -/

/-- Where a tree comes from. -/
inductive Origin where
  /-- A text that is decoded while it is read. -/
  | text
  /-- A value that was read before. -/
  | value
  deriving DecidableEq, Repr

/-- What was found in place of what was expected. -/
inductive Found where
  | null
  | boolean (b : Bool)
  | integer (i : Int)
  | fraction (text : String)
  | string (s : String)
  | sequence
  | map
  deriving DecidableEq, Repr

/-- What was expected. -/
inductive Expected where
  | number
  | string
  | boolean
  | sequence
  | path
  | unit
  | record (name : String)
  deriving DecidableEq, Repr

/-- Why a tree does not decode. -/
inductive DecodeError where
  /-- The text is not JSON. -/
  | fault (f : Fault)
  | wrongType (found : Found) (expected : Expected)
  | wrongValue (found : Found) (expected : Expected)
  /-- A list ends before a field that cannot be left out. -/
  | tooShort (length : Nat) (record : String) (fields : Nat)
  /-- A list holds more than the fields of the record. -/
  | tooLong (length : Nat)
  | missingField (name : String)
  | duplicateField (name : String)
  | unknownVariant (name : String) (known : List String)
  deriving DecidableEq, Repr

/-- What was found, in words. -/
def Found.message : Found → String
  | .null => "null"
  | .boolean b => "boolean `" ++ (if b then "true" else "false") ++ "`"
  | .integer i => "integer `" ++ toString i ++ "`"
  | .fraction t => "floating point `" ++ t ++ "`"
  | .string s => "string " ++ Text.quote s
  | .sequence => "sequence"
  | .map => "map"

/-- What was expected, in words. -/
def Expected.message : Expected → String
  | .number => "u32"
  | .string => "a string"
  | .boolean => "a boolean"
  | .sequence => "a sequence"
  | .path => "path string"
  | .unit => "unit"
  | .record name => "struct " ++ name

/-- The error in words. -/
def DecodeError.message : DecodeError → String
  | .fault f => f.message
  | .wrongType f e => "invalid type: " ++ f.message ++ ", expected " ++ e.message
  | .wrongValue f e => "invalid value: " ++ f.message ++ ", expected " ++ e.message
  | .tooShort n name fields =>
    "invalid length " ++ toString n ++ ", expected struct " ++ name ++ " with " ++
      toString fields ++ (if fields = 1 then " element" else " elements")
  | .tooLong n => "invalid length " ++ toString n ++ ", expected fewer elements in array"
  | .missingField name => "missing field `" ++ name ++ "`"
  | .duplicateField name => "duplicate field `" ++ name ++ "`"
  | .unknownVariant name known =>
    "unknown variant `" ++ name ++ "`, expected " ++
      String.intercalate " or " (known.map fun k => "`" ++ k ++ "`")

/-- A function from trees to what they stand for. -/
abbrev Decoder (α : Type) := Json → Except DecodeError α

/-! ## Plain values -/

/-- What stands in a place where something else is expected, or the fault found there. -/
def found : Json → Except DecodeError Found
  | .null => .ok .null
  | .bool b => .ok (.boolean b)
  | .number n =>
    match n.toInt? with
    | some i => .ok (.integer i)
    | none =>
      match n.toFloat? with
      | some x => .ok (.fraction (Decimal.scientificText x))
      | none => .error (.fault .numberOutOfRange)
  | .string s => .ok (.string s)
  | .unreadable wanted _ => .error (.fault wanted)
  | .array _ _ => .ok .sequence
  | .object _ _ => .ok .map
  | .broken f => .error (.fault f)

/-- Refuses a value that is not of the expected kind. -/
def mismatch {α : Type} (expected : Expected) : Decoder α := fun j => do
  throw (.wrongType (← found j) expected)

/-- A 32-bit number. -/
def word : Decoder UInt32
  | .number n =>
    match n.toInt? with
    | some i =>
      if 0 ≤ i ∧ i < UInt32.size then .ok (UInt32.ofNat i.toNat)
      else .error (.wrongValue (.integer i) .number)
    | none => mismatch .number (.number n)
  | j => mismatch .number j

/-- A text. -/
def text : Decoder String
  | .string s => .ok s
  | j => mismatch .string j

/-- A path. -/
def path : Decoder String
  | .string s => .ok s
  | j => mismatch .path j

/-- A truth value. -/
def flag : Decoder Bool
  | .bool b => .ok b
  | j => mismatch .boolean j

/-- No value at all. -/
def unit : Decoder Unit
  | .null => .ok ()
  | j => mismatch .unit j

/-- A value that may be absent, which `null` says. -/
def optional {α : Type} (d : Decoder α) : Decoder (Option α)
  | .null => .ok none
  | j => some <$> d j

/-- Refuses the fault at the end of a list or object. -/
def endOf : Tail → Except DecodeError Unit
  | .closed => .ok ()
  | .cut f | .dangling f => .error (.fault f)

/-- A list of values of one kind. -/
def listOf {α : Type} (d : Decoder α) : Decoder (List α)
  | .array items tail => do
    let values ← items.mapM d
    endOf tail
    return values
  | j => mismatch .sequence j

/-- A set of keys. -/
def setOf {κ : Type} [Ord κ] [Std.TransOrd κ] [Std.LawfulEqOrd κ] (d : Decoder κ) :
    Decoder (KeySet κ) := fun j => KeySet.ofList <$> listOf d j

/-- One of several names, written as a text or as the name of a single empty member. -/
def variant {α : Type} (known : List (String × α)) : Decoder α :=
  let named (name : String) : Except DecodeError α :=
    match known.lookup name with
    | some a => .ok a
    | none => .error (.unknownVariant name (known.map (·.1)))
  fun
  | .string s => named s
  | .unreadable wanted _ => .error (.fault wanted)
  | .broken f => .error (.fault f)
  | .object ((name, value) :: rest) tail => do
    let a ← named (← name.mapError DecodeError.fault)
    unit value
    match rest, tail with
    | [], .closed => return a
    | [], .cut f => throw (.fault (if f.isEof then f else .expectedValue))
    | _, _ => throw (.fault .expectedValue)
  | .object [] (.cut .eofInObject) => .error (.fault .eofInValue)
  | _ => .error (.fault .expectedValue)

/-! ## Records -/

/-- A field of a record: its name, how its value decodes, and what it is if it is left out. -/
structure RecordField (α : Type) where
  name : String
  decode : Decoder α
  default? : Option α := none

/-- What `selectFields` needs to know of a field. -/
structure Slot where
  name : String
  check : Json → Except DecodeError Unit
  required : Bool

/-- The slot of a field. -/
def RecordField.slot {α : Type} (f : RecordField α) : Slot :=
  ⟨f.name, fun j => (fun _ => ()) <$> f.decode j, f.default?.isNone⟩

/-- The values found for the fields of a record, by the names of the fields. -/
abbrev Selection := List (String × Json)

/-- Takes the value of a field out of a selection. -/
def RecordField.from {α : Type} (f : RecordField α) (s : Selection) : Except DecodeError α :=
  match s.lookup f.name with
  | some j => f.decode j
  | none =>
    match f.default? with
    | some a => .ok a
    | none => .error (.missingField f.name)

/-- Goes through the members of an object in reading order. -/
def selectMembers (slots : List Slot) (s : Selection) :
    List (Except Fault String × Json) → Except DecodeError Selection
  | [] => .ok s
  | (name, value) :: rest => do
    let name ← name.mapError DecodeError.fault
    match slots.find? (·.name = name) with
    | some slot =>
      if (s.lookup name).isSome then throw (.duplicateField name)
      slot.check value
      selectMembers slots ((name, value) :: s) rest
    | none =>
      match skipFault value with
      | some f => throw (.fault f)
      | none => selectMembers slots s rest

/-- Goes through the elements of a list, one for each field; `n` elements came before. -/
def selectItems (o : Origin) (record : String) (fields length : Nat) (tail : Tail)
    (n : Nat) (s : Selection) : List Slot → List Json → Except DecodeError Selection
  | slot :: slots, value :: rest => do
    slot.check value
    selectItems o record fields length tail (n + 1) ((slot.name, value) :: s) slots rest
  | slots, [] => do
    let tailFault : Option Fault := match tail with
      | .closed => none
      | .cut f => some (if f.isEof then f else .trailingCharacters)
      | .dangling _ => some .trailingCharacters
    match slots with
    | [] =>
      match tailFault with
      | none => return s
      | some f => throw (.fault f)
    | slots =>
      -- A field is still wanted, so the list has to end properly before one can be missing.
      endOf tail
      match slots.findIdx? (·.required) with
      | some i => throw (.tooShort (n + i) record fields)
      | none => return s
  | [], _ :: _ =>
    match o with
    | .text => .error (.fault .trailingCharacters)
    | .value => .error (.tooLong length)

/-- The values of the declared fields of a record, each checked, and the end of the record. -/
def selectFields (o : Origin) (record : String) (slots : List Slot) :
    Json → Except DecodeError Selection
  | .object members tail => do
    let s ← selectMembers slots [] members
    endOf tail
    return s
  | .array items tail =>
    selectItems o record slots.length items.length tail 0 [] slots items
  | j => mismatch (.record record) j

/-! ## Whole texts -/

/-- Decodes a whole text. -/
def Document.decode {α : Type} (d : Decoder α) (doc : Document) : Except DecodeError α := do
  let a ← d doc.value
  match doc.trailing with
  | some f => throw (.fault f)
  | none => return a

/-- Decodes a whole text. -/
def decodeText {α : Type} (d : Decoder α) (s : String) : Except DecodeError α :=
  (read s).decode d

end EnvRegistry.Json
