import EnvRegistry.Config.Basic
import EnvRegistry.Error
import EnvRegistry.Yaml.Node
import EnvRegistry.Yaml.Writer

/-! # Configuration files

    A configuration file is a YAML mapping with one section for the database and one
    for the refresh command.  Everything may be left out, unknown entries are passed
    over, and a text without a document is the default configuration. -/

namespace EnvRegistry.Config

open Yaml (Document Node)

/-! ## Writing -/

/-- The text of a configuration file. -/
def toYaml (c : Config) : String :=
  "version: " ++ toString c.version.toNat ++ "\n" ++
  "database:\n" ++ Yaml.scalarLine 2 "path" c.databasePath ++
  match c.refreshCommand with
  | none => "refresh: \x7b\x7d\n"
  | some command => "refresh:\n" ++ Yaml.scalarLine 2 "command" command

/-! ## Reading -/

/-- The text of a scalar, whatever its style. -/
def textOf (d : Document) (place : String) (n : Node) : Except ConfigFault String :=
  match d.resolve n with
  | .scalar text _ _ => .ok text
  | _ => .error (.wrongType place "a string")

/-- The name of the tag that says that a scalar is nothing. -/
def nullTag : String := "tag:yaml.org,2002:null"

/-- The name of the tag that says that a scalar is an integer. -/
def integerTag : String := "tag:yaml.org,2002:int"

/-- The text of a scalar, unless it stands for nothing. -/
def optionalTextOf (d : Document) (place : String) (n : Node) :
    Except ConfigFault (Option String) :=
  match d.resolve n with
  | .scalar text .plain tag =>
    match tag with
    | none => .ok (if text.isEmpty || Yaml.nullSpellings.contains text then none else some text)
    | some t =>
      if t ≠ nullTag then .ok (some text)
      else if Yaml.nullSpellings.contains text then .ok none
      else .error (.wrongType place "null")
  | .scalar text _ _ => .ok (some text)
  | _ => .error (.wrongType place "a string")

/-- The 32-bit number that an unquoted scalar stands for. -/
def wordOf (d : Document) (place : String) (n : Node) : Except ConfigFault UInt32 :=
  let read (text : String) : Except ConfigFault UInt32 :=
    match Yaml.unsigned? text.toList with
    | some n => if n < UInt32.size then .ok (UInt32.ofNat n) else .error (.wrongType place "u32")
    | none => .error (.wrongType place "u32")
  match d.resolve n with
  | .scalar text .plain _ => read text
  | .scalar text .literal (some tag) =>
    if tag = integerTag then read text else .error (.wrongType place "u32")
  | _ => .error (.wrongType place "u32")

/-- The entries of a mapping; an unquoted scalar without text is an empty one. -/
def entriesOf (d : Document) (place expected : String) (n : Node) :
    Except ConfigFault (List (Node × Node)) :=
  match d.resolve n with
  | .mapping entries => .ok entries
  | .scalar text .plain _ =>
    if text.isEmpty then .ok [] else .error (.wrongType place expected)
  | _ => .error (.wrongType place expected)

/-- The values of the known entries of a mapping, by name, and a check of each. -/
def selectEntries (d : Document) (place : String)
    (known : List (String × (Node → Except ConfigFault Unit)))
    (found : List (String × Node)) :
    List (Node × Node) → Except ConfigFault (List (String × Node))
  | [] => .ok found
  | (key, value) :: rest => do
    let name ← textOf d place key
    match known.lookup name with
    | none => selectEntries d place known found rest
    | some check =>
      if (found.lookup name).isSome then throw (.repeatedField name)
      check value
      selectEntries d place known ((name, value) :: found) rest

/-- The value of an entry, or the default if there is none. -/
def entryOr {α : Type} (found : List (String × Node)) (name : String) (default : α)
    (read : Node → Except ConfigFault α) : Except ConfigFault α :=
  match found.lookup name with
  | some n => read n
  | none => .ok default

/-- Forgets a value. -/
def checkOf {α : Type} (read : Node → Except ConfigFault α) (n : Node) :
    Except ConfigFault Unit := do
  let _ ← read n

/-- Reads the database section. -/
def databaseOf (d : Document) (n : Node) : Except ConfigFault String := do
  let path := textOf d "database.path: "
  let entries ← entriesOf d "database: " "struct DatabaseConfig" n
  let found ← selectEntries d "database: " [("path", checkOf path)] [] entries
  entryOr found "path" Path.databaseName path

/-- Reads the refresh section. -/
def refreshOf (d : Document) (n : Node) : Except ConfigFault (Option String) := do
  let command := optionalTextOf d "refresh.command: "
  let entries ← entriesOf d "refresh: " "struct RefreshConfig" n
  let found ← selectEntries d "refresh: " [("command", checkOf command)] [] entries
  entryOr found "command" none command

/-- Reads the configuration that a document holds. -/
def ofDocument (d : Document) : Except ConfigFault Config := do
  let version := wordOf d "version: "
  let entries ← entriesOf d "" "struct Config" d.root
  let found ← selectEntries d ""
    [("version", checkOf version), ("database", checkOf (databaseOf d)),
     ("refresh", checkOf (refreshOf d))] [] entries
  return {
    version := ← entryOr found "version" 1 version
    databasePath := ← entryOr found "database" Path.databaseName (databaseOf d)
    refreshCommand := ← entryOr found "refresh" none (refreshOf d) }

/-- Reads the text of a configuration file. -/
def ofYaml (text : String) : Except RegistryError Config :=
  match Yaml.document text with
  | .error f => .error (.config (.yaml f))
  | .ok none => .ok {}
  | .ok (some d) => (ofDocument d).mapError .config

end EnvRegistry.Config
