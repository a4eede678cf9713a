import EnvRegistry.Config.Basic
import EnvRegistry.Json.Decoder

/-! # Configurations as JSON

    A configuration has a section for the database and one for the refresh command.
    Everything may be left out. -/

namespace EnvRegistry

open Json (RecordField Origin selectFields)

namespace Config

/-- The field of the path inside the database section. -/
def pathField : RecordField String :=
  { name := "path", decode := Json.path, default? := some Path.databaseName }

/-- Reads the database section. -/
def databaseSection (o : Origin) : Json.Decoder String := fun j => do
  pathField.from (← selectFields o "DatabaseConfig" [pathField.slot] j)

/-- The field of the command inside the refresh section. -/
def commandField : RecordField (Option String) :=
  { name := "command", decode := Json.optional Json.text, default? := some none }

/-- Reads the refresh section. -/
def refreshSection (o : Origin) : Json.Decoder (Option String) := fun j => do
  commandField.from (← selectFields o "RefreshConfig" [commandField.slot] j)

/-- The field of the version. -/
def versionField : RecordField UInt32 :=
  { name := "version", decode := Json.word, default? := some 1 }

/-- The field of the database section. -/
def databaseField (o : Origin) : RecordField String :=
  { name := "database", decode := databaseSection o, default? := some Path.databaseName }

/-- The field of the refresh section. -/
def refreshField (o : Origin) : RecordField (Option String) :=
  { name := "refresh", decode := refreshSection o, default? := some none }

/-- Reads a configuration. -/
def decoder (o : Origin) : Json.Decoder Config := fun j => do
  let found ← selectFields o "Config"
    [versionField.slot, (databaseField o).slot, (refreshField o).slot] j
  return {
    version := ← versionField.from found
    databasePath := ← (databaseField o).from found
    refreshCommand := ← (refreshField o).from found }

/-- A configuration as JSON. -/
def toJson (c : Config) : Json := .record [
  ("version", .nat c.version.toNat),
  ("database", .record [("path", .string c.databasePath)]),
  ("refresh", .record (c.refreshCommand.map fun s => ("command", Json.string s)).toList)]

end Config

namespace ConfigWarning

/-- The field of the level. -/
def levelField : RecordField WarningLevel :=
  { name := "level", decode := Json.variant [("warning", .warning), ("error", .error)] }

/-- The field of the message. -/
def messageField : RecordField String := { name := "message", decode := Json.text }

/-- Reads a warning. -/
def decoder (o : Origin) : Json.Decoder ConfigWarning := fun j => do
  let found ← selectFields o "ConfigWarning" [levelField.slot, messageField.slot] j
  return { level := ← levelField.from found, message := ← messageField.from found }

/-- A warning as JSON. -/
def toJson (w : ConfigWarning) : Json :=
  .record [("level", .string w.level.name), ("message", .string w.message)]

end ConfigWarning

end EnvRegistry
