import EnvRegistry.Path
import EnvRegistry.Text.Blank

/-! # Configurations

    What can be configured: the file of the database and the command to run when an
    environment's relations have changed.  `Config.warnings` names common mistakes. -/

namespace EnvRegistry

/-- A configuration. -/
structure Config where
  version : UInt32 := 1
  /-- Where the database is; a relative path starts from the root of the project. -/
  databasePath : String := Path.databaseName
  /-- The command to run after every change of relations. -/
  refreshCommand : Option String := none
  deriving DecidableEq, Inhabited

/-- How grave a mistake is. -/
inductive WarningLevel where
  | warning
  | error
  deriving DecidableEq, Repr

/-- The level in one word. -/
def WarningLevel.name : WarningLevel → String
  | .warning => "warning"
  | .error => "error"

/-- A mistake in a configuration. -/
structure ConfigWarning where
  level : WarningLevel
  message : String
  deriving DecidableEq

namespace Config

/-- The file of the database of a project with this root. -/
def databaseFile (c : Config) (root : String) : String := Path.database root c.databasePath

/-- The command to run after a change, unless there is none or it is blank. -/
def hook? (c : Config) : Option String :=
  (c.refreshCommand.map Text.trim).filter (!·.isEmpty)

/-- The mistakes in a configuration. -/
def warnings (c : Config) : List ConfigWarning :=
  (if c.databasePath.isEmpty then [⟨.error, "database.path is empty"⟩] else []) ++
  (if c.refreshCommand.any Text.isAllBlank then
    [⟨.warning, "refresh.command is empty; remove it to disable the hook"⟩] else []) ++
  (if c.version ≠ 1 then
    [⟨.warning, "unknown config version " ++ toString c.version.toNat⟩] else [])

end Config

end EnvRegistry
