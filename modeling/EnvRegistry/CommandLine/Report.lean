import EnvRegistry.CommandLine.Layout
import EnvRegistry.Config.Codec
import EnvRegistry.Error
import EnvRegistry.Record.Codec
import EnvRegistry.Relations.Codec

/-! # What commands answer

    The answers of commands as text, each a list of lines, and as JSON.  An answer that
    is put together for one command has its members sorted by name. -/

namespace EnvRegistry.CommandLine

/-- An id as text. -/
def idText (id : UInt32) : String := toString id.toNat

/-- The words for a new record. -/
def createdLine (kind : EntityKind) (id : UInt32) (name : String) : String :=
  "Created " ++ kind.name ++ " [" ++ idText id ++ "]: " ++ name

/-! ## Lists -/

/-- A list of environments. -/
def environmentLines (es : List Environment) : List String :=
  if es.isEmpty then ["No environments."]
  else tableLines ["ID", "NAME", "GROUP", "TAGS"]
    (es.map fun e => [idText e.id, e.name, idText e.groupId, idList e.tagIds])

/-- A list of tags. -/
def tagLines (ts : List Tag) : List String :=
  if ts.isEmpty then ["No tags."]
  else tableLines ["ID", "NAME", "ENVIRONMENTS"]
    (ts.map fun t => [idText t.id, t.name, idList t.members.toList])

/-- A list of edge groups. -/
def edgeGroupLines (gs : List EdgeGroup) : List String :=
  if gs.isEmpty then ["No edge groups."]
  else tableLines ["ID", "NAME", "ENVIRONMENTS"]
    (gs.map fun g => [idText g.id, g.name, idList g.members])

/-! ## Single environments -/

/-- An environment with the edge groups it is in. -/
def environmentDetails (e : Environment) (edgeGroups : KeySet EdgeGroupId) : List String :=
  ["[" ++ idText e.id ++ "] " ++ e.name,
   "group:       " ++ idText e.groupId,
   "tags:        " ++ idList e.tagIds,
   "edge groups: " ++ idList edgeGroups.toList]

/-- An environment with the edge groups it is in, as JSON. -/
def environmentDetailsJson (e : Environment) (edgeGroups : KeySet EdgeGroupId) : Json :=
  (Json.record [("environment", e.toJson), ("edge_groups", .ids edgeGroups.toList)]).sorted

/-! ## Changes -/

/-- The relations that have changed, in words. -/
def changeText (o : Relations.Outcome) : String :=
  String.intercalate ", " (
    (if o.groupChanged then ["group"] else []) ++
    (if o.tagsChanged then ["tags"] else []) ++
    (if o.edgeGroupsChanged then ["edge groups"] else []))

/-- What an update came to. -/
def updateLine (id : EnvironmentId) (o : Relations.Outcome) : String :=
  if o.changed then "Updated environment [" ++ idText id ++ "]: " ++ changeText o
  else "Environment [" ++ idText id ++ "] unchanged"

/-- What an update came to, as JSON. -/
def updateJson (id : EnvironmentId) (o : Relations.Outcome) : Json :=
  (Json.record [("environment_id", .nat id.toNat), ("outcome", o.toJson)]).sorted

/-- What an assignment came to. -/
def assignedLines (l : List Relations.Assigned) : List String :=
  tableLines ["ENVIRONMENT", "CHANGES"] (l.map fun a =>
    [idText a.environmentId, if a.outcome.changed then changeText a.outcome else "unchanged"])

/-! ## Configurations -/

/-- A configuration. -/
def configLines (c : Config) (root : String) : List String :=
  ["database: " ++ c.databaseFile root,
   "refresh hook: " ++ c.refreshCommand.getD "(none)"]

/-- The mistakes in a configuration. -/
def warningLines (l : List ConfigWarning) : List String :=
  if l.isEmpty then ["Config is valid. No warnings."]
  else l.map fun w => "[" ++ w.level.name ++ "] " ++ w.message

/-- The mistakes in a configuration, as JSON. -/
def warningsJson (l : List ConfigWarning) : Json :=
  (Json.record [("warnings", .list (l.map ConfigWarning.toJson))]).sorted

/-- What has been done about the hook. -/
def hookLine (command : Option String) : String :=
  match command with
  | some c => "Refresh hook set: " ++ c
  | none => "Refresh hook cleared"

end EnvRegistry.CommandLine
