import EnvRegistry.Database

/-! # The text of a database

    A database is kept as a line that says what it is, and below it an object with the
    ids and texts of the records of every kind. -/

namespace EnvRegistry.Database

/-- The line that the text of a database starts with. -/
def headline : String := "envrel database 1"

/-- The records of a kind as JSON. -/
def tableJson (t : Table String) : Json :=
  .list (t.entries.map fun e => .list [.nat e.1.toNat, .string e.2])

/-- Reads the id and the text of a record. -/
def entryDecoder : Json.Decoder (UInt32 × String)
  | .array [id, text] .closed => return (← Json.word id, ← Json.text text)
  | j => Json.mismatch .sequence j

/-- Reads the records of a kind. -/
def tableDecoder : Json.Decoder (Table String) := fun j =>
  Table.ofList <$> Json.listOf entryDecoder j

/-- The text of a database. -/
def toText (db : Database) : String :=
  headline ++ "\n" ++ (Json.record [
    ("environments", tableJson db.environments),
    ("tags", tableJson db.tags),
    ("edge_groups", tableJson db.edgeGroups)]).compact ++ "\n"

/-- The database that a text keeps, if it keeps one. -/
def ofText? (text : String) : Option Database :=
  let start := (headline ++ "\n").toList
  if start.isPrefixOf text.toList then
    let j := (Json.read (String.ofList (text.toList.drop start.length))).value
    let table (name : String) : Option (Table String) := do
      (tableDecoder (← j.get? name)).toOption
    do return {
      environments := ← table "environments"
      tags := ← table "tags"
      edgeGroups := ← table "edge_groups" }
  else none

end EnvRegistry.Database
