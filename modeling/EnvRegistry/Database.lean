import EnvRegistry.Record.Codec
import EnvRegistry.Relations.Apply
import EnvRegistry.Table

/-! # The database

    A `Database` keeps the text of every record under the record's id, one table for
    each kind.  Texts are decoded whenever they are read, so a text that does not
    decode is a persistence error of that read.

    `transaction` keeps what an operation wrote if it succeeds and discards it if it
    fails.  Inside a transaction the database is a `RelationStore`.  Refreshes asked
    for inside a transaction wait in a queue until its writes are kept. -/

namespace EnvRegistry

/-- The texts of all records. -/
structure Database where
  environments : Table String := .empty
  tags : Table String := .empty
  edgeGroups : Table String := .empty
  deriving Inhabited

namespace Database

/-! ## Records -/

/-- Decodes the text of a record. -/
def decodeRecord {α : Type} (d : Json.Decoder α) (text : String) : Except RegistryError α :=
  (Json.decodeText d text).mapError fun e => .persistence (.undecodable e)

/-- The record under an id. -/
def readRecord {α : Type} (kind : EntityKind) (d : Json.Decoder α) (t : Table String)
    (id : UInt32) : Except RegistryError α :=
  match t.get? id with
  | some text => decodeRecord d text
  | none => .error (.notFound kind id)

/-- All records of a table, by ascending id. -/
def listRecords {α : Type} (d : Json.Decoder α) (t : Table String) :
    Except RegistryError (List α) :=
  t.values.mapM (decodeRecord d)

/-- The environment under an id. -/
def environment (db : Database) (id : EnvironmentId) : Except RegistryError Environment :=
  readRecord .environment (Environment.decoder .text) db.environments id

/-- The tag under an id. -/
def tag (db : Database) (id : TagId) : Except RegistryError Tag :=
  readRecord .tag (Tag.decoder .text) db.tags id

/-- The edge group under an id. -/
def edgeGroup (db : Database) (id : EdgeGroupId) : Except RegistryError EdgeGroup :=
  readRecord .edgeGroup (EdgeGroup.decoder .text) db.edgeGroups id

/-- All environments. -/
def allEnvironments (db : Database) : Except RegistryError (List Environment) :=
  listRecords (Environment.decoder .text) db.environments

/-- All tags. -/
def allTags (db : Database) : Except RegistryError (List Tag) :=
  listRecords (Tag.decoder .text) db.tags

/-- All edge groups. -/
def allEdgeGroups (db : Database) : Except RegistryError (List EdgeGroup) :=
  listRecords (EdgeGroup.decoder .text) db.edgeGroups

/-- The edge groups that an environment is in. -/
def environmentEdgeGroups (db : Database) (id : EnvironmentId) :
    Except RegistryError (KeySet EdgeGroupId) := do
  return Relations.memberships (← db.allEdgeGroups) id

/-- The database with the text of an environment under its id. -/
def putEnvironment (db : Database) (e : Environment) : Database :=
  { db with environments := db.environments.insert e.id e.toJson.compact }

/-- The database with the text of a tag under its id. -/
def putTag (db : Database) (t : Tag) : Database :=
  { db with tags := db.tags.insert t.id t.toJson.compact }

/-- The database with the text of an edge group under its id. -/
def putEdgeGroup (db : Database) (g : EdgeGroup) : Database :=
  { db with edgeGroups := db.edgeGroups.insert g.id g.toJson.compact }

/-! ## Inside a transaction -/

/-- Looks something up. -/
def query {α : Type} (f : Database → Except RegistryError α) : StoreM Database α := fun db =>
  (f db, db)

/-- Writes over the record under an id, which has to be there. -/
def replaceRecord (kind : EntityKind) (table : Database → Table String) (id : UInt32)
    (put : Database → Database) : StoreM Database Unit := do
  if (table (← get)).contains id then modify put else throw (.notFound kind id)

/-- Adds a record under the next free id. -/
def addRecord {α : Type} (table : Database → Table String) (make : UInt32 → α)
    (put : Database → α → Database) : StoreM Database α := do
  let id ← query fun db => nextId (table db).lastId?
  modify (put · (make id))
  return make id

instance : RelationStore Database where
  environment id := query (·.environment id)
  updateEnvironment e := replaceRecord .environment (·.environments) e.id (·.putEnvironment e)
  tag id := query (·.tag id)
  updateTag t := replaceRecord .tag (·.tags) t.id (·.putTag t)
  edgeGroup id := query (·.edgeGroup id)
  edgeGroups := query (·.allEdgeGroups)
  updateEdgeGroup g := replaceRecord .edgeGroup (·.edgeGroups) g.id (·.putEdgeGroup g)
  createTag name := addRecord (·.tags) (fun id => { id, name }) putTag
  createEdgeGroup name := addRecord (·.edgeGroups) (fun id => { id, name }) putEdgeGroup

/-- Lists a new environment in each of the tags it is to wear. -/
def listInTags (id : EnvironmentId) : List TagId → StoreM Database Unit
  | [] => return
  | tagId :: rest => do
    RelationStore.mutateTag tagId (·.addMember id)
    listInTags id rest

/-- Adds an environment under the next free id, wearing the given tags, each once. -/
def insertEnvironment (name : String) (group : Option GroupId) (tags : List TagId) :
    StoreM Database Environment := do
  let id ← query fun db => nextId db.environments.lastId?
  listInTags id tags
  let e : Environment := {
    id, name
    groupId := (GroupId.requested? group).getD GroupId.unassigned
    tagIds := tags.eraseDups }
  modify (·.putEnvironment e)
  return e

/-! ## Transactions -/

/-- Keeps what an operation wrote if it succeeds, and discards it if it fails. -/
def transaction {α : Type} (m : StoreM Database α) : StoreM Database α := fun db =>
  match m db with
  | (.ok a, db') => (.ok a, db')
  | (.error e, _) => (.error e, db)

/-- Runs an operation as a transaction that queues its refreshes, and passes the queue on once its
writes are kept. -/
def committing {ρ α : Type} (r : Refresher ρ) (m : Relations.RunM Database (List Environment) α) :
    Relations.RunM Database ρ α := fun (db, downstream) =>
  match m (db, []) with
  | (.error e, _) => (.error e, (db, downstream))
  | (.ok a, (db', queue)) =>
    let (flushed, downstream') := Refresher.flush r queue downstream
    (flushed.map fun _ => a, (db', downstream'))

/-- Adds a tag. -/
def createTag (name : String) : StoreM Database Tag :=
  transaction (RelationStore.createTag name)

/-- Adds an edge group. -/
def createEdgeGroup (name : String) : StoreM Database EdgeGroup :=
  transaction (RelationStore.createEdgeGroup name)

/-- Adds an environment. -/
def createEnvironment (name : String) (group : Option GroupId) (tags : List TagId) :
    StoreM Database Environment :=
  transaction (insertEnvironment name group tags)

/-- Applies an update to one environment. -/
def update {ρ : Type} (v : Relations.Visiting) (r : Refresher ρ) (id : EnvironmentId)
    (u : Relations.Update) : Relations.RunM Database ρ Relations.Outcome :=
  committing r (Relations.update v Refresher.enqueue id u)

/-- Applies a request to many environments. -/
def assign {ρ : Type} (v : Nat → Relations.Visiting) (r : Refresher ρ)
    (ids : List EnvironmentId) (request : Relations.Request) :
    Relations.RunM Database ρ (List Relations.Assigned) :=
  committing r (Relations.assign v Refresher.enqueue ids request)

end Database

end EnvRegistry
