import EnvRegistry.Config.File

/-! # The database of a project

    The database of a project lies in a file.  Opening it makes the file, and the
    directories above it, if they are missing; an empty file is an empty database.  A
    database that is open belongs to its file, wherever the names of the file go. -/

namespace EnvRegistry.Database

/-- A database that is open, and the number of its file. -/
structure Opened where
  file : Nat
  database : Database

/-- Opens the database in the file at a path. -/
def «open» (cwd : Place) (path : String) : FileM Opened := do
  if let some parent := Path.parent? path then
    FileM.change (FileTree.makeDirectories cwd parent)
  let number ← fun t =>
    let (r, t) := FileTree.openFile cwd path t
    (r.mapError fun f => .persistence (.file f), t)
  match ((← get).files.lookup number).map File.content with
  | some (.database db) => return ⟨number, db⟩
  | some (.text s) =>
    if !s.isEmpty then throw (.persistence .notADatabase)
    modify (·.fill number (.database {}))
    return ⟨number, {}⟩
  | _ => throw (.persistence .notADatabase)

/-- Keeps a database that is open in its file. -/
def Opened.keep (o : Opened) (db : Database) : FileM Unit := modify (·.fill o.file (.database db))

end EnvRegistry.Database
