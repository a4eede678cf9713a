import EnvRegistry.CommandLine.Run
import EnvRegistry.Database.Codec
import EnvRegistry.Shell.Hook

/-! # The program

    The files that a command line is about are read from the disk, the command line is
    carried out on them, and what has changed is written back. -/

namespace EnvRegistry.Program

/-- The place that a path leads to, by its steps alone. -/
def placeOf (cwd : Place) (path : String) : Place :=
  (FileTree.steps path).foldl (fun p step =>
    if step = ".." then p.dropLast else if step = "." then p else p ++ [step])
    (FileTree.startOf cwd path)

/-- The path of a place. -/
def pathOf (p : Place) : String := "/" ++ String.intercalate "/" p

/-- What a file with some bytes holds, which may be a database. -/
def contentOf (bytes : List UInt8) : FileContent :=
  match FileContent.ofBytes bytes with
  | .text s =>
    match Database.ofText? s with
    | some db => .database db
    | none => .text s
  | c => c

/-- The bytes of a file. -/
def bytesOf : FileContent → List UInt8
  | .database db => Text.encode db.toText
  | c => (FileContent.bytes? c).getD []

/-! ## Reading -/

/-- Reads what lies at a place. -/
def readPlace (t : FileTree) (p : Place) : IO FileTree := do
  let path := (← IO.currentDir) / pathOf p
  if ← path.isDir then return t.set p .directory
  match ← (IO.FS.readBinFile path).toBaseIO with
  | .ok bytes => return t.addFile p { content := contentOf bytes.toList }
  | .error _ => return t

/-- Reads what lies at a place and at the places above it. -/
def readAlong (t : FileTree) (p : Place) : IO FileTree :=
  (List.range p.length).foldlM (fun t n =>
    let p := p.take (n + 1)
    if (t.get? p).isSome then pure t else readPlace t p) t

/-- Reads what lies at a place and below it. -/
partial def readBelow (t : FileTree) (p : Place) : IO FileTree := do
  let t ← readAlong t p
  if !t.isDirectory p then return t
  let entries ← ((← IO.currentDir) / pathOf p).readDir
  entries.foldlM (fun t e => readBelow t (p ++ [e.fileName])) t

/-- Reads the files of the project with a root; if it has a hook, everything below the root. -/
def readProject (t : FileTree) (cwd : Place) (root : String) : IO FileTree := do
  let t ← readBelow t (placeOf cwd (Path.directory root))
  match (Config.load cwd root t).1 with
  | .error _ => return t
  | .ok c =>
    let t ← readAlong t (placeOf cwd (c.databaseFile root))
    if c.hook?.isSome then readBelow t (placeOf cwd root) else return t

/-- Reads the files that a command line may be about. -/
def readFiles (cwd : Place) (root : Option String) : IO FileTree := do
  let t ← readAlong {} cwd
  match root with
  | some root => readProject (← readAlong t (placeOf cwd root)) cwd root
  | none => (Path.ancestors (pathOf cwd)).foldlM (fun t root => readProject t cwd root) t

/-! ## Writing -/

/-- Writes what lies at a place, unless the disk has it already. -/
def writePlace (before after : FileTree) (p : Place) : IO Unit := do
  match after.fileAt? p with
  | none => if after.isDirectory p && !before.isDirectory p then IO.FS.createDirAll (pathOf p)
  | some file =>
    let bytes := bytesOf file.content
    if (before.fileAt? p).map (fun f => bytesOf f.content) ≠ some bytes then
      let temporary := pathOf p ++ ".new"
      IO.FS.writeBinFile temporary ⟨bytes.toArray⟩
      IO.FS.rename temporary (pathOf p)

/-- Writes back what has changed: what is gone is removed, then directories are made from the top
down, and files are written. -/
def writeFiles (before after : FileTree) : IO Unit := do
  for (p, _) in before.entries do
    if (after.get? p).isNone then
      if (before.fileAt? p).isSome then IO.FS.removeFile (pathOf p)
  let places := after.entries.map (·.1)
  for p in places.mergeSort (fun a b => a.length ≤ b.length) do
    writePlace before after p

end EnvRegistry.Program

open EnvRegistry Program in
/-- Carries the command line out. -/
def main (args : List String) : IO UInt32 := do
  let cwd := placeOf [] (← IO.currentDir).toString
  let presetRoot ← IO.getEnv "ENVREL_ROOT"
  let root := match CommandLine.Invocation.ofArguments presetRoot args with
    | .ok i => i.root
    | .error _ => none
  let before ← readFiles cwd root
  let (answer, after) := CommandLine.run Shell.runner cwd presetRoot args before
  writeFiles before after
  IO.print answer.output
  IO.eprint answer.complaint
  return UInt32.ofNat answer.code
