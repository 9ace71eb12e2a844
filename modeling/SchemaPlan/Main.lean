import SchemaPlan.Session

/-!
# Command line

Reads the files that a command names, runs the command over them, prints what it prints and writes
the files that it changes.  What comes from elsewhere, the reader of documents above all, is given.
-/
namespace SchemaPlan

/-- Adds what stands at a place on the disk to a tree. -/
def addEntry (t : FileTree) (place : Path) : IO FileTree := do
  match ← (IO.FS.readBinFile place.text).toBaseIO with
  | .ok bytes => return { t with files := t.files ++ [(place, bytes.toList)] }
  | .error (.inappropriateType ..) => return { t with folders := t.folders ++ [place] }
  | .error _ => return t

/-- Adds what stands on the ways to some paths: each place once, and only inside a folder. -/
def addEntries (t : FileTree) (paths : List Path) : IO FileTree := do
  let mut tree := t
  for path in paths do
    for place in path.start.placesFrom path.parts do
      if (tree.entryAt? place).isNone then
        if let some .folder := tree.entryAt? place.above then
          tree ← addEntry tree place
  return tree

/-- The part of the disk that a command can see. -/
def visibleTree (o : Outside) (c : Command) : IO FileTree := do
  let tree ← addEntries .empty (c.sources ++ c.outFile.toList.map Path.ofText)
  addEntries tree (c.seedFiles o tree)

/-- Makes the folders and writes the files that a run has changed. -/
def writeChanges (before after : FileTree) : IO Unit := do
  for place in before.newFolders after do
    IO.FS.createDirAll place.text
  for (place, bytes) in before.changes after do
    IO.FS.writeBinFile place.text (ByteArray.mk bytes.toArray)

/-- How the commands are spelled. -/
def usage : String :=
  "usage: schemaplan (sql | inserts | list-tables) [options] MODEL\n" ++
    "       schemaplan diff [options] OLD NEW"

/-- Runs a command line. -/
def perform (o : Outside) (words : List String) : IO UInt32 := do
  let tree ← match Command.parse? o.lax words with
    | some c => visibleTree o c
    | none => pure .empty
  let outcome := runWords o tree words
  writeChanges tree outcome.tree
  match outcome.ending with
  | .refused .help =>
    IO.println usage
    return 0
  | .refused .misuse =>
    IO.eprintln usage
    return 2
  | .broken problem =>
    IO.eprintln problem.message
    return 1
  | .finished code printed log =>
    log.forM IO.eprintln
    IO.print printed
    return code.toUInt32

end SchemaPlan
