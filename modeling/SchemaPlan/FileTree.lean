import SchemaPlan.Problem
import SchemaPlan.Text.Lines

/-!
# Files

Paths, and the files that a run can see, as a value.  A path is kept without empty parts and
without parts that stay where they are; the parts that go up are kept and followed when a file is
looked for.  A place is a path whose parts go up at its front only; files and folders are kept by
place.

* `FileTree.find` says what stands at a path, or why nothing does.
* `FileTree.ensureFolders` makes a folder and those that it stands in.
* `FileTree.write` makes the folders that a file needs and writes it.  What is made before a
  problem arises stays.
-/
namespace SchemaPlan

/-- A path; it starts at the root or at the folder of the run. -/
structure Path where
  rooted : Bool
  parts : List String
deriving DecidableEq

namespace Path

/-- The part that goes up. -/
def up : String := ".."

/-- The path of a text. -/
def ofText (s : String) : Path :=
  ⟨s.toList.head? == some '/',
    ((s.toList.splitOn '/').map String.ofList).filter fun part => part != "" && part != "."⟩

/-- The text of a path. -/
def text (p : Path) : String :=
  if p.rooted then "/" ++ "/".intercalate p.parts
  else if p.parts.isEmpty then "."
  else "/".intercalate p.parts

/-- A path below another one, unless it starts at the root. -/
def below (folder p : Path) : Path :=
  if p.rooted then p else ⟨folder.rooted, folder.parts ++ p.parts⟩

/-- The folder that a path stands in. -/
def parent (p : Path) : Path :=
  ⟨p.rooted, p.parts.dropLast⟩

/-- The folder where the path starts. -/
def start (p : Path) : Path :=
  ⟨p.rooted, []⟩

/-- Whether a place is where paths start, or above it. -/
def isOutermost (place : Path) : Bool :=
  place.parts.all (· == up)

/-- The place above a place; nothing is above the root. -/
def above (place : Path) : Path :=
  if place.isOutermost then if place.rooted then place else ⟨false, up :: place.parts⟩
  else place.parent

/-- The place that a part leads to from a folder. -/
def enter (place : Path) (part : String) : Path :=
  if part = up then place.above else ⟨place.rooted, place.parts ++ [part]⟩

/-- The places on a way, its end included. -/
def placesFrom (place : Path) : List String → List Path
  | [] => []
  | part :: rest => place.enter part :: placesFrom (place.enter part) rest

end Path

/-- The files that a run can see. -/
structure FileTree where
  files : List (Path × List UInt8)
  /-- The folders but those where paths start and above. -/
  folders : List Path

namespace FileTree

/-- The tree without files. -/
def empty : FileTree := ⟨[], []⟩

/-- What stands at a place. -/
inductive Entry where
  | file (bytes : List UInt8)
  | folder

/-- What stands at a place. -/
def entryAt? (t : FileTree) (place : Path) : Option Entry :=
  match t.files.lookup place with
  | some bytes => some (.file bytes)
  | none => if place.isOutermost || t.folders.contains place then some .folder else none

/-! ## Looking -/

/-- The longest name of a file in bytes. -/
def nameLimit : Nat := 255

/-- The longest path in bytes. -/
def pathLimit : Nat := 4095

/-- The place that a part of a path leads to; it must be looked up in a folder. -/
def step (t : FileTree) (path place : Path) (part : String) : Except FileFault Path :=
  match t.entryAt? place with
  | some .folder =>
    if nameLimit < part.utf8ByteSize then .error (.tooLong path.text) else .ok (place.enter part)
  | some (.file _) => .error (.notFolder path.text)
  | none => .error (.missing path.text)

/-- Follows parts of a path from a place. -/
def walk (t : FileTree) (path place : Path) : List String → Except FileFault Path
  | [] => .ok place
  | part :: rest => do walk t path (← t.step path place part) rest

/-- The place that a path leads to. -/
def locate (t : FileTree) (p : Path) : Except FileFault Path :=
  if p.text.toList.contains '\x00' then .error (.nullCharacter p.text)
  else if pathLimit < p.text.utf8ByteSize then .error (.tooLong p.text)
  else t.walk p p.start p.parts

/-- What stands at a path. -/
def find (t : FileTree) (p : Path) : Except FileFault Entry := do
  match t.entryAt? (← t.locate p) with
  | some entry => return entry
  | none => throw (.missing p.text)

/-- Whether there is something at a path; a path that is too long has no answer. -/
def has (t : FileTree) (p : Path) : Except FileFault Bool :=
  match t.find p with
  | .ok _ => .ok true
  | .error (.tooLong shown) => .error (.tooLong shown)
  | .error _ => .ok false

/-- Whether there is a folder at a path. -/
def hasFolder (t : FileTree) (p : Path) : Bool :=
  match t.find p with
  | .ok .folder => true
  | _ => false

/-- The bytes of a file. -/
def readBytes (t : FileTree) (p : Path) : Except FileFault (List UInt8) := do
  match ← t.find p with
  | .file bytes => return bytes
  | .folder => throw (.isFolder p.text)

/-- The text of a file, all ends of lines being line feeds. -/
def readText (t : FileTree) (p : Path) : Except FileFault String := do
  match Text.ofUtf8? (← t.readBytes p) with
  | some s => return String.ofList (Text.unifyLineEnds s.toList)
  | none => throw (.undecodable p.text)

/-! ## Making folders -/

/-- A tree after something was to be made, and what went wrong. -/
structure Made where
  tree : FileTree
  fault : Option FileFault

/-- The tree with a folder where nothing is. -/
def makeFolder (t : FileTree) (p : Path) : Except FileFault FileTree := do
  let place ← t.locate p
  match t.entryAt? place with
  | some _ => throw (.occupied p.text)
  | none => return { t with folders := t.folders ++ [place] }

/-- Makes a folder in a folder that is there, unless it is there itself. -/
def ensureFolder (t : FileTree) (p : Path) : Made :=
  match t.makeFolder p with
  | .ok after => ⟨after, none⟩
  | .error fault => if t.hasFolder p then ⟨t, none⟩ else ⟨t, some fault⟩

/-- Whether a folder cannot be made for want of the one that it is to stand in. -/
def lacksParent (t : FileTree) (p : Path) : Bool :=
  match t.makeFolder p with
  | .error (.missing _) => true
  | _ => false

/-- Makes the folder with these parts, the last one first, and those that it stands in. -/
def ensureFolders (t : FileTree) (rooted : Bool) : List String → Made
  | [] => t.ensureFolder ⟨rooted, []⟩
  | part :: front =>
    let p : Path := ⟨rooted, (part :: front).reverse⟩
    if t.lacksParent p then
      let made := t.ensureFolders rooted front
      match made.fault with
      | some _ => made
      | none => made.tree.ensureFolder p
    else t.ensureFolder p

/-! ## Writing -/

/-- The files with one file written. -/
def putFile (place : Path) (bytes : List UInt8) :
    List (Path × List UInt8) → List (Path × List UInt8)
  | [] => [(place, bytes)]
  | (p, b) :: rest =>
    if p = place then (p, bytes) :: rest else (p, b) :: putFile place bytes rest

/-- Writes a file into a folder that is there. -/
def putBytes (t : FileTree) (p : Path) (bytes : List UInt8) : Except FileFault FileTree := do
  let place ← t.locate p
  match t.entryAt? place with
  | some .folder => throw (.isFolder p.text)
  | _ => return { t with files := putFile place bytes t.files }

/-- Writes a file and makes the folders that it needs. -/
def write (t : FileTree) (p : Path) (bytes : List UInt8) : Made :=
  let made := t.ensureFolders p.rooted p.parent.parts.reverse
  match made.fault with
  | some _ => made
  | none =>
    match made.tree.putBytes p bytes with
    | .ok after => ⟨after, none⟩
    | .error fault => ⟨made.tree, some fault⟩

/-- The files of a later tree that are not in this one, or not with these bytes. -/
def changes (t later : FileTree) : List (Path × List UInt8) :=
  later.files.filter fun (p, bytes) => t.files.lookup p != some bytes

/-- The folders of a later tree that are not in this one. -/
def newFolders (t later : FileTree) : List Path :=
  later.folders.filter fun p => !t.folders.contains p

end FileTree

end SchemaPlan
