import SchemaPlan.Command
import SchemaPlan.Document.Read
import SchemaPlan.Text.LineDiff
import SchemaPlan.Text.Lines

/-!
# Running commands

A run of a command line over a tree of files: what it prints, how it ends, and the tree that it
leaves.  What a run takes from elsewhere is an `Outside`: above all the reader that makes a document
of the text of a file.

* `Command.generate` makes the text that a command asks for; it reads files and writes none.
* `Command.run` prints the text, compares a file with it or writes it to a file.
* `runWords` is the whole: words in, an ending and a tree out.
-/
namespace SchemaPlan

/-- What a run takes from elsewhere.  A theorem about runs is about all of it, so it holds whatever
form documents are written in. -/
structure Outside where
  /-- Reads the document in a text.  It may hold values that a `Doc` has no place for, such as dates;
  then this is `Problem.beyond`. -/
  read : String → Except Problem Doc
  /-- The text of a command that comes upon something that is not described here: such a value, or a
  name that is no text. -/
  text : Command → FileTree → Noted String
  /-- Whether the reader of command lines is lax about what stands behind a switch. -/
  lax : Bool

/-- How a run ends. -/
inductive Ending where
  /-- The words are no command. -/
  | refused (why : Command.Refusal)
  /-- The run comes to its end with a code, and has printed text and lines of a log. -/
  | finished (code : Nat) (printed : String) (log : List String)
  /-- Something happens that the run has no answer to. -/
  | broken (problem : Problem)

/-- An ending and the files that are left. -/
structure Outcome where
  ending : Ending
  tree : FileTree

/-- Whether a run reports a problem and ends; it breaks off at the others. -/
def Problem.isReported : Problem → Bool
  | unknownDialect _ | rule _ | setting _ | malformed _ | invariant _ | source _ => true
  | unknownSymbol _ => false
  | fault _ => false
  | file (.undecodable _) => false
  | file (.nullCharacter _) => false
  | file _ => true
  | flaw _ => true
  | beyond => false

namespace Command

/-! ## Reading -/

/-- The document in a file. -/
def readDoc (o : Outside) (tree : FileTree) (name : String) : Except Problem Doc := do
  let text ← (tree.readText (Path.ofText name)).mapError .file
  o.read text

/-- The settings of a run: those of its configuration, and over them those of the command. -/
def settings (c : Command) (o : Outside) (tree : FileTree) : Except Problem Settings := do
  let base ← match c.config with
    | none => .ok Settings.standard
    | some "" => .ok Settings.standard
    | some name => Settings.ofDoc (← readDoc o tree name)
  base.apply c.options

/-- The schema in a file, if its names are texts. -/
def readWhole (o : Outside) (tree : FileTree) (name : String) : Except Problem Schema := do
  let schema ← Schema.ofDoc (← readDoc o tree name)
  match schema.texts? with
  | some schema => return schema
  | none => throw .beyond

/-- The schema in a file, restricted and qualified as the settings say. -/
def readSchema (o : Outside) (tree : FileTree) (s : Settings) :
    Option String → Except Problem Schema
  | none => .error (.fault .wrongKind)
  | some name => do
    let schema ← readWhole o tree name
    let kept := if s.tables.isEmpty then schema else schema.restrictTo s.tables
    match ← s.mapping with
    | some m => return kept.qualify m
    | none => return kept

/-! ## Text -/

/-- Where the statements of a run are headed. -/
def deployment (tree : FileTree) (s : Settings) (mapping : Option DatabaseMap) : Deployment :=
  ⟨⟨s.dialect, s.localSchema⟩, mapping, s.basePath, tree⟩

/-- The statements of a seed row that names key columns. -/
def keyedSeed (d : Deployment) : Entity → Noted (List Statement)
  | .seed r => if r.keys.isEmpty then pure [] else r.statements d
  | _ => pure []

/-- The statements of all seed rows of a schema that name key columns. -/
def keyedSeeds (d : Deployment) (schema : Schema) : Noted (List String) := do
  return (← Noted.gather (schema.entities.map (keyedSeed d))).map (·.sql d.target)

/-- The script of statements, noting their number. -/
def asScript (c : Command) (d : Dialect) (statements : List String) : Noted String := do
  Noted.note (.generated statements.length c.task.name)
  return script d statements

/-- The text that a command asks for, under settings, where all that it reads is described. -/
def generateWith (c : Command) (o : Outside) (tree : FileTree) (s : Settings) : Noted String := do
  let d := deployment tree s (← Noted.ofExcept s.mapping)
  match c.task, c.documents with
  | .list, [name] => do
    let schema ← Noted.ofExcept (readSchema o tree s name)
    return String.join (schema.tableNames.map (· ++ "\n"))
  | .create, [name] => do
    let schema ← Noted.ofExcept (readSchema o tree s name)
    c.asScript s.dialect (← schema.creationSql d)
  | .migrate, [oldName, newName] => do
    let old ← Noted.ofExcept (readSchema o tree s oldName)
    let new ← Noted.ofExcept (readSchema o tree s newName)
    c.asScript s.dialect (← (Migration.mk old new d s.allow).sql s.bound)
  | .seed, [name] => do
    let schema ← Noted.ofExcept (readSchema o tree s name)
    c.asScript s.dialect (← keyedSeeds d schema)
  | _, _ => return ""

/-- The text that a command asks for, where all that it reads is described. -/
def describe (c : Command) (o : Outside) (tree : FileTree) : Noted String := do
  c.generateWith o tree (← Noted.ofExcept (c.settings o tree))

/-- What of a command its text depends on. -/
def request (c : Command) : Command :=
  { c with verbose := false, out := none, check := false }

/-- The text that a command asks for. -/
def generate (c : Command) (o : Outside) (tree : FileTree) : Noted String :=
  let described := c.describe o tree
  match described.outcome with
  | .error .beyond => o.text c.request tree
  | _ => described

/-! ## Files of a run -/

/-- The files that the words of a command name for reading. -/
def sources (c : Command) : List Path :=
  ((c.config.toList ++ c.documents.filterMap id).filter (· != "")).map Path.ofText

/-- The files that the seed rows of a schema name. -/
def filesOfSeeds (d : Deployment) (schema : Schema) : List Path :=
  schema.entities.flatMap fun
    | .seed r => r.columns.filterMap fun c =>
      match c.source with
      | .file (.text name) => d.seedPath? name
      | _ => none
    | _ => []

/-- The files that the seed rows of the documents of a command name. -/
def seedFiles (c : Command) (o : Outside) (tree : FileTree) : List Path :=
  match c.settings o tree with
  | .error _ => []
  | .ok s => c.documents.flatMap fun name =>
    match readSchema o tree s name with
    | .error _ => []
    | .ok schema => filesOfSeeds (deployment tree s none) schema

/-! ## Comparing and writing -/

/-- How many lines of a report are shown. -/
def reportLimit : Nat := 201

/-- A report, cut off where it is too long. -/
def cutReport (lines : List String) : List String :=
  if lines.length ≤ reportLimit then lines
  else lines.take reportLimit ++ ["... (diff truncated)"]

/-- The lines of a text as strings. -/
def linesOf (text : String) : List String :=
  (Text.lines text.toList).map String.ofList

/-- The report on a file that is not as it should be. -/
def driftReport (path existing wanted : String) : List String :=
  ("[check] drift detected: " ++ path) ::
    cutReport
      (Text.LineDiff.unifiedDiff path ("generated:" ++ path) (linesOf existing) (linesOf wanted))

/-- Compares a file with the text that it should hold. -/
def compare (tree : FileTree) (path : Path) (wanted : String) (log : List String) : Ending :=
  match tree.has path with
  | .error fault => .broken (.file fault)
  | .ok false => .finished 1 "" (log ++ ["[check] missing file: " ++ path.text])
  | .ok true =>
    match tree.readText path with
    | .error fault => .broken (.file fault)
    | .ok existing =>
      if existing = wanted then .finished 0 "" log
      else .finished 1 "" (log ++ driftReport path.text existing wanted)

/-- Writes a text to a file. -/
def store (tree : FileTree) (path : Path) (text : String) (log : List String) : Outcome :=
  let made := tree.write path (Text.utf8 text)
  match made.fault with
  | some fault => ⟨.broken (.file fault), made.tree⟩
  | none => ⟨.finished 0 ("Generated " ++ path.text ++ "\n") log, made.tree⟩

/-- The lines of a log that a run shows. -/
def logLines (c : Command) (notes : List Note) : List String :=
  (notes.filter fun n => c.verbose || n.weight == .warning).map Note.line

/-- Runs a command. -/
def run (c : Command) (o : Outside) (tree : FileTree) : Outcome :=
  let generated := c.generate o tree
  let log := c.logLines generated.notes
  match generated.outcome with
  | .error problem =>
    if problem.isReported then ⟨.finished 2 "" (log ++ ["error: " ++ problem.message]), tree⟩
    else ⟨.broken problem, tree⟩
  | .ok text =>
    match c.outFile with
    | none => ⟨.finished 0 text log, tree⟩
    | some name =>
      let path := Path.ofText name
      if c.check then ⟨compare tree path text log, tree⟩ else store tree path text log

end Command

/-- Runs a command line. -/
def runWords (o : Outside) (tree : FileTree) (words : List String) : Outcome :=
  match Command.parse o.lax words with
  | .error why => ⟨.refused why, tree⟩
  | .ok c => c.run o tree

end SchemaPlan
