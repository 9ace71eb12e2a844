import SchemaPlan.FileTree
import SchemaPlan.Noted
import SchemaPlan.Statement

/-!
# Writing seed rows

The statements that make a seed row exist.

* `SeedRow.statements` knows nothing of the database: the row is inserted unless one with its keys
  is there, and then perhaps updated in all columns.
* `SeedRow.reconcile` asks the database for the row first and writes only what is missing or
  different.
* `differs` compares what the database holds with what is wanted, by the bytes of their texts.
-/
namespace SchemaPlan

/-- Where statements are headed and what surrounds them. -/
structure Deployment where
  target : Target
  mapping : Option DatabaseMap
  /-- The folder of seed files; the empty text is the folder of the run, none is no folder at
  all. -/
  basePath : Option String
  files : FileTree

/-! ## Values -/

/-- The path of a seed file; without a folder only a path that starts at the root is one. -/
def Deployment.seedPath? (d : Deployment) (name : String) : Option Path :=
  let path := Path.ofText name
  match d.basePath with
  | some "" => some path
  | some folder => some ((Path.ofText folder).below path)
  | none => if path.rooted then some path else none

/-- The content of a file: text if its bytes are UTF-8. -/
def contentOf (bytes : List UInt8) : Content :=
  match Text.ofUtf8? bytes with
  | some s => .text s
  | none => .bytes bytes

/-- The content of the file at a path, the empty text if it is missing. -/
def Deployment.contentAt (d : Deployment) (path : Path) : Noted Content :=
  match d.files.has path with
  | .ok false => do
    Noted.note (.missingSeedFile path.text)
    return .text ""
  | .ok true => .ofExcept (((d.files.readBytes path).map contentOf).mapError .file)
  | .error fault => .ofExcept (.error (.file fault))

/-- The content of a seed file. -/
def Deployment.seedContent (d : Deployment) (name : String) : Noted Content :=
  match d.seedPath? name with
  | some path => d.contentAt path
  | none => .ofExcept (.error (.fault .wrongKind))

/-- The content of a source; none is the null of the database. -/
def SeedSource.resolve (d : Deployment) : SeedSource → Noted (Option Content)
  | literal value => pure value
  | system reference => pure (some (.text reference.spelling))
  | file (.text name) => do return some (← d.seedContent name)
  | file (.bytes _) => .ofExcept (.error (.fault .wrongKind))

/-- The value of a seed column with this content. -/
def SeedColumn.value (c : SeedColumn) (content : Option Content) : SqlValue :=
  match c.source, content with
  | .system reference, _ => .system reference
  | _, none => .null
  | .file _, some content => .quoted content
  | .literal _, some content => if c.quoted then .quoted content else .plain content

namespace SeedRow

/-- Contents by column. -/
abbrev Contents := Ordered (Option Content)

/-- Resolves columns in order, adding to what is known; system variables have no content. -/
def resolveFrom (d : Deployment) (known : Contents) : List SeedColumn → Noted Contents
  | [] => pure known
  | c :: rest =>
    if c.source.isSystem then resolveFrom d known rest
    else do
      let content ← c.source.resolve d
      resolveFrom d (known.put c.name content) rest

/-- The contents of a row; of several columns of one name the last one counts. -/
def resolve (r : SeedRow) (d : Deployment) : Noted Contents :=
  resolveFrom d .empty r.columns

/-- A column with its value. -/
def assign (contents : Contents) (c : SeedColumn) : Assignment :=
  ⟨c.name, c.value ((contents.get? c.name).getD none)⟩

/-- All columns with their values. -/
def assignments (r : SeedRow) (contents : Contents) : List Assignment :=
  r.columns.map (assign contents)

/-- The condition on a key column; a key that is no column of the row, or a system variable, gives
none. -/
def keyCondition? (r : SeedRow) (contents : Contents) (key : String) : Option Assignment :=
  match r.column? key with
  | none => none
  | some c => if c.source.isSystem then none else some (assign contents c)

/-- The conditions that tell whether the row is there. -/
def conditions (r : SeedRow) (contents : Contents) : List Assignment :=
  r.keys.filterMap (r.keyCondition? contents)

/-! ## Without a database -/

/-- The statements of a row whose contents are known. -/
def blindStatements (r : SeedRow) (contents : Contents) : List Statement :=
  let values := r.assignments contents
  let conditions := r.conditions contents
  if conditions.isEmpty then [.insert r.table values]
  else
    .insertUnless r.table values conditions ::
      if r.updates then [.update r.table values conditions] else []

/-- The statements that make the row exist. -/
def statements (r : SeedRow) (d : Deployment) : Noted (List Statement) := do
  return r.blindStatements (← r.resolve d)

end SeedRow

/-! ## With a database -/

/-- A question to the database. -/
structure Query where
  table : String
  columns : List String
  conditions : List Assignment

/-- The text of a question. -/
def Query.sql (t : Target) (q : Query) : String :=
  "select " ++ commaList q.columns ++ " from " ++ t.qualify q.table ++
    whereClause t.dialect q.conditions

/-- What is done with a database: each question is followed by a close. -/
inductive DatabaseCall where
  | ask (query : Query)
  | close

/-- A row that the database answers: values by column, of several of one name the last. -/
abbrev AnsweredRow := Ordered Doc

/-- The bytes by which values are compared. -/
def comparable : Doc → List UInt8
  | .bytes b => b
  | d => Text.utf8 d.display

/-- Whether a value of the database is other than the one that is wanted. -/
def differs (current wanted : Doc) : Bool :=
  if current.isNull || wanted.isNull then current.isNull != wanted.isNull
  else comparable current != comparable wanted

/-- A content as a document value. -/
def contentDoc : Option Content → Doc
  | none => .null
  | some (.text s) => .text s
  | some (.bytes b) => .bytes b

namespace SeedRow

/-- The question whether the row is there; a row that may be updated asks for all its columns. -/
def query (r : SeedRow) (contents : Contents) : Query :=
  ⟨r.table, if r.updates then r.columns.map SeedColumn.name else r.keys.take 1,
    r.conditions contents⟩

/-- The columns beside the keys whose values in the database are not as wanted. -/
def changed (r : SeedRow) (contents : Contents) (row : AnsweredRow) : List SeedColumn :=
  r.columns.filter fun c =>
    !c.source.isSystem && !r.keys.contains c.name &&
      differs ((row.get? c.name).getD .null) (contentDoc ((contents.get? c.name).getD none))

/-- The statements of a row whose contents are known, given the answer of the database. -/
def awareStatements (r : SeedRow) (contents : Contents) : Option AnsweredRow → List Statement
  | none => [.insert r.table (r.assignments contents)]
  | some row =>
    if !r.updates then []
    else
      match r.changed contents row with
      | [] => []
      | columns => [.update r.table (columns.map (assign contents)) (r.conditions contents)]

/-- The statements that make the row exist, and what was done with the database for them; without
conditions there is nothing to ask. -/
def reconcile (r : SeedRow) (d : Deployment) (database : Query → Option AnsweredRow) :
    Noted (List Statement × List DatabaseCall) := do
  let contents ← r.resolve d
  if (r.conditions contents).isEmpty then
    return ([.insert r.table (r.assignments contents)], [])
  else
    let q := r.query contents
    return (r.awareStatements contents (database q), [.ask q, .close])

end SeedRow

end SchemaPlan
