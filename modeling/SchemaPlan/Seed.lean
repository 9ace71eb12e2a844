import SchemaPlan.Doc.Conversion
import SchemaPlan.Sql.Literal

/-!
# Seed rows

A row that a table is to hold from the start.  Each of its values comes from one source: a literal,
the contents of a file, or a system variable.
-/
namespace SchemaPlan

/-- The kinds of sources. -/
inductive SourceKind where
  | literal
  | file
  | system
deriving DecidableEq

namespace SourceKind

/-- All kinds of sources. -/
def all : List SourceKind := [literal, file, system]

/-- The name of a kind of source in documents. -/
def name : SourceKind → String
  | literal => "value"
  | file => "filename"
  | system => "sysVarValue"

/-- The kind of source of this name. -/
def named? (s : String) : Option SourceKind :=
  all.find? fun k => k.name == s

end SourceKind

/-- Where a seed value comes from. -/
inductive SeedSource where
  /-- A literal; none is the null of the database. -/
  | literal (value : Option Content)
  /-- The contents of a file. -/
  | file (name : Content)
  | system (reference : SystemReference)
deriving DecidableEq

namespace SeedSource

/-- The kind of a source. -/
def kind : SeedSource → SourceKind
  | literal _ => .literal
  | file _ => .file
  | system _ => .system

/-- The content that a document value holds. -/
def content? : Doc → Option Content
  | .text s => some (.text s)
  | .bytes b => some (.bytes b)
  | _ => none

/-- The source of the value of a column. -/
def ofDoc (column : String) (kind : SourceKind) (value : Doc) : Except Problem SeedSource :=
  match kind with
  | .literal =>
    if value.isNull then .ok (literal none)
    else
      match content? value with
      | some c => .ok (literal (some c))
      | none => .error (.fault .wrongKind)
  | .file =>
    if !value.truthy then .error (.source (.emptyFilename column))
    else
      match content? value with
      | some c => .ok (file c)
      | none => .error (.fault .wrongKind)
  | .system =>
    match value with
    | .text s =>
      match SystemReference.spelled? s with
      | some reference => .ok (system reference)
      | none => .error (.source (.unknownSymbol s column))
    | other => .error (other.worded (.source (.unknownSymbol other.display column)))

/-- What the source holds, as the document has it. -/
def content : SeedSource → Option Content
  | literal value => value
  | file name => some name
  | system reference => some (.text reference.spelling)

/-- Whether the value is a system variable. -/
def isSystem : SeedSource → Bool
  | system _ => true
  | _ => false

end SeedSource

/-- A value of a seed row. -/
structure SeedColumn (ν : Type := String) where
  name : ν
  source : SeedSource
  /-- Whether a literal is to be quoted. -/
  quoted : Bool
deriving DecidableEq

/-- A seed row of a table. -/
structure SeedRow (ν : Type := String) where
  table : ν
  columns : List (SeedColumn ν)
  /-- The columns that tell whether the row is there. -/
  keys : List ν
  /-- Whether a row that is there is updated. -/
  updates : Bool
deriving DecidableEq

namespace SeedRow

/-- The seed row with these parts, if it is one: only a row with key columns can be updated.  The
text of its table stands in the message. -/
def ofNamed (table : Doc) (columns : List (SeedColumn Doc)) (keys : List Doc) (updates : Bool) :
    Except Problem (SeedRow Doc) :=
  if updates && keys.isEmpty then
    .error (table.worded (.invariant (.updateWithoutKeys table.display)))
  else .ok ⟨table, columns, keys, updates⟩

/-- The names in a seed row. -/
def names {ν : Type} (r : SeedRow ν) : List ν :=
  r.table :: (r.columns.map SeedColumn.name ++ r.keys)

/-- The seed row with other names. -/
def mapNames {ν μ : Type} (f : ν → μ) (r : SeedRow ν) : SeedRow μ :=
  ⟨f r.table, r.columns.map fun c => ⟨f c.name, c.source, c.quoted⟩, r.keys.map f, r.updates⟩

/-- The first column of this name. -/
def column? (r : SeedRow) (name : String) : Option SeedColumn :=
  r.columns.find? fun c => c.name == name

end SeedRow

end SchemaPlan
