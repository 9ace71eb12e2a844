import SchemaPlan.Schema
import SchemaPlan.Text.Base64

/-!
# Writing schema documents

The document of a schema.  Fields that hold what a reader assumes anyway are left out; bytes are
written in base 64 with a field that says so, decimals as numerals without an exponent.  Names are
written as they are, whatever values they are.
-/
namespace SchemaPlan

namespace Document

/-- A field of a mapping. -/
def field (key : String) (value : Doc) : Fields :=
  [(some key, value)]

/-- A field that is written only if a condition holds. -/
def fieldIf (condition : Bool) (key : String) (value : Doc) : Fields :=
  if condition then field key value else []

/-- A list of texts. -/
def texts (items : List String) : Doc :=
  .list (items.map .text)

/-- Bytes in base 64. -/
def encoded (bytes : List UInt8) : Doc :=
  .text (String.ofList (Text.toBase64 bytes))

/-- The fields of a default. -/
def defaultFields : Option Literal → Fields
  | none => []
  | some (.bytes b) => field "default" (encoded b) ++ field "defaultIsBase64Encoded" (.bool true)
  | some (.decimal d) => field "default" (.text d.toFixed)
  | some (.int n) => field "default" (.int n)
  | some (.text s) => field "default" (.text s)

/-- The document of a column. -/
def ofColumn (c : Column Doc) : Doc :=
  .mapping <|
    field "name" c.name ++
    field "type" c.type.toDoc ++
    fieldIf (c.size != 0) "size" (.int c.size) ++
    fieldIf (c.scale != 0) "scale" (.int c.scale) ++
    fieldIf (!c.nullable) "null" (.bool false) ++
    defaultFields c.default ++
    (match c.systemDefault with
      | some reference => field "sysVarDefault" (.text reference.spelling)
      | none => []) ++
    fieldIf c.autoIncrement "autoIncrement" (.bool true) ++
    fieldIf c.withTimeZone "useTimeZone" (.bool true) ++
    (match c.enumValues with
      | some values => field "enumValues" (texts values)
      | none => [])

/-- The fields of a source of a seed value. -/
def sourceFields (source : SeedSource) : Fields :=
  match source.content with
  | none => field source.kind.name .null
  | some (.text s) => field source.kind.name (.text s)
  | some (.bytes b) =>
    field source.kind.name (encoded b) ++ field "valueIsBase64Encoded" (.bool true)

/-- The document of a value of a seed row. -/
def ofSeedColumn (c : SeedColumn Doc) : Doc :=
  .mapping <|
    field "name" c.name ++ sourceFields c.source ++ fieldIf c.quoted "quoted" (.bool true)

/-- The document of a pair of columns of a foreign key. -/
def ofPair (p : KeyPair Doc) : Doc :=
  .mapping (field "local" p.column ++ field "foreign" p.foreignColumn)

/-- The document of an entity. -/
def ofEntity : Entity Doc → Doc
  | .table t =>
    .mapping <|
      field "kind" (.text "table") ++
      field "name" t.name ++
      (match t.group with
        | some group => field "group" group
        | none => []) ++
      (match t.primaryKey with
        | some key => field "primaryKey" (.list key)
        | none => []) ++
      field "columns" (.list (t.columns.map ofColumn))
  | .index i =>
    .mapping <|
      field "kind" (.text "index") ++
      field "name" i.name ++
      field "table" i.table ++
      field "columns" (.list i.columns) ++
      fieldIf i.unique "unique" (.bool true) ++
      fieldIf i.fulltext "fulltext" (.bool true)
  | .foreignKey k =>
    .mapping <|
      field "kind" (.text "foreignKey") ++
      field "name" k.name ++
      field "table" k.table ++
      field "foreignTable" k.foreignTable ++
      field "columns" (.list (k.columns.map ofPair))
  | .seed r =>
    .mapping <|
      field "kind" (.text "insert") ++
      field "table" r.table ++
      fieldIf (!r.keys.isEmpty) "keyColumns" (.list r.keys) ++
      fieldIf r.updates "updateIfExists" (.bool true) ++
      field "columns" (.list (r.columns.map ofSeedColumn))

end Document

/-- The document of a schema. -/
def Schema.toDoc (s : Schema Doc) : Doc :=
  .mapping (Document.field "entities" (.list (s.entities.map Document.ofEntity)))

end SchemaPlan
