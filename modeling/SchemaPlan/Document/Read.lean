import SchemaPlan.Column.Draft
import SchemaPlan.Schema
import SchemaPlan.Text.Base64

/-!
# Reading schema documents

A schema document is a mapping with a list of entries.  Reading has two stages: first every entry
is read into a draft, so that a malformed entry is met wherever it stands; then the drafts are
built into entities, which checks what a schema must satisfy.

* `readEntries` is the first stage, `EntityDraft.build` the second.
* `Schema.ofDoc` is both.

Nothing asks whether a name is a text; any value that is not blank is one, as long as it can be shown
where it stands in a message, and can be looked up where a schema looks it up.
-/
namespace SchemaPlan

namespace Document

/-! ## Fields -/

/-- The items that a value is run through by: a text gives its characters, a mapping its keys. -/
def items : Doc → Except Problem (List Doc)
  | .list xs => .ok xs
  | .text s => .ok (s.toList.map fun c => .text (String.ofList [c]))
  | .mapping fields => .ok (fields.map fun (key, _) => match key with
      | some k => .text k
      | none => .null)
  | .bytes b => .ok (b.map fun x => .int x.toNat)
  | _ => .error (.fault .wrongKind)

/-- The items of a value that is true, and none of one that is false. -/
def itemsIfAny (d : Doc) : Except Problem (List Doc) :=
  if d.truthy then items d else .ok []

/-- Texts in the order of their code points. -/
def sorted (texts : List String) : List String :=
  texts.mergeSort fun a b => !decide (b < a)

/-- The entries of a mapping, all of whose keys must be allowed. -/
def fieldsOf (d : Doc) (allowed : List String) (place : String) : Except Problem Fields :=
  match d with
  | .mapping fields =>
    let unknown := fields.filter fun (key, _) => !allowed.any fun a => key == some a
    if unknown.isEmpty then .ok fields
    else
      .error (.malformed (.unknownKeys place (sorted (unknown.map fun (k, _) => Doc.keyText k))))
  | other => .error (.malformed (.notMapping place other.kindName))

/-- The value of a field that must be there. -/
def require (fields : Fields) (key place : String) : Except Problem Doc :=
  let value := fields.value key
  if value.isBlank then .error (.malformed (.missing place key)) else .ok value

/-- Whether a switch is on; one that is not there is as given. -/
def switch (fields : Fields) (key : String) (otherwise : Bool) : Bool :=
  match fields.lookup (some key) with
  | some value => value.truthy
  | none => otherwise

/-- The integer in a field, zero for what is false. -/
def count (fields : Fields) (key : String) : Except Problem Int :=
  let value := fields.value key
  if value.truthy then value.toInt.mapError .fault else .ok 0

/-- The bytes that a value in base 64 stands for. -/
def decoded (value : Doc) (place : String) : Except Problem Doc :=
  match value.shown.toOption.bind fun s => Text.ofBase64? s.toList with
  | some bytes => .ok (.bytes bytes)
  | none => .error (.malformed (.badBase64 place))

/-! ## Drafts -/

/-- What the document says about an entity. -/
inductive EntityDraft where
  | table (name : Doc) (group : Option Doc) (primaryKey : Option (List Doc))
      (columns : List (ColumnDraft Doc))
  | index (i : Index Doc)
  | foreignKey (k : ForeignKey Doc)
  | seed (table : Doc) (columns : List (SeedColumn Doc)) (keys : List Doc) (updates : Bool)

/-- The keys of a column. -/
def columnKeys : List String :=
  ["name", "type", "size", "scale", "null", "default", "defaultIsBase64Encoded", "sysVarDefault",
    "autoIncrement", "useTimeZone", "enumValues"]

/-- The entries of a column; a null key is the key `null`, which is easily written without
quotes. -/
def columnEntries : Doc → Doc
  | .mapping fields =>
    if fields.any fun (key, _) => key.isNone then
      .mapping (fields.foldl (fun (kept : Fields) (key, value) =>
        kept.put (some (key.getD "null")) value) [])
    else .mapping fields
  | other => other

/-- The default that a column is written with, decoded where it is in base 64. -/
def writtenDefault (fields : Fields) (place : String) : Except Problem Doc :=
  let written := fields.value "default"
  if !written.isNull && (fields.value "defaultIsBase64Encoded").truthy then
    decoded written ("default of " ++ place)
  else .ok written

/-- The values that a column is limited to, as texts. -/
def readLimits (fields : Fields) : Except Problem (Option (List String)) :=
  let limits := fields.value "enumValues"
  if limits.isNull then .ok none
  else (items limits >>= fun values => values.mapM Doc.shown).map some

/-- Reads a column of a table. -/
def readColumn (table : Doc) (d : Doc) : Except Problem (ColumnDraft Doc) := do
  let owner ← table.shown
  let fields ← fieldsOf (columnEntries d) columnKeys ("column of table " ++ owner)
  let name ← require fields "name" ("column of table " ++ owner)
  let shown ← name.shown
  let place := "column " ++ owner ++ "." ++ shown
  let default ← writtenDefault fields place
  let type ← require fields "type" place
  let size ← count fields "size"
  let scale ← count fields "scale"
  let limits ← readLimits fields
  return ⟨name, type, size, scale, switch fields "null" true, default,
    fields.value "sysVarDefault", switch fields "autoIncrement" false,
    switch fields "useTimeZone" false, limits⟩

/-- The group of a table. -/
def groupOf (fields : Fields) : Option Doc :=
  let group := fields.value "group"
  if group.isNull then none else some group

/-- The primary key of a table. -/
def readPrimaryKey (fields : Fields) : Except Problem (Option (List Doc)) :=
  let key := fields.value "primaryKey"
  if key.truthy then (items key).map some else .ok none

/-- Reads a table. -/
def readTable (d : Doc) (place : String) : Except Problem EntityDraft := do
  let fields ← fieldsOf d ["kind", "name", "group", "primaryKey", "columns"] place
  let table ← require fields "name" place
  let primaryKey ← readPrimaryKey fields
  let columns ← (← itemsIfAny (fields.value "columns")).mapM (readColumn table)
  return .table table (groupOf fields) primaryKey columns

/-- Reads an index. -/
def readIndex (d : Doc) (place : String) : Except Problem EntityDraft := do
  let fields ← fieldsOf d ["kind", "name", "table", "columns", "unique", "fulltext"] place
  let index ← require fields "name" place
  let table ← require fields "table" place
  let columns ← items (← require fields "columns" place)
  return .index ⟨index, table, columns, switch fields "unique" false,
    switch fields "fulltext" false⟩

/-- Reads a pair of columns of a foreign key. -/
def readPair (place : String) (d : Doc) : Except Problem (KeyPair Doc) := do
  let fields ← fieldsOf d ["local", "foreign"] ("column pair of " ++ place)
  return ⟨← require fields "local" place, ← require fields "foreign" place⟩

/-- Reads a foreign key. -/
def readForeignKey (d : Doc) (place : String) : Except Problem EntityDraft := do
  let fields ← fieldsOf d ["kind", "name", "table", "foreignTable", "columns"] place
  let columns ← (← items (← require fields "columns" place)).mapM (readPair place)
  let key ← require fields "name" place
  let table ← require fields "table" place
  let foreignTable ← require fields "foreignTable" place
  return .foreignKey ⟨key, table, foreignTable, columns⟩

/-- A seed value as text, unless it is null or bytes. -/
def seedValue : Doc → Except Problem Doc
  | .null => .ok .null
  | .bytes b => .ok (.bytes b)
  | other => other.shown.map .text

/-- A value of a kind of source as it is written, decoded where it is a literal in base 64.  The text
of its column stands in the place where it is not in base 64 after all. -/
def writtenValue (fields : Fields) (kind : SourceKind) (table : String) (column : Doc) :
    Except Problem Doc := do
  let written ← seedValue (fields.value kind.name)
  if kind = .literal && !written.isNull && (fields.value "valueIsBase64Encoded").truthy then
    let shown ← column.shown
    decoded written ("value of seed column " ++ table ++ "." ++ shown)
  else return written

/-- The kinds of sources that a seed value names. -/
def sourceKinds (fields : Fields) : List SourceKind :=
  SourceKind.all.filter fun k => Fields.has fields k.name

/-- The source of a seed value, with the text of its column in messages. -/
def sourceOf (column : Doc) (kind : SourceKind) (value : Doc) : Except Problem SeedSource :=
  (SeedSource.ofDoc column.display kind value).mapError column.worded

/-- Reads a value of a seed row. -/
def readSeedColumn (table : Doc) (d : Doc) : Except Problem (SeedColumn Doc) := do
  let owner ← table.shown
  let place := "seed column of table " ++ owner
  let fields ← fieldsOf d
    (["name", "quoted", "valueIsBase64Encoded"] ++ SourceKind.all.map SourceKind.name) place
  let column ← require fields "name" place
  match sourceKinds fields with
  | [kind] =>
    let value ← writtenValue fields kind owner column
    let source ← sourceOf column kind value
    return ⟨column, source, switch fields "quoted" false⟩
  | _ => .error (column.worded (.source (.notExactlyOne owner column.display)))

/-- Reads a seed row. -/
def readSeed (d : Doc) (place : String) : Except Problem EntityDraft := do
  let fields ← fieldsOf d ["kind", "table", "keyColumns", "updateIfExists", "columns"] place
  let table ← require fields "table" place
  let columns ← (← items (← require fields "columns" place)).mapM (readSeedColumn table)
  let keys ← itemsIfAny (fields.value "keyColumns")
  return .seed table columns keys (switch fields "updateIfExists" false)

/-- The kind that an entry names; an entry that is no mapping names none. -/
def kindOf : Doc → Doc
  | .mapping fields => Fields.value fields "kind"
  | _ => .null

/-- Reads the entry at a position, counted from one. -/
def readEntry (position : Nat) (d : Doc) : Except Problem EntityDraft :=
  let place := "entity #" ++ Numeral.ofNat position
  let kind := kindOf d
  match kind with
  | .text "table" => readTable d place
  | .text "index" => readIndex d place
  | .text "foreignKey" => readForeignKey d place
  | .text "insert" => readSeed d place
  | other =>
    if other.isKey then .error (other.worded (.malformed (.unknownKind place other.literal)))
    else .error (.fault .wrongKind)

/-- Reads entries, the first one being at this position. -/
def readEntriesFrom : Nat → List Doc → Except Problem (List EntityDraft)
  | _, [] => .ok []
  | position, d :: rest => do
    let draft ← readEntry position d
    return draft :: (← readEntriesFrom (position + 1) rest)

/-- Reads the entries of a document; a null document has none. -/
def readEntries : Doc → Except Problem (List EntityDraft)
  | .null => .ok []
  | .mapping fields =>
    let entries := Fields.value fields "entities"
    if entries.truthy then
      match entries with
      | .list xs => readEntriesFrom 1 xs
      | _ => .error (.malformed .entitiesNotList)
    else .ok []
  | _ => .error (.malformed .documentNotMapping)

/-- A name can be looked up. -/
def checkKey (name : Doc) : Except Problem Unit :=
  if name.isKey then .ok () else .error (.fault .wrongKind)

/-- Builds what a draft describes and looks up the names that a schema finds it by. -/
def EntityDraft.build : EntityDraft → Except Problem (Entity Doc)
  | table name group primaryKey drafts => do
    let columns ← drafts.mapM Column.ofNamedDraft
    let t ← Table.ofNamed name columns primaryKey group
    checkKey name
    return .table t
  | index i => do
    checkKey i.table
    checkKey i.name
    return .index i
  | foreignKey k => do
    checkKey k.table
    checkKey k.name
    return .foreignKey k
  | seed owner columns keys updates => do
    let r ← SeedRow.ofNamed owner columns keys updates
    checkKey owner
    return .seed r

end Document

namespace Schema

/-- The schema that a document describes, with names as the document has them. -/
def ofDoc (d : Doc) : Except Problem (Schema Doc) := do
  let drafts ← Document.readEntries d
  return ⟨← drafts.mapM Document.EntityDraft.build⟩

/-- The schema with its names as texts, if they are. -/
def texts? (s : Schema Doc) : Option Schema :=
  if s.entities.all fun e => e.names.all Doc.isText && e.group?.all Doc.isText then
    some ⟨s.entities.map (Entity.mapNames Doc.display)⟩
  else none

end Schema

end SchemaPlan
