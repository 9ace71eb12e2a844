import SchemaPlan.DatabaseMap
import SchemaPlan.Dialect
import SchemaPlan.Document.Read
import SchemaPlan.Migration

/-!
# Settings

What a run is told by its configuration and by its command.  `Options` says what was asked for,
`Settings` what holds.  `Settings.apply` lets options override settings and refuses an unknown
dialect, a bad mapping and a bound that is not positive.
-/
namespace SchemaPlan

/-- The settings of a run. -/
structure Settings where
  dialect : Dialect
  /-- The rules of the mapping; the empty text maps nothing. -/
  map : String
  localSchema : String
  /-- The folder of seed files; none is no folder at all. -/
  basePath : Option String
  allow : Permissions
  /-- The bound on merged statements. -/
  bound : Int
  /-- The tables that the run is restricted to; without any it is not restricted. -/
  tables : List String

/-- Settings that were asked for.  The folder of seed files and the bound may be asked for without
a value; nothing can be done with either then. -/
structure Options where
  dialect : Option String
  map : Option String
  localSchema : Option String
  basePath : Option (Option String)
  dropTable : Option Bool
  dropColumn : Option Bool
  dropIndex : Option Bool
  bound : Option (Option Int)
  tables : Option (List String)

/-- No settings. -/
def Options.none : Options := ⟨.none, .none, .none, .none, .none, .none, .none, .none, .none⟩

namespace Settings

/-- The settings where nothing was asked for. -/
def standard : Settings := ⟨.mysql, "", "", some "", ⟨false, false, false⟩, defaultBound, []⟩

/-- The mapping of a run, if there is one. -/
def mapping (s : Settings) : Except Problem (Option DatabaseMap) :=
  if s.map = "" then .ok none else (DatabaseMap.ofText s.map).map some

/-- A bound is positive. -/
def checkBound : Option Int → Except Problem Int
  | none => .error (.fault .wrongKind)
  | some bound =>
    if bound ≤ 0 then .error ((Doc.int bound).worded (.setting (.boundNotPositive bound)))
    else .ok bound

/-- The settings with options put over them. -/
def apply (s : Settings) (o : Options) : Except Problem Settings := do
  let dialect ← match o.dialect with
    | some name => Dialect.named name
    | none => .ok s.dialect
  let settings : Settings :=
    ⟨dialect, o.map.getD s.map, o.localSchema.getD s.localSchema, o.basePath.getD s.basePath,
      ⟨o.dropTable.getD s.allow.dropTable, o.dropColumn.getD s.allow.dropColumn,
        o.dropIndex.getD s.allow.dropIndex⟩,
      s.bound, o.tables.getD s.tables⟩
  let _ ← settings.mapping
  let bound ← checkBound (o.bound.getD (some s.bound))
  return { settings with bound := bound }

end Settings

/-! ## Configurations -/

namespace Options

/-- The keys of a configuration. -/
def keys : List String :=
  ["dialect", "tableToDatabaseMap", "localSchema", "basePath", "allowDropTable", "allowDropColumn",
    "allowDropIndex", "maxStatementLength", "tables"]

/-- The problem of a value that is not of the kind of its key. -/
def wrongKind (key expected : String) (value : Doc) : Problem :=
  .setting (.wrongKind key expected value.kindName)

/-- A text under a key. -/
def textOf (key : String) : Doc → Except Problem String
  | .text s => .ok s
  | other => .error (wrongKind key "str" other)

/-- A switch under a key. -/
def switchOf (key : String) : Doc → Except Problem Bool
  | .bool b => .ok b
  | other => .error (wrongKind key "bool" other)

/-- An integer under a key. -/
def integerOf (key : String) : Doc → Except Problem Int
  | .int n => .ok n
  | other => .error (wrongKind key "int" other)

/-- A list of names under a key. -/
def namesOf (key : String) : Doc → Except Problem (List String)
  | .list items => items.mapM Doc.shown
  | other => .error (wrongKind key "list" other)

/-- The options with the value of a key. -/
def put (o : Options) (key : String) (value : Doc) : Except Problem Options :=
  match key with
  | "dialect" => do return { o with dialect := some (← textOf key value) }
  | "tableToDatabaseMap" => do return { o with map := some (← textOf key value) }
  | "localSchema" => do return { o with localSchema := some (← textOf key value) }
  | "basePath" => do return { o with basePath := some (some (← textOf key value)) }
  | "allowDropTable" => do return { o with dropTable := some (← switchOf key value) }
  | "allowDropColumn" => do return { o with dropColumn := some (← switchOf key value) }
  | "allowDropIndex" => do return { o with dropIndex := some (← switchOf key value) }
  | "maxStatementLength" => do return { o with bound := some (some (← integerOf key value)) }
  | "tables" => do return { o with tables := some (← namesOf key value) }
  | _ => .ok o

/-- The options with the values of entries, null ones left out. -/
def putAll (o : Options) : Fields → Except Problem Options
  | [] => .ok o
  | (key, value) :: rest =>
    if value.isNull then putAll o rest
    else do putAll (← o.put (key.getD "") value) rest

/-- The keys of a configuration that it does not have. -/
def unknownKeys (fields : Fields) : List (Option String) :=
  (fields.map Prod.fst).filter fun key => !keys.any fun known => key == some known

/-- The options of a configuration. -/
def ofDoc : Doc → Except Problem Options
  | .null => .ok none
  | .mapping fields =>
    let unknown := unknownKeys fields
    if unknown.isEmpty then putAll none fields
    else if unknown.contains .none then .error (.fault .wrongKind)
    else .error (.setting (.unknownKeys (Document.sorted (unknown.filterMap id))))
  | _ => .error (.setting .notMapping)

end Options

/-- The settings of a configuration. -/
def Settings.ofDoc (d : Doc) : Except Problem Settings := do
  Settings.standard.apply (← Options.ofDoc d)

end SchemaPlan
