import SchemaPlan.Column.Basic
import SchemaPlan.Doc.Conversion

/-!
# Tables, indexes and foreign keys

A table may number its rows by one column; that column is then the whole primary key, which
`Table.build` checks.

Names are texts.  Reading a document does not ask for that, so what is read from one has values for
names (`Table Doc`), which `Table.ofNamed` builds; `mapNames` makes other names of them.
-/
namespace SchemaPlan

/-- A table. -/
structure Table (ν : Type := String) where
  name : ν
  columns : List (Column ν)
  primaryKey : Option (List ν)
  /-- The group that rules of a mapping may name. -/
  group : Option ν

/-- An index of a table; its columns are written as they stand, with or without a length. -/
structure Index (ν : Type := String) where
  name : ν
  table : ν
  columns : List ν
  unique : Bool
  fulltext : Bool
deriving DecidableEq

/-- A column of a foreign key and the column that it refers to. -/
structure KeyPair (ν : Type := String) where
  column : ν
  foreignColumn : ν
deriving DecidableEq

/-- A foreign key of a table. -/
structure ForeignKey (ν : Type := String) where
  name : ν
  table : ν
  foreignTable : ν
  columns : List (KeyPair ν)
deriving DecidableEq

/-- Whether two lists of columns are equal, column by column. -/
def sameColumns? : List Column → List Column → Option Bool
  | a :: as, b :: bs => andThen? (a.same? b) (sameColumns? as bs)
  | [], [] => some true
  | _, _ => some false

namespace Table

/-- Whether two tables are equal. -/
def same? (a b : Table) : Option Bool :=
  andThen? (some (a.name == b.name)) <|
  andThen? (sameColumns? a.columns b.columns) <|
  some (a.primaryKey == b.primaryKey && a.group == b.group)

/-- The column of this name. -/
def column? (t : Table) (name : String) : Option Column :=
  t.columns.find? fun c => c.name == name

/-- The column that numbers the rows. -/
def autoIncrement? (t : Table) : Option Column :=
  t.columns.find? fun c => c.autoIncrement

/-- The table with these parts, if its numbering fits its primary key.  `isOnly?` says whether a name
is all there is of a primary key, and the text of the table stands in messages. -/
def buildWith {ν : Type} (isOnly? : List ν → ν → Option Bool) (shown : String) (name : ν)
    (columns : List (Column ν)) (primaryKey : Option (List ν)) (group : Option ν) :
    Except Problem (Table ν) :=
  match (columns.filter fun c => c.autoIncrement).map Column.name with
  | [] => .ok ⟨name, columns, primaryKey, group⟩
  | [column] =>
    match primaryKey.elim (some false) (isOnly? · column) with
    | some true => .ok ⟨name, columns, primaryKey, group⟩
    | some false => .error (.invariant (.autoIncrementNotKey shown))
    | none => .error (.fault .incomparable)
  | _ => .error (.invariant (.manyAutoIncrements shown))

/-- The table with these parts whose names are texts, if its numbering fits its primary key. -/
def build (name : String) (columns : List Column) (primaryKey : Option (List String))
    (group : Option String) : Except Problem Table :=
  buildWith (fun key column => some (key == [column])) name name columns primaryKey group

/-- Whether a value is all there is of a list.  The first value of the list is compared first, and
nothing is known when a signalling number is met. -/
def isOnly? : List Doc → Doc → Option Bool
  | [], _ => some false
  | first :: rest, d => andThen? (first.same? d) (some rest.isEmpty)

/-- The table with these parts whose names may be any values, if its numbering fits its primary key;
the text of its name stands in messages. -/
def ofNamed (name : Doc) (columns : List (Column Doc)) (primaryKey : Option (List Doc))
    (group : Option Doc) : Except Problem (Table Doc) :=
  (buildWith isOnly? name.display name columns primaryKey group).mapError name.worded

/-- The names in a table, but for its group. -/
def names {ν : Type} (t : Table ν) : List ν :=
  t.name :: (t.columns.map Column.name ++ t.primaryKey.getD [])

/-- The table with other names. -/
def mapNames {ν μ : Type} (f : ν → μ) (t : Table ν) : Table μ :=
  ⟨f t.name, t.columns.map fun c => c.rename (f c.name), t.primaryKey.map (List.map f),
    t.group.map f⟩

end Table

/-- The names in an index. -/
def Index.names {ν : Type} (i : Index ν) : List ν :=
  i.name :: i.table :: i.columns

/-- The names in a foreign key. -/
def ForeignKey.names {ν : Type} (k : ForeignKey ν) : List ν :=
  k.name :: k.table :: k.foreignTable ::
    (k.columns.map KeyPair.column ++ k.columns.map KeyPair.foreignColumn)

/-- The index with other names. -/
def Index.mapNames {ν μ : Type} (f : ν → μ) (i : Index ν) : Index μ :=
  ⟨f i.name, f i.table, i.columns.map f, i.unique, i.fulltext⟩

/-- The foreign key with other names. -/
def ForeignKey.mapNames {ν μ : Type} (f : ν → μ) (k : ForeignKey ν) : ForeignKey μ :=
  ⟨f k.name, f k.table, f k.foreignTable, k.columns.map fun p => ⟨f p.column, f p.foreignColumn⟩⟩

end SchemaPlan
