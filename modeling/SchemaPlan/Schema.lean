import SchemaPlan.DatabaseMap
import SchemaPlan.Seed
import SchemaPlan.Table

/-!
# Schemas

A schema is a list of entities in the order of its document.  The tables, and the indexes, foreign
keys and seed rows of a table, are views of that list: of several tables of one name the first one
counts, of several indexes or foreign keys of one name the last one, in the place of the first.

* `get?_tables` says that `Schema.table?` finds the table that `Schema.tables` has.
-/
namespace SchemaPlan

/-- An entity of a schema. -/
inductive Entity (ν : Type := String) where
  | table (t : Table ν)
  | index (i : Index ν)
  | foreignKey (k : ForeignKey ν)
  | seed (r : SeedRow ν)

/-- The name of the table that an entity belongs to. -/
def Entity.tableName {ν : Type} : Entity ν → ν
  | table t => t.name
  | index i => i.table
  | foreignKey k => k.table
  | seed r => r.table

/-- Whether two entities are equal. -/
def Entity.same? : Entity → Entity → Option Bool
  | table s, table t => s.same? t
  | index i, index j => some (i == j)
  | foreignKey k, foreignKey l => some (k == l)
  | seed r, seed s => some (r == s)
  | _, _ => some false

/-- The names in an entity, but for the group of a table. -/
def Entity.names {ν : Type} : Entity ν → List ν
  | table t => t.names
  | index i => i.names
  | foreignKey k => k.names
  | seed r => r.names

/-- The group of a table. -/
def Entity.group? {ν : Type} : Entity ν → Option ν
  | table t => t.group
  | _ => none

/-- The entity with other names. -/
def Entity.mapNames {ν μ : Type} (f : ν → μ) : Entity ν → Entity μ
  | table t => .table (t.mapNames f)
  | index i => .index (i.mapNames f)
  | foreignKey k => .foreignKey (k.mapNames f)
  | seed r => .seed (r.mapNames f)

/-- An ordered collection of entities. -/
structure Schema (ν : Type := String) where
  entities : List (Entity ν)
deriving Inhabited

namespace Schema

/-- The schema without entities. -/
def empty : Schema := ⟨[]⟩

/-- The schema with one more entity. -/
def add (s : Schema) (e : Entity) : Schema :=
  ⟨s.entities ++ [e]⟩

/-- Adds what is offered if it is an entity; anything else is refused. -/
def offer (s : Schema) : Entity ⊕ Doc → Except Problem Schema
  | .inl e => .ok (s.add e)
  | .inr _ => .error (.fault .wrongKind)

/-- The number of entities. -/
def size (s : Schema) : Nat :=
  s.entities.length

/-! ## Views -/

/-- The tables by name. -/
def tables (s : Schema) : Ordered Table :=
  s.entities.foldl (fun m e => match e with
    | .table t => m.putNew t.name t
    | _ => m) .empty

/-- The first table of this name. -/
def table? (s : Schema) (name : String) : Option Table :=
  s.entities.findSome? fun e => match e with
    | .table t => if t.name = name then some t else none
    | _ => none

/-- Tables collected after others: those that are there already count first. -/
theorem get?_foldl_tables (entities : List Entity) (m : Ordered Table) (name : String) :
    (entities.foldl (fun m e => match e with
      | .table t => m.putNew t.name t
      | _ => m) m).get? name = (m.get? name).or (table? ⟨entities⟩ name) := by
  induction entities generalizing m with
  | nil => simp [table?]
  | cons e rest ih =>
    rw [List.foldl_cons, ih]
    cases e with
    | table t =>
      by_cases h : t.name = name
      · simp [table?, h]
      · have h' : name ≠ t.name := fun e => h e.symm
        simp [table?, h, h']
    | index _ => simp [table?]
    | foreignKey _ => simp [table?]
    | seed _ => simp [table?]

/-- The table of a name is the one that the tables by name have. -/
theorem get?_tables (s : Schema) (name : String) : s.tables.get? name = s.table? name :=
  get?_foldl_tables s.entities .empty name

/-- The names of the tables in order. -/
def tableNames (s : Schema) : List String :=
  s.tables.keys

/-- The indexes of a table by name. -/
def indexesOf (s : Schema) (table : String) : Ordered Index :=
  s.entities.foldl (fun m e => match e with
    | .index i => if i.table = table then m.put i.name i else m
    | _ => m) .empty

/-- The foreign keys of a table by name. -/
def foreignKeysOf (s : Schema) (table : String) : Ordered ForeignKey :=
  s.entities.foldl (fun m e => match e with
    | .foreignKey k => if k.table = table then m.put k.name k else m
    | _ => m) .empty

/-- The seed rows of a table in order. -/
def seedsOf (s : Schema) (table : String) : List SeedRow :=
  s.entities.filterMap fun e => match e with
    | .seed r => if r.table = table then some r else none
    | _ => none

/-- The names of the tables that another schema has too. -/
def commonTableNames (s other : Schema) : List String :=
  s.tableNames.filter fun name => (other.table? name).isSome

/-- The database that a table of the schema is mapped to; none for a table that the schema does
not have. -/
def mappedDatabase (s : Schema) (mapping : Option DatabaseMap) (name : String) : Option String :=
  (s.table? name).bind fun t => SchemaPlan.mappedDatabase mapping t.group t.name

/-! ## Schemas from schemas -/

/-- The entities that belong to the named tables. -/
def restrictTo (s : Schema) (names : List String) : Schema :=
  ⟨s.entities.filter fun e => names.contains e.tableName⟩

/-- A foreign key with the database of its foreign table written in front of it. -/
def qualifyKey (s : Schema) (m : DatabaseMap) (k : ForeignKey) : ForeignKey :=
  match m.resolve ((s.table? k.foreignTable).bind Table.group) (some k.foreignTable) with
  | some database => { k with foreignTable := database ++ "." ++ k.foreignTable }
  | none => k

/-- The schema with foreign tables in other databases qualified. -/
def qualify (s : Schema) (m : DatabaseMap) : Schema :=
  ⟨s.entities.map fun e => match e with
    | .foreignKey k => .foreignKey (s.qualifyKey m k)
    | other => other⟩

/-- Whether two lists of entities agree, as far as the shorter one goes. -/
def sameEntities? : List Entity → List Entity → Option Bool
  | a :: as, b :: bs => andThen? (a.same? b) (sameEntities? as bs)
  | _, _ => some true

/-- Whether two schemas are equal, entity by entity. -/
def same? (s t : Schema) : Option Bool :=
  if s.size = t.size then sameEntities? s.entities t.entities else some false

end Schema

end SchemaPlan
