import SchemaPlan.Schema

/-!
# Registers

A schema that is built up entity by entity, with its lookups kept beside the list of its entities.
Each kind of entity is entered by a rule of its own: of several tables of one name the first one
counts; of several indexes or foreign keys of one name the last one does, in the place of the first;
seed rows are kept one after the other.

* `Register.add` enters an entity, `Register.offer` only what is one.
* `Register.serve` answers a request and says what the register is afterwards.
-/
namespace SchemaPlan

/-- Entities in order, with lookups by table. -/
structure Register where
  entities : List Entity
  tables : Ordered Table
  /-- The indexes of each table by name. -/
  indexes : Ordered (Ordered Index)
  /-- The foreign keys of each table by name. -/
  foreignKeys : Ordered (Ordered ForeignKey)
  /-- The seed rows of each table. -/
  seeds : Ordered (List SeedRow)

namespace Register

/-- The register without entities. -/
def empty : Register := ⟨[], .empty, .empty, .empty, .empty⟩

/-! ## Lookups -/

/-- The number of entities. -/
def size (r : Register) : Nat :=
  r.entities.length

/-- The table of this name. -/
def table? (r : Register) (name : String) : Option Table :=
  r.tables.get? name

/-- The names of the tables in order. -/
def tableNames (r : Register) : List String :=
  r.tables.keys

/-- The indexes of a table by name. -/
def indexesOf (r : Register) (table : String) : Ordered Index :=
  (r.indexes.get? table).getD .empty

/-- The foreign keys of a table by name. -/
def foreignKeysOf (r : Register) (table : String) : Ordered ForeignKey :=
  (r.foreignKeys.get? table).getD .empty

/-- The seed rows of a table in order. -/
def seedsOf (r : Register) (table : String) : List SeedRow :=
  (r.seeds.get? table).getD []

/-- The names of the tables that a schema has too. -/
def commonTableNames (r : Register) (other : Schema) : List String :=
  r.tableNames.filter fun name => (other.table? name).isSome

/-! ## Additions -/

/-- The lookups with one more entity. -/
def enter (r : Register) : Entity → Register
  | .table t => { r with tables := r.tables.putNew t.name t }
  | .index i => { r with indexes := r.indexes.put i.table ((r.indexesOf i.table).put i.name i) }
  | .foreignKey k =>
    { r with foreignKeys := r.foreignKeys.put k.table ((r.foreignKeysOf k.table).put k.name k) }
  | .seed row => { r with seeds := r.seeds.put row.table (r.seedsOf row.table ++ [row]) }

/-- The register with one more entity. -/
def add (r : Register) (e : Entity) : Register :=
  { r.enter e with entities := r.entities ++ [e] }

/-- The register of a schema. -/
def ofSchema (s : Schema) : Register :=
  s.entities.foldl add empty

/-- Adds what is offered if it is an entity; anything else is refused. -/
def offer (r : Register) : Entity ⊕ Doc → Register × Option Problem
  | .inl e => (r.add e, none)
  | .inr _ => (r, some (.fault .wrongKind))

/-! ## Requests -/

/-- What a register is asked for. -/
inductive Request where
  | add (offered : Entity ⊕ Doc)
  | size
  | table (name : String)
  | tableNames
  | indexes (table : String)
  | foreignKeys (table : String)
  | seeds (table : String)
  | commonTableNames (other : Schema)

/-- What a register answers. -/
inductive Answer where
  | size (n : Nat)
  | table (t : Option Table)
  | names (names : List String)
  | indexes (indexes : Ordered Index)
  | foreignKeys (keys : Ordered ForeignKey)
  | seeds (rows : List SeedRow)

/-- The register after a request, and the answer to it; an addition is answered by the new number
of entities. -/
def serve (r : Register) : Request → Register × Except Problem Answer
  | .add offered =>
    match r.offer offered with
    | (next, none) => (next, .ok (.size next.size))
    | (next, some problem) => (next, .error problem)
  | .size => (r, .ok (.size r.size))
  | .table name => (r, .ok (.table (r.table? name)))
  | .tableNames => (r, .ok (.names r.tableNames))
  | .indexes table => (r, .ok (.indexes (r.indexesOf table)))
  | .foreignKeys table => (r, .ok (.foreignKeys (r.foreignKeysOf table)))
  | .seeds table => (r, .ok (.seeds (r.seedsOf table)))
  | .commonTableNames other => (r, .ok (.names (r.commonTableNames other)))

/-- The register after requests in order. -/
def serveAll (r : Register) (requests : List Request) : Register :=
  requests.foldl (fun r request => (r.serve request).1) r

end Register

end SchemaPlan
