import SchemaPlan.Proofs.Migration.FromNothing

/-!
# Adding and removing whole tables

When a schema is put together from two others, and the second one has its tables for itself, then
migrating from the first to both together is creating the second one, and migrating back is
dropping its tables.  Foreign keys of either one may refer to tables of the other: what a run writes
for a table depends on the entities of that table alone.

* `Migration.tableCreation_congr` and `Migration.keyCreation_congr` say what a run reads of the new
  schema when it creates a table.
* `Migration.run_of_sum` says what a run from the first schema to both together does,
  `Migration.run_to_base` what a run back does.
-/
namespace SchemaPlan

/-- Columns are equal to themselves and to the others of their names. -/
structure Table.IsDefinite (t : Table) : Prop where
  unambiguous : t.IsUnambiguous
  definite : ∀ c ∈ t.columns, c.IsDefinite

/-- A definite table is equal to itself. -/
theorem Table.IsDefinite.same?_self {t : Table} (h : t.IsDefinite) : t.same? t = some true :=
  Table.same?_iff.mpr ⟨rfl, List.forall₂_same.mpr fun c hc => (h.definite c hc).same?_self, rfl, rfl⟩

namespace Migration

variable {joint base extra : Schema} {table : String}

/-! ## What a run reads of a schema -/

/-- The creation of a table reads nothing but that table in the new schema. -/
theorem tableCreation_congr {m n : Migration} (hdeployment : m.deployment = n.deployment)
    (h : m.new.AgreesOn n.new table) : m.tableCreation table = n.tableCreation table := by
  rw [tableCreation, tableCreation, partOf, partOf, h.table, h.indexes, h.seeds, hdeployment]

theorem keyCreation_congr {m n : Migration} (hdeployment : m.deployment = n.deployment)
    (h : m.new.AgreesOn n.new table) : m.keyCreation table = n.keyCreation table := by
  rw [keyCreation, keyCreation, databaseOf, databaseOf, Schema.mappedDatabase,
    Schema.mappedDatabase, h.table, h.keys, hdeployment]

/-- The text of a run depends on its statements alone. -/
theorem sql_congr {m n : Migration} (hdeployment : m.deployment = n.deployment)
    (h : m.run.outcome = n.run.outcome) (bound : Int) :
    (m.sql bound).outcome = (n.sql bound).outcome := by
  rw [sql, sql, Noted.outcome_bind, Noted.outcome_bind, h, hdeployment]

/-! ## Unchanged tables -/

/-- A definite table that two schemas have alike does not change between them. -/
theorem isUnchanged_of_agreesOn {m : Migration} (h : m.old.AgreesOn m.new table)
    (hnew : ∀ t, m.new.table? table = some t → t.IsDefinite) : m.IsUnchanged table where
  same := by
    rw [h.table]
    cases ht : m.new.table? table with
    | none => exact .none
    | some t => exact .some (hnew t ht).same?_self
  unambiguous := fun t ht => (hnew t ht).unambiguous
  indexes := h.indexes
  keys := h.keys

/-! ## Runs -/

section Sum

variable (d : Deployment) (allow : Permissions)

/-- **Migrating from the first schema to both together** is creating the second one. -/
theorem run_of_sum (h : joint.IsSumOf base extra)
    (hbase : ∀ t, Entity.table t ∈ base.entities → t.IsDefinite) :
    (⟨base, joint, d, allow⟩ : Migration).run.outcome = (fromNothing extra d allow).run.outcome := by
  have hunchanged : ∀ t ∈ (⟨base, joint, d, allow⟩ : Migration).common,
      (⟨base, joint, d, allow⟩ : Migration).IsUnchanged t := by
    intro t ht
    have hagrees := h.agreesOn_base (h.table?_eq_none_of_base ((mem_common _).mp ht).1)
    refine isUnchanged_of_agreesOn hagrees.symm fun u hu => hbase u ?_
    exact (base.table?_eq_some (hagrees.table.symm.trans hu)).2
  have hadded : (⟨base, joint, d, allow⟩ : Migration).added = extra.tableNames :=
    h.tableNames_filter
  have hremoved : (⟨base, joint, d, allow⟩ : Migration).removed = [] := h.tableNames_filter_base
  have hagrees : ∀ t ∈ extra.tableNames, joint.AgreesOn extra t := fun t ht =>
    h.agreesOn_extra (extra.mem_tableNames.mp ht)
  have hcreation : extra.tableNames.map (⟨base, joint, d, allow⟩ : Migration).tableCreation =
      extra.tableNames.map (fromNothing extra d allow).tableCreation :=
    List.map_congr_left fun t ht => tableCreation_congr rfl (hagrees t ht)
  have hkeys : (extra.tableNames.map fun t => (pure
        ((⟨base, joint, d, allow⟩ : Migration).keyCreation t) : Noted (List Statement))) =
      extra.tableNames.map fun t => pure ((fromNothing extra d allow).keyCreation t) :=
    List.map_congr_left fun t ht => congrArg pure (keyCreation_congr rfl (hagrees t ht))
  rw [run_of_unchanged hunchanged, run_of_unchanged (m := fromNothing extra d allow) nofun, hadded,
    hremoved, added_fromNothing, hcreation, hkeys]
  rfl

/-- **Migrating back** is dropping the tables of the second schema, if that is allowed. -/
theorem run_to_base (h : joint.IsSumOf base extra)
    (hbase : ∀ t, Entity.table t ∈ base.entities → t.IsDefinite) :
    (⟨joint, base, d, allow⟩ : Migration).run.outcome = .ok (if allow.dropTable then
      extra.tableNames.flatMap (⟨joint, base, d, allow⟩ : Migration).tableDrops else []) := by
  have hunchanged : ∀ t ∈ (⟨joint, base, d, allow⟩ : Migration).common,
      (⟨joint, base, d, allow⟩ : Migration).IsUnchanged t := by
    intro t ht
    have hagrees := h.agreesOn_base (h.table?_eq_none_of_base ((mem_common _).mp ht).2)
    exact isUnchanged_of_agreesOn hagrees fun u hu => hbase u (base.table?_eq_some hu).2
  have hadded : (⟨joint, base, d, allow⟩ : Migration).added = [] := h.tableNames_filter_base
  have hremoved : (⟨joint, base, d, allow⟩ : Migration).removed = extra.tableNames :=
    h.tableNames_filter
  rw [run_of_unchanged hunchanged, hadded, hremoved, List.map_nil, List.map_nil, List.append_nil,
    List.append_nil]
  split_ifs
  · exact Noted.outcome_gather_pure _ _
  · rfl

/-- **Adding tables is creating them, and removing them is dropping them**; whatever was there
before is left alone. -/
theorem sql_of_sum (h : joint.IsSumOf base extra)
    (hbase : ∀ t, Entity.table t ∈ base.entities → t.IsDefinite) (bound : Int) :
    ((⟨base, joint, d, allow⟩ : Migration).sql bound).outcome =
        ((fromNothing extra d allow).sql bound).outcome ∧
      (⟨joint, base, d, allow⟩ : Migration).run.outcome = .ok (if allow.dropTable then
        extra.tableNames.flatMap (⟨joint, base, d, allow⟩ : Migration).tableDrops else []) :=
  ⟨sql_congr (m := ⟨base, joint, d, allow⟩) (n := fromNothing extra d allow) rfl
    (run_of_sum d allow h hbase) bound, run_to_base d allow h hbase⟩

end Sum

/-! ## Orders and customers -/

/-- A table of integers with this type of its only column. -/
def singleColumn (name : String) (type : ColumnType) : Table :=
  ⟨name, [⟨"a", type, 0, 0, true, none, none, false, false, none⟩], none, none⟩

/-- Orders have this type of column and refer to customers. -/
def orders (type : ColumnType) : Schema :=
  ⟨[.table (singleColumn "orders" type), .index ⟨"i", "orders", ["a"], false, false⟩,
    .foreignKey ⟨"k", "orders", "customers", [⟨"a", "a"⟩]⟩]⟩

/-- Customers refer to orders. -/
def customers : Schema :=
  ⟨[.foreignKey ⟨"f", "customers", "orders", [⟨"a", "a"⟩]⟩,
    .table (singleColumn "customers" (.base .integer)),
    .seed ⟨"customers", [⟨"a", .literal (some (.text "1")), false⟩], [], false⟩]⟩

/-- Orders and customers in turns. -/
def trade (type : ColumnType) : Schema :=
  ⟨[.foreignKey ⟨"f", "customers", "orders", [⟨"a", "a"⟩]⟩, .table (singleColumn "orders" type),
    .table (singleColumn "customers" (.base .integer)), .index ⟨"i", "orders", ["a"], false, false⟩,
    .seed ⟨"customers", [⟨"a", .literal (some (.text "1")), false⟩], [], false⟩,
    .foreignKey ⟨"k", "orders", "customers", [⟨"a", "a"⟩]⟩]⟩

/-- Where `trade` is deployed. -/
def tradeDeployment : Deployment := ⟨⟨.mysql, ""⟩, none, none, .empty⟩

theorem isSumOf_trade (type : ColumnType) : (trade type).IsSumOf (orders type) customers where
  interleaves := .right (.left (.right (.left (.right (.left .nil)))))
  contained := by
    unfold Schema.IsSelfContained
    decide
  apart := by
    intro e he
    simp only [orders, List.mem_cons, List.not_mem_nil, or_false] at he
    rcases he with rfl | rfl | rfl <;> rfl

/-- Customers come to the orders, and go again. -/
theorem customers_join_orders :
    (trade (.base .integer)).IsSumOf (orders (.base .integer)) customers ∧
      (singleColumn "orders" (.base .integer)).IsDefinite ∧
      ((⟨orders (.base .integer), trade (.base .integer), tradeDeployment, ⟨true, true, true⟩⟩ :
          Migration).sql defaultBound).outcome =
        ((fromNothing customers tradeDeployment ⟨true, true, true⟩).sql defaultBound).outcome ∧
      (⟨trade (.base .integer), orders (.base .integer), tradeDeployment, ⟨true, true, true⟩⟩ :
          Migration).run.outcome =
        .ok [.dropTable "customers", .dropView "customers"] := by
  have hdefinite : (singleColumn "orders" (.base .integer)).IsDefinite :=
    ⟨List.pairwise_singleton _ _, by
      intro c hc
      rw [singleColumn, List.mem_singleton] at hc
      subst hc
      exact ⟨rfl, nofun⟩⟩
  have hbase : ∀ t, Entity.table t ∈ (orders (.base .integer)).entities → t.IsDefinite := by
    intro t ht
    simp only [orders, List.mem_cons, Entity.table.injEq, reduceCtorEq, List.not_mem_nil,
      or_false] at ht
    exact ht ▸ hdefinite
  obtain ⟨hcome, hgo⟩ := sql_of_sum tradeDeployment ⟨true, true, true⟩
    (isSumOf_trade (.base .integer)) hbase defaultBound
  exact ⟨isSumOf_trade _, hdefinite, hcome, hgo⟩

/-- Orders whose type is not a number, and so not equal to itself, do not stay as they are when the
customers come. -/
theorem customers_cannot_join_nan_orders :
    (trade (.other (.float .nan))).IsSumOf (orders (.other (.float .nan))) customers ∧
      (singleColumn "orders" (.other (.float .nan))).IsUnambiguous ∧
      (∀ c ∈ (singleColumn "orders" (.other (.float .nan))).columns, c.default = none) ∧
      ((⟨orders (.other (.float .nan)), trade (.other (.float .nan)), tradeDeployment,
          ⟨false, false, false⟩⟩ : Migration).sql defaultBound).outcome ≠
        ((fromNothing customers tradeDeployment ⟨false, false, false⟩).sql defaultBound).outcome := by
  have hjoin : ((⟨orders (.other (.float .nan)), trade (.other (.float .nan)), tradeDeployment,
      ⟨false, false, false⟩⟩ : Migration).sql defaultBound).outcome =
        .error (.invariant (.unknownType "nan" "a")) := rfl
  obtain ⟨l, hcreation⟩ : ∃ l,
      ((fromNothing customers tradeDeployment ⟨false, false, false⟩).sql defaultBound).outcome =
        .ok l := ⟨_, rfl⟩
  refine ⟨isSumOf_trade _, List.pairwise_singleton _ _, ?_, ?_⟩
  · intro c hc
    rw [singleColumn, List.mem_singleton] at hc
    rw [hc]
  · rw [hjoin, hcreation]
    nofun

end Migration

end SchemaPlan
