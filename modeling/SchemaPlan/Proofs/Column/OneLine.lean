import SchemaPlan.Proofs.Column.DefaultText
import SchemaPlan.Proofs.Column.Typed
import SchemaPlan.Proofs.Sql.OneLine

/-!
# Columns on one line

The type of a column is one line in both dialects, also a type that is limited to values with line
feeds, since only the dialect with backslashes writes them.  A default is one line unless it is a
text with a line feed that is put between apostrophes as it stands.

* `Column.oneLine_sqlType` is about types.
* `Column.oneLine_defaultSql_iff` is about defaults.
-/
namespace SchemaPlan

open SchemaPlan.Sql SchemaPlan.Text

/-! ## Qualified names -/

section Target

variable {t : Target}

theorem oneLine_qualify (ht : OneLine t.localSchema) {name : String} (hname : OneLine name) :
    OneLine (t.qualify name) := by
  rw [Target.qualify]
  split_ifs
  · exact hname
  · rw [oneLine_append, oneLine_append]
    exact ⟨⟨ht, by decide⟩, hname⟩

theorem oneLine_sequence (ht : OneLine t.localSchema) {table : String} (htable : OneLine table) :
    OneLine (t.sequence table) :=
  oneLine_qualify ht (oneLine_append.mpr ⟨htable, by decide⟩)

end Target

/-! ## Types -/

/-- Values that limit a type are written with their line feeds escaped. -/
theorem oneLine_values (values : List String) :
    OneLine (", ".intercalate (values.map (textLiteral .mysql))) := by
  rw [oneLine_intercalate (by decide), List.forall_mem_map]
  intro s _
  rw [oneLine_textLiteral_iff]
  exact nofun

theorem BaseType.oneLine_name (t : BaseType) : OneLine t.name := by
  cases t <;> decide

theorem BaseType.oneLine_sql (t : BaseType) {facts : TypeFacts} (hsize : OneLine facts.size)
    (hscale : OneLine facts.scale) (d : Dialect) : OneLine (t.sql facts d) := by
  have hsized (u : BaseType) : OneLine (u.name ++ "(" ++ facts.size ++ ")") := by
    rw [oneLine_append, oneLine_append, oneLine_append]
    exact ⟨⟨⟨u.oneLine_name, by decide⟩, hsize⟩, by decide⟩
  unfold BaseType.sql
  split
  · simp only [oneLine_append, hsize, hscale, and_true]
    decide
  · exact hsized _
  · exact hsized _
  · split
    · exact hsized _
    · decide
  · split
    · exact hsized _
    · decide
  · split <;> decide
  · split <;> decide
  · split <;> split_ifs <;> decide
  · split
    · rw [oneLine_append, oneLine_append]
      exact ⟨⟨by decide, oneLine_values facts.values⟩, by decide⟩
    · rw [oneLine_append, oneLine_append]
      exact ⟨⟨by decide, oneLine_ofNat _⟩, by decide⟩
  all_goals exact BaseType.oneLine_name _

namespace Column

variable {c : Column} {d : Dialect} {t : Target}

/-- **The type of a column is one line.** -/
theorem oneLine_sqlType {type : String} (h : c.sqlType d = .ok type) : OneLine type := by
  unfold sqlType at h
  split at h
  · obtain ⟨_, -, rfl⟩ := (bind_pure_eq_ok_iff _ _ _).mp h
    have hsize : OneLine c.facts.size := oneLine_ofInt c.size
    have hscale : OneLine c.facts.scale := oneLine_ofInt c.scale
    exact BaseType.oneLine_sql _ hsize hscale d
  · cases h

end Column

/-! ## Defaults -/

/-- Whether text that is a default of this type stands between apostrophes, whatever it holds. -/
def ColumnType.quotesDefault : ColumnType → Bool
  | .base t => t.quotesDefault
  | .other _ => false

/-- A text that is taken over between apostrophes with a line feed in it. -/
def Literal.BreaksLine (v : Literal) (t : ColumnType) (d : Dialect) : Prop :=
  match v with
  | .text s => d = .pgsql ∧ t.quotesDefault = true ∧ ¬ OneLine s
  | _ => False

instance (v : Literal) (t : ColumnType) (d : Dialect) : Decidable (v.BreaksLine t d) :=
  match v with
  | .text s => inferInstanceAs (Decidable (d = .pgsql ∧ t.quotesDefault = true ∧ ¬ OneLine s))
  | .bytes _ | .int _ | .decimal _ => inferInstanceAs (Decidable False)

theorem ColumnType.oneLine_textDefault_iff (t : ColumnType) (d : Dialect) (s : String) :
    OneLine (t.textDefault d s) ↔ ¬ (d = .pgsql ∧ t.quotesDefault = true ∧ ¬ OneLine s) := by
  cases t with
  | other label =>
    exact iff_of_true (oneLine_literal d _) fun h => Bool.false_ne_true h.2.1
  | base b =>
    by_cases hempty : s = ""
    · subst hempty
      refine iff_of_true ?_ fun h => h.2.2 (by decide)
      cases b <;> cases d <;> decide +kernel
    · rw [BaseType.textDefault_of_ne hempty, ColumnType.quotesDefault]
      split_ifs with hquotes
      · rw [oneLine_textLiteral_iff]
        simp [hquotes]
      · exact iff_of_true (oneLine_literal d _) fun h => hquotes h.2.1

theorem ColumnType.oneLine_bytesDefault (t : ColumnType) (d : Dialect) (b : List UInt8) :
    OneLine (t.bytesDefault d b) := by
  cases t with
  | other label => exact oneLine_literal d _
  | base c =>
    rw [BaseType.bytesDefault_eq]
    split_ifs
    · rw [oneLine_textLiteral_iff]
      intro _
      exact oneLine_quotedBytes b
    · exact oneLine_literal d _

theorem Literal.oneLine_sql_iff (v : Literal) (t : ColumnType) (d : Dialect) :
    OneLine (v.sql t d) ↔ ¬ v.BreaksLine t d := by
  cases v with
  | text s => exact t.oneLine_textDefault_iff d s
  | bytes b => exact iff_of_true (t.oneLine_bytesDefault d b) id
  | int n => exact iff_of_true (oneLine_ofInt n) id
  | decimal x => exact iff_of_true (oneLine_toFixed x) id

namespace Column

variable {c : Column} {d : Dialect} {t : Target}

/-- The default of a column is written with a line feed: nothing stands in its place, and it breaks
the line. -/
def BreaksLine (c : Column) (d : Dialect) : Prop :=
  c.autoIncrement = false ∧ c.systemDefault = none ∧ ∃ v ∈ c.default, v.BreaksLine c.type d

instance (c : Column) (d : Dialect) : Decidable (c.BreaksLine d) :=
  inferInstanceAs (Decidable (_ ∧ _ ∧ _))

theorem oneLine_numberingSql (ht : OneLine t.localSchema) {table : String} (htable : OneLine table) :
    OneLine (numberingSql table t) := by
  unfold numberingSql
  split
  · decide
  · rw [oneLine_append, oneLine_append]
    exact ⟨⟨by decide, oneLine_sequence ht htable⟩, by decide⟩

theorem oneLine_plainDefaultSql_iff :
    OneLine (c.plainDefaultSql d) ↔
      ¬ (c.systemDefault = none ∧ ∃ v ∈ c.default, v.BreaksLine c.type d) := by
  have hword : OneLine "default " := by decide
  unfold plainDefaultSql
  split
  · rename_i reference hsystem
    rw [hsystem, oneLine_append]
    exact iff_of_true ⟨hword, oneLine_system reference d⟩ fun h => nomatch h.1
  · rename_i value hsystem hvalue
    rw [hsystem, hvalue, oneLine_append, Literal.oneLine_sql_iff]
    simp [hword]
  · rename_i hsystem hvalue
    rw [hsystem, hvalue]
    exact iff_of_true (by decide) fun h => by simpa using h.2

/-- **A default is one line** unless it is written with a line feed. -/
theorem oneLine_defaultSql_iff (ht : OneLine t.localSchema) {table : String}
    (htable : OneLine table) : OneLine (c.defaultSql table t) ↔ ¬ c.BreaksLine t.dialect := by
  unfold defaultSql BreaksLine
  split_ifs with hnumbers
  · exact iff_of_true (oneLine_numberingSql ht htable) fun h => absurd h.1 (by simp [hnumbers])
  · rw [oneLine_plainDefaultSql_iff]
    simp [hnumbers]

/-- A definition is one line if the name of the column is and the default is. -/
theorem oneLine_definitionWith_iff (ht : OneLine t.localSchema) {table type : String}
    (htable : OneLine table) (hname : OneLine c.name) (htype : OneLine type) :
    OneLine (c.definitionWith type table t) ↔ ¬ c.BreaksLine t.dialect := by
  rw [definitionWith, oneLine_intercalate (by decide), List.forall_mem_cons, List.forall_mem_cons,
    ← oneLine_defaultSql_iff ht htable, tail, List.forall_mem_append]
  have hnull : ∀ s ∈ (if Parts.all.null && !c.nullable then ["not null"] else []), OneLine s := by
    split_ifs
    · exact List.forall_mem_singleton.mpr (by decide)
    · exact nofun
  have hdefault : (if c.autoIncrement then Parts.all.autoIncrement else Parts.all.default) = true :=
    ite_self true
  rw [if_pos hdefault, List.forall_mem_singleton]
  exact ⟨fun h => h.2.2.2, fun h => ⟨hname, htype, hnull, h⟩⟩

end Column

end SchemaPlan
