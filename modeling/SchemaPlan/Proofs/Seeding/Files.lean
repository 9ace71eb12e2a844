import SchemaPlan.Creation
import SchemaPlan.Proofs.FileTree

/-!
# What is read from seed files

Of the files that surround statements only those matter that seed rows name.  Where these look the
same, rows and schemas have the same statements.

* `SeedRow.NamesAlike` says that the files of a row look the same, `Schema.NamesAlike` that those of
  all rows of a schema do.
* `SeedRow.statements_withFiles` and `Schema.creation_withFiles` say that the statements are the
  same then.
-/
namespace SchemaPlan

/-- The same place for statements with other files around it. -/
def Deployment.withFiles (d : Deployment) (u : FileTree) : Deployment :=
  { d with files := u }

variable {d : Deployment} {u : FileTree}

/-! ## Rows -/

theorem Deployment.contentAt_withFiles {path : Path} (h : d.files.ShowsAlike u path) :
    (d.withFiles u).contentAt path = d.contentAt path := by
  have hhas : (d.withFiles u).files.has path = d.files.has path := h.has
  unfold contentAt
  rw [hhas]
  split
  · rfl
  · next hfound =>
    have hread : (d.withFiles u).files.readBytes path = d.files.readBytes path :=
      h.readBytes (by rw [hfound]; nofun)
    rw [hread]
  · rfl

/-- The file that a source names looks the same in other files. -/
def SeedSource.NamesAlike (source : SeedSource) (d : Deployment) (u : FileTree) : Prop :=
  ∀ name path, source = .file (.text name) → d.seedPath? name = some path →
    d.files.ShowsAlike u path

theorem SeedSource.resolve_withFiles {source : SeedSource} (h : source.NamesAlike d u) :
    source.resolve (d.withFiles u) = source.resolve d := by
  rcases source with value | (name | bytes) | reference
  · rfl
  · have hcontent : (d.withFiles u).seedContent name = d.seedContent name := by
      have hpath : (d.withFiles u).seedPath? name = d.seedPath? name := rfl
      unfold Deployment.seedContent
      rw [hpath]
      cases hname : d.seedPath? name with
      | none => rfl
      | some path => exact Deployment.contentAt_withFiles (h name path rfl hname)
    rw [resolve, resolve, hcontent]
  · rfl
  · rfl

namespace SeedRow

/-- The files that a row names look the same in other files. -/
def NamesAlike (r : SeedRow) (d : Deployment) (u : FileTree) : Prop :=
  ∀ c ∈ r.columns, c.source.NamesAlike d u

theorem resolveFrom_withFiles {columns : List SeedColumn}
    (h : ∀ c ∈ columns, c.source.NamesAlike d u) (known : Contents) :
    resolveFrom (d.withFiles u) known columns = resolveFrom d known columns := by
  induction columns generalizing known with
  | nil => rfl
  | cons c rest ih =>
    have hrest := ih fun c' hc' => h c' (List.mem_cons_of_mem c hc')
    rw [resolveFrom, resolveFrom, SeedSource.resolve_withFiles (h c List.mem_cons_self)]
    simp only [hrest]

/-- A row has the same statements when its files look the same. -/
theorem statements_withFiles {r : SeedRow} (h : r.NamesAlike d u) :
    r.statements (d.withFiles u) = r.statements d := by
  rw [statements, statements, resolve, resolve, resolveFrom_withFiles h]

end SeedRow

/-! ## Schemas -/

namespace Schema

variable {s : Schema}

/-- The files that the seed rows of a schema name look the same in other files. -/
def NamesAlike (s : Schema) (d : Deployment) (u : FileTree) : Prop :=
  ∀ r, Entity.seed r ∈ s.entities → r.NamesAlike d u

/-- Only seed rows read files. -/
theorem seedStatements_withFiles (h : s.NamesAlike d u) {e : Entity} (he : e ∈ s.entities) :
    s.seedStatements (d.withFiles u) e = s.seedStatements d e := by
  cases e with
  | seed r =>
    rw [seedStatements, seedStatements, SeedRow.statements_withFiles (h r he)]
    rfl
  | table t => rfl
  | index i => rfl
  | foreignKey k => rfl

/-- A schema is created alike when the files of its seed rows look the same. -/
theorem creation_withFiles (h : s.NamesAlike d u) :
    s.creation (d.withFiles u) = s.creation d := by
  have htables : s.tableStatements (d.withFiles u) = s.tableStatements d := by
    funext e
    cases e <;> rfl
  have hkeys : s.keyStatements (d.withFiles u) = s.keyStatements d := by
    funext e
    cases e <;> rfl
  have hseeds : s.entities.map (s.seedStatements (d.withFiles u)) =
      s.entities.map (s.seedStatements d) :=
    List.map_congr_left fun e he => seedStatements_withFiles h he
  rw [creation, creation, htables, hkeys, hseeds]

theorem creationSql_withFiles (h : s.NamesAlike d u) :
    s.creationSql (d.withFiles u) = s.creationSql d := by
  rw [creationSql, creationSql, creation_withFiles h]
  rfl

end Schema

end SchemaPlan
