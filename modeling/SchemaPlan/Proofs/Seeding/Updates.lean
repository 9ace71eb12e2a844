import SchemaPlan.Proofs.Seeding.Agreement

/-!
# Rows that are brought up to date

Of a row that is there the database is asked once, and only the columns are set that do not hold
what is wanted.  A row with these columns set is up to date.

* `SeedRow.IsOutdated` says which columns are set.
* `SeedRow.outdated_written` says that none is left when they are.
* `SeedRow.reconcile_outdated` says what is done about a row that is there.
-/
namespace SchemaPlan.SeedRow

variable {r : SeedRow} {d : Deployment} {contents : Contents} {row : AnsweredRow}
  {columns : List SeedColumn}

/-! ## Columns that are set -/

/-- The value that an answered row has in a column; null where it has none. -/
def held (row : AnsweredRow) (column : String) : Doc :=
  (row.get? column).getD .null

/-- A column is to be set: it is neither a key nor a system variable, and the row does not hold what
is wanted. -/
structure IsOutdated (r : SeedRow) (contents : Contents) (row : AnsweredRow) (c : SeedColumn) :
    Prop where
  known : c.source.isSystem = false
  notKey : c.name ∉ r.keys
  differs : differs (held row c.name) (wanted contents c.name) = true

theorem isOutdated_iff {c : SeedColumn} :
    r.IsOutdated contents row c ↔ (!c.source.isSystem && !r.keys.contains c.name &&
      differs (held row c.name) (wanted contents c.name)) = true := by
  simp only [Bool.and_eq_true, Bool.not_eq_true', List.contains_eq_mem, decide_eq_false_iff_not]
  exact ⟨fun h => ⟨⟨h.known, h.notKey⟩, h.differs⟩, fun h => ⟨h.1.1, h.1.2, h.2⟩⟩

instance (c : SeedColumn) : Decidable (r.IsOutdated contents row c) :=
  decidable_of_iff _ isOutdated_iff.symm

/-- The columns of a row that are to be set, in order. -/
def outdated (r : SeedRow) (contents : Contents) (row : AnsweredRow) : List SeedColumn :=
  r.columns.filter fun c => r.IsOutdated contents row c

/-- What is changed are the columns that are to be set. -/
theorem changed_eq_outdated (r : SeedRow) (contents : Contents) (row : AnsweredRow) :
    r.changed contents row = r.outdated contents row := by
  refine List.filter_congr fun c _ => ?_
  rw [Bool.eq_iff_iff, decide_eq_true_iff, isOutdated_iff]
  rfl

theorem outdated_eq_nil_iff :
    r.outdated contents row = [] ↔ ∀ c ∈ r.columns, ¬ r.IsOutdated contents row c := by
  simp [outdated, List.filter_eq_nil_iff]

/-! ## Rows with columns set -/

/-- A row with the values that are wanted in these columns. -/
def written (contents : Contents) (columns : List SeedColumn) (row : AnsweredRow) : AnsweredRow :=
  (columns.map SeedColumn.name).foldl (fun known column => known.put column (wanted contents column))
    row

theorem held_written (column : String) :
    held (written contents columns row) column =
      if column ∈ columns.map SeedColumn.name then wanted contents column else held row column := by
  rw [held, written, Server.get?_foldl_put]
  split_ifs <;> rfl

/-- A row in which all that is outdated was set is up to date. -/
theorem outdated_written :
    r.outdated contents (written contents (r.outdated contents row) row) = [] := by
  rw [outdated_eq_nil_iff]
  intro c hc houtdated
  have hdiffers := houtdated.differs
  rw [held_written] at hdiffers
  split_ifs at hdiffers with hset
  · rw [differs_self] at hdiffers
    cases hdiffers
  · -- A column that still differs differed before, and so it was set.
    refine hset (List.mem_map_of_mem (List.mem_filter.mpr ⟨hc, ?_⟩))
    exact decide_eq_true ⟨houtdated.known, houtdated.notKey, hdiffers⟩

/-! ## Statements -/

/-- The statements about a row that is there and may be updated. -/
theorem awareStatements_some (hupdates : r.updates = true) :
    r.awareStatements contents (some row) =
      if r.outdated contents row = [] then []
      else [.update r.table ((r.outdated contents row).map (assign contents))
        (r.conditions contents)] := by
  simp only [awareStatements, hupdates, Bool.not_true, Bool.false_eq_true, if_false,
    changed_eq_outdated]
  cases r.outdated contents row with
  | nil => rfl
  | cons c others => rw [if_neg (List.cons_ne_nil c others)]

/-- **A row that is there is brought up to date.** The row has conditions and may be updated, and the
database answers the question with a row.  That is the only question, and it is closed.  Nothing is
written exactly when no column is outdated; otherwise one update sets the outdated columns, in order,
under the conditions of the question.  Of the row with these columns set nothing more is to be
written. -/
theorem reconcile_outdated {database : Query → Option AnsweredRow}
    (hcontents : (r.resolve d).outcome = .ok contents) (hsome : r.conditions contents ≠ [])
    (hupdates : r.updates = true) (hrow : database (r.query contents) = some row) :
    ∃ statements,
      (r.reconcile d database).outcome =
        .ok (statements, [.ask (r.query contents), .close]) ∧
      (statements = [] ↔ ∀ c ∈ r.columns, ¬ r.IsOutdated contents row c) ∧
      (statements ≠ [] →
        statements = [.update r.table ((r.outdated contents row).map (assign contents))
          (r.query contents).conditions]) ∧
      ∀ later : Query → Option AnsweredRow,
        later (r.query contents) = some (written contents (r.outdated contents row) row) →
          (r.reconcile d later).outcome = .ok ([], [.ask (r.query contents), .close]) := by
  refine ⟨_, outcome_reconcile hcontents hsome, ?_, ?_, fun later hlater => ?_⟩
  · rw [hrow, awareStatements_some hupdates, ← outdated_eq_nil_iff]
    by_cases hnil : r.outdated contents row = []
    · rw [if_pos hnil]
      exact iff_of_true rfl hnil
    · rw [if_neg hnil]
      exact iff_of_false (List.cons_ne_nil _ _) hnil
  · rw [hrow, awareStatements_some hupdates]
    intro hne
    exact if_neg fun hnil => hne (if_pos hnil)
  · rw [outcome_reconcile hcontents hsome, hlater, awareStatements_some hupdates,
      if_pos outdated_written]

/-- Under the key of `greeting` there is a row with another word and without a remark: the word is
set, and then nothing more. -/
theorem greeting_brought_up_to_date :
    ∃ first : List Statement,
      (greeting.reconcile ⟨⟨.mysql, ""⟩, none, some "", .empty⟩ fun _ =>
          some ⟨[("id", .int 1), ("word", .text "hi")]⟩).outcome =
        .ok (first, [.ask (greeting.query greetingContents), .close]) ∧
      first = [.update "t" [⟨"word", .quoted (.text "hello")⟩] [⟨"id", .plain (.text "1")⟩]] ∧
      (greeting.reconcile ⟨⟨.mysql, ""⟩, none, some "", .empty⟩ fun _ =>
          some ⟨[("id", .int 1), ("word", .text "hello")]⟩).outcome =
        .ok ([], [.ask (greeting.query greetingContents), .close]) := by
  let row : AnsweredRow := ⟨[("id", .int 1), ("word", .text "hi")]⟩
  let database : Query → Option AnsweredRow := fun _ => some row
  have hcontents : (greeting.resolve ⟨⟨.mysql, ""⟩, none, some "", .empty⟩).outcome =
      .ok greetingContents := rfl
  have hrow : database (greeting.query greetingContents) = some row := rfl
  have houtdated : greeting.outdated greetingContents row =
      [⟨"word", .literal (some (.text "hello")), true⟩] := by decide
  obtain ⟨first, hfirst, hnothing, hupdate, hlater⟩ :=
    reconcile_outdated hcontents (by decide) rfl hrow
  refine ⟨first, hfirst, ?_, hlater (fun _ => _) ?_⟩
  · have hne : first ≠ [] := by
      rw [Ne, hnothing, ← outdated_eq_nil_iff, houtdated]
      exact List.cons_ne_nil _ _
    rw [hupdate hne, houtdated]
    rfl
  · rw [houtdated]
    rfl

end SchemaPlan.SeedRow
