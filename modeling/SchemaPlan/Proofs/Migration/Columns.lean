import SchemaPlan.Migration
import SchemaPlan.Proofs.Statement.Subject

/-!
# What changes the columns of a table

The change of one column, taken apart once: a new column is added, an old one is left alone when
nothing that matters is different, and otherwise changed as a whole or piece by piece.

* `columnChange_none_iff` and `columnChange_some_iff` say when the change of a column can be written
  and what it consists of, `piecewiseChange_iff` which pieces a change has.
* `exists_columnChanges_iff_forall` says that the columns of a table can be changed one by one.
* `onColumns_tableColumnChanges` says that the changes of columns keep to their table, its columns
  and its sequence; `dropColumn_mem_tableColumnChanges` says which columns they drop.
-/
namespace SchemaPlan

variable {d : Dialect} {table : String} {isView : Bool} {previous : Option String}
  {l : List Statement}

theorem answered_eq_ok_iff {answer : Option Bool} {b : Bool} :
    answered answer = .ok b ↔ answer = some b := by
  cases answer with
  | none => simp [answered]
  | some a => simp [answered]

/-- A column that the old table does not have is added. -/
theorem columnChange_none_iff {new : Column} :
    columnChange d table isView previous none new = .ok l ↔
      ∃ typed, new.typed d = .ok typed ∧
        l = (if new.autoIncrement && d == .pgsql then [.ensureSequence table] else []) ++
          [.alter table (.addColumn typed (placeAfter d previous))] := by
  rw [columnChange, bind_pure_eq_ok_iff]

/-- The whole change of a column that is different. -/
def wholeChange (d : Dialect) (table : String) (previous : Option String) (old new : Column) :
    Except Problem (List Statement) := do
  let typed ← new.typed d
  match d with
  | .mysql => return [.alter table (.changeColumn typed (placeAfter d previous))]
  | .pgsql => piecewiseChange table old new typed.type

/-- On the dialect that places columns a column is changed by one statement. -/
theorem wholeChange_mysql_iff {old new : Column} :
    wholeChange .mysql table previous old new = .ok l ↔
      ∃ typed, new.typed .mysql = .ok typed ∧
        l = [.alter table (.changeColumn typed (placeAfter .mysql previous))] := by
  rw [wholeChange, bind_pure_eq_ok_iff]

/-- Whether the default of a column is set anew, given whether the two literals are equal. -/
def setsDefault (old new : Column) (same : Bool) : Bool :=
  !same || old.systemDefault != new.systemDefault || old.autoIncrement != new.autoIncrement

/-- The statements that set the default of a column anew.  The sequence of a column that begins to
number the rows is there before, and that of one that ends doing so goes afterwards. -/
def defaultPieces (table : String) (old new : Column) : List Statement :=
  (if new.autoIncrement && !old.autoIncrement then [.ensureSequence table] else []) ++
    .alter table (.setDefault new) ::
    if old.autoIncrement && !new.autoIncrement then [.dropSequence table] else []

/-- Piece by piece a column gets its type, whether it may be null, and its default. -/
theorem piecewiseChange_iff {old new : Column} {type : String} :
    piecewiseChange table old new type = .ok l ↔
      ∃ newType same, typeChanges old new = .ok newType ∧
        sameDefault? old.default new.default = some same ∧
        l = (if newType then [.alter table (.setType ⟨new, type⟩)] else []) ++
          (if old.nullable != new.nullable then [.alter table (.setNullable new.name new.nullable)]
            else []) ++
          if setsDefault old new same then defaultPieces table old new else [] := by
  rw [piecewiseChange, bind_eq_ok_iff]
  simp only [bind_pure_eq_ok_iff, answered_eq_ok_iff, setsDefault, defaultPieces]
  constructor
  · rintro ⟨newType, htype, same, hsame, rfl⟩
    exact ⟨newType, same, htype, hsame, rfl⟩
  · rintro ⟨newType, same, htype, hsame, rfl⟩
    exact ⟨newType, htype, same, hsame, rfl⟩

/-- On the other dialect a column is changed piece by piece. -/
theorem wholeChange_pgsql_iff {old new : Column} :
    wholeChange .pgsql table previous old new = .ok l ↔
      ∃ typed, new.typed .pgsql = .ok typed ∧ piecewiseChange table old new typed.type = .ok l :=
  bind_eq_ok_iff _ _ _

/-- A column of both tables is left alone, or changed because it is different. -/
theorem columnChange_some_iff {old new : Column} :
    columnChange d table isView previous (some old) new = .ok l ↔
      (old.same? new = some true ∧ l = []) ∨
      (old.same? new = some false ∧ isView = true ∧ new.sameInView? old = some true ∧ l = []) ∨
      (old.same? new = some false ∧ (isView = true → new.sameInView? old = some false) ∧
        wholeChange d table previous old new = .ok l) := by
  rw [columnChange, bind_eq_ok_iff]
  simp only [answered_eq_ok_iff]
  constructor
  · rintro ⟨same, hsame, h⟩
    cases same with
    | true =>
      cases h
      exact Or.inl ⟨hsame, rfl⟩
    | false =>
      right
      simp only [Bool.false_eq_true, if_false] at h
      rw [bind_eq_ok_iff] at h
      obtain ⟨alike, halike, h⟩ := h
      cases isView with
      | true =>
        simp only [if_true, answered_eq_ok_iff] at halike
        cases alike with
        | true =>
          cases h
          exact Or.inl ⟨hsame, rfl, halike, rfl⟩
        | false => exact Or.inr ⟨hsame, fun _ => halike, h⟩
      | false =>
        cases halike
        exact Or.inr ⟨hsame, fun hview => absurd hview (by simp), h⟩
  · rintro (⟨hsame, rfl⟩ | ⟨hsame, rfl, halike, rfl⟩ | ⟨hsame, halike, h⟩)
    · exact ⟨true, hsame, rfl⟩
    · refine ⟨false, hsame, ?_⟩
      simp [halike, answered, bind, Except.bind, pure, Except.pure]
    · refine ⟨false, hsame, ?_⟩
      cases isView with
      | true =>
        simp only [Bool.false_eq_true, if_false, if_true, halike rfl, answered]
        exact h
      | false => exact h

/-! ## What the changes are about -/

/-- Statements on the columns of a table and the sequence that numbers its rows. -/
abbrev OnColumns (table : String) (statements : List Statement) : Prop :=
  Each (fun s => s.subject = table ∧ (s.kind = .column ∨ s.kind = .sequence)) statements

/-- Statements on the columns of a table and its sequence that drop no column. -/
abbrev KeepsColumns (table : String) (statements : List Statement) : Prop :=
  Each (fun s => (s.subject = table ∧ (s.kind = .column ∨ s.kind = .sequence)) ∧
    ∀ c, s ≠ .alter table (.dropColumn c)) statements

theorem keepsColumns_piecewiseChange {old new : Column} {type : String}
    (h : piecewiseChange table old new type = .ok l) : KeepsColumns table l := by
  obtain ⟨newType, same, -, -, rfl⟩ := piecewiseChange_iff.mp h
  have hcolumn : ∀ change : Change, change.kind = .column → (∀ c, change ≠ .dropColumn c) →
      KeepsColumns table [.alter table change] := by
    intro change hkind hdrop
    refine .singleton ⟨⟨rfl, Or.inl hkind⟩, fun c hc => hdrop c ?_⟩
    cases hc
    rfl
  refine .append (.append (.ite (hcolumn _ rfl nofun) .nil) (.ite (hcolumn _ rfl nofun) .nil))
    (.ite ?_ .nil)
  -- A new default may bring a sequence along before it, or leave one behind.
  refine .append (.ite (.singleton ⟨⟨rfl, Or.inr rfl⟩, nofun⟩) .nil)
    (.cons ⟨⟨rfl, Or.inl rfl⟩, nofun⟩ ?_)
  exact .ite (.singleton ⟨⟨rfl, Or.inr rfl⟩, nofun⟩) .nil

theorem keepsColumns_wholeChange {old new : Column}
    (h : wholeChange d table previous old new = .ok l) : KeepsColumns table l := by
  unfold wholeChange at h
  rw [bind_eq_ok_iff] at h
  obtain ⟨typed, -, h⟩ := h
  cases d with
  | mysql =>
    cases h
    exact .singleton ⟨⟨rfl, Or.inl rfl⟩, nofun⟩
  | pgsql => exact keepsColumns_piecewiseChange h

theorem keepsColumns_columnChange {old : Option Column} {new : Column}
    (h : columnChange d table isView previous old new = .ok l) : KeepsColumns table l := by
  cases old with
  | none =>
    obtain ⟨typed, -, rfl⟩ := columnChange_none_iff.mp h
    exact .append (.ite (.singleton ⟨⟨rfl, Or.inr rfl⟩, nofun⟩) .nil)
      (.singleton ⟨⟨rfl, Or.inl rfl⟩, nofun⟩)
  | some old =>
    rcases columnChange_some_iff.mp h with ⟨-, rfl⟩ | ⟨-, -, -, rfl⟩ | ⟨-, -, hwhole⟩
    · exact .nil
    · exact .nil
    · exact keepsColumns_wholeChange hwhole

/-- The changes of a list of columns are those of its first column, then the others. -/
theorem columnChanges_cons_iff {old : Table} {c : Column} {rest : List Column} :
    columnChanges d old table isView previous (c :: rest) = .ok l ↔
      ∃ first others, columnChange d table isView previous (old.column? c.name) c = .ok first ∧
        columnChanges d old table isView (some c.name) rest = .ok others ∧
        l = first ++ others := by
  rw [columnChanges, bind_eq_ok_iff]
  simp only [bind_pure_eq_ok_iff]
  constructor
  · rintro ⟨first, hfirst, others, hothers, rfl⟩
    exact ⟨first, others, hfirst, hothers, rfl⟩
  · rintro ⟨first, others, hfirst, hothers, rfl⟩
    exact ⟨first, hfirst, others, hothers, rfl⟩

/-- The changes of columns can be written when that of each one can, whatever stands before it. -/
theorem exists_columnChanges_iff_forall {old : Table} {p : Column → Prop} {todo : List Column}
    (h : ∀ c ∈ todo, ∀ previous,
      (∃ l, columnChange d table isView previous (old.column? c.name) c = .ok l) ↔ p c)
    (previous : Option String) :
    (∃ l, columnChanges d old table isView previous todo = .ok l) ↔ ∀ c ∈ todo, p c := by
  induction todo generalizing previous with
  | nil => exact ⟨fun _ => List.forall_mem_nil _, fun _ => ⟨[], rfl⟩⟩
  | cons c rest ih =>
    rw [List.forall_mem_cons, ← h c List.mem_cons_self previous,
      ← ih (fun c hc => h c (List.mem_cons_of_mem _ hc)) (some c.name)]
    constructor
    · rintro ⟨l, h⟩
      obtain ⟨first, others, hfirst, hothers, -⟩ := columnChanges_cons_iff.mp h
      exact ⟨⟨first, hfirst⟩, others, hothers⟩
    · rintro ⟨⟨first, hfirst⟩, others, hothers⟩
      exact ⟨_, columnChanges_cons_iff.mpr ⟨first, others, hfirst, hothers, rfl⟩⟩

theorem keepsColumns_columnChanges {old : Table} {columns : List Column}
    (h : columnChanges d old table isView previous columns = .ok l) : KeepsColumns table l := by
  induction columns generalizing previous l with
  | nil =>
    cases h
    exact .nil
  | cons c rest ih =>
    obtain ⟨first, others, hfirst, hothers, rfl⟩ := columnChanges_cons_iff.mp h
    exact .append (keepsColumns_columnChange hfirst) (ih hothers)

theorem onColumns_columnDrops (d : Dialect) (old new : Table) :
    OnColumns new.name (columnDrops d old new) :=
  .flatMap fun _ _ => .ite .nil (.cons ⟨rfl, Or.inl rfl⟩
    (.ite (.singleton ⟨rfl, Or.inr rfl⟩) .nil))

theorem tableColumnChanges_iff {old new : Table} {allowDrop : Bool} :
    tableColumnChanges d old new isView allowDrop = .ok l ↔
      ∃ changes, columnChanges d old new.name isView none new.columns = .ok changes ∧
        l = (if allowDrop then columnDrops d old new else []) ++ changes := by
  rw [tableColumnChanges, bind_pure_eq_ok_iff]

theorem onColumns_tableColumnChanges {old new : Table} {allowDrop : Bool}
    (h : tableColumnChanges d old new isView allowDrop = .ok l) : OnColumns new.name l := by
  obtain ⟨changes, hchanges, rfl⟩ := tableColumnChanges_iff.mp h
  exact .append (.ite (onColumns_columnDrops d old new) .nil)
    ((keepsColumns_columnChanges hchanges).mono fun _ hs => hs.1)

/-- The columns that are dropped: those that the new table does not have, if that is allowed. -/
theorem dropColumn_mem_tableColumnChanges {old new : Table} {allowDrop : Bool}
    (h : tableColumnChanges d old new isView allowDrop = .ok l) (column : String) :
    .alter new.name (.dropColumn column) ∈ l ↔
      allowDrop = true ∧ (old.column? column).isSome ∧ new.column? column = none := by
  obtain ⟨changes, hchanges, rfl⟩ := tableColumnChanges_iff.mp h
  have hkept : .alter new.name (.dropColumn column) ∉ changes :=
    fun hmem => (keepsColumns_columnChanges hchanges _ hmem).2 column rfl
  have hdrops : .alter new.name (.dropColumn column) ∈ columnDrops d old new ↔
      (old.column? column).isSome ∧ new.column? column = none := by
    -- The statement itself is the only drop of a column that a column contributes.
    simp only [columnDrops, List.mem_flatMap, List.mem_ite_nil_left, List.mem_cons,
      List.mem_ite_nil_right, List.not_mem_nil, Statement.alter.injEq, Change.dropColumn.injEq,
      reduceCtorEq, true_and, and_false, or_false, Bool.not_eq_true, Option.isSome_eq_false_iff,
      Option.isNone_iff_eq_none]
    rw [Table.column?, List.find?_isSome]
    constructor
    · rintro ⟨c, hc, hnew, rfl⟩
      exact ⟨⟨c, hc, beq_self_eq_true _⟩, hnew⟩
    · rintro ⟨⟨c, hc, hname⟩, hnew⟩
      have heq : c.name = column := beq_iff_eq.mp hname
      exact ⟨c, hc, heq ▸ hnew, heq.symm⟩
  rw [List.mem_append, or_iff_left hkept, List.mem_ite_nil_right, hdrops]

theorem each_primaryKeyChanges (old new : Table) :
    Each (fun s => s.subject = new.name ∧ s.kind = .primaryKey) (primaryKeyChanges old new) := by
  unfold primaryKeyChanges
  refine .ite .nil (.append (.ite (.singleton ⟨rfl, rfl⟩) .nil) ?_)
  cases new.primaryKey with
  | none => exact .nil
  | some key => exact .singleton ⟨rfl, rfl⟩

end SchemaPlan
