import SchemaPlan.Proofs.Migration.ColumnState
import SchemaPlan.Proofs.Migration.Success

/-!
# Views that are made anew

A view is made anew when the changes of the columns of its table are not empty.  So it is when a
column is dropped or added, or when a column is another one in the view; but where columns are
changed piece by piece, a difference of which no piece comes of itself makes no view anew.

* `Column.IsKeptAs` says of which columns no piece is changed.
* `Column.ShowsChange` says which columns make a view anew, `Column.CanBeShown` of which it can be
  found out.
* `Migration.view_is_made_anew` says when the changes of a mapped table can be found out, and what
  they are.
-/
namespace SchemaPlan

variable {d : Dialect} {table : String} {previous : Option String} {l : List Statement}

/-! ## Columns in a view -/

namespace Column

variable {a b : Column}

/-- The fields beside the type that a view shows. -/
def viewFields (c : Column) :=
  (c.name, c.size, c.scale, c.nullable, c.enumValues)

/-- Columns look alike in a view when their types are equal and the fields that it shows agree. -/
theorem sameInView?_iff :
    a.sameInView? b = some true ↔
      a.viewFields = b.viewFields ∧ a.type.same? b.type = some true := by
  simp only [sameInView?, andThen?_eq_true_iff, Option.some.injEq, beq_iff_eq, Bool.and_eq_true,
    viewFields, Prod.mk.injEq]
  tauto

theorem sameInView?_ne_none_of_base (h : ∃ t, a.type = .base t) : a.sameInView? b ≠ none := by
  obtain ⟨t, ht⟩ := h
  have htype : a.type.same? b.type ≠ none := by
    rw [ht]
    cases b.type <;> simp [ColumnType.same?]
  exact andThen?_ne_none (Option.some_ne_none _) (andThen?_ne_none htype (Option.some_ne_none _))

/-- Equal columns look alike in a view. -/
theorem sameInView?_of_same? (hb : ∃ t, b.type = .base t) (h : a.same? b = some true) :
    b.sameInView? a = some true := by
  obtain ⟨t, ht⟩ := hb
  obtain ⟨hfields, htype, -⟩ := same?_iff.mp h
  simp only [plainFields, Prod.mk.injEq] at hfields
  obtain ⟨hname, hsize, hscale, hnullable, -, -, -, hvalues⟩ := hfields
  refine sameInView?_iff.mpr ⟨?_, ?_⟩
  · rw [viewFields, viewFields, hname, hsize, hscale, hnullable, hvalues]
  · rw [ht] at htype ⊢
    cases ha : a.type with
    | base s =>
      rw [ha, ColumnType.same?, Option.some.injEq, beq_iff_eq] at htype
      rw [htype, ColumnType.same?, beq_self_eq_true]
    | other label =>
      rw [ha] at htype
      cases htype

/-! ## Pieces that are not changed -/

/-- Columns whose types are one where types are changed: both hold bytes, or they are the same, with
the same numbers, and with the same time zone and values where these belong to the type. -/
def SharesType (old new : Column) : Prop :=
  (∃ s t, old.type = .base s ∧ new.type = .base t ∧ s.isBinary = true ∧ t.isBinary = true) ∨
    (old.type = new.type ∧ old.size = new.size ∧ old.scale = new.scale ∧
      (new.type = .base .datetime → old.withTimeZone = new.withTimeZone) ∧
      (new.type = .base .enum → old.enumValues = new.enumValues))

/-- Columns of which no piece is changed. -/
structure IsKeptAs (old new : Column) : Prop where
  type : old.SharesType new
  nullable : old.nullable = new.nullable
  default : sameDefault? old.default new.default = some true
  systemDefault : old.systemDefault = new.systemDefault
  autoIncrement : old.autoIncrement = new.autoIncrement

end Column

section

variable {old new : Column} {s t : BaseType}

theorem typeChanges_eq_false_iff (hs : old.type = .base s) (ht : new.type = .base t) :
    typeChanges old new = .ok false ↔ old.SharesType new := by
  rw [typeChanges_of_base hs ht, Except.ok.injEq, Bool.and_eq_false_iff, Bool.not_eq_false',
    Bool.and_eq_true, Column.SharesType, hs, ht]
  simp only [Bool.or_eq_false_iff, Bool.and_eq_false_iff, bne_eq_false_iff_eq,
    beq_eq_false_iff_ne, ColumnType.base.injEq, imp_iff_not_or]
  constructor
  · rintro (hbinary | ⟨⟨⟨⟨rfl, hzone⟩, hsize⟩, hscale⟩, hvalues⟩)
    · exact Or.inl ⟨s, t, rfl, rfl, hbinary⟩
    · exact Or.inr ⟨rfl, hsize, hscale, hzone, hvalues⟩
  · rintro (⟨_, _, rfl, rfl, hbinary⟩ | ⟨rfl, hsize, hscale, hzone, hvalues⟩)
    · exact Or.inl hbinary
    · exact Or.inr ⟨⟨⟨⟨rfl, hzone⟩, hsize⟩, hscale⟩, hvalues⟩

theorem setsDefault_eq_false_iff {same : Bool} :
    setsDefault old new same = false ↔ same = true ∧ old.systemDefault = new.systemDefault ∧
      old.autoIncrement = new.autoIncrement := by
  simp [setsDefault, and_assoc]

/-- A change piece by piece is empty when there is no piece to change. -/
theorem piecewiseChange_eq_nil_iff {type : String} (hs : old.type = .base s)
    (ht : new.type = .base t) (h : piecewiseChange table old new type = .ok l) :
    l = [] ↔ old.IsKeptAs new := by
  obtain ⟨newType, same, htype, hsame, rfl⟩ := piecewiseChange_iff.mp h
  have hshares : newType = false ↔ old.SharesType new := by
    rw [← typeChanges_eq_false_iff hs ht, htype, Except.ok.injEq]
  have hpieces : defaultPieces table old new ≠ [] :=
    List.append_ne_nil_of_right_ne_nil _ (List.cons_ne_nil _ _)
  have hnil : ((if newType then [.alter table (.setType ⟨new, type⟩)] else []) ++
      (if old.nullable != new.nullable then [.alter table (.setNullable new.name new.nullable)]
        else []) ++
      if setsDefault old new same then defaultPieces table old new else []) = [] ↔
      newType = false ∧ old.nullable = new.nullable ∧ setsDefault old new same = false := by
    simp [hpieces]
  rw [hnil, hshares, setsDefault_eq_false_iff]
  constructor
  · rintro ⟨hshared, hnullable, rfl, hsystem, hnumbering⟩
    exact ⟨hshared, hnullable, hsame, hsystem, hnumbering⟩
  · intro hkept
    rw [hkept.default, Option.some.injEq] at hsame
    exact ⟨hkept.type, hkept.nullable, hsame.symm, hkept.systemDefault, hkept.autoIncrement⟩

end

/-! ## The change of a column -/

/-- A column makes a view anew: it is new, or it is another one in the view, and where columns are
changed piece by piece some piece is. -/
def Column.ShowsChange (d : Dialect) (new : Column) : Option Column → Prop
  | none => True
  | some old => new.sameInView? old = some false ∧ (d = .pgsql → ¬ old.IsKeptAs new)

/-- It can be found out whether a column makes a view anew: it can be written if it is new or another
one in the view, and the comparisons that this takes have an answer. -/
def Column.CanBeShown (d : Dialect) (new : Column) : Option Column → Prop
  | none => new.NumbersFit d
  | some old => old.same? new ≠ none ∧ (new.sameInView? old = some false →
      new.NumbersFit d ∧ (d = .pgsql → sameDefault? old.default new.default ≠ none))

section

variable {o c : Column} {old : Option Column}

theorem wholeChange_eq_nil_iff (ho : ∃ s, o.type = .base s) (hc : ∃ t, c.type = .base t)
    (h : wholeChange d table previous o c = .ok l) : l = [] ↔ d = .pgsql ∧ o.IsKeptAs c := by
  obtain ⟨s, hs⟩ := ho
  obtain ⟨t, ht⟩ := hc
  cases d with
  | mysql =>
    obtain ⟨typed, -, rfl⟩ := wholeChange_mysql_iff.mp h
    exact iff_of_false (List.cons_ne_nil _ _) nofun
  | pgsql =>
    obtain ⟨typed, -, hpieces⟩ := wholeChange_pgsql_iff.mp h
    rw [piecewiseChange_eq_nil_iff hs ht hpieces, and_iff_right rfl]

/-- The change of a column can be written when it can be found out whether there is one. -/
theorem exists_columnChange_iff_canBeShown (hc : ∃ t, c.type = .base t)
    (hold : ∀ o, old = some o → ∃ s, o.type = .base s) :
    (∃ l, columnChange d table true previous old c = .ok l) ↔ c.CanBeShown d old := by
  cases old with
  | none => rw [exists_addition_iff, Column.exists_typed_iff hc, Column.CanBeShown]
  | some o =>
    have hkey : o.type.isKey = true := by
      obtain ⟨s, hs⟩ := hold o rfl
      rw [hs]
      rfl
    obtain ⟨alike, halike⟩ :=
      Option.ne_none_iff_exists'.mp (Column.sameInView?_ne_none_of_base (b := o) hc)
    rw [exists_viewChange_some_iff, exists_wholeChange_iff, Column.exists_typed_iff hc,
      and_iff_right hkey, Column.CanBeShown, Column.StaysInView, Column.ChangesInView, halike]
    cases hsame : o.same? c with
    | none => simp
    | some same =>
      cases same with
      | true =>
        -- Equal columns look alike.
        obtain rfl : alike = true :=
          Option.some.inj (halike.symm.trans (Column.sameInView?_of_same? hc hsame))
        simp
      | false => cases alike <;> simp

/-- The change of a column is not empty when the column makes the view anew. -/
theorem columnChange_ne_nil_iff (hc : ∃ t, c.type = .base t)
    (hold : ∀ o, old = some o → ∃ s, o.type = .base s)
    (h : columnChange d table true previous old c = .ok l) : l ≠ [] ↔ c.ShowsChange d old := by
  cases old with
  | none =>
    obtain ⟨typed, -, rfl⟩ := columnChange_none_iff.mp h
    exact iff_of_true (List.append_ne_nil_of_right_ne_nil _ (List.cons_ne_nil _ _)) trivial
  | some o =>
    rw [Column.ShowsChange]
    rcases columnChange_some_iff.mp h with ⟨hsame, rfl⟩ | ⟨-, -, halike, rfl⟩ | ⟨-, halike, h⟩
    · refine iff_of_false (not_not_intro rfl) fun hshown => ?_
      cases (Column.sameInView?_of_same? hc hsame).symm.trans hshown.1
    · refine iff_of_false (not_not_intro rfl) fun hshown => ?_
      cases halike.symm.trans hshown.1
    · rw [Ne, wholeChange_eq_nil_iff (hold o rfl) hc h, not_and, and_iff_right (halike rfl)]

end

/-! ## The changes of a table -/

theorem columnDrops_ne_nil_iff {old new : Table} :
    columnDrops d old new ≠ [] ↔ ∃ c ∈ old.columns, new.column? c.name = none := by
  simp [columnDrops, List.flatMap_eq_nil_iff]

/-- The changes of columns are not empty when one of them makes the view anew. -/
theorem columnChanges_ne_nil_iff {old : Table} {columns : List Column}
    (hcolumns : ∀ c ∈ columns, ∃ t, c.type = .base t)
    (hold : ∀ o ∈ old.columns, ∃ s, o.type = .base s)
    (h : columnChanges d old table true previous columns = .ok l) :
    l ≠ [] ↔ ∃ c ∈ columns, c.ShowsChange d (old.column? c.name) := by
  induction columns generalizing previous l with
  | nil =>
    cases h
    simp
  | cons c rest ih =>
    obtain ⟨first, others, hfirst, hothers, rfl⟩ := columnChanges_cons_iff.mp h
    have hfound : ∀ o, old.column? c.name = some o → ∃ s, o.type = .base s :=
      fun o ho => hold o (Table.column?_eq_some ho).1
    rw [List.exists_mem_cons_iff, ← ih (fun x hx => hcolumns x (List.mem_cons_of_mem c hx)) hothers,
      ← columnChange_ne_nil_iff (hcolumns c List.mem_cons_self) hfound hfirst, Ne,
      List.append_eq_nil_iff, not_and_or]

/-- The columns of a table make its view anew: one is dropped, or one of the new ones does so. -/
def Table.ShowsChange (d : Dialect) (allowDrop : Bool) (old new : Table) : Prop :=
  (allowDrop = true ∧ ∃ c ∈ old.columns, new.column? c.name = none) ∨
    ∃ c ∈ new.columns, c.ShowsChange d (old.column? c.name)

theorem tableColumnChanges_ne_nil_iff {old new : Table} {allowDrop : Bool}
    (hold : ∀ c ∈ old.columns, ∃ s, c.type = .base s)
    (hnew : ∀ c ∈ new.columns, ∃ t, c.type = .base t)
    (h : tableColumnChanges d old new true allowDrop = .ok l) :
    l ≠ [] ↔ Table.ShowsChange d allowDrop old new := by
  obtain ⟨changes, hchanges, rfl⟩ := tableColumnChanges_iff.mp h
  rw [Ne, List.append_eq_nil_iff, not_and_or, Table.ShowsChange,
    ← columnChanges_ne_nil_iff hnew hold hchanges, ← columnDrops_ne_nil_iff (d := d)]
  cases allowDrop <;> simp

namespace Migration

variable (m : Migration) {database : String} {old new : Table}

/-- **A view is made anew** when a column of its table is dropped, or when one of the new columns makes
it so: one that is added, or one that looks other than before and, where columns are changed piece by
piece, has a piece that changes.  Otherwise nothing is done.  This is found out unless a column that
is added or that looks other than before has a number that is too long to be written, or a comparison
of defaults has no answer. -/
theorem view_is_made_anew (hold : m.old.table? table = some old)
    (hnew : m.new.table? table = some new) (hmapped : m.databaseOf table = some database)
    (holdTypes : ∀ c ∈ old.columns, ∃ s, c.type = .base s)
    (hnewTypes : ∀ c ∈ new.columns, ∃ t, c.type = .base t) :
    ((∃ l, m.tableChanges table = .ok l) ↔
        ∀ c ∈ new.columns, c.CanBeShown m.dialect (old.column? c.name)) ∧
      ∀ l, m.tableChanges table = .ok l →
        (Table.ShowsChange m.dialect m.allow.dropColumn old new →
          l = viewStatements table database) ∧
        (¬ Table.ShowsChange m.dialect m.allow.dropColumn old new → l = []) := by
  constructor
  · simp only [m.tableChanges_of_mapped hold hnew hmapped, tableColumnChanges_iff, existsAndEq,
      and_true]
    refine exists_columnChanges_iff_forall (fun c hc _ => ?_) none
    exact exists_columnChange_iff_canBeShown (hnewTypes c hc)
      fun o ho => holdTypes o (Table.column?_eq_some ho).1
  · intro l h
    obtain ⟨columns, hcolumns, rfl⟩ := (m.tableChanges_of_mapped hold hnew hmapped).mp h
    rw [← tableColumnChanges_ne_nil_iff holdTypes hnewTypes hcolumns]
    simp only [List.isEmpty_iff]
    exact ⟨fun hsome => if_neg hsome, fun hnil => if_pos (not_not.mp hnil)⟩

/-! ## A view of bytes -/

/-- A column of this type and size, without a default. -/
def sizedColumn (name : String) (type : BaseType) (size : Int) : Column :=
  ⟨name, .base type, size, 0, true, none, none, false, false, none⟩

/-- A column of this type and size can be written if the size can. -/
theorem numbersFit_sizedColumn {name : String} {type : BaseType} {size : Int}
    (h : Numeral.isWritable size = true) : (sizedColumn name type size).NumbersFit d where
  size _ _ _ := h
  scale _ := show Numeral.isWritable 0 = true by decide +kernel
  integer _ hn := by cases hn

/-- A table of bytes and a text, with the type of the bytes and these sizes. -/
def sizedTable (type : BaseType) (bytes text : Int) : Table :=
  ⟨"t", [sizedColumn "b" type bytes, sizedColumn "c" .varchar text], none, none⟩

theorem base_of_mem_sizedTable {type : BaseType} {bytes text : Int} :
    ∀ c ∈ (sizedTable type bytes text).columns, ∃ t, c.type = .base t := by
  intro c hc
  rcases List.mem_pair.mp hc with rfl | rfl
  · exact ⟨type, rfl⟩
  · exact ⟨.varchar, rfl⟩

/-- A table that lives in another database gets longer bytes and a text of this size. -/
def viewResize (text : Int) : Migration where
  old := ⟨[.table (sizedTable .binary 10 10)]⟩
  new := ⟨[.table (sizedTable .varbinary 20 text)]⟩
  deployment := ⟨⟨.pgsql, ""⟩, some ⟨⟨[("t", "other")]⟩, .empty, ["other"]⟩, none, .empty⟩
  allow := ⟨false, false, false⟩

/-- With another size of the text the view is made anew. -/
theorem viewResize_by_text :
    (viewResize 20).old.table? "t" = some (sizedTable .binary 10 10) ∧
      (viewResize 20).new.table? "t" = some (sizedTable .varbinary 20 20) ∧
      (viewResize 20).databaseOf "t" = some "other" ∧
      (viewResize 20).tableChanges "t" = .ok (viewStatements "t" "other") := by
  have hold : (viewResize 20).old.table? "t" = some (sizedTable .binary 10 10) := rfl
  have hnew : (viewResize 20).new.table? "t" = some (sizedTable .varbinary 20 20) := rfl
  have hmapped : (viewResize 20).databaseOf "t" = some "other" := rfl
  have hshort : Numeral.isWritable 20 = true := by decide +kernel
  obtain ⟨hfound, hchanges⟩ := (viewResize 20).view_is_made_anew hold hnew hmapped
    base_of_mem_sizedTable base_of_mem_sizedTable
  obtain ⟨l, hl⟩ := hfound.mpr fun c hc => by
    rcases List.mem_pair.mp hc with rfl | rfl
    · exact ⟨by decide, fun _ => ⟨numbersFit_sizedColumn hshort, fun _ => by decide⟩⟩
    · exact ⟨by decide, fun _ => ⟨numbersFit_sizedColumn hshort, fun _ => by decide⟩⟩
  refine ⟨hold, hnew, hmapped, ?_⟩
  rw [hl, (hchanges l hl).1]
  refine Or.inr ⟨sizedColumn "c" .varchar 20, List.mem_pair.mpr (Or.inr rfl), rfl, fun _ hkept => ?_⟩
  rcases hkept.type with ⟨s, t, hs, -, hbinary, -⟩ | ⟨-, hsize, -⟩
  · cases hs
    cases hbinary
  · cases hsize

/-- Longer bytes are other bytes in the view, but it is not made anew. -/
theorem no_viewResize_by_bytes :
    (viewResize 10).old.table? "t" = some (sizedTable .binary 10 10) ∧
      (viewResize 10).new.table? "t" = some (sizedTable .varbinary 20 10) ∧
      (viewResize 10).databaseOf "t" = some "other" ∧
      (sizedColumn "b" .varbinary 20).sameInView? (sizedColumn "b" .binary 10) = some false ∧
      (viewResize 10).tableChanges "t" = .ok [] :=
  ⟨rfl, rfl, rfl, rfl, rfl⟩

end Migration

end SchemaPlan
