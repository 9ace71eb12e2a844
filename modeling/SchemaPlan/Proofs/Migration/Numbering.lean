import SchemaPlan.Proofs.Column.Typed
import SchemaPlan.Proofs.Migration.Run
import SchemaPlan.Proofs.Schema.Built
import SchemaPlan.Proofs.Schema.Equality

/-!
# The sequence of a table under a run

On the dialect with sequences the rows of a table are numbered by a sequence of its own, and the
default of a column takes the next number from it.  A sequence has to be there when a default is set
that uses it, and it must not go while one does.

* `Numbering.replay` reads statements as what they do to the sequence of a table; a statement that
  does not fit has no result.
* `Numbering.replay_columnChange_of_new`, `Numbering.replay_columnChange_of_kept` and
  `Numbering.replay_columnChange_of_lost` are the step for one column,
  `Numbering.replay_columnChanges_of_new` the run over columns none of which had the numbering before.
* `Numbering.replay_columnChanges_of_append` is the run over columns one of which had it.
* `Migration.numbering_after_run` says when the statements of a run fit: exactly when the numbering
  does not move to a column that stands before the one that loses it.
-/
namespace SchemaPlan

/-! ## The sequence of a table -/

/-- Whether the sequence of a table is there, and the columns whose default uses it. -/
structure Numbering where
  there : Bool
  users : List String

namespace Numbering

/-- The columns of other names that use the sequence. -/
def others (n : Numbering) (name : String) : List String :=
  n.users.filter fun user => user != name

/-- The default of a column is set. -/
def setDefault (n : Numbering) (c : Column) : Option Numbering :=
  if c.autoIncrement then if n.there then some ⟨true, n.others c.name ++ [c.name]⟩ else none
  else some ⟨n.there, n.others c.name⟩

/-- A table is changed. -/
def change (n : Numbering) : Change → Option Numbering
  | .dropColumn name => some ⟨n.there, n.others name⟩
  | .addColumn c _ => n.setDefault c.column
  | .changeColumn c _ => n.setDefault c.column
  | .setDefault c => n.setDefault c
  | _ => some n

/-- The sequence is created, which it can be only when it is not there. -/
def create (n : Numbering) : Option Numbering :=
  if n.there then none else some ⟨true, n.users⟩

/-- The sequence is dropped, which it can be only when no column uses it. -/
def drop (n : Numbering) : Option Numbering :=
  if n.users.isEmpty then some ⟨false, []⟩ else none

/-- What a statement about the table does to its sequence. -/
def own (n : Numbering) : Statement → Option Numbering
  | .alter _ c => n.change c
  | .createSequence _ => n.create
  | .ensureSequence _ => some ⟨true, n.users⟩
  | .dropSequence _ => n.drop
  | _ => some n

/-- What a statement does to the sequence of this table. -/
def step (table : String) (n : Numbering) (s : Statement) : Option Numbering :=
  if s.subject = table then n.own s else some n

/-- What statements do to the sequence of this table, one after the other. -/
def replay (table : String) (n : Numbering) (statements : List Statement) : Option Numbering :=
  statements.foldlM (step table) n

/-- The numbering of a table: its sequence is there if one of its columns uses it. -/
def ofTable (t : Table) : Numbering :=
  ⟨t.autoIncrement?.isSome, (t.columns.filter fun c => c.autoIncrement).map Column.name⟩

variable {table : String} {n : Numbering} {xs ys : List Statement}

theorem replay_append :
    n.replay table (xs ++ ys) = (n.replay table xs).bind fun n => n.replay table ys :=
  List.foldlM_append

theorem replay_cons {s : Statement} :
    n.replay table (s :: xs) = (n.step table s).bind fun n => n.replay table xs :=
  List.foldlM_cons

@[simp] theorem replay_nil : n.replay table [] = some n := rfl

/-- Statements about other tables change nothing. -/
theorem replay_thoseAbout (statements : List Statement) (n : Numbering) :
    n.replay table (thoseAbout table statements) = n.replay table statements := by
  induction statements generalizing n with
  | nil => rfl
  | cons s rest ih =>
    rw [thoseAbout, List.filter_cons, replay_cons]
    by_cases hs : s.subject = table
    · rw [if_pos (beq_iff_eq.mpr hs), replay_cons]
      exact congrArg _ (funext fun n => ih n)
    · rw [if_neg (by simpa using hs), step, if_neg hs, Option.bind_some]
      exact ih n

/-- Statements on anything but columns and sequences change nothing. -/
theorem replay_of_kind (h : Each (fun s => s.kind ≠ .column ∧ s.kind ≠ .sequence) xs) :
    n.replay table xs = some n := by
  induction xs with
  | nil => rfl
  | cons s rest ih =>
    obtain ⟨hs, hrest⟩ := List.forall_mem_cons.mp h
    have hown : n.own s = some n := by
      cases s with
      | alter _ change => cases change <;> simp_all [Statement.kind, Change.kind, own, Numbering.change]
      | _ => simp_all [Statement.kind, own]
    rw [replay_cons, step, hown, ite_self, Option.bind_some]
    exact ih hrest

/-! ## One column -/

/-- The numbering with the use of a column that had none. -/
def join (n : Numbering) (c : Column) : Numbering :=
  if c.autoIncrement then ⟨true, n.users ++ [c.name]⟩ else n

theorem others_of_not_mem {name : String} (h : name ∉ n.users) : n.others name = n.users := by
  rw [others, List.filter_eq_self]
  intro user huser
  rw [bne_iff_ne]
  rintro rfl
  exact h huser

/-- The default of a column that did not use the sequence is set after the sequence is made sure
of. -/
theorem setDefault_of_not_mem {c : Column} (h : c.name ∉ n.users) :
    (if c.autoIncrement then (⟨true, n.users⟩ : Numbering) else n).setDefault c = some (n.join c) := by
  cases hc : c.autoIncrement with
  | true => simp [setDefault, join, hc, others_of_not_mem (n := ⟨true, n.users⟩) h]
  | false => simp [setDefault, join, hc, others_of_not_mem h]

/-- Piece by piece only the default matters. -/
theorem replay_piecewiseChange {old new : Column} {type : String} {l : List Statement}
    (h : piecewiseChange table old new type = .ok l) :
    ∃ same, n.replay table l =
      if setsDefault old new same then n.replay table (defaultPieces table old new) else some n := by
  obtain ⟨newType, same, -, -, rfl⟩ := piecewiseChange_iff.mp h
  refine ⟨same, ?_⟩
  rw [replay_append, replay_append]
  have htype : n.replay table (if newType then [.alter table (.setType ⟨new, type⟩)] else []) =
      some n := by
    cases newType <;> simp [replay_cons, step, own, Numbering.change]
  have hnull : n.replay table (if old.nullable != new.nullable then
      [.alter table (.setNullable new.name new.nullable)] else []) = some n := by
    cases old.nullable != new.nullable <;> simp [replay_cons, step, own, Numbering.change]
  rw [htype, Option.bind_some, hnull, Option.bind_some]
  split_ifs <;> rfl

theorem setsDefault_of_ne {old new : Column} (h : old.autoIncrement ≠ new.autoIncrement)
    (same : Bool) : setsDefault old new same = true := by
  simp [setsDefault, h]

end Numbering

/-- Whether the column of this name numbers the rows. -/
def Table.numbersBy (t : Table) (name : String) : Bool :=
  (t.column? name).any fun c => c.autoIncrement

namespace Numbering

variable {table : String} {n : Numbering} {old : Table} {c : Column} {previous : Option String}
  {l : List Statement}

/-- A column that did not number the rows before uses the sequence afterwards if it does so now. -/
theorem replay_columnChange_of_new (hold : old.numbersBy c.name = false) (hfresh : c.name ∉ n.users)
    (h : columnChange .pgsql table false previous (old.column? c.name) c = .ok l) :
    n.replay table l = some (n.join c) := by
  have hset := setDefault_of_not_mem hfresh
  cases hcolumn : old.column? c.name with
  | none =>
    rw [hcolumn] at h
    obtain ⟨typed, htyped, rfl⟩ := columnChange_none_iff.mp h
    have hc := Column.column_of_typed htyped
    cases hauto : c.autoIncrement <;>
      simpa [replay_cons, step, own, Numbering.change, Statement.subject, hc, hauto] using hset
  | some o =>
    have ho : o.autoIncrement = false := by
      simpa [Table.numbersBy, hcolumn] using hold
    rw [hcolumn] at h
    rcases columnChange_some_iff.mp h with ⟨hsame, rfl⟩ | ⟨-, hview, -⟩ | ⟨-, -, hwhole⟩
    · rw [join, ← Column.autoIncrement_of_same? hsame, ho]
      rfl
    · cases hview
    · obtain ⟨typed, -, hpieces⟩ := wholeChange_pgsql_iff.mp hwhole
      obtain ⟨same, hreplay⟩ := replay_piecewiseChange (n := n) hpieces
      rw [hreplay]
      cases hauto : c.autoIncrement with
      | true =>
        rw [if_pos (setsDefault_of_ne (by simp [ho, hauto]) same)]
        simpa [defaultPieces, replay_cons, step, own, Numbering.change, Statement.subject, hauto, ho]
          using hset
      | false =>
        have hjoin : n.join c = n := by simp [join, hauto]
        rw [hjoin]
        split_ifs
        · simpa [defaultPieces, replay_cons, step, own, Numbering.change, Statement.subject, hauto,
            ho, hjoin] using hset
        · rfl

/-- A column that goes on numbering the rows goes on using the sequence. -/
theorem replay_columnChange_of_kept (hold : old.numbersBy c.name = true)
    (hauto : c.autoIncrement = true)
    (h : columnChange .pgsql table false previous (old.column? c.name) c = .ok l) :
    replay table ⟨true, [c.name]⟩ l = some ⟨true, [c.name]⟩ := by
  obtain ⟨o, hcolumn, ho⟩ := (Option.any_eq_true _ _).mp hold
  rw [hcolumn] at h
  rcases columnChange_some_iff.mp h with ⟨-, rfl⟩ | ⟨-, hview, -⟩ | ⟨-, -, hwhole⟩
  · rfl
  · cases hview
  · obtain ⟨typed, -, hpieces⟩ := wholeChange_pgsql_iff.mp hwhole
    obtain ⟨same, hreplay⟩ := replay_piecewiseChange (n := ⟨true, [c.name]⟩) hpieces
    rw [hreplay]
    split_ifs
    · simp [defaultPieces, replay_cons, step, own, Numbering.change, Statement.subject, setDefault,
        others, hauto, ho]
    · rfl

/-- A column that ends numbering the rows takes the sequence with it, unless another column uses
it, and then the drop does not fit. -/
theorem replay_columnChange_of_lost (hold : old.numbersBy c.name = true)
    (hauto : c.autoIncrement = false)
    (h : columnChange .pgsql table false previous (old.column? c.name) c = .ok l) :
    n.replay table l = drop ⟨n.there, n.others c.name⟩ := by
  obtain ⟨o, hcolumn, ho⟩ := (Option.any_eq_true _ _).mp hold
  rw [hcolumn] at h
  have hne : o.autoIncrement ≠ c.autoIncrement := by simp [ho, hauto]
  rcases columnChange_some_iff.mp h with ⟨hsame, -⟩ | ⟨-, hview, -⟩ | ⟨-, -, hwhole⟩
  · exact absurd (Column.autoIncrement_of_same? hsame) hne
  · cases hview
  · obtain ⟨typed, -, hpieces⟩ := wholeChange_pgsql_iff.mp hwhole
    obtain ⟨same, hreplay⟩ := replay_piecewiseChange (n := n) hpieces
    rw [hreplay, if_pos (setsDefault_of_ne hne same)]
    simp [defaultPieces, replay_cons, step, own, Numbering.change, Statement.subject, setDefault,
      hauto, ho]

/-! ## Many columns -/

/-- The numbering with the uses of columns that had none. -/
def joinAll (n : Numbering) (columns : List Column) : Numbering :=
  ⟨n.there || columns.any fun c => c.autoIncrement,
    n.users ++ (columns.filter fun c => c.autoIncrement).map Column.name⟩

theorem joinAll_cons (c : Column) (rest : List Column) :
    (n.join c).joinAll rest = n.joinAll (c :: rest) := by
  cases hc : c.autoIncrement <;> simp [join, joinAll, hc]

/-- Of columns that did not number the rows before those use the sequence that do so now. -/
theorem replay_columnChanges_of_new {columns : List Column}
    (hold : ∀ c ∈ columns, old.numbersBy c.name = false)
    (hnodup : (columns.map Column.name).Nodup) (hfresh : ∀ c ∈ columns, c.name ∉ n.users)
    (h : columnChanges .pgsql old table false previous columns = .ok l) :
    n.replay table l = some (n.joinAll columns) := by
  induction columns generalizing n previous l with
  | nil =>
    cases h
    simp [joinAll]
  | cons c rest ih =>
    obtain ⟨first, others, hfirst, hothers, rfl⟩ := columnChanges_cons_iff.mp h
    rw [List.map_cons, List.nodup_cons] at hnodup
    obtain ⟨hc, hrest⟩ := List.forall_mem_cons.mp hfresh
    have hfresh' : ∀ d ∈ rest, d.name ∉ (n.join c).users := by
      intro d hd
      have hne : d.name ≠ c.name := fun hname => hnodup.1 (hname ▸ List.mem_map_of_mem hd)
      unfold join
      split_ifs
      · simpa [hne] using hrest d hd
      · exact hrest d hd
    rw [replay_append, replay_columnChange_of_new (hold c List.mem_cons_self) hc hfirst,
      Option.bind_some, ← joinAll_cons]
    exact ih (fun d hd => hold d (List.mem_cons_of_mem _ hd)) hnodup.2 hfresh' hothers

/-- Dropping columns that do not use the sequence changes nothing. -/
theorem replay_columnDrops_of_others {new : Table} {columns : List Column}
    (h : ∀ c ∈ columns, c.autoIncrement = false ∧ c.name ∉ n.users) :
    n.replay new.name (columnDrops .pgsql { old with columns := columns } new) = some n := by
  induction columns with
  | nil => rfl
  | cons c rest ih =>
    obtain ⟨⟨hauto, hname⟩, hrest⟩ := List.forall_mem_cons.mp h
    rw [columnDrops, List.flatMap_cons, replay_append]
    refine Eq.trans ?_ (ih hrest)
    have hfirst : n.replay new.name (if (new.column? c.name).isSome then [] else
        .alter new.name (.dropColumn c.name) ::
          if c.autoIncrement && Dialect.pgsql == .pgsql then [.dropSequence new.name] else []) =
        some n := by
      split_ifs
      · rfl
      · simp_all
      · simp [replay_cons, step, own, Numbering.change, Statement.subject, others_of_not_mem hname]
    rw [hfirst, Option.bind_some]
    rfl

end Numbering

/-! ## Tables -/

namespace Table

variable {t old new : Table}

/-- Of columns with distinct names no other one bears the name of this one. -/
theorem name_ne_of_append {pre post : List Column} {c : Column}
    (h : ((pre ++ c :: post).map Column.name).Nodup) : ∀ d ∈ pre ++ post, d.name ≠ c.name := by
  rw [List.map_append, List.map_cons] at h
  obtain ⟨-, hpost, hpre⟩ := List.nodup_append.mp h
  intro d hd hname
  rcases List.mem_append.mp hd with hd | hd
  · exact hpre d.name (List.mem_map_of_mem hd) c.name List.mem_cons_self hname
  · exact (List.nodup_cons.mp hpost).1 (hname ▸ List.mem_map_of_mem hd)

/-- With distinct names a column numbers the rows under its name. -/
theorem numbersBy_name (hnames : (t.columns.map Column.name).Nodup) {c : Column}
    (hc : c ∈ t.columns) : t.numbersBy c.name = c.autoIncrement := by
  rw [numbersBy, column?_name hnames hc, Option.any_some]

/-- With distinct names the rows are numbered by the one column that does so, under its name. -/
theorem numbersBy_iff_of_append (hnames : (t.columns.map Column.name).Nodup) {pre post : List Column}
    {c : Column} (heq : t.columns = pre ++ c :: post) (hauto : c.autoIncrement = true)
    (hothers : ∀ d ∈ pre ++ post, d.autoIncrement = false) {name : String} :
    t.numbersBy name = true ↔ name = c.name := by
  have hc : c ∈ t.columns := by simp [heq]
  constructor
  · intro hnumbers
    rw [numbersBy, Option.any_eq_true] at hnumbers
    obtain ⟨d, hd, hdauto⟩ := hnumbers
    obtain ⟨hmem, rfl⟩ := column?_eq_some hd
    rw [heq, List.mem_append, List.mem_cons] at hmem
    by_contra hne
    have hother : d ∈ pre ++ post := by
      rw [List.mem_append]
      rcases hmem with hpre | rfl | hpost
      · exact Or.inl hpre
      · exact absurd rfl hne
      · exact Or.inr hpost
    rw [hothers d hother] at hdauto
    cases hdauto
  · rintro rfl
    rw [numbersBy_name hnames hc, hauto]

theorem numbersBy_of_none (h : ∀ c ∈ t.columns, c.autoIncrement = false) (name : String) :
    t.numbersBy name = false := by
  rw [numbersBy, Option.any_eq_false]
  intro c hc
  simp [h c (column?_eq_some hc).1]

/-- When neither a column nor one before it numbers the rows, one after it does so if any does. -/
theorem numbersAfter {pre post : List Column} {c : Column} (heq : t.columns = pre ++ c :: post)
    (hpre : ∀ d ∈ pre, d.autoIncrement = false) (hc : c.autoIncrement = false)
    (h : t.autoIncrement?.isSome) : (post.any fun d => d.autoIncrement) = true := by
  rw [autoIncrement?, heq, List.find?_isSome] at h
  obtain ⟨d, hd, hauto⟩ := h
  rw [List.mem_append, List.mem_cons] at hd
  rcases hd with hd | rfl | hd
  · rw [hpre d hd] at hauto
    cases hauto
  · rw [hc] at hauto
    cases hauto
  · exact List.any_eq_true.mpr ⟨d, hd, hauto⟩

/-- The numbering does not move to a column that stands before the one that it is taken from. -/
def NumbersForward (old new : Table) : Prop :=
  new.columns.Pairwise fun c d => c.autoIncrement = true → old.numbersBy d.name = false

/-- Where one column had the numbering, no column before it may have it now. -/
theorem numbersForward_iff_of_append {pre post : List Column} {c : Column}
    (heq : new.columns = pre ++ c :: post) (hc : old.numbersBy c.name = true)
    (hothers : ∀ d ∈ pre ++ post, old.numbersBy d.name = false) :
    NumbersForward old new ↔ ∀ d ∈ pre, d.autoIncrement = false := by
  rw [NumbersForward, heq]
  constructor
  · intro hforward d hd
    by_contra hauto
    have hfalse := (List.pairwise_append.mp hforward).2.2 d hd c List.mem_cons_self
      (eq_true_of_ne_false hauto)
    rw [hc] at hfalse
    cases hfalse
  · intro hpre
    refine List.pairwise_append.mpr ⟨?_, List.pairwise_cons.mpr ⟨?_, ?_⟩, ?_⟩
    · exact List.pairwise_of_forall_mem_list fun d _ e he _ => hothers e (List.mem_append_left _ he)
    · exact fun e he _ => hothers e (List.mem_append_right _ he)
    · exact List.pairwise_of_forall_mem_list fun d _ e he _ => hothers e (List.mem_append_right _ he)
    · intro d hd e _ hauto
      rw [hpre d hd] at hauto
      cases hauto

end Table

namespace Numbering

variable {old new : Table} {n : Numbering} {l : List Statement} {previous : Option String}

/-- The numbering of a table by one of its columns. -/
theorem ofTable_of_append {pre post : List Column} {c : Column}
    (heq : old.columns = pre ++ c :: post) (hauto : c.autoIncrement = true)
    (hothers : ∀ d ∈ pre ++ post, d.autoIncrement = false) : ofTable old = ⟨true, [c.name]⟩ := by
  have hnone : ∀ ds ⊆ pre ++ post, ds.filter (fun d => d.autoIncrement) = [] := by
    intro ds hds
    rw [List.filter_eq_nil_iff]
    intro d hd
    rw [hothers d (hds hd)]
    decide
  have hthere : old.autoIncrement?.isSome = true := by
    rw [Table.autoIncrement?, List.find?_isSome]
    exact ⟨c, by simp [heq], hauto⟩
  rw [ofTable, hthere, heq, List.filter_append, List.filter_cons_of_pos (by simpa using hauto),
    hnone pre (List.subset_append_left _ _), hnone post (List.subset_append_right _ _)]
  rfl

/-- The drops around the column of the numbering have no effect. -/
theorem replay_columnDrops_of_append {pre post : List Column} {c : Column}
    (hnames : (old.columns.map Column.name).Nodup) (heq : old.columns = pre ++ c :: post)
    (hothers : ∀ d ∈ pre ++ post, d.autoIncrement = false) {result : Numbering}
    (hresult : result.users ⊆ [c.name])
    (hown : replay new.name ⟨true, [c.name]⟩
      (columnDrops .pgsql { old with columns := [c] } new) = some result) :
    replay new.name ⟨true, [c.name]⟩ (columnDrops .pgsql old new) = some result := by
  have hquiet (n : Numbering) (hn : n.users ⊆ [c.name]) : ∀ ds ⊆ pre ++ post,
      n.replay new.name (columnDrops .pgsql { old with columns := ds } new) = some n := by
    intro ds hds
    refine replay_columnDrops_of_others fun d hd => ⟨hothers d (hds hd), fun hmem => ?_⟩
    exact Table.name_ne_of_append (heq ▸ hnames) d (hds hd) (List.mem_singleton.mp (hn hmem))
  have hsplit : columnDrops .pgsql old new =
      columnDrops .pgsql { old with columns := pre } new ++
        (columnDrops .pgsql { old with columns := [c] } new ++
          columnDrops .pgsql { old with columns := post } new) := by
    simp only [columnDrops, heq, List.flatMap_append, List.flatMap_cons, List.flatMap_nil,
      List.append_nil]
  rw [hsplit, replay_append, hquiet _ (List.Subset.refl _) _ (List.subset_append_left _ _),
    Option.bind_some, replay_append, hown, Option.bind_some]
  exact hquiet _ hresult _ (List.subset_append_right _ _)

/-- The column of the numbering takes the sequence with it when it is dropped. -/
theorem replay_columnDrops_of_numbered (old new : Table) {c : Column} (hauto : c.autoIncrement = true) :
    replay new.name ⟨true, [c.name]⟩ (columnDrops .pgsql { old with columns := [c] } new) =
      some (if (new.column? c.name).isSome then ⟨true, [c.name]⟩ else ⟨false, []⟩) := by
  split_ifs with hnew
  · simp [columnDrops, hnew]
  · simp [columnDrops, hnew, hauto, replay_cons, step, own, change, others, drop, Statement.subject]

/-- After the drops either nothing of the numbering is left to the new columns, or it is that of
one new column, which had it before. -/
theorem replay_columnDrops (hbuilt : old.IsBuilt) (hnames : (old.columns.map Column.name).Nodup)
    (new : Table) (allowDrop : Bool) :
    ∃ n, (ofTable old).replay new.name (if allowDrop then columnDrops .pgsql old new else []) =
        some n ∧
      ((∀ c ∈ new.columns, old.numbersBy c.name = false ∧ c.name ∉ n.users) ∨
        ∃ c ∈ new.columns, n = ⟨true, [c.name]⟩ ∧
          ∀ d, old.numbersBy d = true ↔ d = c.name) := by
  rcases hbuilt.numbering_cases with hnone | ⟨pre, a, post, heq, hauto, hothers⟩
  · -- No column had the numbering, so there is nothing to lose.
    have hempty : (ofTable old).users = [] := by
      rw [ofTable, List.map_eq_nil_iff, List.filter_eq_nil_iff]
      intro c hc
      rw [hnone c hc]
      decide
    refine ⟨ofTable old, ?_, Or.inl fun c _ => ⟨Table.numbersBy_of_none hnone _, by simp [hempty]⟩⟩
    split_ifs
    · exact replay_columnDrops_of_others fun c hc => ⟨hnone c hc, by simp [hempty]⟩
    · rfl
  · have hnumbers (name : String) : old.numbersBy name = true ↔ name = a.name :=
      Table.numbersBy_iff_of_append hnames heq hauto hothers
    have hown := replay_columnDrops_of_numbered old new hauto
    rw [ofTable_of_append heq hauto hothers]
    cases hnew : new.column? a.name with
    | some c =>
      obtain ⟨hc, hname⟩ := Table.column?_eq_some hnew
      refine ⟨⟨true, [a.name]⟩, ?_, Or.inr ⟨c, hc, by rw [hname], fun d => by rw [hname, hnumbers]⟩⟩
      rw [if_pos (by simp [hnew])] at hown
      split_ifs
      · exact replay_columnDrops_of_append hnames heq hothers (List.Subset.refl _) hown
      · rfl
    | none =>
      have hlost : ∀ c ∈ new.columns, old.numbersBy c.name = false ∧ c.name ≠ a.name := by
        intro c hc
        have hname : c.name ≠ a.name := by
          rintro hname
          rw [Table.column?, List.find?_eq_none] at hnew
          exact hnew c hc (beq_iff_eq.mpr hname)
        exact ⟨Bool.eq_false_iff.mpr fun htrue => hname ((hnumbers _).mp htrue), hname⟩
      rw [if_neg (by simp [hnew])] at hown
      cases allowDrop with
      | false => exact ⟨_, rfl, Or.inl fun c hc => by simpa using hlost c hc⟩
      | true =>
        exact ⟨_, replay_columnDrops_of_append hnames heq hothers (List.nil_subset _) hown,
          Or.inl fun c hc => ⟨(hlost c hc).1, List.not_mem_nil⟩⟩

/-- The changes of columns, up to one of them and after it. -/
theorem columnChanges_append {pre post : List Column}
    (h : columnChanges .pgsql old new.name false previous (pre ++ post) = .ok l) :
    ∃ first middle others, columnChanges .pgsql old new.name false previous pre = .ok first ∧
      columnChanges .pgsql old new.name false middle post = .ok others ∧ l = first ++ others := by
  induction pre generalizing previous l with
  | nil => exact ⟨[], previous, l, rfl, h, rfl⟩
  | cons c rest ih =>
    obtain ⟨change, tail, hchange, htail, rfl⟩ := columnChanges_cons_iff.mp h
    obtain ⟨first, middle, others, hfirst, hothers, rfl⟩ := ih htail
    exact ⟨change ++ first, middle, others,
      columnChanges_cons_iff.mpr ⟨change, first, hchange, hfirst, rfl⟩, hothers,
      (List.append_assoc _ _ _).symm⟩

theorem joinAll_of_none {columns : List Column} (h : ∀ c ∈ columns, c.autoIncrement = false) :
    n.joinAll columns = n := by
  have hany : (columns.any fun c => c.autoIncrement) = false := by
    rw [List.any_eq_false]
    intro c hc
    simp [h c hc]
  have hfilter : (columns.filter fun c => c.autoIncrement) = [] := by
    rw [List.filter_eq_nil_iff]
    intro c hc
    simp [h c hc]
  rw [joinAll, hany, hfilter]
  simp

/-- The users of the sequence when the column that had the numbering loses it. -/
theorem others_joinAll {pre : List Column} {c : Column} (h : ∀ d ∈ pre, d.name ≠ c.name) :
    others (joinAll ⟨true, [c.name]⟩ pre) c.name =
      (pre.filter fun d => d.autoIncrement).map Column.name := by
  have hrest : ∀ name ∈ (pre.filter fun d => d.autoIncrement).map Column.name, name ≠ c.name := by
    intro name hname
    obtain ⟨d, hd, rfl⟩ := List.mem_map.mp hname
    exact h d (List.mem_of_mem_filter hd)
  rw [others, joinAll, List.filter_append, List.filter_eq_self.mpr fun name hname =>
    bne_iff_ne.mpr (hrest name hname)]
  simp

/-- A sequence can be dropped exactly when no column uses it. -/
theorem drop_of_users {there : Bool} {pre : List Column} :
    drop ⟨there, (pre.filter fun d => d.autoIncrement).map Column.name⟩ =
      if ∀ d ∈ pre, d.autoIncrement = false then some ⟨false, []⟩ else none := by
  rw [drop]
  refine if_congr ?_ rfl rfl
  simp [List.isEmpty_iff]

/-- The run over columns one of which had the numbering before.  It fits when no column before that
one has it now, and then the sequence is there if a column has it. -/
theorem replay_columnChanges_of_append {pre post : List Column} {c : Column} (hbuilt : new.IsBuilt)
    (hnames : (new.columns.map Column.name).Nodup) (heq : new.columns = pre ++ c :: post)
    (hc : old.numbersBy c.name = true) (hothers : ∀ d ∈ pre ++ post, old.numbersBy d.name = false)
    (h : columnChanges .pgsql old new.name false none new.columns = .ok l) :
    (∃ n, replay new.name ⟨true, [c.name]⟩ l = some n ∧
        (new.autoIncrement?.isSome → n.there = true)) ↔
      ∀ d ∈ pre, d.autoIncrement = false := by
  rw [heq] at h hnames
  obtain ⟨first, middle, others, hfirst, hrest, rfl⟩ := columnChanges_append h
  obtain ⟨change, last, hchange, hlast, rfl⟩ := columnChanges_cons_iff.mp hrest
  have hne := Table.name_ne_of_append hnames
  rw [List.map_append, List.map_cons] at hnames
  obtain ⟨hpre, hcpost, -⟩ := List.nodup_append.mp hnames
  have hstart := replay_columnChanges_of_new (n := ⟨true, [c.name]⟩)
    (fun d hd => hothers d (List.mem_append_left _ hd)) hpre
    (fun d hd hmem => hne d (List.mem_append_left _ hd) (List.mem_singleton.mp hmem)) hfirst
  have hend {n : Numbering} (hn : n.users ⊆ [c.name]) :
      n.replay new.name last = some (n.joinAll post) :=
    replay_columnChanges_of_new (fun d hd => hothers d (List.mem_append_right _ hd))
      (List.nodup_cons.mp hcpost).2
      (fun d hd hmem => hne d (List.mem_append_right _ hd) (List.mem_singleton.mp (hn hmem))) hlast
  rw [replay_append, hstart, Option.bind_some, replay_append]
  cases hauto : c.autoIncrement with
  | true =>
    -- The column keeps the numbering, so no other one has it.
    have hnone := hbuilt.autoIncrement_of_append heq hauto
    have hquiet : ∀ d ∈ pre, d.autoIncrement = false :=
      fun d hd => hnone d (List.mem_append_left _ hd)
    rw [joinAll_of_none hquiet, replay_columnChange_of_kept hc hauto hchange, Option.bind_some,
      hend (List.Subset.refl _)]
    exact iff_of_true ⟨_, rfl, fun _ => rfl⟩ hquiet
  | false =>
    rw [replay_columnChange_of_lost hc hauto hchange,
      others_joinAll fun d hd => hne d (List.mem_append_left _ hd), drop_of_users]
    split_ifs with hquiet
    · -- The column that numbers the rows now comes after the one that did so before.
      exact iff_of_true ⟨_, hend (List.nil_subset _), Table.numbersAfter heq hquiet hauto⟩ hquiet
    · -- The sequence would be dropped while a column before this one uses it already.
      refine iff_of_false ?_ hquiet
      rintro ⟨n, hn, -⟩
      cases hn

end Numbering

namespace Migration

variable (m : Migration) {table : String} {statements : List Statement} {old new : Table}

/-- **The sequence of a common table under a run.**  The statements fit the sequence, and it is there
afterwards if it is needed, exactly when the numbering does not move to a column before the one that
had it. -/
theorem numbering_after_run (h : m.run.outcome = .ok statements) (hdialect : m.dialect = .pgsql)
    (hcommon : table ∈ m.common) (hlocal : m.databaseOf table = none)
    (hold : m.old.table? table = some old) (hnew : m.new.table? table = some new)
    (holdBuilt : old.IsBuilt) (hnewBuilt : new.IsBuilt)
    (holdNames : (old.columns.map Column.name).Nodup)
    (hnewNames : (new.columns.map Column.name).Nodup) :
    (∃ n, (Numbering.ofTable old).replay table statements = some n ∧
        (new.autoIncrement?.isSome → n.there = true)) ↔
      Table.NumbersForward old new := by
  obtain rfl : new.name = table := (m.new.table?_eq_some hnew).1
  obtain ⟨hchanged, heq⟩ := m.thoseAbout_common h hcommon
  obtain ⟨columns, hcolumns, hparts⟩ := (m.tableChanges_of_local hold hnew hlocal).mp hchanged
  obtain ⟨changes, hchanges, rfl⟩ := tableColumnChanges_iff.mp (hdialect ▸ hcolumns)
  -- The other phases leave columns and sequences alone.
  have hkeys {l : List Statement} (hl : OnKeys new.name l) (n : Numbering) :
      n.replay new.name l = some n := by
    refine Numbering.replay_of_kind (hl.mono fun s hs => ?_)
    rcases hs.2 with hkind | hkind <;> rw [hkind] <;> decide
  have hkey (n : Numbering) : n.replay new.name (primaryKeyChanges old new) = some n := by
    refine Numbering.replay_of_kind ((each_primaryKeyChanges old new).mono fun s hs => ?_)
    rw [hs.2]
    decide
  have hindexes : OnKeys new.name (m.indexChanges new.name) :=
    (m.each_indexChanges new.name).mono fun s hs => ⟨hs.1, Or.inl hs.2⟩
  obtain ⟨n, hdrops, hcases⟩ :=
    Numbering.replay_columnDrops holdBuilt holdNames new m.allow.dropColumn
  have hreplay : (Numbering.ofTable old).replay new.name statements = n.replay new.name changes := by
    rw [← Numbering.replay_thoseAbout, heq, hparts]
    simp only [Numbering.replay_append, hkeys (m.onKeys_staleDrops new.name), hkey, hkeys hindexes,
      hkeys (m.onKeys_keyChanges new.name), Option.bind_some, Option.bind_fun_some, hdrops]
  rw [hreplay]
  rcases hcases with hfresh | ⟨c, hc, rfl, hnumbers⟩
  · -- No new column had the numbering before.
    have hend := Numbering.replay_columnChanges_of_new (fun c hc => (hfresh c hc).1) hnewNames
      (fun c hc => (hfresh c hc).2) hchanges
    refine iff_of_true ⟨_, hend, fun hthere => ?_⟩ ?_
    · rw [Table.autoIncrement?, List.find?_isSome] at hthere
      rw [Numbering.joinAll, List.any_eq_true.mpr hthere, Bool.or_true]
    · exact List.pairwise_of_forall_mem_list fun c _ d hd _ => (hfresh d hd).1
  · obtain ⟨pre, post, hsplit⟩ := List.mem_iff_append.mp hc
    have hothers : ∀ d ∈ pre ++ post, old.numbersBy d.name = false := fun d hd =>
      Bool.eq_false_iff.mpr fun htrue =>
        Table.name_ne_of_append (hsplit ▸ hnewNames) d hd ((hnumbers d.name).mp htrue)
    have hnumbered := (hnumbers c.name).mpr rfl
    rw [Numbering.replay_columnChanges_of_append hnewBuilt hnewNames hsplit hnumbered hothers hchanges,
      Table.numbersForward_iff_of_append hsplit hnumbered hothers]

/-! ## A numbering that moves -/

/-- A column of integers that numbers the rows, or one that does not. -/
def rowNumber (name : String) (numbers : Bool) : Column :=
  ⟨name, .base .integer, 0, 0, !numbers, none, none, numbers, false, none⟩

/-- A table of two columns; the first or the second one numbers the rows. -/
def numberedTable (first second : String) (byFirst : Bool) : Table :=
  ⟨"t", [rowNumber first byFirst, rowNumber second !byFirst],
    some [if byFirst then first else second], none⟩

/-- The numbering of a table moves from its first column to another one, which stands after it in
the new table or before it. -/
def numberingChange (forward : Bool) : Migration where
  old := ⟨[.table (numberedTable "a" "b" true)]⟩
  new := ⟨[.table (if forward then numberedTable "a" "b" false else numberedTable "b" "a" true)]⟩
  deployment := ⟨⟨.pgsql, ""⟩, none, none, .empty⟩
  allow := ⟨false, false, false⟩

/-- The statements of `numberingChange`. -/
def numberingStatements (forward : Bool) : List Statement :=
  let lost := [.alter "t" (.setNullable "a" true), .alter "t" (.setDefault (rowNumber "a" false)),
    .dropSequence "t"]
  let gained := [.alter "t" (.setNullable "b" false), .ensureSequence "t",
    .alter "t" (.setDefault (rowNumber "b" true))]
  (if forward then lost ++ gained else gained ++ lost) ++
    [.alter "t" .dropPrimaryKey, .alter "t" (.addPrimaryKey ["b"])]

/-- The numbering moves to the later column: the old sequence is gone before there is a new one. -/
theorem numbering_by_numberingChange :
    (numberingChange true).run.outcome = .ok (numberingStatements true) ∧
      ∃ n, (Numbering.ofTable (numberedTable "a" "b" true)).replay "t" (numberingStatements true) =
          some n ∧
        ((numberedTable "a" "b" false).autoIncrement?.isSome → n.there = true) := by
  have hrun : (numberingChange true).run.outcome = .ok (numberingStatements true) := rfl
  have hold : (numberedTable "a" "b" true).IsBuilt := rfl
  have hnew : (numberedTable "a" "b" false).IsBuilt := rfl
  refine ⟨hrun, (numbering_after_run _ hrun rfl (by decide) rfl rfl rfl hold hnew (by decide)
    (by decide)).mpr ?_⟩
  -- The columns stand in the order in which the numbering moves.
  simp [Table.NumbersForward, numberedTable, rowNumber]

/-- The numbering moves to the earlier column: the sequence is dropped when that one uses it. -/
theorem sequence_lost_by_numberingChange :
    (numberingChange false).run.outcome = .ok (numberingStatements false) ∧
      "t" ∈ (numberingChange false).common ∧ (numberingChange false).databaseOf "t" = none ∧
      (numberingChange false).old.table? "t" = some (numberedTable "a" "b" true) ∧
      (Numbering.ofTable (numberedTable "a" "b" true)).replay "t" (numberingStatements false) =
        none :=
  ⟨rfl, by decide, rfl, rfl, rfl⟩

end Migration

end SchemaPlan
