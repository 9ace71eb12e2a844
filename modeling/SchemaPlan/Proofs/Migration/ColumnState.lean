import SchemaPlan.Proofs.Column.DefaultText
import SchemaPlan.Proofs.Column.Typed
import SchemaPlan.Proofs.Migration.Columns
import SchemaPlan.Proofs.Schema.Equality

/-!
# A column that is changed piece by piece

What a definition says of a column is its type, whether it may be null, and its default.  Changed
piece by piece, a column should end with what its new definition says.

* `ColumnState.replay` reads statements as what they do to a column of a table.
* `ColumnState.replay_piecewiseChange` is the state that a change ends with.
* `ColumnState.agrees_after_piecewiseChange` says when that state is the one of the new definition:
  always, except that a default that stays the same is not set anew, although the new type may ask
  for another spelling of it.
-/
namespace SchemaPlan

/-- What the definition of a column says: its type, whether it may be null, and its default. -/
structure ColumnState where
  type : String
  nullable : Bool
  default : String

namespace ColumnState

/-- The state that the definition of a column describes. -/
def of (c : TypedColumn) (table : String) (t : Target) : ColumnState :=
  ⟨c.type, c.column.nullable, c.column.defaultSql table t⟩

/-- A definition has the name of the column and the words of the state. -/
theorem sql_eq_words (c : TypedColumn) (table : String) (t : Target) :
    c.sql table t = " ".intercalate ([c.column.name, (of c table t).type] ++
      (if (of c table t).nullable then [] else ["not null"]) ++ [(of c table t).default]) := by
  cases hnull : c.column.nullable <;>
    simp [TypedColumn.sql, Column.definitionWith, Column.tail, Column.Parts.all, of, hnull]

/-- What a change of the table does to this column. -/
def change (table column : String) (t : Target) (state : ColumnState) : Change → ColumnState
  | .setType c => if c.column.name = column then { state with type := c.type } else state
  | .setNullable name nullable => if name = column then { state with nullable } else state
  | .setDefault c =>
    if c.name = column then { state with default := c.defaultSql table t } else state
  | _ => state

/-- What a statement does to this column of this table. -/
def step (table column : String) (t : Target) (state : ColumnState) : Statement → ColumnState
  | .alter owner c => if owner = table then state.change table column t c else state
  | _ => state

/-- What statements do to this column of this table, one after the other. -/
def replay (table column : String) (t : Target) (state : ColumnState) (statements : List Statement) :
    ColumnState :=
  statements.foldl (step table column t) state

/-- Two default clauses are the same text, or numerals of one value. -/
def ClausesAgree (a b : String) : Prop :=
  a = b ∨ ∃ x y : Decimal, x.sameValue? y = some true ∧
    a = "default " ++ x.toFixed ∧ b = "default " ++ y.toFixed

/-- Two states are the same, numerals compared by value. -/
structure Agrees (a b : ColumnState) : Prop where
  type : a.type = b.type
  nullable : a.nullable = b.nullable
  default : ClausesAgree a.default b.default

end ColumnState

/-! ## Types -/

namespace BaseType

variable {t : BaseType} {a b : TypeFacts}

theorem sql_of_isBinary (h : t.isBinary = true) (facts : TypeFacts) :
    t.sql facts .pgsql = "bytea" := by
  cases t <;> first | rfl | cases h

/-- A type is written with its two numbers, and with a third fact only where there is one. -/
theorem sql_congr (hsize : a.size = b.size) (hscale : a.scale = b.scale)
    (hzone : t = .datetime → a.withTimeZone = b.withTimeZone)
    (hvalues : t = .enum → a.values = b.values) (d : Dialect) : t.sql a d = t.sql b d := by
  cases t <;> simp_all [sql]

end BaseType

variable {old new : Column} {s t : BaseType} {o n : TypedColumn}

theorem Column.type_of_typed {d : Dialect} (ht : new.type = .base t) (h : new.typed d = .ok n) :
    n.type = t.sql new.facts d := by
  obtain ⟨type, htype, -, rfl⟩ := Column.typed_eq_ok_iff.mp h
  rw [Column.sqlType, ht] at htype
  obtain ⟨-, -, rfl⟩ := (bind_pure_eq_ok_iff _ _ _).mp htype
  rfl

theorem typeChanges_of_base (hs : old.type = .base s) (ht : new.type = .base t) :
    typeChanges old new =
      .ok (!(s.isBinary && t.isBinary) &&
        (s != t || (t == .datetime && old.withTimeZone != new.withTimeZone) ||
          old.size != new.size || old.scale != new.scale ||
          (t == .enum && old.enumValues != new.enumValues))) := by
  have hkey : old.type.isKey = true := by rw [hs]; rfl
  rw [typeChanges, hkey, hs, ht]
  rfl

/-- A type that is not changed is written as before. -/
theorem sql_of_no_typeChange (hs : old.type = .base s) (ht : new.type = .base t)
    (h : typeChanges old new = .ok false) : s.sql old.facts .pgsql = t.sql new.facts .pgsql := by
  rw [typeChanges_of_base hs ht, Except.ok.injEq, Bool.and_eq_false_iff] at h
  rcases h with hbinary | hsame
  · rw [Bool.not_eq_false', Bool.and_eq_true] at hbinary
    rw [BaseType.sql_of_isBinary hbinary.1, BaseType.sql_of_isBinary hbinary.2]
  · simp only [Bool.or_eq_false_iff, Bool.and_eq_false_iff, bne_eq_false_iff_eq, beq_eq_false_iff_ne] at hsame
    obtain ⟨⟨⟨⟨rfl, hzone⟩, hsize⟩, hscale⟩, hvalues⟩ := hsame
    refine BaseType.sql_congr (by simp [Column.facts, hsize]) (by simp [Column.facts, hscale]) ?_ ?_ _
    · intro hdatetime
      exact hzone.resolve_left fun hne => hne hdatetime
    · intro henum
      exact congrArg (Option.getD · []) (hvalues.resolve_left fun hne => hne henum)

/-! ## Defaults -/

/-- The default of a column stays what it is and is spelled otherwise for its new type. -/
def DefaultShifts (old new : Column) : Prop :=
  (old.autoIncrement = false ∧ new.autoIncrement = false) ∧
    (old.systemDefault = none ∧ new.systemDefault = none) ∧
    ∃ v s t, (old.default = some v ∧ new.default = some v) ∧
      (old.type = .base s ∧ new.type = .base t) ∧ ¬ v.SpelledAlike s t

/-- A default that shifts is not set anew. -/
theorem setsDefault_of_shifts {same : Bool} (h : DefaultShifts old new)
    (hsame : sameDefault? old.default new.default = some same) : setsDefault old new same = false := by
  obtain ⟨⟨hold, hnew⟩, ⟨holdSystem, hnewSystem⟩, v, s, t, ⟨hv, hv'⟩, -, hspelled⟩ := h
  have htrue : same = true := by
    rw [hv, hv', sameDefault?] at hsame
    cases v with
    | text x => simpa [Literal.same?] using hsame.symm
    | bytes x => simpa [Literal.same?] using hsame.symm
    | int x => exact absurd trivial hspelled
    | decimal x => exact absurd trivial hspelled
  simp [setsDefault, hold, hnew, holdSystem, hnewSystem, htrue]

/-- Literals that are equal have one spelling up to the value of a numeral, unless they are text
that is spelled otherwise for the other type. -/
theorem clausesAgree_iff_of_same {v w : Literal} (h : v.same? w = some true) :
    ColumnState.ClausesAgree ("default " ++ v.sql (.base s) .pgsql)
        ("default " ++ w.sql (.base t) .pgsql) ↔ v.SpelledAlike s t := by
  cases hnumber : v.number? with
  | some x =>
    obtain ⟨y, hy, hsame⟩ := (Literal.same?_of_number hnumber).mp h
    refine iff_of_true (Or.inr ⟨x, y, hsame, ?_, ?_⟩) ?_
    · rw [Literal.sql_of_number hnumber]
    · rw [Literal.sql_of_number hy]
    · cases v with
      | text _ => cases hnumber
      | bytes _ => cases hnumber
      | int _ => trivial
      | decimal _ => trivial
  | none =>
    have heq : v = w := by
      cases v <;> cases w <;> simp_all [Literal.same?, Literal.number?]
    subst heq
    rw [← Literal.sql_eq_iff]
    constructor
    · rintro (hclause | ⟨x, y, -, hx, -⟩)
      · exact String.append_right_inj _ |>.mp hclause
      · exact absurd (String.append_right_inj _ |>.mp hx) (Literal.sql_ne_toFixed hnumber x)
    · exact fun hsql => Or.inl (congrArg _ hsql)

/-- The clause of a literal default; none is the null of the database. -/
def literalClause (value : Option Literal) (t : BaseType) : String :=
  match value with
  | some v => "default " ++ v.sql (.base t) .pgsql
  | none => "default NULL"

theorem plainDefaultSql_of_none (h : new.systemDefault = none) (ht : new.type = .base t) :
    new.plainDefaultSql .pgsql = literalClause new.default t := by
  rw [Column.plainDefaultSql, h, ht]
  cases new.default <;> rfl

/-- Defaults that are equal have clauses that agree, unless both are the same text and it is spelled
otherwise for the other type. -/
theorem clausesAgree_iff_of_sameDefault {a b : Option Literal} (h : sameDefault? a b = some true) :
    ColumnState.ClausesAgree (literalClause a s) (literalClause b t) ↔
      ¬ ∃ v, (a = some v ∧ b = some v) ∧ ¬ v.SpelledAlike s t := by
  cases a with
  | none =>
    cases b with
    | none => exact iff_of_true (Or.inl rfl) (by simp)
    | some w => cases h
  | some v =>
    cases b with
    | none => cases h
    | some w =>
      refine (clausesAgree_iff_of_same h).trans ⟨?_, fun hnone => ?_⟩
      · rintro hspelled ⟨u, ⟨hu, -⟩, hnot⟩
        cases hu
        exact hnot hspelled
      · by_contra hnot
        -- Only text is spelled in two ways, and equal text is the same text.
        have heq : v = w := by
          cases v with
          | text x => cases w <;> simp_all [sameDefault?, Literal.same?, Literal.number?]
          | bytes x => cases w <;> simp_all [sameDefault?, Literal.same?, Literal.number?]
          | int x => exact absurd trivial hnot
          | decimal x => exact absurd trivial hnot
        exact hnone ⟨v, ⟨rfl, congrArg some heq.symm⟩, hnot⟩

/-- A default that is not set anew agrees with the new one unless it shifts. -/
theorem clausesAgree_iff_of_kept {table : String} {target : Target} {same : Bool}
    (hdialect : target.dialect = .pgsql) (hs : old.type = .base s) (ht : new.type = .base t)
    (hsame : sameDefault? old.default new.default = some same)
    (hkept : setsDefault old new same = false) :
    ColumnState.ClausesAgree (old.defaultSql table target) (new.defaultSql table target) ↔
      ¬ DefaultShifts old new := by
  simp only [setsDefault, Bool.or_eq_false_iff, Bool.not_eq_false', bne_eq_false_iff_eq] at hkept
  obtain ⟨⟨rfl, hsystem⟩, hauto⟩ := hkept
  rw [Column.defaultSql, Column.defaultSql, hdialect, ← hauto]
  cases hnumbers : old.autoIncrement with
  | true => exact iff_of_true (Or.inl rfl) (by simp [DefaultShifts, hnumbers])
  | false =>
    rw [if_neg Bool.false_ne_true, if_neg Bool.false_ne_true]
    cases hreference : old.systemDefault with
    | some reference =>
      have hclause : old.plainDefaultSql .pgsql = new.plainDefaultSql .pgsql := by
        rw [Column.plainDefaultSql, Column.plainDefaultSql, ← hsystem, hreference]
      exact iff_of_true (Or.inl hclause) (by simp [DefaultShifts, hreference])
    | none =>
      rw [plainDefaultSql_of_none hreference hs, plainDefaultSql_of_none (hsystem ▸ hreference) ht,
        clausesAgree_iff_of_sameDefault hsame]
      simp [DefaultShifts, hnumbers, ← hauto, hreference, ← hsystem, hs, ht]

/-! ## The change of a column -/

namespace ColumnState

/-- The state that a change of a column ends with. -/
theorem replay_piecewiseChange {table type : String} {l : List Statement} (target : Target)
    (state : ColumnState) (hname : old.name = new.name)
    (h : piecewiseChange table old new type = .ok l) :
    ∃ newType same, typeChanges old new = .ok newType ∧
      sameDefault? old.default new.default = some same ∧
      state.replay table old.name target l =
        ⟨if newType then type else state.type,
          if old.nullable != new.nullable then new.nullable else state.nullable,
          if setsDefault old new same then new.defaultSql table target else state.default⟩ := by
  obtain ⟨newType, same, htype, hsame, rfl⟩ := piecewiseChange_iff.mp h
  refine ⟨newType, same, htype, hsame, ?_⟩
  rw [replay, List.foldl_append, List.foldl_append]
  have hfirst : (if newType then [.alter table (.setType ⟨new, type⟩)] else []).foldl
      (step table old.name target) state =
      ⟨if newType then type else state.type, state.nullable, state.default⟩ := by
    cases newType <;> simp [step, change, hname]
  have hsecond (u : ColumnState) : (if old.nullable != new.nullable then
      [.alter table (.setNullable new.name new.nullable)] else []).foldl
      (step table old.name target) u =
      ⟨u.type, if old.nullable != new.nullable then new.nullable else u.nullable, u.default⟩ := by
    cases old.nullable != new.nullable <;> simp [step, change, hname]
  have hthird (u : ColumnState) : (defaultPieces table old new).foldl
      (step table old.name target) u = ⟨u.type, u.nullable, new.defaultSql table target⟩ := by
    -- What is done to the sequence is not seen in the column.
    cases hold : old.autoIncrement <;> cases hnew : new.autoIncrement <;>
      simp [defaultPieces, step, change, hname, hold, hnew]
  rw [hfirst, hsecond]
  cases setsDefault old new same with
  | true => rw [if_pos rfl, hthird]; simp
  | false => simp

/-- A regular column that is changed piece by piece has the type of its new definition and may be
null when that says so; its default is the old one or the new one. -/
theorem state_after_piecewiseChange (target : Target) (hold : old.IsRegular) (hnew : new.IsRegular)
    (hname : old.name = new.name) (ho : old.typed .pgsql = .ok o) (hn : new.typed .pgsql = .ok n)
    (table : String) :
    ∃ l same, piecewiseChange table old new n.type = .ok l ∧
      sameDefault? old.default new.default = some same ∧
      (of o table target).replay table old.name target l = ⟨n.type, new.nullable,
        if setsDefault old new same then new.defaultSql table target
        else old.defaultSql table target⟩ := by
  obtain ⟨s, hs⟩ := hold.supported
  obtain ⟨t, ht⟩ := hnew.supported
  obtain ⟨same, hsame⟩ := Option.ne_none_iff_exists'.mp (hold.sameDefault?_ne_none hnew)
  obtain ⟨newType, htype⟩ : ∃ newType, typeChanges old new = .ok newType :=
    ⟨_, typeChanges_of_base hs ht⟩
  obtain ⟨l, hl⟩ : ∃ l, piecewiseChange table old new n.type = .ok l :=
    ⟨_, piecewiseChange_iff.mpr ⟨newType, same, htype, hsame, rfl⟩⟩
  obtain ⟨newType', same', htype', hsame', hreplay⟩ :=
    replay_piecewiseChange target (of o table target) hname hl
  rw [htype, Except.ok.injEq] at htype'
  rw [hsame, Option.some.injEq] at hsame'
  subst htype' hsame'
  have hendType : (if newType then n.type else (of o table target).type) = n.type := by
    cases newType with
    | true => rfl
    | false =>
      rw [if_neg Bool.false_ne_true, Column.type_of_typed ht hn]
      exact (Column.type_of_typed hs ho).trans (sql_of_no_typeChange hs ht htype)
  have hoColumn := Column.column_of_typed ho
  have hendNull : (if old.nullable != new.nullable then new.nullable
      else (of o table target).nullable) = new.nullable := by
    split_ifs with h
    · rfl
    · rw [of, hoColumn]
      simpa using h
  have holdDefault : (of o table target).default = old.defaultSql table target := by
    rw [of, hoColumn]
  exact ⟨l, same, hl, hsame, by rw [hreplay, hendType, hendNull, holdDefault]⟩

/-- **A column changed piece by piece** gets the type of its new definition and may be null when that
says so.  Its default is the one of the new definition too, exactly when it does not shift. -/
theorem agrees_after_piecewiseChange (target : Target) (hdialect : target.dialect = .pgsql)
    (hold : old.IsRegular) (hnew : new.IsRegular) (hname : old.name = new.name)
    (ho : old.typed .pgsql = .ok o) (hn : new.typed .pgsql = .ok n) (table : String) :
    ∃ l, piecewiseChange table old new n.type = .ok l ∧
      ((of o table target).replay table old.name target l).type = (of n table target).type ∧
      ((of o table target).replay table old.name target l).nullable = (of n table target).nullable ∧
      (((of o table target).replay table old.name target l).Agrees (of n table target) ↔
        ¬ DefaultShifts old new) := by
  obtain ⟨l, same, hl, hsame, hreplay⟩ :=
    state_after_piecewiseChange target hold hnew hname ho hn table
  have hend : of n table target = ⟨n.type, new.nullable, new.defaultSql table target⟩ := by
    rw [of, Column.column_of_typed hn]
  refine ⟨l, hl, by rw [hreplay, hend], by rw [hreplay, hend], ?_⟩
  rw [hreplay, hend]
  cases hset : setsDefault old new same with
  | true =>
    refine iff_of_true ⟨rfl, rfl, Or.inl rfl⟩ fun hshift => ?_
    rw [setsDefault_of_shifts hshift hsame] at hset
    cases hset
  | false =>
    obtain ⟨s, hs⟩ := hold.supported
    obtain ⟨t, ht⟩ := hnew.supported
    rw [if_neg Bool.false_ne_true, ← clausesAgree_iff_of_kept hdialect hs ht hsame hset]
    exact ⟨fun h => h.default, fun h => ⟨rfl, rfl, h⟩⟩

/-! ## A text that becomes a date -/

/-- A column that must have a value and has the empty text as its default. -/
def emptyColumn (t : BaseType) : Column :=
  ⟨"c", .base t, 0, 0, false, some (.text ""), none, false, false, none⟩

/-- A column that may be null and has no default. -/
def freeColumn (t : BaseType) : Column :=
  ⟨"c", .base t, 0, 0, true, none, none, false, false, none⟩

/-- A date without a default becomes a text with one. -/
theorem text_from_date :
    (freeColumn .date).typed .pgsql = .ok ⟨freeColumn .date, "date"⟩ ∧
      (emptyColumn .text).typed .pgsql = .ok ⟨emptyColumn .text, "text"⟩ ∧
      ∃ l, piecewiseChange "t" (freeColumn .date) (emptyColumn .text) "text" = .ok l ∧
        ((of ⟨freeColumn .date, "date"⟩ "t" ⟨.pgsql, ""⟩).replay "t" "c" ⟨.pgsql, ""⟩ l).Agrees
          (of ⟨emptyColumn .text, "text"⟩ "t" ⟨.pgsql, ""⟩) := by
  have hdate : (freeColumn .date).typed .pgsql = .ok ⟨freeColumn .date, "date"⟩ := rfl
  have htext : (emptyColumn .text).typed .pgsql = .ok ⟨emptyColumn .text, "text"⟩ := rfl
  have hold : (freeColumn .date).IsRegular := ⟨⟨.date, rfl⟩, fun d hd => by cases hd⟩
  have hnew : (emptyColumn .text).IsRegular := ⟨⟨.text, rfl⟩, fun d hd => by cases hd⟩
  obtain ⟨l, hl, -, -, hagrees⟩ :=
    agrees_after_piecewiseChange ⟨.pgsql, ""⟩ rfl hold hnew rfl hdate htext "t"
  refine ⟨hdate, htext, l, hl, hagrees.mpr ?_⟩
  rintro ⟨-, -, v, -, -, ⟨hv, -⟩, -⟩
  cases hv

/-- A text with the empty default becomes a date, and its default stays the empty text. -/
theorem empty_date_from_text :
    (emptyColumn .text).typed .pgsql = .ok ⟨emptyColumn .text, "text"⟩ ∧
      (emptyColumn .date).typed .pgsql = .ok ⟨emptyColumn .date, "date"⟩ ∧
      piecewiseChange "t" (emptyColumn .text) (emptyColumn .date) "date" =
        .ok [.alter "t" (.setType ⟨emptyColumn .date, "date"⟩)] ∧
      ¬ ((of ⟨emptyColumn .text, "text"⟩ "t" ⟨.pgsql, ""⟩).replay "t" "c" ⟨.pgsql, ""⟩
          [.alter "t" (.setType ⟨emptyColumn .date, "date"⟩)]).Agrees
        (of ⟨emptyColumn .date, "date"⟩ "t" ⟨.pgsql, ""⟩) := by
  refine ⟨rfl, rfl, rfl, fun h => ?_⟩
  have hclauses : ClausesAgree (literalClause (some (.text "")) .text)
      (literalClause (some (.text "")) .date) := h.default
  rw [clausesAgree_iff_of_sameDefault rfl] at hclauses
  exact hclauses ⟨.text "", ⟨rfl, rfl⟩, by simp [Literal.SpelledAlike, BaseType.temporal?]⟩

end ColumnState

end SchemaPlan
