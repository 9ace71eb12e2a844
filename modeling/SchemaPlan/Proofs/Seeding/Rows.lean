import Mathlib.Data.List.Forall2
import Mathlib.Logic.Function.Basic
import SchemaPlan.Seeding

/-!
# Statements and rows

What the statements about rows do with the tables of a database: an insertion adds a row, an
insertion with conditions adds it only if no row meets them, and an update sets the columns of every
row that meets its conditions.  A value meets a condition if it is not other than the one that is
asked for, and rows are compared in the same way.

* `Server.set_apply` says what a column holds after values were set.
* `Server.answers_answer` says that a database that looks at its rows answers truly.
* `Server.update_alike_update` compares two updates under the same conditions.
-/
namespace SchemaPlan

/-! ## Comparing -/

theorem differs_self (v : Doc) : differs v v = false := by
  unfold differs
  split_ifs <;> simp

theorem differs_comm (v w : Doc) : differs v w = differs w v := by
  unfold differs
  rw [Bool.or_comm, bne_comm, bne_comm (a := comparable v)]

/-- A row: the value of each column. -/
abbrev Row := String → Doc

/-- Rows that differ in no column. -/
def Row.Alike (row other : Row) : Prop :=
  ∀ column, differs (row column) (other column) = false

theorem Row.Alike.refl (row : Row) : Row.Alike row row :=
  fun column => differs_self (row column)

/-- The rows of each table. -/
abbrev Tables := String → List Row

/-- Tables whose rows are alike one by one. -/
def Tables.Alike (tables others : Tables) : Prop :=
  ∀ table, List.Forall₂ Row.Alike (tables table) (others table)

theorem Tables.Alike.refl (tables : Tables) : Tables.Alike tables tables :=
  fun _ => List.forall₂_same.mpr fun row _ => Row.Alike.refl row

/-! ## What statements do -/

/-- What a database adds to the statements. -/
structure Server where
  /-- The row that an insertion into the table starts from, before its values are set.  It may
  depend on the rows that are there, where rows are numbered. -/
  fresh : String → List Row → Row
  /-- The values of the system variables. -/
  system : SystemReference → Doc

namespace Server

variable (server : Server)

/-- The value that is meant by a value in a statement. -/
def denotes : SqlValue → Doc
  | .null => .null
  | .system reference => server.system reference
  | .quoted content => contentDoc (some content)
  | .plain content => contentDoc (some content)

/-- Whether a row meets conditions. -/
def meets (conditions : List Assignment) (row : Row) : Bool :=
  conditions.all fun a => !differs (row a.column) (server.denotes a.value)

/-- A row with values set, one after the other. -/
def set (row : Row) : List Assignment → Row
  | [] => row
  | a :: values => set (Function.update row a.column (server.denotes a.value)) values

/-- The tables with a row more. -/
def insert (tables : Tables) (table : String) (values : List Assignment) : Tables :=
  Function.update tables table
    (tables table ++ [server.set (server.fresh table (tables table)) values])

/-- The tables with a row more unless there is one that meets the conditions. -/
def insertUnless (tables : Tables) (table : String) (values conditions : List Assignment) : Tables :=
  if (tables table).any (server.meets conditions) then tables
  else server.insert tables table values

/-- The tables with values set in every row that meets the conditions. -/
def update (tables : Tables) (table : String) (values conditions : List Assignment) : Tables :=
  Function.update tables table <| (tables table).map fun row =>
    if server.meets conditions row then server.set row values else row

/-- What a statement makes of the tables; only statements about rows make something. -/
def execute (tables : Tables) : Statement → Option Tables
  | .insert table values => some (server.insert tables table values)
  | .insertUnless table values conditions =>
    some (server.insertUnless tables table values conditions)
  | .update table values conditions => some (server.update tables table values conditions)
  | _ => none

/-- What statements make of the tables, one after the other. -/
def executeAll (tables : Tables) (statements : List Statement) : Option Tables :=
  statements.foldlM server.execute tables

/-- The true answers to a question: a row that meets the conditions, with its values in the columns
that were asked for, or nothing where no row does. -/
inductive Answers (tables : Tables) (q : Query) : Option AnsweredRow → Prop
  | missing (hnone : ∀ row ∈ tables q.table, server.meets q.conditions row = false) :
      Answers tables q none
  | found {row : Row} {answered : AnsweredRow} (hrow : row ∈ tables q.table)
      (hmeets : server.meets q.conditions row = true)
      (hvalues : ∀ column ∈ q.columns, answered.get? column = some (row column)) :
      Answers tables q (some answered)

/-- The answer of a database that takes the first row that meets the conditions. -/
def answer (tables : Tables) (q : Query) : Option AnsweredRow :=
  ((tables q.table).find? (server.meets q.conditions)).map fun row =>
    q.columns.foldl (fun known column => known.put column (row column)) .empty

variable {server} {tables : Tables} {table : String} {values others conditions : List Assignment}

/-! ## Rows -/

theorem meets_iff {row : Row} :
    server.meets conditions row = true ↔
      ∀ a ∈ conditions, differs (row a.column) (server.denotes a.value) = false := by
  simp only [meets, List.all_eq_true, Bool.not_eq_true']

/-- A column holds the value it was set to, and otherwise what it held before. -/
theorem set_apply {column : String} {value : Doc} (row : Row)
    (hvalue : ∀ a ∈ values, a.column = column → server.denotes a.value = value) :
    server.set row values column =
      if column ∈ values.map Assignment.column then value else row column := by
  induction values generalizing row with
  | nil => rfl
  | cons a values ih =>
    obtain ⟨hfirst, hothers⟩ := List.forall_mem_cons.mp hvalue
    rw [set, ih _ hothers, List.map_cons]
    simp only [List.mem_cons]
    by_cases hmem : column ∈ values.map Assignment.column
    · rw [if_pos hmem, if_pos (Or.inr hmem)]
    · rw [if_neg hmem]
      by_cases hsame : column = a.column
      · rw [if_pos (Or.inl hsame), hsame, Function.update_self, hfirst hsame.symm]
      · rw [if_neg (not_or.mpr ⟨hsame, hmem⟩), Function.update_of_ne hsame]

/-- Where at most one row meets conditions, two rows that meet them are the same. -/
theorem eq_of_countP_le_one {rows : List Row} {row other : Row}
    (hone : rows.countP (server.meets conditions) ≤ 1) (hrow : row ∈ rows) (hother : other ∈ rows)
    (hmeets : server.meets conditions row = true) (hmeets' : server.meets conditions other = true) :
    row = other := by
  have hmem := List.mem_filter.mpr ⟨hrow, hmeets⟩
  have hmem' := List.mem_filter.mpr ⟨hother, hmeets'⟩
  rw [List.countP_eq_length_filter] at hone
  rcases hrows : rows.filter (server.meets conditions) with _ | ⟨only, _ | ⟨second, more⟩⟩
  · rw [hrows] at hmem
    exact absurd hmem List.not_mem_nil
  · rw [hrows, List.mem_singleton] at hmem hmem'
    rw [hmem, hmem']
  · rw [hrows] at hone
    exact absurd hone (by simp)

/-! ## Answers -/

/-- Of the columns that are put into a row each holds its value, and the other ones what they held
before. -/
theorem get?_foldl_put (value : Row) (columns : List String) (known : AnsweredRow)
    (column : String) :
    (columns.foldl (fun known column => known.put column (value column)) known).get? column =
      if column ∈ columns then some (value column) else known.get? column := by
  induction columns generalizing known with
  | nil => rfl
  | cons first columns ih =>
    rw [List.foldl_cons, ih, Ordered.get?_put]
    simp only [List.mem_cons]
    by_cases hmem : column ∈ columns
    · rw [if_pos hmem, if_pos (Or.inr hmem)]
    · by_cases hfirst : column = first
      · rw [if_neg hmem, if_pos hfirst, if_pos (Or.inl hfirst), hfirst]
      · rw [if_neg hmem, if_neg hfirst, if_neg (not_or.mpr ⟨hfirst, hmem⟩)]

/-- A database that looks at its rows answers truly. -/
theorem answers_answer (server : Server) (tables : Tables) (q : Query) :
    server.Answers tables q (server.answer tables q) := by
  rcases hfind : (tables q.table).find? (server.meets q.conditions) with _ | row
  · rw [answer, hfind]
    refine .missing fun row hrow => ?_
    simpa using List.find?_eq_none.mp hfind row hrow
  · rw [answer, hfind]
    have hmeets := List.find?_some hfind
    refine .found (List.mem_of_find?_eq_some hfind) hmeets ?_
    intro column hcolumn
    rw [get?_foldl_put, if_pos hcolumn]

/-! ## Tables -/

theorem insertUnless_of_any (h : (tables table).any (server.meets conditions) = true) :
    server.insertUnless tables table values conditions = tables :=
  if_pos h

theorem insertUnless_of_not_any (h : (tables table).any (server.meets conditions) = false) :
    server.insertUnless tables table values conditions = server.insert tables table values := by
  rw [insertUnless, if_neg (Bool.eq_false_iff.mp h)]

/-- An update that sets nothing leaves the tables as they are. -/
theorem update_nil : server.update tables table [] conditions = tables := by
  have hsame : (fun row : Row => if server.meets conditions row then server.set row [] else row) =
      id := by
    funext row
    exact ite_self row
  rw [update, hsame, List.map_id, Function.update_eq_self]

/-- Two updates under the same conditions leave tables alike if they make the rows that meet the
conditions alike. -/
theorem update_alike_update
    (h : ∀ row ∈ tables table, server.meets conditions row = true →
      Row.Alike (server.set row values) (server.set row others)) :
    Tables.Alike (server.update tables table values conditions)
      (server.update tables table others conditions) := by
  intro other
  rw [update, update]
  by_cases hother : other = table
  · subst hother
    rw [Function.update_self, Function.update_self, List.forall₂_map_left_iff,
      List.forall₂_map_right_iff]
    refine List.forall₂_same.mpr ?_
    intro row hrow
    by_cases hmeets : server.meets conditions row = true
    · rw [if_pos hmeets, if_pos hmeets]
      exact h row hrow hmeets
    · rw [if_neg hmeets, if_neg hmeets]
      exact Row.Alike.refl row
  · rw [Function.update_of_ne hother, Function.update_of_ne hother]
    exact Tables.Alike.refl tables other

/-- An update leaves tables alike if it makes no row that meets its conditions different. -/
theorem update_alike
    (h : ∀ row ∈ tables table, server.meets conditions row = true →
      Row.Alike (server.set row values) row) :
    Tables.Alike (server.update tables table values conditions) tables := by
  have halike : Tables.Alike (server.update tables table values conditions)
      (server.update tables table [] conditions) := update_alike_update h
  rwa [update_nil] at halike

end Server

end SchemaPlan
