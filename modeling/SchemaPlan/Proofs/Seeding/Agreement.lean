import SchemaPlan.Proofs.Noted
import SchemaPlan.Proofs.Seeding.Rows

/-!
# Two ways to a seed row

The statements that are made without a database and those that are made with its answer leave the
same rows, as far as values are told apart.

* `SeedRow.meets_conditions_iff` says which rows the conditions of a seed row ask for.
* `SeedRow.alike_set_changed` says that setting what differs is as good as setting everything.
* `SeedRow.executeAll_blindStatements` and `SeedRow.executeAll_awareStatements` say what the
  statements do.
* `SeedRow.isPresent_of_blindStatements` says what is left.
* `SeedRow.strategies_alike` says that both leave the same.
-/
namespace SchemaPlan

namespace SeedRow

/-- The value that a column of this name is to have. -/
def wanted (contents : Contents) (column : String) : Doc :=
  contentDoc ((contents.get? column).getD none)

variable {server : Server} {tables : Tables} {r : SeedRow} {contents : Contents} {row : Row}

/-! ## Values and conditions -/

/-- What is written for a content means it. -/
theorem denotes_value {c : SeedColumn} (h : c.source.isSystem = false) (content : Option Content) :
    server.denotes (c.value content) = contentDoc content := by
  obtain ⟨name, source, quoted⟩ := c
  rcases source with value | file | reference
  · rcases content with _ | content
    · rfl
    · rcases quoted <;> rfl
  · rcases content with _ | content <;> rfl
  · cases h

theorem denotes_assign {c : SeedColumn} (h : c.source.isSystem = false) :
    server.denotes (assign contents c).value = wanted contents c.name :=
  denotes_value h _

/-- The columns that are written hold their contents, the other ones what they held before. -/
theorem set_assign {columns : List SeedColumn} (hplain : ∀ c ∈ columns, c.source.isSystem = false)
    (row : Row) (column : String) :
    server.set row (columns.map (assign contents)) column =
      if column ∈ columns.map SeedColumn.name then wanted contents column else row column := by
  have hnames : (columns.map (assign contents)).map Assignment.column =
      columns.map SeedColumn.name := by
    rw [List.map_map]
    rfl
  rw [← hnames]
  refine Server.set_apply row ?_
  intro a ha hcolumn
  obtain ⟨c, hc, rfl⟩ := List.mem_map.mp ha
  rw [denotes_assign (hplain c hc), ← hcolumn]
  rfl

theorem column?_eq_some {name : String} {c : SeedColumn} (h : r.column? name = some c) :
    c ∈ r.columns ∧ c.name = name :=
  ⟨List.mem_of_find?_eq_some h, by simpa using List.find?_some h⟩

/-- A key column gives a condition; of several columns of one name the first one counts. -/
theorem exists_condition (hplain : ∀ c ∈ r.columns, c.source.isSystem = false) {c : SeedColumn}
    (hc : c ∈ r.columns) (hkey : c.name ∈ r.keys) :
    ∃ first ∈ r.columns, first.name = c.name ∧ assign contents first ∈ r.conditions contents := by
  have hfound : (r.column? c.name).isSome := by
    rw [column?, List.find?_isSome]
    exact ⟨c, hc, beq_self_eq_true c.name⟩
  obtain ⟨first, hfirst⟩ := Option.isSome_iff_exists.mp hfound
  obtain ⟨hmem, hname⟩ := column?_eq_some hfirst
  refine ⟨first, hmem, hname, List.mem_filterMap.mpr ⟨c.name, hkey, ?_⟩⟩
  simp only [keyCondition?, hfirst, hplain first hmem, Bool.false_eq_true, if_false]

/-- The conditions ask for the contents of the key columns. -/
theorem meets_conditions_iff (hplain : ∀ c ∈ r.columns, c.source.isSystem = false) :
    server.meets (r.conditions contents) row = true ↔
      ∀ c ∈ r.columns, c.name ∈ r.keys → differs (row c.name) (wanted contents c.name) = false := by
  rw [Server.meets_iff]
  constructor
  · intro h c hc hkey
    obtain ⟨first, hfirst, hname, hcondition⟩ := exists_condition hplain hc hkey
    have hmet := h _ hcondition
    rw [denotes_assign (hplain first hfirst)] at hmet
    rw [← hname]
    exact hmet
  · intro h a ha
    obtain ⟨key, hkey, hcondition⟩ := List.mem_filterMap.mp ha
    rcases hfound : r.column? key with _ | c
    · simp [keyCondition?, hfound] at hcondition
    · obtain ⟨hc, rfl⟩ := column?_eq_some hfound
      simp only [keyCondition?, hfound, hplain c hc, Bool.false_eq_true, if_false,
        Option.some.injEq] at hcondition
      subst hcondition
      rw [denotes_assign (hplain c hc)]
      exact h c hc hkey

theorem conditions_ne_nil (hplain : ∀ c ∈ r.columns, c.source.isSystem = false)
    (hkey : ∃ c ∈ r.columns, c.name ∈ r.keys) : r.conditions contents ≠ [] := by
  obtain ⟨c, hc, hname⟩ := hkey
  obtain ⟨first, -, -, hcondition⟩ := exists_condition hplain hc hname
  exact List.ne_nil_of_mem hcondition

/-! ## Rows that are written -/

/-- A row in which everything was set meets the conditions. -/
theorem meets_set (hplain : ∀ c ∈ r.columns, c.source.isSystem = false) (row : Row) :
    server.meets (r.conditions contents) (server.set row (r.assignments contents)) = true := by
  refine (meets_conditions_iff hplain).mpr ?_
  intro c hc _
  rw [assignments, set_assign hplain, if_pos (List.mem_map_of_mem hc)]
  exact differs_self _

/-- Setting everything again changes nothing. -/
theorem set_set (hplain : ∀ c ∈ r.columns, c.source.isSystem = false) (row : Row) :
    server.set (server.set row (r.assignments contents)) (r.assignments contents) =
      server.set row (r.assignments contents) := by
  funext column
  simp only [assignments, set_assign hplain]
  split_ifs <;> rfl

/-- In a row that meets the conditions, setting what differs is as good as setting everything. -/
theorem alike_set_changed (hplain : ∀ c ∈ r.columns, c.source.isSystem = false)
    {answered : AnsweredRow} (hmeets : server.meets (r.conditions contents) row = true)
    (hvalues : ∀ column ∈ r.columns.map SeedColumn.name,
      answered.get? column = some (row column)) :
    Row.Alike (server.set row (r.assignments contents))
      (server.set row ((r.changed contents answered).map (assign contents))) := by
  intro column
  have hchanged : ∀ c ∈ r.changed contents answered, c ∈ r.columns := by
    intro c hc
    exact List.mem_of_mem_filter hc
  rw [assignments, set_assign hplain, set_assign fun c hc => hplain c (hchanged c hc)]
  by_cases hmem : column ∈ r.columns.map SeedColumn.name
  · rw [if_pos hmem]
    by_cases hset : column ∈ (r.changed contents answered).map SeedColumn.name
    · rw [if_pos hset]
      exact differs_self _
    · -- A column that is not set again is a key or holds its content already.
      rw [if_neg hset, differs_comm]
      obtain ⟨c, hc, rfl⟩ := List.mem_map.mp hmem
      by_cases hkey : c.name ∈ r.keys
      · exact (meets_conditions_iff hplain).mp hmeets c hc hkey
      · by_contra hdiffers
        refine hset (List.mem_map_of_mem (List.mem_filter.mpr ⟨hc, ?_⟩))
        rw [hvalues _ hmem, hplain c hc]
        simpa [hkey, wanted] using hdiffers
  · have hneither : column ∉ (r.changed contents answered).map SeedColumn.name := by
      intro hset
      obtain ⟨c, hc, rfl⟩ := List.mem_map.mp hset
      exact hmem (List.mem_map_of_mem (hchanged c hc))
    rw [if_neg hmem, if_neg hneither]
    exact differs_self _

/-! ## Statements that are executed -/

/-- Where there are conditions the insertion has them, and the update if there is one. -/
theorem blindStatements_of_conditions (h : r.conditions contents ≠ []) :
    r.blindStatements contents =
      .insertUnless r.table (r.assignments contents) (r.conditions contents) ::
        if r.updates then [.update r.table (r.assignments contents) (r.conditions contents)]
        else [] :=
  if_neg (by simpa using h)

/-- Without a database a row is inserted unless it is there, and all its columns are set if it may
be updated. -/
theorem executeAll_blindStatements (server : Server) (tables : Tables)
    (hsome : r.conditions contents ≠ []) :
    server.executeAll tables (r.blindStatements contents) =
      some (if r.updates then
          server.update
            (server.insertUnless tables r.table (r.assignments contents) (r.conditions contents))
            r.table (r.assignments contents) (r.conditions contents)
        else
          server.insertUnless tables r.table (r.assignments contents)
            (r.conditions contents)) := by
  rw [blindStatements_of_conditions hsome]
  rcases r.updates <;> rfl

/-- With a database a row that is missing is inserted, and of a row that is there the columns that
differ are set if it may be updated. -/
theorem executeAll_awareStatements (answered : Option AnsweredRow) :
    server.executeAll tables (r.awareStatements contents answered) =
      some (match answered with
        | none => server.insert tables r.table (r.assignments contents)
        | some answered =>
          if r.updates then
            server.update tables r.table ((r.changed contents answered).map (assign contents))
              (r.conditions contents)
          else tables) := by
  rcases answered with _ | answered
  · rfl
  · simp only [awareStatements]
    rcases r.updates
    · rfl
    · rcases r.changed contents answered with _ | ⟨c, others⟩
      · simp only [List.map_nil, Server.update_nil]
        rfl
      · rfl

theorem outcome_statements {d : Deployment} (hcontents : (r.resolve d).outcome = .ok contents) :
    (r.statements d).outcome = .ok (r.blindStatements contents) := by
  rw [statements, Noted.outcome_bind, hcontents]
  rfl

theorem outcome_reconcile {d : Deployment} {database : Query → Option AnsweredRow}
    (hcontents : (r.resolve d).outcome = .ok contents) (hsome : r.conditions contents ≠ []) :
    (r.reconcile d database).outcome =
      .ok (r.awareStatements contents (database (r.query contents)),
        [.ask (r.query contents), .close]) := by
  rw [reconcile, Noted.outcome_bind, hcontents]
  show (if (r.conditions contents).isEmpty = true then _ else _ : Noted _).outcome = _
  rw [if_neg (by simpa using hsome)]
  rfl

/-! ## What is left -/

/-- Rows among which a seed row is: one meets its conditions, and where it may be updated all that
meet them hold its values. -/
def IsPresent (r : SeedRow) (server : Server) (contents : Contents) (rows : List Row) : Prop :=
  (∃ row ∈ rows, server.meets (r.conditions contents) row = true) ∧
    (r.updates = true → ∀ row ∈ rows, server.meets (r.conditions contents) row = true →
      ∀ c ∈ r.columns, row c.name = wanted contents c.name)

/-- After an insertion with conditions some row meets them. -/
theorem exists_meets_insertUnless (server : Server) (tables : Tables) (contents : Contents)
    (hplain : ∀ c ∈ r.columns, c.source.isSystem = false) :
    ∃ row ∈ server.insertUnless tables r.table (r.assignments contents) (r.conditions contents)
        r.table,
      server.meets (r.conditions contents) row = true := by
  rcases hany : (tables r.table).any (server.meets (r.conditions contents))
  · rw [Server.insertUnless_of_not_any hany, Server.insert, Function.update_self]
    exact ⟨_, List.mem_append_right _ List.mem_cons_self, meets_set hplain _⟩
  · rw [Server.insertUnless_of_any hany]
    exact List.any_eq_true.mp hany

/-- After the statements that are made without a database the row is there. -/
theorem isPresent_of_blindStatements (hplain : ∀ c ∈ r.columns, c.source.isSystem = false)
    (hsome : r.conditions contents ≠ []) {left : Tables}
    (hleft : server.executeAll tables (r.blindStatements contents) = some left) :
    r.IsPresent server contents (left r.table) := by
  rw [executeAll_blindStatements server tables hsome, Option.some.injEq] at hleft
  obtain ⟨row, hrow, hmeets⟩ := exists_meets_insertUnless server tables contents hplain
  rcases hupdates : r.updates
  · rw [hupdates, if_neg Bool.false_ne_true] at hleft
    subst hleft
    refine ⟨⟨row, hrow, hmeets⟩, ?_⟩
    rw [hupdates]
    exact fun h => absurd h Bool.false_ne_true
  · rw [hupdates, if_pos rfl] at hleft
    subst hleft
    rw [Server.update, Function.update_self]
    constructor
    · refine ⟨_, List.mem_map_of_mem hrow, ?_⟩
      rw [if_pos hmeets]
      exact meets_set hplain row
    · intro _ updated hupdated hmeets' c hc
      obtain ⟨before, -, rfl⟩ := List.mem_map.mp hupdated
      by_cases hbefore : server.meets (r.conditions contents) before = true
      · rw [if_pos hbefore, assignments, set_assign hplain, if_pos (List.mem_map_of_mem hc)]
      · rw [if_neg hbefore] at hmeets'
        exact absurd hmeets' hbefore

/-! ## The two ways -/

/-- Where no row meets the conditions, the row that was inserted is all that an update finds, and
it stays as it is. -/
theorem update_insert_alike (hplain : ∀ c ∈ r.columns, c.source.isSystem = false)
    (hnone : ∀ row ∈ tables r.table, server.meets (r.conditions contents) row = false) :
    Tables.Alike
      (server.update (server.insert tables r.table (r.assignments contents)) r.table
        (r.assignments contents) (r.conditions contents))
      (server.insert tables r.table (r.assignments contents)) := by
  refine Server.update_alike ?_
  intro row hrow hmeets
  rw [Server.insert, Function.update_self] at hrow
  rcases List.mem_append.mp hrow with hold | hnew
  · rw [hnone row hold] at hmeets
    cases hmeets
  · rw [List.mem_singleton.mp hnew, set_set hplain]
    exact Row.Alike.refl _

/-- **Both ways to a seed row leave the same tables.** The row has no system variables and a key
column, at most one row of its table meets its conditions, and the database answers truly.  Then the
statements that are made without the database and those that are made with its answer can both be
executed, what they leave differs in no row and no column, and the row is there. -/
theorem strategies_alike {d : Deployment} {database : Query → Option AnsweredRow}
    (hcontents : (r.resolve d).outcome = .ok contents)
    (hplain : ∀ c ∈ r.columns, c.source.isSystem = false)
    (hkey : ∃ c ∈ r.columns, c.name ∈ r.keys)
    (hone : (tables r.table).countP (server.meets (r.conditions contents)) ≤ 1)
    (hanswers : server.Answers tables (r.query contents) (database (r.query contents))) :
    ∃ blind aware calls left right,
      (r.statements d).outcome = .ok blind ∧
      (r.reconcile d database).outcome = .ok (aware, calls) ∧
      server.executeAll tables blind = some left ∧
      server.executeAll tables aware = some right ∧
      Tables.Alike left right ∧ r.IsPresent server contents (left r.table) := by
  have hsome : r.conditions contents ≠ [] := conditions_ne_nil hplain hkey
  have hleft := executeAll_blindStatements server tables hsome
  refine ⟨_, _, _, _, _, outcome_statements hcontents, outcome_reconcile hcontents hsome, hleft,
    executeAll_awareStatements _, ?_, isPresent_of_blindStatements hplain hsome hleft⟩
  generalize database (r.query contents) = answered at hanswers
  rcases hanswers with hnone | ⟨hrow, hmeets, hvalues⟩
  · have hany : (tables r.table).any (server.meets (r.conditions contents)) = false := by
      rw [List.any_eq_false]
      intro row hrow
      exact Bool.eq_false_iff.mp (hnone row hrow)
    rw [Server.insertUnless_of_not_any hany]
    rcases r.updates
    · exact Tables.Alike.refl _
    · exact update_insert_alike hplain hnone
  · rename_i row answered
    have hany : (tables r.table).any (server.meets (r.conditions contents)) = true :=
      List.any_eq_true.mpr ⟨row, hrow, hmeets⟩
    rw [Server.insertUnless_of_any hany]
    rcases hupdates : r.updates
    · exact Tables.Alike.refl _
    · have hall : ∀ column ∈ r.columns.map SeedColumn.name,
          answered.get? column = some (row column) := by
        rw [query, if_pos hupdates] at hvalues
        exact hvalues
      refine Server.update_alike_update fun other hother hmeets' => ?_
      -- The row that was answered is the only one that is updated.
      have hsame : other = row := Server.eq_of_countP_le_one hone hother hrow hmeets' hmeets
      rw [hsame]
      exact alike_set_changed hplain hmeets hall

/-- A row with a number as its key, a text and nothing. -/
def greeting : SeedRow where
  table := "t"
  columns := [⟨"id", .literal (some (.text "1")), false⟩,
    ⟨"word", .literal (some (.text "hello")), true⟩, ⟨"remark", .literal none, true⟩]
  keys := ["id"]
  updates := true

/-- The contents of `greeting`. -/
def greetingContents : Contents :=
  ⟨[("id", some (.text "1")), ("word", some (.text "hello")), ("remark", none)]⟩

/-- Rows with other words; under the key of `greeting`, which is a number here, there is one. -/
def otherGreetings : Tables := fun _ =>
  [fun column => if column = "id" then .int 1 else if column = "word" then .text "hi" else .null,
    fun column => if column = "id" then .int 2 else .null]

/-- A database that starts rows with nulls. -/
def nullServer : Server :=
  ⟨fun _ _ _ => .null, fun reference => .text reference.spelling⟩

/-- Setting all columns of `greeting` and setting the word alone leave the same rows. -/
theorem greeting_alike :
    ∃ left right,
      nullServer.executeAll otherGreetings (greeting.blindStatements greetingContents) =
        some left ∧
      nullServer.executeAll otherGreetings
        [.update "t" [⟨"word", .quoted (.text "hello")⟩] [⟨"id", .plain (.text "1")⟩]] =
        some right ∧
      Tables.Alike left right ∧ greeting.IsPresent nullServer greetingContents (left "t") := by
  let d : Deployment := ⟨⟨.mysql, ""⟩, none, none, .empty⟩
  let database := nullServer.answer otherGreetings
  have hcontents : (greeting.resolve d).outcome = .ok greetingContents := rfl
  obtain ⟨blind, aware, calls, left, right, hblind, haware, hleft, hright, halike⟩ :=
    strategies_alike hcontents (by decide) ⟨_, List.mem_cons_self, by decide⟩ (by decide)
      (nullServer.answers_answer otherGreetings (greeting.query greetingContents))
  have hblind' : (greeting.statements d).outcome = .ok (greeting.blindStatements greetingContents) :=
    rfl
  have haware' : (greeting.reconcile d database).outcome =
      .ok ([.update "t" [⟨"word", .quoted (.text "hello")⟩] [⟨"id", .plain (.text "1")⟩]],
        [.ask (greeting.query greetingContents), .close]) := rfl
  obtain rfl := Except.ok.inj (hblind.symm.trans hblind')
  obtain ⟨rfl, -⟩ := Prod.mk.inj (Except.ok.inj (haware.symm.trans haware'))
  exact ⟨left, right, hleft, hright, halike⟩

end SeedRow

end SchemaPlan
