import SchemaPlan.Proofs.Seeding.Agreement

/-!
# The keys of a seed row

A seed row is looked for by its keys.  A key gives a condition when the first column of its name
holds something that is known beforehand; a key that names no column of the row, or one that holds a
system variable, gives none.

* `SeedRow.isSome_get?_of_resolve` says of which columns the contents are known.
* `SeedRow.column_conditions` says which keys give conditions, `SeedRow.eq_of_mem_conditions` what
  they ask for.
* `SeedRow.keys_guard_row` says that the statements of a row and the question whether it is there
  have these conditions in common, and what is left when there are none.
-/
namespace SchemaPlan

/-! ## Clauses -/

section

variable (t : Target) (table : String) (values conditions : List Assignment)

theorem whereClause_of_ne_nil {d : Dialect} {conditions : List Assignment} (h : conditions ≠ []) :
    whereClause d conditions = " where " ++ " and ".intercalate (conditions.map (·.condition d)) :=
  if_neg (by simpa using h)

/-- The guard of an insertion has the clause for its conditions. -/
theorem Statement.exists_sql_insertUnless : ∃ front,
    (insertUnless table values conditions).sql t = front ++ " where not exists (select 1 from " ++
      t.qualify table ++ whereClause t.dialect conditions ++ ")" :=
  ⟨_, rfl⟩

/-- An update ends with the clause for its conditions. -/
theorem Statement.exists_sql_update : ∃ front,
    (update table values conditions).sql t = front ++ whereClause t.dialect conditions :=
  ⟨_, rfl⟩

/-- A question ends with the clause for its conditions. -/
theorem Query.exists_sql (q : Query) : ∃ front,
    q.sql t = front ++ whereClause t.dialect q.conditions :=
  ⟨_, rfl⟩

end

namespace SeedRow

variable {r : SeedRow} {d : Deployment} {contents : Contents} {name : String}

/-! ## Contents -/

/-- After columns were resolved there is more to be known: the contents of those that hold no system
variable. -/
theorem isSome_get?_of_resolveFrom {known : Contents} {columns : List SeedColumn}
    (h : (resolveFrom d known columns).outcome = .ok contents) :
    (contents.get? name).isSome ↔
      (known.get? name).isSome ∨ ∃ c ∈ columns, c.name = name ∧ c.source.isSystem = false := by
  induction columns generalizing known with
  | nil =>
    cases h
    simp
  | cons c rest ih =>
    rw [resolveFrom] at h
    simp only [List.exists_mem_cons_iff]
    split_ifs at h with hsystem
    · simp [ih h, hsystem]
    · rw [Noted.outcome_bind, bind_eq_ok_iff] at h
      obtain ⟨content, -, h⟩ := h
      rw [ih h, Ordered.get?_put]
      have hplain : c.source.isSystem = false := Bool.eq_false_iff.mpr hsystem
      by_cases hname : name = c.name
      · simp [hname, hplain]
      · simp [hname, Ne.symm hname]

/-- The contents are known of the columns that hold no system variable. -/
theorem isSome_get?_of_resolve (h : (r.resolve d).outcome = .ok contents) :
    (contents.get? name).isSome ↔ ∃ c ∈ r.columns, c.name = name ∧ c.source.isSystem = false := by
  rw [isSome_get?_of_resolveFrom h]
  exact or_iff_right (by simp [Ordered.get?, Ordered.empty])

/-! ## Conditions -/

/-- Whether a key gives a condition: the first column of its name holds no system variable. -/
def guards (r : SeedRow) (key : String) : Bool :=
  (r.column? key).any fun c => !c.source.isSystem

/-- The keys that give conditions. -/
def guardingKeys (r : SeedRow) : List String :=
  r.keys.filter r.guards

theorem guards_iff {key : String} :
    r.guards key = true ↔ ∃ c, r.column? key = some c ∧ c.source.isSystem = false := by
  rw [guards, Option.any_eq_true]
  simp

theorem keyCondition?_eq_some_iff {key : String} {a : Assignment} :
    r.keyCondition? contents key = some a ↔
      ∃ c, r.column? key = some c ∧ c.source.isSystem = false ∧ a = assign contents c := by
  rw [keyCondition?]
  cases r.column? key with
  | none => simp
  | some c =>
    cases hsystem : c.source.isSystem with
    | true => simp [hsystem]
    | false => simp [hsystem, eq_comm (a := a)]

/-- The condition that a key gives is on the column of its name. -/
theorem map_column_keyCondition? (key : String) :
    (r.keyCondition? contents key).map Assignment.column =
      Option.guard (fun key => r.guards key) key := by
  cases hguard : r.guards key with
  | true =>
    obtain ⟨c, hc, hsystem⟩ := guards_iff.mp hguard
    have hcondition : r.keyCondition? contents key = some (assign contents c) :=
      keyCondition?_eq_some_iff.mpr ⟨c, hc, hsystem, rfl⟩
    rw [hcondition, Option.guard_eq_some_iff.mpr ⟨rfl, hguard⟩]
    exact congrArg some (column?_eq_some hc).2
  | false =>
    have hnone : r.keyCondition? contents key = none := by
      rw [Option.eq_none_iff_forall_ne_some]
      intro a ha
      obtain ⟨c, hc, hsystem, -⟩ := keyCondition?_eq_some_iff.mp ha
      rw [guards_iff.mpr ⟨c, hc, hsystem⟩] at hguard
      cases hguard
    rw [hnone]
    simp [Option.guard, hguard]

/-- The conditions are on the keys that give some, one on each of them and in their order. -/
theorem column_conditions (r : SeedRow) (contents : Contents) :
    (r.conditions contents).map Assignment.column = r.guardingKeys := by
  rw [conditions, List.map_filterMap, guardingKeys, ← List.filterMap_eq_filter]
  exact List.filterMap_congr fun key _ => map_column_keyCondition? key

/-- A condition asks for the content that the column of the key is to have. -/
theorem eq_of_mem_conditions (h : (r.resolve d).outcome = .ok contents) {a : Assignment}
    (ha : a ∈ r.conditions contents) :
    ∃ c content, r.column? a.column = some c ∧ c.source.isSystem = false ∧
      contents.get? a.column = some content ∧ a.value = c.value content := by
  obtain ⟨key, -, hcondition⟩ := List.mem_filterMap.mp ha
  obtain ⟨c, hc, hsystem, rfl⟩ := keyCondition?_eq_some_iff.mp hcondition
  obtain ⟨hmem, rfl⟩ := column?_eq_some hc
  obtain ⟨content, hcontent⟩ := Option.isSome_iff_exists.mp
    ((isSome_get?_of_resolve h).mpr ⟨c, hmem, rfl, hsystem⟩)
  refine ⟨c, content, hc, hsystem, hcontent, ?_⟩
  rw [assign, hcontent]
  rfl

theorem conditions_eq_nil_iff : r.conditions contents = [] ↔ r.guardingKeys = [] := by
  rw [← column_conditions r contents, List.map_eq_nil_iff]

/-! ## Statements -/

theorem blindStatements_of_no_conditions (h : r.conditions contents = []) :
    r.blindStatements contents = [.insert r.table (r.assignments contents)] :=
  if_pos (by simpa using h)

/-- Without conditions nothing is asked. -/
theorem outcome_reconcile_of_no_conditions {database : Query → Option AnsweredRow}
    (hcontents : (r.resolve d).outcome = .ok contents) (h : r.conditions contents = []) :
    (r.reconcile d database).outcome = .ok ([.insert r.table (r.assignments contents)], []) := by
  rw [reconcile, Noted.outcome_bind, hcontents]
  show (if (r.conditions contents).isEmpty = true then _ else _ : Noted _).outcome = _
  rw [if_pos (by simpa using h)]
  rfl

/-- **The keys of a row guard it.** Where some key gives a condition, the row is inserted unless one
meets the conditions, and updated under the same ones if it may be; the question whether it is there
has them too.  There is one condition for each key that gives some, in order, and it asks for what
its column is to hold.  Where no key gives one the row is inserted, come what may. -/
theorem keys_guard_row (hcontents : (r.resolve d).outcome = .ok contents) :
    (r.guardingKeys ≠ [] →
      ∃ conditions : List Assignment, ∃ q : Query,
        (r.statements d).outcome =
          .ok (.insertUnless r.table (r.assignments contents) conditions ::
            if r.updates then [.update r.table (r.assignments contents) conditions] else []) ∧
        (∀ database, ∃ statements,
          (r.reconcile d database).outcome = .ok (statements, [.ask q, .close])) ∧
        conditions.map Assignment.column = r.guardingKeys ∧
        (∀ a ∈ conditions, ∃ c content, r.column? a.column = some c ∧
          c.source.isSystem = false ∧ contents.get? a.column = some content ∧
          a.value = c.value content) ∧
        ∀ t : Target, ∃ insertion update question,
          (Statement.insertUnless r.table (r.assignments contents) conditions).sql t =
            insertion ++ " where not exists (select 1 from " ++ t.qualify r.table ++
              whereClause t.dialect conditions ++ ")" ∧
          (Statement.update r.table (r.assignments contents) conditions).sql t =
            update ++ whereClause t.dialect conditions ∧
          q.sql t = question ++ whereClause t.dialect conditions ∧
          whereClause t.dialect conditions =
            " where " ++ " and ".intercalate (conditions.map (·.condition t.dialect))) ∧
    (r.guardingKeys = [] →
      (r.statements d).outcome = .ok [.insert r.table (r.assignments contents)] ∧
      ∀ database, (r.reconcile d database).outcome =
        .ok ([.insert r.table (r.assignments contents)], [])) := by
  constructor
  · intro hguard
    have hsome : r.conditions contents ≠ [] := fun h => hguard (conditions_eq_nil_iff.mp h)
    refine ⟨r.conditions contents, r.query contents, ?_, ?_, column_conditions r contents, ?_, ?_⟩
    · rw [outcome_statements hcontents, blindStatements_of_conditions hsome]
    · exact fun database => ⟨_, outcome_reconcile hcontents hsome⟩
    · exact fun a ha => eq_of_mem_conditions hcontents ha
    · intro t
      obtain ⟨insertion, hinsertion⟩ := Statement.exists_sql_insertUnless t r.table
        (r.assignments contents) (r.conditions contents)
      obtain ⟨update, hupdate⟩ := Statement.exists_sql_update t r.table
        (r.assignments contents) (r.conditions contents)
      obtain ⟨question, hquestion⟩ := Query.exists_sql t (r.query contents)
      exact ⟨insertion, update, question, hinsertion, hupdate, hquestion,
        whereClause_of_ne_nil hsome⟩
  · intro hnone
    have hnil : r.conditions contents = [] := conditions_eq_nil_iff.mpr hnone
    refine ⟨?_, fun database => outcome_reconcile_of_no_conditions hcontents hnil⟩
    rw [outcome_statements hcontents, blindStatements_of_no_conditions hnil]

/-! ## Visits of a day -/

/-- The date of the day. -/
def today : SystemReference := ⟨"current_date", by decide +kernel⟩

/-- A visitor on the day of the visit, looked for by these keys. -/
def visit (keys : List String) : SeedRow where
  table := "visit"
  columns := [⟨"guest", .literal (some (.text "7")), false⟩, ⟨"day", .system today, false⟩]
  keys := keys
  updates := true

/-- Statements on one dialect, without files. -/
def bareDeployment : Deployment := ⟨⟨.mysql, ""⟩, none, some "", .empty⟩

/-- A visit is looked for by the visitor, whatever day it was. -/
theorem visit_guarded_by_guest :
    (visit ["guest", "day"]).guardingKeys = ["guest"] ∧
      ∃ conditions : List Assignment,
        ((visit ["guest", "day"]).statements bareDeployment).outcome =
          .ok [.insertUnless "visit"
              [⟨"guest", .plain (.text "7")⟩, ⟨"day", .system today⟩] conditions,
            .update "visit" [⟨"guest", .plain (.text "7")⟩, ⟨"day", .system today⟩] conditions] ∧
        conditions.map Assignment.column = ["guest"] := by
  let contents : Contents := ⟨[("guest", some (.text "7"))]⟩
  have hcontents : ((visit ["guest", "day"]).resolve bareDeployment).outcome = .ok contents := rfl
  have hkeys : (visit ["guest", "day"]).guardingKeys = ["guest"] := by decide
  obtain ⟨conditions, -, hstatements, -, hcolumns, -⟩ :=
    (keys_guard_row hcontents).1 (hkeys ▸ List.cons_ne_nil _ _)
  exact ⟨hkeys, conditions, hstatements, hcolumns.trans hkeys⟩

/-- By the day alone no visit is looked for: it is added each time. -/
theorem visit_not_guarded_by_day :
    (visit ["day"]).keys = ["day"] ∧
      ((visit ["day"]).statements bareDeployment).outcome =
        .ok [.insert "visit" [⟨"guest", .plain (.text "7")⟩, ⟨"day", .system today⟩]] :=
  ⟨rfl, rfl⟩

end SeedRow

end SchemaPlan
