import Mathlib.Tactic.SplitIfs
import SchemaPlan.DatabaseMap

/-!
# What the rules of a mapping come to

A text is a mapping when each of its rules has one of two forms: a table and a database, or the word
`group`, a group and a database.  The last rule for a table decides where the table lives, whatever
the rules of groups say; without one the last rule for its group does.

* `MapRule.read_cases` says what a text is read as.
* `DatabaseMap.parse_eq` says that the rules before the first bad one are applied.
* `DatabaseMap.resolve_foldl_apply` finds the database of a table in the rules that were applied.
* `DatabaseMap.ofText_resolves` is about a whole text: when it is a mapping, and of what.
-/
namespace SchemaPlan

namespace MapRule

/-! ## One rule -/

/-- The forms of a rule: what is mapped has a name, and the database may be missing. -/
inductive IsForm : List String → Prop where
  | table {name : String} (hname : name ≠ "") (database : String) : IsForm [name, database]
  | group {name : String} (hname : name ≠ "") (database : String) :
      IsForm ["group", name, database]

/-- A text is a rule for a table, a rule for a group or none. -/
theorem read_cases (text : List Char) :
    (∃ name database, pieces text = [name, database] ∧ name ≠ "" ∧
      read text = .ok (.table name database)) ∨
    (∃ name database, pieces text = ["group", name, database] ∧ name ≠ "" ∧
      read text = .ok (.group name database)) ∨
    ¬ IsForm (pieces text) ∧ ∃ cause, read text = .error cause := by
  unfold read
  dsimp only
  split
  · next name database hpieces =>
    rw [hpieces]
    split_ifs with hname
    · refine Or.inr (Or.inr ⟨?_, _, rfl⟩)
      rintro (⟨hne, -⟩ | _)
      exact hne hname
    · exact Or.inl ⟨name, database, rfl, hname, rfl⟩
  · next word name database hpieces =>
    rw [hpieces]
    split_ifs with hword hname
    · refine Or.inr (Or.inr ⟨?_, _, rfl⟩)
      rintro (_ | _)
      exact hword rfl
    · refine Or.inr (Or.inr ⟨?_, _, rfl⟩)
      rintro (_ | ⟨hne, -⟩)
      exact hne hname
    · have hgroup : word = "group" := Decidable.not_not.mp hword
      exact Or.inr (Or.inl ⟨name, database, by rw [hgroup], hname, rfl⟩)
  · next hnotTwo hnotThree =>
    refine Or.inr (Or.inr ⟨?_, _, rfl⟩)
    intro hform
    generalize hpieces : pieces text = list at hform
    cases hform with
    | table _ _ => exact hnotTwo _ _ hpieces
    | group _ _ => exact hnotThree _ _ _ hpieces

theorem exists_read_eq_ok_iff {text : List Char} :
    (∃ r, read text = .ok r) ↔ IsForm (pieces text) := by
  rcases read_cases text with ⟨name, database, hpieces, hname, hread⟩ |
    ⟨name, database, hpieces, hname, hread⟩ | ⟨hform, cause, hread⟩
  · exact iff_of_true ⟨_, hread⟩ (hpieces ▸ .table hname database)
  · exact iff_of_true ⟨_, hread⟩ (hpieces ▸ .group hname database)
  · refine iff_of_false ?_ hform
    rintro ⟨r, hr⟩
    rw [hread] at hr
    cases hr

/-- The database that the pieces of a rule give to a table. -/
def databaseForTable? (table : String) : List String → Option String
  | [name, database] => if name = table then some database else none
  | _ => none

/-- The database that the pieces of a rule give to a group. -/
def databaseForGroup? (group : String) : List String → Option String
  | [_, name, database] => if name = group then some database else none
  | _ => none

/-- The database that a rule gives to a table. -/
def forTable? (table : String) : MapRule → Option String
  | .table name database => if name = table then some database else none
  | .group _ _ => none

/-- The database that a rule gives to a group. -/
def forGroup? (group : String) : MapRule → Option String
  | .table _ _ => none
  | .group name database => if name = group then some database else none

/-- A rule gives a table and a group what its pieces give them. -/
theorem for_of_read {text : List Char} {r : MapRule} (h : read text = .ok r) (name : String) :
    r.forTable? name = databaseForTable? name (pieces text) ∧
      r.forGroup? name = databaseForGroup? name (pieces text) := by
  rcases read_cases text with ⟨_, _, hpieces, -, hread⟩ | ⟨_, _, hpieces, -, hread⟩ |
    ⟨-, cause, hread⟩
  · rw [hread] at h
    cases h
    rw [hpieces]
    exact ⟨rfl, rfl⟩
  · rw [hread] at h
    cases h
    rw [hpieces]
    exact ⟨rfl, rfl⟩
  · rw [hread] at h
    cases h

/-- What a rule gives to a table or a group is the database that it names. -/
theorem eq_database_of_forTable? {r : MapRule} {table database : String}
    (h : r.forTable? table = some database) : database = r.database := by
  cases r with
  | table name place =>
    rw [forTable?] at h
    split_ifs at h
    exact (Option.some.inj h).symm
  | group _ _ => cases h

theorem eq_database_of_forGroup? {r : MapRule} {group database : String}
    (h : r.forGroup? group = some database) : database = r.database := by
  cases r with
  | table _ _ => cases h
  | group name place =>
    rw [forGroup?] at h
    split_ifs at h
    exact (Option.some.inj h).symm

end MapRule

namespace DatabaseMap

variable {m : DatabaseMap} {rules : List MapRule} {config : String}

/-! ## Rules in order -/

/-- The rules before the first text that is none. -/
def goodRules : List (List Char) → List MapRule
  | [] => []
  | text :: rest =>
    match MapRule.read text with
    | .ok r => r :: goodRules rest
    | .error _ => []

/-- What is wrong with the first text that is no rule. -/
def firstFault? (texts : List (List Char)) : Option BadRule :=
  texts.findSome? fun text =>
    match MapRule.read text with
    | .ok _ => none
    | .error cause => some cause

/-- Parsing applies the rules before the first bad one and stops there. -/
theorem parseRules_eq (m : DatabaseMap) (texts : List (List Char)) :
    m.parseRules texts = ((goodRules texts).foldl apply m, firstFault? texts) := by
  induction texts generalizing m with
  | nil => rfl
  | cons text rest ih =>
    rw [parseRules, goodRules, firstFault?, List.findSome?_cons]
    cases MapRule.read text with
    | ok r => exact ih (m.apply r)
    | error cause => rfl

/-- The texts between the commas of a mapping. -/
def ruleTexts (config : String) : List (List Char) :=
  config.toList.splitOn ','

theorem parse_eq (m : DatabaseMap) (config : String) :
    m.parse config =
      ((goodRules (ruleTexts config)).foldl apply m, firstFault? (ruleTexts config)) :=
  m.parseRules_eq (ruleTexts config)

theorem firstFault?_eq_none_iff {texts : List (List Char)} :
    firstFault? texts = none ↔ ∀ text ∈ texts, MapRule.IsForm (MapRule.pieces text) := by
  rw [firstFault?, List.findSome?_eq_none_iff]
  refine forall₂_congr fun text _ => ?_
  rw [← MapRule.exists_read_eq_ok_iff]
  cases MapRule.read text <;> simp

/-! ## The last rule -/

theorem get?_tables_apply (m : DatabaseMap) (r : MapRule) (table : String) :
    (m.apply r).tables.get? table = (r.forTable? table).or (m.tables.get? table) := by
  cases r with
  | table name database =>
    rw [apply, Ordered.get?_put, MapRule.forTable?]
    by_cases h : name = table
    · simp [h]
    · have h' : table ≠ name := fun e => h e.symm
      simp [h, h']
  | group name database => rfl

theorem get?_groups_apply (m : DatabaseMap) (r : MapRule) (group : String) :
    (m.apply r).groups.get? group = (r.forGroup? group).or (m.groups.get? group) := by
  cases r with
  | table name database => rfl
  | group name database =>
    rw [apply, Ordered.get?_put, MapRule.forGroup?]
    by_cases h : name = group
    · simp [h]
    · have h' : group ≠ name := fun e => h e.symm
      simp [h, h']

/-- What the last step that settles something leaves, when each step leaves what it settles or what
was there before. -/
theorem foldl_eq_getLast?_or {σ β γ : Type} {step : σ → β → σ} (view : σ → Option γ)
    {settles : β → Option γ} (h : ∀ s b, view (step s b) = (settles b).or (view s)) (s : σ)
    (bs : List β) : view (bs.foldl step s) = (bs.filterMap settles).getLast?.or (view s) := by
  induction bs generalizing s with
  | nil => rfl
  | cons b rest ih =>
    rw [List.foldl_cons, ih, h]
    cases hb : settles b with
    | none => rw [List.filterMap_cons_none hb, Option.none_or]
    | some c =>
      rw [List.filterMap_cons_some hb, List.getLast?_cons]
      cases (rest.filterMap settles).getLast? <;> rfl

/-- The database of a table under rules that were applied in order: that of the last rule for the
table, and without one that of the last rule for its group. -/
theorem resolve_foldl_apply (rules : List MapRule) (group table : Option String) :
    (rules.foldl apply empty).resolve group table =
      match table.bind fun t => (rules.filterMap (MapRule.forTable? t)).getLast? with
      | some database => named database
      | none =>
        (group.bind fun g => (rules.filterMap (MapRule.forGroup? g)).getLast?).bind named := by
  have htables : ∀ t, (rules.foldl apply empty).tables.get? t =
      (rules.filterMap (MapRule.forTable? t)).getLast? := by
    intro t
    rw [foldl_eq_getLast?_or (fun m : DatabaseMap => m.tables.get? t)
      fun m r => get?_tables_apply m r t]
    exact Option.or_none
  have hgroups : ∀ g, (rules.foldl apply empty).groups.get? g =
      (rules.filterMap (MapRule.forGroup? g)).getLast? := by
    intro g
    rw [foldl_eq_getLast?_or (fun m : DatabaseMap => m.groups.get? g)
      fun m r => get?_groups_apply m r g]
    exact Option.or_none
  rw [resolve, funext htables, funext hgroups]
  cases table.bind fun t => (rules.filterMap (MapRule.forTable? t)).getLast? with
  | some database => rfl
  | none =>
    cases group.bind fun g => (rules.filterMap (MapRule.forGroup? g)).getLast? <;> rfl

/-! ## A whole text -/

/-- The last thing that the pieces of the rules of a text give. -/
def lastOf (given? : List String → Option String) (config : String) : Option String :=
  ((ruleTexts config).filterMap fun text => given? (MapRule.pieces text)).getLast?

/-- Where all texts are rules, the rules give what their pieces give. -/
theorem filterMap_goodRules {texts : List (List Char)}
    (h : ∀ text ∈ texts, MapRule.IsForm (MapRule.pieces text))
    {given? : List String → Option String} {gives? : MapRule → Option String}
    (hgives : ∀ text r, MapRule.read text = .ok r → gives? r = given? (MapRule.pieces text)) :
    (goodRules texts).filterMap gives? =
      texts.filterMap fun text => given? (MapRule.pieces text) := by
  induction texts with
  | nil => rfl
  | cons text rest ih =>
    obtain ⟨r, hr⟩ := MapRule.exists_read_eq_ok_iff.mpr (h text List.mem_cons_self)
    have hrest := ih fun t ht => h t (List.mem_cons_of_mem text ht)
    rw [goodRules, hr]
    dsimp only
    rw [List.filterMap_cons, List.filterMap_cons, hrest, hgives text r hr]

theorem ofText_eq_ok_iff (h : config ≠ "") :
    ofText config = .ok m ↔
      (∀ text ∈ ruleTexts config, MapRule.IsForm (MapRule.pieces text)) ∧
        m = (goodRules (ruleTexts config)).foldl apply empty := by
  rw [ofText, if_neg h, parse_eq, ← firstFault?_eq_none_iff]
  cases firstFault? (ruleTexts config) with
  | none => simp [eq_comm]
  | some cause => simp

/-- **What a text maps.**  A text that is not empty is a mapping exactly when each of its rules has
one of the two forms.  The last rule for a table says in which database it lives; without one the
last rule for its group does; and without either, or without a database in that rule, the table is
local.  Where no table is named, the group alone is asked. -/
theorem ofText_resolves (h : config ≠ "") :
    ((∃ m, ofText config = .ok m) ↔
      ∀ text ∈ ruleTexts config, MapRule.IsForm (MapRule.pieces text)) ∧
    ∀ m, ofText config = .ok m → ∀ group table,
      m.resolve group table =
        match table.bind fun t => lastOf (MapRule.databaseForTable? t) config with
        | some database => named database
        | none =>
          (group.bind fun g => lastOf (MapRule.databaseForGroup? g) config).bind named := by
  constructor
  · constructor
    · rintro ⟨m, hm⟩
      exact ((ofText_eq_ok_iff h).mp hm).1
    · intro hforms
      exact ⟨_, (ofText_eq_ok_iff h).mpr ⟨hforms, rfl⟩⟩
  · intro m hm group table
    obtain ⟨hforms, rfl⟩ := (ofText_eq_ok_iff h).mp hm
    have htable : ∀ t, (goodRules (ruleTexts config)).filterMap (MapRule.forTable? t) = _ :=
      fun t => filterMap_goodRules hforms fun _ _ hr => (MapRule.for_of_read hr t).1
    have hgroup : ∀ g, (goodRules (ruleTexts config)).filterMap (MapRule.forGroup? g) = _ :=
      fun g => filterMap_goodRules hforms fun _ _ hr => (MapRule.for_of_read hr g).2
    rw [resolve_foldl_apply]
    simp only [htable, hgroup]
    rfl

/-- A mapping with blanks, a table that is called `group`, a rule for a group that is written again
and a table that is taken back before its group is mapped. -/
def shopRules : String :=
  " group : shop : old,order : ,group: log ,group:shop:erp"

/-- What is asked is answered by the last rules, the rule of the table first. -/
theorem shopRules_resolve :
    shopRules ≠ "" ∧
      (∀ text ∈ ruleTexts shopRules, MapRule.IsForm (MapRule.pieces text)) ∧
      ∃ m, ofText shopRules = .ok m ∧ m.resolve (some "shop") (some "order") = none ∧
        m.resolve (some "shop") none = some "erp" ∧
        m.resolve none (some "group") = some "log" := by
  have hne : shopRules ≠ "" := by decide +kernel
  obtain ⟨haccepted, hresolve⟩ := ofText_resolves hne
  obtain ⟨m, hm⟩ : ∃ m, ofText shopRules = .ok m := ⟨_, rfl⟩
  have hanswer := hresolve m hm
  refine ⟨hne, haccepted.mp ⟨m, hm⟩, m, hm, ?_, ?_, ?_⟩
  · rw [hanswer]
    decide +kernel
  · rw [hanswer]
    decide +kernel
  · rw [hanswer]
    decide +kernel

end DatabaseMap

end SchemaPlan
