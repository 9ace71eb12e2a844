import SchemaPlan.Proofs.DatabaseMap.Resolution
import SchemaPlan.Proofs.Ordered

/-!
# Mappings that are parsed in parts

A mapping can be given text after text, and each text is applied up to its first bad rule.  What the
mapping is then depends on the rules that were applied, and on nothing else.

* `DatabaseMap.targets_foldl_apply` says that the targets are the databases of the rules, each one
  where it is named first.
* `DatabaseMap.parse_append` says that a text can be cut at a comma.
* `DatabaseMap.parseAll_eq` says which rules a run of parses applies.
* `DatabaseMap.state_after_parses` puts this together.
-/
namespace SchemaPlan.DatabaseMap

variable (m : DatabaseMap) (rules : List MapRule)

/-! ## Targets -/

/-- The databases that are named, each one where it is named first. -/
def namedFirst (databases : List String) : List String :=
  (databases.filter (· ≠ "")).eraseDups

theorem noteTarget_namedFirst (databases : List String) (database : String) :
    noteTarget (namedFirst databases) database = namedFirst (databases ++ [database]) := by
  rw [noteTarget, namedFirst, namedFirst, List.filter_append]
  by_cases hempty : database = ""
  · simp [hempty]
  · have hlast : [database].filter (· ≠ "") = [database] := by simp [hempty]
    rw [hlast, eraseDups_concat]
    simp only [hempty, false_or, List.mem_eraseDups]

theorem targets_apply (r : MapRule) : (m.apply r).targets = noteTarget m.targets r.database := by
  cases r <;> rfl

/-- The targets are the databases of the rules that were applied. -/
theorem targets_foldl_apply :
    (rules.foldl apply empty).targets = namedFirst (rules.map MapRule.database) := by
  induction rules using List.reverseRecOn with
  | nil => rfl
  | append_singleton rules r ih =>
    rw [List.foldl_concat, targets_apply, ih, noteTarget_namedFirst, List.map_append,
      List.map_singleton]

theorem mem_namedFirst {databases : List String} {database : String} :
    database ∈ namedFirst databases ↔ database ∈ databases ∧ database ≠ "" := by
  rw [namedFirst, List.mem_eraseDups, List.mem_filter, decide_eq_true_eq]

theorem named_eq_some_iff {database answer : String} :
    named database = some answer ↔ answer = database ∧ database ≠ "" := by
  rw [named]
  split_ifs with h
  · simp [h]
  · simp [h, eq_comm]

/-- Whatever a table resolves to is a target. -/
theorem mem_targets_of_resolve {group table : Option String} {database : String}
    (h : (rules.foldl apply empty).resolve group table = some database) :
    database ∈ (rules.foldl apply empty).targets := by
  rw [targets_foldl_apply, mem_namedFirst]
  -- the database stems from a rule for the table or from one for the group
  obtain ⟨gives?, hgives, place, hlast, hnamed⟩ :
      ∃ gives? : MapRule → Option String,
        (∀ r place, gives? r = some place → place = r.database) ∧
        ∃ place, (rules.filterMap gives?).getLast? = some place ∧ named place = some database := by
    rw [resolve_foldl_apply] at h
    split at h
    · next place hplace =>
      obtain ⟨t, -, hlast⟩ := Option.bind_eq_some_iff.mp hplace
      exact ⟨_, fun _ _ => MapRule.eq_database_of_forTable?, place, hlast, h⟩
    · obtain ⟨place, hplace, hnamed⟩ := Option.bind_eq_some_iff.mp h
      obtain ⟨g, -, hlast⟩ := Option.bind_eq_some_iff.mp hplace
      exact ⟨_, fun _ _ => MapRule.eq_database_of_forGroup?, place, hlast, hnamed⟩
  obtain ⟨rfl, hne⟩ := named_eq_some_iff.mp hnamed
  obtain ⟨r, hr, hplace⟩ := List.mem_filterMap.mp (List.mem_of_getLast? hlast)
  exact ⟨List.mem_map.mpr ⟨r, hr, (hgives r _ hplace).symm⟩, hne⟩

/-! ## Texts put together -/

theorem ruleTexts_append (a b : String) :
    ruleTexts (a ++ "," ++ b) = ruleTexts a ++ ruleTexts b := by
  rw [ruleTexts, String.toList_append, String.toList_append, List.append_assoc]
  exact List.splitOnP_append_cons a.toList b.toList (beq_self_eq_true ',')

theorem parseRules_append (xs ys : List (List Char)) :
    m.parseRules (xs ++ ys) =
      match m.parseRules xs with
      | (next, none) => next.parseRules ys
      | (next, some cause) => (next, some cause) := by
  induction xs generalizing m with
  | nil => rfl
  | cons text rest ih =>
    rw [List.cons_append, parseRules, parseRules]
    cases MapRule.read text with
    | ok r => exact ih (m.apply r)
    | error cause => rfl

/-- A text that is cut at a comma is parsed part by part; what is wrong with the first part leaves
the second one out. -/
theorem parse_append (a b : String) :
    m.parse (a ++ "," ++ b) =
      match m.parse a with
      | (next, none) => next.parse b
      | (next, some cause) => (next, some cause) := by
  have htexts := ruleTexts_append a b
  unfold ruleTexts at htexts
  rw [parse, htexts]
  exact m.parseRules_append _ _

/-! ## Runs of parses -/

/-- The mapping after texts are parsed in order, whether or not they have bad rules. -/
def parseAll (m : DatabaseMap) (configs : List String) : DatabaseMap :=
  configs.foldl (fun m config => (m.parse config).1) m

/-- The rules that texts bring: those before the first bad one of each text. -/
def rulesOf (configs : List String) : List MapRule :=
  configs.flatMap fun config => goodRules (ruleTexts config)

/-- A run of parses applies the rules that its texts bring. -/
theorem parseAll_eq (configs : List String) :
    m.parseAll configs = (rulesOf configs).foldl apply m := by
  induction configs generalizing m with
  | nil => rfl
  | cons config rest ih =>
    rw [rulesOf, List.flatMap_cons, List.foldl_append, parseAll, List.foldl_cons, parse_eq]
    exact ih _

/-- **The state of a mapping** after any run of parses: its targets are the databases that the
applied rules name, without the empty one and each one once, in order of their first rule; a table
resolves to targets alone; and the next text leaves what its parts between commas leave, up to the
first bad rule. -/
theorem state_after_parses (configs : List String) :
    (empty.parseAll configs).targets = namedFirst ((rulesOf configs).map MapRule.database) ∧
    (empty.parseAll configs).targets.Nodup ∧ "" ∉ (empty.parseAll configs).targets ∧
    (∀ group table database, (empty.parseAll configs).resolve group table = some database →
      database ∈ (empty.parseAll configs).targets) ∧
    (∀ config, (empty.parseAll configs).parse config =
      ((goodRules (ruleTexts config)).foldl apply (empty.parseAll configs),
        firstFault? (ruleTexts config))) ∧
    ∀ a b, (empty.parseAll configs).parse (a ++ "," ++ b) =
      match (empty.parseAll configs).parse a with
      | (next, none) => next.parse b
      | (next, some cause) => (next, some cause) := by
  have htargets : (empty.parseAll configs).targets =
      namedFirst ((rulesOf configs).map MapRule.database) := by
    rw [parseAll_eq, targets_foldl_apply]
  refine ⟨htargets, ?_, ?_, ?_, fun config => parse_eq _ config, fun a b => parse_append _ a b⟩
  · rw [htargets]
    exact nodup_eraseDups _
  · rw [htargets, mem_namedFirst]
    exact fun h => h.2 rfl
  · intro group table database h
    rw [parseAll_eq] at h ⊢
    exact mem_targets_of_resolve _ h

/-- A mapping that has rules already, one of them written again, takes the next text up to its bad
rule: `b` goes to another database, the target that it had stays, and `d:v` is left out. -/
theorem rules_after_rules :
    (empty.parseAll ["a:x,:y,b:z", "group:g:w,a:"]).targets = ["x", "w"] ∧
      (empty.parseAll ["a:x,b:z", "group:g:w,a:"]).parse "b:u,c,d:v" =
        (empty.parseAll ["a:x,b:z", "group:g:w,a:", "b:u"], some (.misshapen "c")) ∧
      (empty.parseAll ["a:x,b:z", "group:g:w,a:", "b:u"]).targets = ["x", "z", "w", "u"] ∧
      "u" ∈ (empty.parseAll ["a:x,b:z", "group:g:w,a:", "b:u"]).targets := by
  obtain ⟨htargets, -⟩ := state_after_parses ["a:x,:y,b:z", "group:g:w,a:"]
  obtain ⟨-, -, -, -, hparse, -⟩ := state_after_parses ["a:x,b:z", "group:g:w,a:"]
  obtain ⟨hnext, -, -, hresolves, -⟩ :=
    state_after_parses ["a:x,b:z", "group:g:w,a:", "b:u"]
  refine ⟨?_, (hparse "b:u,c,d:v").trans ?_, ?_, ?_⟩
  · rw [htargets]
    decide +kernel
  · exact Prod.ext rfl rfl
  · rw [hnext]
    decide +kernel
  · exact hresolves none (some "b") "u" (by decide +kernel)

end SchemaPlan.DatabaseMap
