import SchemaPlan.Ordered
import SchemaPlan.Problem
import SchemaPlan.Text.Lines

/-!
# Mapping tables to databases

A table can live in another database.  Rules separated by commas say which: `table:database` for
one table, `group:name:database` for a group of tables.  A rule without a database takes a table
or a group back.

* `MapRule.read` reads one rule.
* `DatabaseMap.parse` applies rules in order and stops at the first bad one, keeping the rules
  before it.
* `DatabaseMap.resolve` asks for the database of a table; the rule of a table goes before the rule
  of its group.
-/
namespace SchemaPlan

open SchemaPlan.Text

/-- A rule that sends a table or a group to a database. -/
inductive MapRule where
  | table (name database : String)
  | group (name database : String)
deriving DecidableEq

/-- The database of a rule. -/
def MapRule.database : MapRule → String
  | table _ database => database
  | group _ database => database

/-- The pieces of a rule between its colons, without blanks around them. -/
def MapRule.pieces (rule : List Char) : List String :=
  (rule.splitOn ':').map fun piece => String.ofList (trim piece)

/-- The rule that a text gives. -/
def MapRule.read (rule : List Char) : Except BadRule MapRule :=
  let shown := String.ofList rule
  match pieces rule with
  | [name, place] =>
    if name = "" then .error (.noTable shown) else .ok (.table name place)
  | [word, name, place] =>
    if word ≠ "group" then .error (.noGroupWord shown)
    else if name = "" then .error (.noGroup shown)
    else .ok (.group name place)
  | _ => .error (.misshapen shown)

/-- Where tables live. -/
structure DatabaseMap where
  /-- The databases of single tables. -/
  tables : Ordered String
  /-- The databases of groups. -/
  groups : Ordered String
  /-- All databases that rules name, in order of their first rule. -/
  targets : List String
deriving Inhabited

namespace DatabaseMap

/-- The map without rules. -/
def empty : DatabaseMap := ⟨.empty, .empty, []⟩

/-- Notes the database of a rule. -/
def noteTarget (targets : List String) (database : String) : List String :=
  if database = "" ∨ database ∈ targets then targets else targets ++ [database]

/-- The map with one more rule. -/
def apply (m : DatabaseMap) : MapRule → DatabaseMap
  | .table name database =>
    ⟨m.tables.put name database, m.groups, noteTarget m.targets database⟩
  | .group name database =>
    ⟨m.tables, m.groups.put name database, noteTarget m.targets database⟩

/-- Applies rules in order, up to the first bad one. -/
def parseRules (m : DatabaseMap) : List (List Char) → DatabaseMap × Option BadRule
  | [] => (m, none)
  | rule :: rest =>
    match MapRule.read rule with
    | .ok r => parseRules (m.apply r) rest
    | .error cause => (m, some cause)

/-- Applies the rules of a text; what comes back is the map and the cause of a stop. -/
def parse (m : DatabaseMap) (config : String) : DatabaseMap × Option BadRule :=
  m.parseRules (config.toList.splitOn ',')

/-- The map that a text describes; the empty text describes the map without rules. -/
def ofText (config : String) : Except Problem DatabaseMap :=
  if config = "" then .ok .empty
  else
    match parse .empty config with
    | (m, none) => .ok m
    | (_, some cause) => .error (.rule cause)

/-- A database is named by a text that is not empty. -/
def named (database : String) : Option String :=
  if database = "" then none else some database

/-- The database of a table, `none` when the table is local.  Neither the group nor the table need
be there. -/
def resolve (m : DatabaseMap) (group table : Option String) : Option String :=
  match table.bind m.tables.get? with
  | some database => named database
  | none =>
    match group.bind m.groups.get? with
    | some database => named database
    | none => none

end DatabaseMap

/-- The database of a table under a map that need not be there. -/
def mappedDatabase (mapping : Option DatabaseMap) (group : Option String) (table : String) :
    Option String :=
  mapping.bind fun m => m.resolve group (some table)

end SchemaPlan
