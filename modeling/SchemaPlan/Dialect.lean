import SchemaPlan.Problem

/-!
# Dialects

The two dialects of SQL, the three system variables both know, and where statements are headed: a
dialect together with the schema that local names are qualified with.
-/
namespace SchemaPlan

/-- A dialect of SQL. -/
inductive Dialect where
  | mysql
  | pgsql
deriving DecidableEq, Inhabited

/-- The name of a dialect. -/
def Dialect.name : Dialect → String
  | mysql => "mysql"
  | pgsql => "pgsql"

/-- The dialect of this name. -/
def Dialect.named (name : String) : Except Problem Dialect :=
  if name = "mysql" then .ok .mysql
  else if name = "pgsql" then .ok .pgsql
  else .error (.unknownDialect name)

theorem Dialect.named_name (d : Dialect) : Dialect.named d.name = .ok d := by
  cases d <;> rfl

/-- A value that the database computes when a row is written. -/
inductive SystemVariable where
  | currentDate
  | currentTime
  | currentTimestamp
deriving DecidableEq, Inhabited

/-- The name of a system variable in small letters. -/
def SystemVariable.name : SystemVariable → String
  | currentDate => "current_date"
  | currentTime => "current_time"
  | currentTimestamp => "current_timestamp"

/-- The system variable that a reference in any case names. -/
def SystemVariable.named? (reference : String) : Option SystemVariable :=
  [currentDate, currentTime, currentTimestamp].find? fun v => v.name == reference.toLower

/-- A system variable in SQL: capitals on one dialect, small letters on the other. -/
def SystemVariable.sql (v : SystemVariable) : Dialect → String
  | .mysql => v.name.toUpper
  | .pgsql => v.name

/-- A reference to a system variable, in the spelling that the document gives it. -/
structure SystemReference where
  spelling : String
  known : (SystemVariable.named? spelling).isSome

instance : DecidableEq SystemReference := fun a b =>
  if h : a.spelling = b.spelling then
    .isTrue (by cases a; cases b; simp_all)
  else .isFalse (by intro e; exact h (congrArg _ e))

/-- The reference with this spelling. -/
def SystemReference.spelled? (spelling : String) : Option SystemReference :=
  if known : (SystemVariable.named? spelling).isSome then some ⟨spelling, known⟩ else none

/-- The variable that is referred to. -/
def SystemReference.variable (r : SystemReference) : SystemVariable :=
  (SystemVariable.named? r.spelling).get r.known

/-- A reference in SQL. -/
def SystemReference.sql (r : SystemReference) (d : Dialect) : String :=
  r.variable.sql d

/-- Where statements are headed. -/
structure Target where
  dialect : Dialect
  /-- The schema of local tables; the empty text qualifies nothing. -/
  localSchema : String

/-- A local name with its schema in front. -/
def Target.qualify (t : Target) (name : String) : String :=
  if t.localSchema = "" then name else t.localSchema ++ "." ++ name

/-- The sequence that numbers the rows of a table, qualified. -/
def Target.sequence (t : Target) (table : String) : String :=
  t.qualify (table ++ "_autoInc_seq")

end SchemaPlan
