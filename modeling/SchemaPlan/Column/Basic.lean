import SchemaPlan.Column.Type
import SchemaPlan.Sql.Literal

/-!
# Columns

A column of a table and its default.  `Column.same?` is equality in all fields, `Column.sameInView?`
in those that a view of the table shows.  Both look at the fields in order and are settled by the
first difference, so a signalling number in a later field is not met.
-/
namespace SchemaPlan

/-- The literal default of a column. -/
inductive Literal where
  | text (s : String)
  | bytes (b : List UInt8)
  | int (n : Int)
  | decimal (d : Decimal)
deriving DecidableEq

/-- The literal as a number, if it is one. -/
def Literal.number? : Literal → Option Decimal
  | int n => some (.ofInt n)
  | decimal d => some d
  | _ => none

/-- Whether two literals are equal, numbers by value. -/
def Literal.same? : Literal → Literal → Option Bool
  | text s, text t => some (s == t)
  | bytes s, bytes t => some (s == t)
  | a, b =>
    match a.number?, b.number? with
    | some x, some y => x.sameValue? y
    | _, _ => some false

/-- Whether two defaults are equal. -/
def sameDefault? : Option Literal → Option Literal → Option Bool
  | none, none => some true
  | some a, some b => a.same? b
  | _, _ => some false

/-- The second answer if the first one is yes. -/
def andThen? : Option Bool → Option Bool → Option Bool
  | some true, second => second
  | first, _ => first

/-- A literal is written unless it is an integer that is too long. -/
def Literal.checkWritable : Literal → Except Problem Unit
  | int n => if Numeral.isWritable n then .ok () else .error (.fault .tooManyDigits)
  | _ => .ok ()

/-- A column of a table.  Its name is a text, unless it was read from a document that says otherwise;
then it may be any value. -/
structure Column (ν : Type := String) where
  name : ν
  type : ColumnType
  size : Int
  scale : Int
  nullable : Bool
  default : Option Literal
  /-- The system variable that is the default. -/
  systemDefault : Option SystemReference
  autoIncrement : Bool
  withTimeZone : Bool
  enumValues : Option (List String)

namespace Column

/-- The column with another name. -/
def rename {ν μ : Type} (c : Column ν) (name : μ) : Column μ :=
  ⟨name, c.type, c.size, c.scale, c.nullable, c.default, c.systemDefault, c.autoIncrement,
    c.withTimeZone, c.enumValues⟩

/-- Whether two columns are equal in all fields. -/
def same? (a b : Column) : Option Bool :=
  andThen? (some (a.name == b.name)) <|
  andThen? (a.type.same? b.type) <|
  andThen? (some (a.size == b.size && a.scale == b.scale && a.nullable == b.nullable)) <|
  andThen? (sameDefault? a.default b.default) <|
  some (a.systemDefault == b.systemDefault && a.autoIncrement == b.autoIncrement &&
    a.withTimeZone == b.withTimeZone && a.enumValues == b.enumValues)

/-- Whether two columns look alike in a view of their table. -/
def sameInView? (a b : Column) : Option Bool :=
  andThen? (some (a.name == b.name)) <|
  andThen? (a.type.same? b.type) <|
  some (a.size == b.size && a.scale == b.scale && a.nullable == b.nullable &&
    a.enumValues == b.enumValues)

end Column

end SchemaPlan
