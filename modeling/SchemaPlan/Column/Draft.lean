import SchemaPlan.Column.Basic
import SchemaPlan.Doc.Conversion

/-!
# Building columns

A draft says what a document says about a column.  `Column.ofDraft` checks what excludes what, and
normalises the default to the type of the column: integers and decimals become numbers, a zero
date becomes the empty text, and a column that must have a value but names none gets the zero of
its type.
-/
namespace SchemaPlan

/-- What a document says about a column. -/
structure ColumnDraft (ν : Type := String) where
  name : ν
  type : Doc
  size : Int
  scale : Int
  nullable : Bool
  default : Doc
  systemDefault : Doc
  autoIncrement : Bool
  withTimeZone : Bool
  enumValues : Option (List String)

namespace ColumnDraft

/-- A draft of which only name and type are known. -/
def plain (name : String) (type : Doc) : ColumnDraft :=
  ⟨name, type, 0, 0, true, .null, .null, false, false, none⟩

/-- The draft with another name. -/
def rename {ν μ : Type} (d : ColumnDraft ν) (name : μ) : ColumnDraft μ :=
  ⟨name, d.type, d.size, d.scale, d.nullable, d.default, d.systemDefault, d.autoIncrement,
    d.withTimeZone, d.enumValues⟩

/-- The values that the column is limited to. -/
def values (d : ColumnDraft) : List String :=
  d.enumValues.getD []

/-- The type of the column. -/
def columnType (d : ColumnDraft) : ColumnType :=
  .ofDoc d.type

/-- What auto-increment and a limited type ask for. -/
def checkShape (d : ColumnDraft) : Except Problem Unit :=
  if d.columnType.isBase .enum && d.values.isEmpty then
    .error (.invariant (.enumWithoutValues d.name))
  else if d.autoIncrement && !d.systemDefault.isNull then
    .error (.invariant (.autoIncrementWithSymbol d.name))
  else if d.autoIncrement && !d.default.isNull then
    .error (.invariant (.autoIncrementWithDefault d.name))
  else .ok ()

/-- The system variable that is the default. -/
def readSystemDefault (d : ColumnDraft) : Except Problem (Option SystemReference) :=
  if d.systemDefault.isNull then .ok none
  else if !d.default.isNull then .error (.invariant (.symbolWithDefault d.name))
  else
    match d.systemDefault with
    | .text s =>
      match SystemReference.spelled? s with
      | some reference => .ok (some reference)
      | none => .error (.invariant (.unknownSymbol s d.name))
    | .bytes b => .error (.invariant (.unknownSymbol (Doc.bytes b).display d.name))
    | _ => .error (.fault .noLetters)

/-- The problem of a default that is no number. -/
def notNumeric (d : ColumnDraft) : Problem :=
  d.default.worded <| d.type.worded <|
    .invariant (.defaultNotNumeric d.default.literal d.columnType.display d.name)

/-- The default of a column that must have a value and names none. -/
def zeroDefault (d : ColumnDraft) : Except Problem Literal :=
  match d.columnType with
  | .base .decimal => .ok (.decimal (.ofInt 0))
  | .base .enum => .ok (.text (d.values.headD ""))
  | .base t => .ok (if t.isInteger then .int 0 else .text "")
  | .other label => if label.isKey then .ok (.text "") else .error (.fault .wrongKind)

/-- A default that is kept as it is written: bytes stay bytes, the rest is text. -/
def plainDefault (d : ColumnDraft) (zeros : List String) : Except Problem Literal :=
  match d.default with
  | .bytes b => .ok (.bytes b)
  | value => value.shown.map fun s => .text (if s ∈ zeros then "" else s)

/-- The default that a column names, normalised to its type. -/
def namedDefault (d : ColumnDraft) : Except Problem Literal :=
  match d.columnType with
  | .base .decimal =>
    match d.default.shown.toOption.bind Decimal.ofText? with
    | some x => .ok (.decimal x)
    | none => .error d.notNumeric
  | .base t =>
    if t.isInteger then
      match d.default.toInt with
      | .ok n => .ok (.int n)
      | .error .unbounded => .error (.fault .unbounded)
      | .error _ => .error d.notNumeric
    else d.plainDefault ((t.temporal?.map Temporal.zeros).getD [])
  | .other label => if label.isKey then d.plainDefault [] else .error d.notNumeric

/-- Whether a row may leave the column out although no default is named. -/
def isFree (d : ColumnDraft) : Bool :=
  d.nullable || d.autoIncrement || !d.systemDefault.isNull

/-- The default of the column. -/
def normalDefault (d : ColumnDraft) : Except Problem (Option Literal) :=
  if d.default.isNull then if d.isFree then .ok none else d.zeroDefault.map some
  else d.namedDefault.map some

/-- The problem of a default that is not one of the values of its column. -/
def notListed (d : ColumnDraft) (shown : String) : Problem :=
  .invariant (.defaultNotListed shown d.name (Text.quotedList d.values))

/-- A default of a limited type is one of its values. -/
def checkListed (d : ColumnDraft) : Option Literal → Except Problem Unit
  | some (.text s) =>
    if d.columnType.isBase .enum && !d.values.contains s then .error (d.notListed (Text.quoted s))
    else .ok ()
  | some (.bytes b) =>
    if d.columnType.isBase .enum then .error (d.notListed (Text.quotedBytes b)) else .ok ()
  | _ => .ok ()

end ColumnDraft

/-- The column that a draft describes. -/
def Column.ofDraft (d : ColumnDraft) : Except Problem Column := do
  d.checkShape
  let systemDefault ← d.readSystemDefault
  let default ← d.normalDefault
  d.checkListed default
  return ⟨d.name, d.columnType, d.size, d.scale, d.nullable, default, systemDefault,
    d.autoIncrement, d.withTimeZone, d.enumValues⟩

/-- The column that a draft describes whose name may be any value; the text of the name stands in
messages. -/
def Column.ofNamedDraft (d : ColumnDraft Doc) : Except Problem (Column Doc) :=
  ((Column.ofDraft (d.rename d.name.display)).map (·.rename d.name)).mapError d.name.worded

end SchemaPlan
