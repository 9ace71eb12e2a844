import SchemaPlan.Number.Binary64

/-!
# Documents

A parsed document is a tree of scalars, lists and mappings whose kinds nothing has checked yet.
The key of a mapping is a text or the null key.

* `Doc.truthy` is the truth of a value where a switch is expected: what is empty or zero is false.
* `Doc.same?` is equality of values.  Booleans, integers, doubles and decimals are compared as
  numbers, mappings without regard to order; there is no answer when the comparison meets a
  signalling number.
* `Doc.isKey` says which values can be looked up in a table of names.
* `Doc.check` checks a value and all its parts.
-/
namespace SchemaPlan

/-- A parsed document. -/
inductive Doc where
  | null
  | bool (b : Bool)
  | int (n : Int)
  | float (x : Binary64)
  | decimal (d : Decimal)
  | text (s : String)
  | bytes (b : List UInt8)
  | list (items : List Doc)
  | mapping (fields : List (Option String × Doc))
deriving Inhabited

/-- The entries of a mapping in order. -/
abbrev Fields := List (Option String × Doc)

/-- The value under a key, null when there is none. -/
def Fields.value (fields : Fields) (key : String) : Doc :=
  (fields.lookup (some key)).getD .null

/-- Whether there is an entry with this key. -/
def Fields.has (fields : Fields) (key : String) : Bool :=
  (fields.lookup (some key)).isSome

/-- Puts a value under a key; a key that is there keeps its place. -/
def Fields.put (fields : Fields) (key : Option String) (value : Doc) : Fields :=
  match fields with
  | [] => [(key, value)]
  | (k, v) :: rest => if k == key then (k, value) :: rest else (k, v) :: Fields.put rest key value

namespace Doc

/-- Whether the value counts as true. -/
def truthy : Doc → Bool
  | null => false
  | bool b => b
  | int n => n != 0
  | float (.finite _ m _) => m != 0
  | float _ => true
  | decimal (.finite _ c _) => c != 0
  | decimal _ => true
  | text s => s != ""
  | bytes b => !b.isEmpty
  | list items => !items.isEmpty
  | mapping fields => !fields.isEmpty

/-- Whether the value is null. -/
def isNull : Doc → Bool
  | null => true
  | _ => false

/-- Whether the value is a text. -/
def isText : Doc → Bool
  | text _ => true
  | _ => false

/-- Whether the value is null or the empty text, which both stand for a field left out. -/
def isBlank : Doc → Bool
  | null => true
  | text s => s == ""
  | _ => false

/-- The value as a number, if it is one. -/
def number? : Doc → Option Decimal
  | bool b => some (.ofInt (if b then 1 else 0))
  | int n => some (.ofInt n)
  | float x => some x.toDecimal
  | decimal d => some d
  | _ => none

/-- Whether the value can be looked up in a table: containers cannot, nor signalling numbers. -/
def isKey : Doc → Bool
  | list _ => false
  | mapping _ => false
  | decimal d => !d.isSignalling
  | _ => true

mutual

/-- Whether two values are equal. -/
def same? : Doc → Doc → Option Bool
  | list xs, other =>
    match other with
    | list ys => if xs.length = ys.length then sameItems? xs ys else some false
    | _ => some false
  | mapping fs, other =>
    match other with
    | mapping gs => if fs.length = gs.length then sameFields? fs gs else some false
    | _ => some false
  | null, other => some other.isNull
  | text s, other =>
    match other with
    | text t => some (s == t)
    | _ => some false
  | bytes s, other =>
    match other with
    | bytes t => some (s == t)
    | _ => some false
  | bool b, other => sameNumber? (.ofInt (if b then 1 else 0)) other
  | int n, other => sameNumber? (.ofInt n) other
  | float x, other => sameNumber? x.toDecimal other
  | decimal d, other => sameNumber? d other

/-- Whether a value is a number of this value. -/
def sameNumber? (d : Decimal) (other : Doc) : Option Bool :=
  match other.number? with
  | some e => d.sameValue? e
  | none => some false

/-- Whether two lists agree item by item, as far as the shorter one goes; the first difference
settles it. -/
def sameItems? : List Doc → List Doc → Option Bool
  | x :: xs, y :: ys =>
    match x.same? y with
    | some true => sameItems? xs ys
    | answer => answer
  | _, _ => some true

/-- Whether each entry has an equal one under its key; the first difference settles it. -/
def sameFields? : Fields → Fields → Option Bool
  | [], _ => some true
  | (key, x) :: rest, gs =>
    match gs.lookup key with
    | none => some false
    | some y =>
      match x.same? y with
      | some true => sameFields? rest gs
      | answer => answer

end

mutual

/-- Checks a value without parts, or the parts of a value from left to right. -/
def check {ε : Type} (f : Doc → Except ε Unit) : Doc → Except ε Unit
  | list items => checkItems f items
  | mapping fields => checkFields f fields
  | d => f d

/-- Checks the items of a list. -/
def checkItems {ε : Type} (f : Doc → Except ε Unit) : List Doc → Except ε Unit
  | [] => .ok ()
  | item :: rest => do
    check f item
    checkItems f rest

/-- Checks the values of a mapping. -/
def checkFields {ε : Type} (f : Doc → Except ε Unit) : Fields → Except ε Unit
  | [] => .ok ()
  | (_, value) :: rest => do
    check f value
    checkFields f rest

end

end Doc

end SchemaPlan
