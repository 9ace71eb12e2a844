import SchemaPlan.Problem

/-!
# What document values are read as

The integer that a document value stands for, and its text.  Numbers are cut off, text and bytes are
read as numerals, and everything else is no integer.  Every value has a text, unless some integer in
it has too many digits.
-/
namespace SchemaPlan.Doc

/-! ## Integers -/

/-- The integer of a numeral. -/
def readInteger (s : List Char) : Except Fault Int :=
  match Numeral.toInt? s with
  | some n => .ok n
  | none => .error .noNumber

/-- The integer that a value stands for. -/
def toInt : Doc → Except Fault Int
  | bool b => .ok (if b then 1 else 0)
  | int n => .ok n
  | float (.finite negative m e) => .ok (Binary64.truncate negative m e)
  | float (.infinite _) => .error .unbounded
  | float .nan => .error .noNumber
  | decimal (.finite negative c e) => .ok (Decimal.truncate negative c e)
  | decimal (.infinite _) => .error .unbounded
  | decimal (.nan ..) => .error .noNumber
  | text s => readInteger s.toList
  | bytes b =>
    if b.all (· < 128) then readInteger (b.map fun x => Char.ofNat x.toNat) else .error .noNumber
  | null => .error .wrongKind
  | list _ => .error .wrongKind
  | mapping _ => .error .wrongKind

/-! ## Texts -/

/-- The integers of a value are short enough to be written. -/
def checkDigits (d : Doc) : Except Problem Unit :=
  d.check fun
    | int n => if Numeral.isWritable n then .ok () else .error (.fault .tooManyDigits)
    | _ => .ok ()

/-- Whether the integers of a value are short enough to be written. -/
def isShown (d : Doc) : Bool :=
  d.checkDigits.isOk

/-- The text of a value. -/
def shown (d : Doc) : Except Problem String := do
  d.checkDigits
  return d.display

@[simp] theorem shown_text (s : String) : (text s).shown = .ok s := rfl

theorem shown_eq_ok_iff {d : Doc} {s : String} :
    d.shown = .ok s ↔ d.isShown = true ∧ s = d.display := by
  unfold shown isShown
  cases d.checkDigits with
  | ok _ => simp [bind, Except.bind, pure, Except.pure, Except.isOk, Except.toBool, eq_comm]
  | error p => simp [bind, Except.bind, Except.isOk, Except.toBool]

/-- A problem whose text shows a value.  Where the value has no text, that is the problem; a fault
shows nothing. -/
def worded (d : Doc) : Problem → Problem
  | .fault cause => .fault cause
  | p => if d.isShown then p else .fault .tooManyDigits

end SchemaPlan.Doc
