import SchemaPlan.Problem

/-!
# Noted computations

A computation that notes what it meets on its way and ends with a result or a problem.  What was
noted before a problem is kept.

* `Noted.gather` runs computations in order and joins their lists.
* `outcome_bind` and `notes_bind` say that the outcome depends on outcomes alone, and that notes
  are only ever added at the end.
-/
namespace SchemaPlan

/-- How much a note matters. -/
inductive Weight where
  | debug
  | warning
deriving DecidableEq

/-- The name of a weight. -/
def Weight.name : Weight → String
  | debug => "DEBUG"
  | warning => "WARNING"

/-- Something worth noting. -/
inductive Note where
  /-- A seed file is not there; its value is the empty text. -/
  | missingSeedFile (path : String)
  /-- A table is written as a view of the table in another database. -/
  | view (table database : String)
  /-- The tables of two schemas. -/
  | reconciling (common added removed : Nat)
  /-- Statements were merged. -/
  | merged (count into : Nat)
  /-- A command has its statements. -/
  | generated (count : Nat) (command : String)
deriving DecidableEq

namespace Note

/-- The weight of a note. -/
def weight : Note → Weight
  | missingSeedFile _ => .warning
  | _ => .debug

/-- The text of a note. -/
def message : Note → String
  | missingSeedFile path => "Cannot find insert filename: " ++ path
  | view table database => "Rendering " ++ table ++ " as a view of " ++ database ++ "." ++ table
  | reconciling common added removed =>
    "Reconciling " ++ Numeral.ofNat common ++ " common, " ++ Numeral.ofNat added ++ " added and " ++
      Numeral.ofNat removed ++ " removed tables"
  | merged count into =>
    "Coalesced " ++ Numeral.ofNat count ++ " statements into " ++ Numeral.ofNat into
  | generated count command =>
    "Generated " ++ Numeral.ofNat count ++ " statements for " ++ command

/-- A note as a line of a log. -/
def line (n : Note) : String :=
  n.weight.name ++ ": " ++ n.message

end Note

/-- A computation with the notes it made and its outcome. -/
structure Noted (α : Type) where
  notes : List Note
  outcome : Except Problem α

namespace Noted

variable {α β : Type}

/-- A result without notes. -/
def result (a : α) : Noted α :=
  ⟨[], .ok a⟩

/-- Goes on with the result, if there is one. -/
def next (x : Noted α) (f : α → Noted β) : Noted β :=
  match x.outcome with
  | .ok a => ⟨x.notes ++ (f a).notes, (f a).outcome⟩
  | .error p => ⟨x.notes, .error p⟩

instance : Monad Noted where
  pure := result
  bind := next

/-- An outcome without notes. -/
def ofExcept (outcome : Except Problem α) : Noted α :=
  ⟨[], outcome⟩

/-- A note and nothing else. -/
def note (n : Note) : Noted Unit :=
  ⟨[n], .ok ()⟩

@[simp] theorem outcome_pure (a : α) : (pure a : Noted α).outcome = .ok a := rfl

@[simp] theorem notes_pure (a : α) : (pure a : Noted α).notes = [] := rfl

@[simp] theorem outcome_bind (x : Noted α) (f : α → Noted β) :
    (x >>= f).outcome = x.outcome >>= fun a => (f a).outcome := by
  show (next x f).outcome = _
  unfold next
  cases x.outcome <;> rfl

theorem notes_bind (x : Noted α) (f : α → Noted β) :
    (x >>= f).notes = x.notes ++ match x.outcome with
      | .ok a => (f a).notes
      | .error _ => [] := by
  show (next x f).notes = _
  unfold next
  cases x.outcome <;> simp

@[simp] theorem outcome_ofExcept (outcome : Except Problem α) :
    (ofExcept outcome).outcome = outcome := rfl

@[simp] theorem outcome_note (n : Note) : (note n).outcome = .ok () := rfl

theorem next_result (x : Noted α) : next x result = x := by
  unfold next
  cases h : x.outcome <;> cases x <;> simp_all [result]

theorem result_next (a : α) (f : α → Noted β) : next (result a) f = f a := by
  simp [next, result]

theorem next_next {γ : Type} (x : Noted α) (f : α → Noted β) (g : β → Noted γ) :
    next (next x f) g = next x fun a => next (f a) g := by
  unfold next
  cases x.outcome with
  | error p => rfl
  | ok a => cases h : (f a).outcome <;> simp [h]

instance : LawfulMonad Noted :=
  LawfulMonad.mk' Noted (fun x => next_result x) (fun a f => result_next a f)
    (fun x f g => next_next x f g)

/-- Runs computations in order and joins their lists. -/
def gather : List (Noted (List α)) → Noted (List α)
  | [] => pure []
  | x :: rest => do
    let first ← x
    let others ← gather rest
    return first ++ others

end Noted

end SchemaPlan
