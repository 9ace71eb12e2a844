import SchemaPlan.Text.Lines

/-!
# Merging changes of one table

Statements in a row that change the same table are merged into one, as long as it does not grow
beyond a bound.  A statement changes a table if it begins with `alter table`, a name and a blank;
this beginning is its head, and two statements are merged only if their heads are equal.
-/
namespace SchemaPlan

open SchemaPlan.Text

/-- The words at the front of a statement that changes a table. -/
def alterWords : List Char := "alter table ".toList

/-- The head of a statement that changes a table. -/
def alterHead? (s : List Char) : Option (List Char) :=
  if alterWords.isPrefixOf s then
    let rest := s.drop alterWords.length
    let name := rest.takeWhile (!isBlank ·)
    match name, rest.drop name.length with
    | _ :: _, ' ' :: _ => some (alterWords ++ name ++ [' '])
    | _, _ => none
  else none

/-- A statement that may still grow. -/
structure Pending where
  head : List Char
  text : String

/-- What a statement adds to another one of the same head. -/
def addition (head : List Char) (statement : String) : String :=
  ", " ++ String.ofList (statement.toList.drop head.length)

/-- Merges statements into the pending one and among each other. -/
def mergeFrom (bound : Int) : Option Pending → List String → List String
  | none, [] => []
  | some pending, [] => [pending.text]
  | none, s :: rest =>
    match alterHead? s.toList with
    | some head => mergeFrom bound (some ⟨head, s⟩) rest
    | none => s :: mergeFrom bound none rest
  | some pending, s :: rest =>
    match alterHead? s.toList with
    | some head =>
      let more := addition head s
      if head = pending.head ∧ ((pending.text.length + more.length : Nat) : Int) ≤ bound then
        mergeFrom bound (some ⟨head, pending.text ++ more⟩) rest
      else pending.text :: mergeFrom bound (some ⟨head, s⟩) rest
    | none => pending.text :: s :: mergeFrom bound none rest

/-- Merges runs of statements that change the same table. -/
def merge (bound : Int) (statements : List String) : List String :=
  mergeFrom bound none statements

/-- The bound on merged statements where none is given. -/
def defaultBound : Int := 65000

end SchemaPlan
