import SchemaPlan.Document.Read
import SchemaPlan.Seeding

/-!
# Seed values given by hand

A seed value that is given by itself and not by a document, so that it may be of any kind.  A
literal of any kind stands for itself and can be written without quotes; the name of a file must be
a text, which is noticed when the file is looked for.
-/
namespace SchemaPlan

/-- A seed value given by hand. -/
inductive GivenSeed where
  /-- A value that a document can give too. -/
  | column (c : SeedColumn)
  /-- A literal of another kind. -/
  | literal (value : Doc) (quoted : Bool)
  /-- A file whose name is no text. -/
  | file

namespace GivenSeed

/-- The kind of source that a value names. -/
def kindOf : Doc → Option SourceKind
  | .text s => SourceKind.named? s
  | _ => none

/-- Whether a value is of a kind that a document gives. -/
def isPlain (value : Doc) : Bool :=
  value.isNull || (SeedSource.content? value).isSome

/-- The seed value of a column with a source of this kind; the text of the name stands in
messages. -/
def build (name kind value : Doc) (quoted : Bool) : Except Problem GivenSeed :=
  match kindOf kind with
  | none => .error (name.worded (.source (.unknownKind name.display)))
  | some k =>
    if k = .literal && !isPlain value then .ok (literal value quoted)
    else if k = .file && value.truthy && !isPlain value then .ok file
    else
      (Document.sourceOf name k value).map fun source =>
        GivenSeed.column ⟨name.display, source, quoted⟩

/-- The kind of source of a seed value. -/
def kind : GivenSeed → SourceKind
  | column c => c.source.kind
  | literal .. => .literal
  | file => .file

/-- The value that is resolved, and its text in a dialect.  Only what has letters can be quoted. -/
def write (d : Deployment) : GivenSeed → Noted (Doc × String)
  | column c => do
    let content ← c.source.resolve d
    return (contentDoc content, (c.value content).sql d.target.dialect)
  | literal value quoted =>
    if quoted then .ofExcept (.error (.fault .noLetters))
    else .ofExcept (value.shown.map fun s => (value, s))
  | file => .ofExcept (.error (.fault .wrongKind))

end GivenSeed

end SchemaPlan
