import SchemaPlan.Proofs.Doc.Ordinary
import SchemaPlan.Proofs.Document.Accepted

/-!
# Documents whose values fit their fields

Reading counts with the values of a document, runs through them and looks them up, and hardly ever
asks first whether they are of a kind that this can be done with.  A value of no such kind is a fault,
which is no rejection of the document.

* `Document.Fits` says what the fields of a document ask of their values.  What is looked up only when
  an entity is built is left open for its readers: they ask nothing of names.
* `Problem.IsReading`, `Problem.IsInvariant` and `Problem.IsBadSource` are the rejections by what
  finds them: the checks of a reader, building an entity, and making the source of a seed value.
* `Guarded` says of a computation that one condition keeps it to problems of one class and that
  another one holds when it has a result; `Guarded.bind` goes on behind such a computation.
* `guarded_require`, `guarded_count` and `guarded_items` are about single fields.
-/
namespace SchemaPlan

/-- Problems that are rejections of a document: its form is wrong, what it describes breaks a rule,
or a seed value does not come from one source. -/
inductive Problem.IsRejection : Problem → Prop where
  | malformed (cause : Malformed) : IsRejection (.malformed cause)
  | invariant (cause : Invariant) : IsRejection (.invariant cause)
  | source (cause : BadSource) : IsRejection (.source cause)

/-- Problems that the checks of a reader find: the form is wrong, or a seed value does not name one
source. -/
inductive Problem.IsReading : Problem → Prop where
  | malformed (cause : Malformed) : IsReading (.malformed cause)
  | notExactlyOne (table column : String) : IsReading (.source (.notExactlyOne table column))

/-- Problems that building a column, a table or a seed row finds. -/
inductive Problem.IsInvariant : Problem → Prop where
  | invariant (cause : Invariant) : IsInvariant (.invariant cause)

/-- Problems that making the source of a seed value finds. -/
inductive Problem.IsBadSource : Problem → Prop where
  | emptyFilename (column : String) : IsBadSource (.source (.emptyFilename column))
  | unknownSymbol (reference column : String) :
    IsBadSource (.source (.unknownSymbol reference column))

namespace Problem

variable {p : Problem}

theorem IsReading.isRejection (h : p.IsReading) : p.IsRejection := by
  cases h with
  | malformed cause => exact .malformed cause
  | notExactlyOne table column => exact .source _

theorem IsInvariant.isRejection (h : p.IsInvariant) : p.IsRejection := by
  cases h with
  | invariant cause => exact .invariant cause

theorem IsBadSource.isRejection (h : p.IsBadSource) : p.IsRejection := by
  cases h with
  | emptyFilename column => exact .source _
  | unknownSymbol reference column => exact .source _

/-- The checks of a reader are no part of making a source. -/
theorem IsReading.not_isBadSource (h : p.IsReading) : ¬ p.IsBadSource := by
  rintro (_ | _) <;> cases h

theorem IsInvariant.not_isBadSource (h : p.IsInvariant) : ¬ p.IsBadSource := by
  rintro (_ | _) <;> cases h

end Problem

/-! ## What fields ask for -/

namespace Doc

/-- A value that can be looked up. -/
def IsKey (d : Doc) : Prop :=
  d.isKey = true

/-- A value that anything may be. -/
def IsAnything (_ : Doc) : Prop :=
  True

/-- A value that is false or that an integer is read from. -/
def IsCount (d : Doc) : Prop :=
  d.truthy = true → ∃ n, d.toInt = .ok n

/-- A value that is no infinity. -/
def IsBounded (d : Doc) : Prop :=
  d.toInt ≠ .error .unbounded

/-- A value with letters, or none at all. -/
def IsSymbol : Doc → Prop
  | .null | .text _ | .bytes _ => True
  | _ => False

theorem isBounded_of_isNull {d : Doc} (h : d.isNull = true) : d.IsBounded := by
  cases d with
  | null => exact nofun
  | _ => cases h

/-- Bytes are no infinity. -/
theorem isBounded_bytes (b : List UInt8) : (bytes b).IsBounded := by
  have hread (s : List Char) : readInteger s ≠ .error .unbounded := by
    unfold readInteger
    split <;> exact nofun
  unfold IsBounded toInt
  dsimp only
  split_ifs
  · exact hread _
  · exact nofun

theorem isSymbol_of_isNull {d : Doc} (h : d.isNull = true) : d.IsSymbol := by
  cases d with
  | null => trivial
  | _ => cases h

/-- A value with letters is ordinary. -/
theorem IsSymbol.isOrdinary {d : Doc} (h : d.IsSymbol) : d.IsOrdinary := by
  cases d with
  | null => exact .null
  | text s => exact .text s
  | bytes b => exact .bytes b
  | _ => exact h.elim

/-- A value that can be run through. -/
def IsIterable (d : Doc) : Prop :=
  ∃ xs, Document.items d = .ok xs

/-- A value that can be run through, with these items. -/
def RunsThrough (item : Doc → Prop) (d : Doc) : Prop :=
  ∃ xs, Document.items d = .ok xs ∧ ∀ x ∈ xs, item x

theorem RunsThrough.isIterable {item : Doc → Prop} {d : Doc} (h : d.RunsThrough item) :
    d.IsIterable := by
  obtain ⟨xs, hxs, -⟩ := h
  exact ⟨xs, hxs⟩

/-- The items of a value are those that it runs through. -/
theorem RunsThrough.of_mem {item : Doc → Prop} {d x : Doc} {xs : List Doc} (h : d.RunsThrough item)
    (hxs : Document.items d = .ok xs) (hx : x ∈ xs) : item x := by
  obtain ⟨ys, hys, hitem⟩ := h
  obtain rfl := Except.ok.inj (hxs.symm.trans hys)
  exact hitem x hx

/-- A mapping with these fields; what is no mapping is rejected for that. -/
def IfMapping (fields : Fields → Prop) (d : Doc) : Prop :=
  ∀ fs, d = .mapping fs → fields fs

@[simp] theorem ifMapping_mapping {P : Fields → Prop} {fields : Fields} :
    (mapping fields).IfMapping P ↔ P fields := by
  constructor
  · exact fun h => h fields rfl
  · rintro h fs hfs
    cases hfs
    exact h

end Doc

namespace Document

open SchemaPlan.Doc

/-- What reading a column asks of its fields. -/
structure ColumnReads (fields : Fields) : Prop where
  size : (fields.value "size").IsCount
  scale : (fields.value "scale").IsCount
  limits : (fields.value "enumValues").isNull = false → (fields.value "enumValues").IsIterable

/-- What building a column asks of its fields. -/
structure ColumnBuilds (fields : Fields) : Prop where
  symbol : (fields.value "sysVarDefault").IsSymbol
  /-- The type is looked up for its zero when no row may leave the column out. -/
  zero : (fields.value "default").isNull = true → switch fields "null" true = false →
    switch fields "autoIncrement" false = false → (fields.value "sysVarDefault").isNull = true →
    (fields.value "type").IsKey
  /-- The default of an integer is no infinity, unless it is bytes in base 64. -/
  number : ∀ t, ColumnType.ofDoc (fields.value "type") = .base t → t.isInteger = true →
    (fields.value "defaultIsBase64Encoded").truthy = false → (fields.value "default").IsBounded

/-- What a column asks of its fields. -/
structure ColumnFits (fields : Fields) : Prop extends ColumnReads fields, ColumnBuilds fields

/-- What a table asks of its fields, with this for its name and for its columns. -/
structure TableFits (key : Doc → Prop) (column : Fields → Prop) (fields : Fields) : Prop where
  name : key (fields.value "name")
  primaryKey : (fields.value "primaryKey").truthy = true → (fields.value "primaryKey").IsIterable
  columns : (fields.value "columns").truthy = true →
    (fields.value "columns").RunsThrough fun c => (columnEntries c).IfMapping column

/-- What an index asks of its fields. -/
structure IndexFits (key : Doc → Prop) (fields : Fields) : Prop where
  name : key (fields.value "name")
  table : key (fields.value "table")
  columns : (fields.value "columns").isNull = false → (fields.value "columns").IsIterable

/-- What a foreign key asks of its fields. -/
structure ForeignKeyFits (key : Doc → Prop) (fields : Fields) : Prop where
  columns : (fields.value "columns").isNull = false → (fields.value "columns").IsIterable
  name : key (fields.value "name")
  table : key (fields.value "table")

/-- What a seed row asks of its fields. -/
structure SeedFits (key : Doc → Prop) (fields : Fields) : Prop where
  table : key (fields.value "table")
  columns : (fields.value "columns").isNull = false → (fields.value "columns").IsIterable
  keys : (fields.value "keyColumns").truthy = true → (fields.value "keyColumns").IsIterable

/-- What an entry asks of its fields, with this for the names that it is looked up by and for the
columns of a table. -/
def EntryFits (key : Doc → Prop) (column : Fields → Prop) (fields : Fields) : Prop :=
  match Fields.value fields "kind" with
  | .text "table" => TableFits key column fields
  | .text "index" => IndexFits key fields
  | .text "foreignKey" => ForeignKeyFits key fields
  | .text "insert" => SeedFits key fields
  | other => other.IsKey

/-- The entries of a document. -/
def entriesIn : Doc → List Doc
  | .mapping fields =>
    match Fields.value fields "entities" with
    | .list xs => xs
    | _ => []
  | _ => []

theorem entriesIn_of_list {fields : Fields} {xs : List Doc}
    (h : Fields.value fields "entities" = .list xs) : entriesIn (.mapping fields) = xs := by
  rw [entriesIn, h]

/-- A value that is false holds no entries. -/
theorem entriesIn_of_not_truthy {fields : Fields}
    (h : ¬ (Fields.value fields "entities").truthy = true) : entriesIn (.mapping fields) = [] := by
  rw [entriesIn]
  split
  · next xs hxs =>
    rw [hxs] at h
    simpa [truthy] using h
  · rfl

/-- The entries of an ordinary document are ordinary. -/
theorem isOrdinary_of_mem_entriesIn {d x : Doc} (h : d.IsOrdinary) (hx : x ∈ entriesIn d) :
    x.IsOrdinary := by
  unfold entriesIn at hx
  split at hx
  · next fields =>
    have hentries := h.value "entities"
    split at hx
    · next xs hxs =>
      rw [hxs] at hentries
      exact hentries.items rfl x hx
    · cases hx
  · cases hx

/-- An entry whose values fit its fields. -/
def FitEntry (x : Doc) : Prop :=
  x.IfMapping (EntryFits IsKey ColumnFits)

/-- A document whose values fit their fields. -/
def Fits (d : Doc) : Prop :=
  ∀ x ∈ entriesIn d, FitEntry x

end Document

/-! ## Guarded computations -/

/-- A computation that has problems of one class only where one condition holds, and that has a
result only where another one does. -/
structure Guarded {α : Type} (allowed : Problem → Prop) (x : Except Problem α)
    (enough needed : Prop) : Prop where
  rejects : enough → ∀ p, x = .error p → allowed p
  accepts : ∀ a, x = .ok a → needed

namespace Guarded

variable {α β γ : Type} {C C' : Problem → Prop} {x : Except Problem α} {f : α → Except Problem β}
  {R Q Q' : Prop} {d : Doc}

theorem mono (h : Guarded C x R Q) (hQ : Q → Q') : Guarded C x R Q' where
  rejects := h.rejects
  accepts a ha := hQ (h.accepts a ha)

theorem weaken (h : Guarded C x R Q) (hC : ∀ p, C p → C' p) : Guarded C' x R Q where
  rejects hR p hp := hC p (h.rejects hR p hp)
  accepts := h.accepts

theorem ok (a : α) (hQ : Q) : Guarded C (.ok a : Except Problem α) R Q where
  rejects _ p hp := by cases hp
  accepts _ _ := hQ

theorem rejection {p : Problem} (h : C p) : Guarded C (.error p : Except Problem α) R Q where
  rejects _ q hq := by
    cases hq
    exact h
  accepts _ ha := by cases ha

/-- Any problem may arise where the condition fails. -/
theorem fault {p : Problem} (h : ¬ R) : Guarded C (.error p : Except Problem α) R Q where
  rejects hR := absurd hR h
  accepts _ ha := by cases ha

/-- Going on with a result, and with what is known when there is one. -/
theorem bind (hx : Guarded C x R Q) (hf : ∀ a, x = .ok a → Q → Guarded C (f a) R Q') :
    Guarded C (x >>= f) R Q' := by
  cases x with
  | ok a => exact hf a rfl (hx.accepts a rfl)
  | error p =>
    constructor
    · intro hR q hq
      cases hq
      exact hx.rejects hR p rfl
    · intro b hb
      cases hb

theorem map (hx : Guarded C x R Q) (g : α → β) : Guarded C (x.map g) R Q :=
  hx.bind fun a _ hQ => .ok (g a) hQ

/-- Problems whose text shows an ordinary value stay what they are. -/
theorem worded (hx : Guarded C x R Q) (hd : R → d.IsOrdinary) :
    Guarded C (x.mapError d.worded) R Q where
  rejects hR p hp := by
    cases x with
    | ok a => cases hp
    | error q =>
      cases hp
      rw [(hd hR).worded]
      exact hx.rejects hR q rfl
  accepts a ha := hx.accepts a (mapError_eq_ok_iff.mp ha)

theorem error_worded {p : Problem} (h : C p) (hd : R → d.IsOrdinary) :
    Guarded C (.error (d.worded p) : Except Problem α) R Q :=
  Guarded.worded (.rejection h) hd

/-- An ordinary value has a text. -/
theorem shown (hd : R → d.IsOrdinary) : Guarded C d.shown R True where
  rejects hR p hp := by
    rw [(hd hR).shown] at hp
    cases hp
  accepts _ _ := trivial

/-- Computations that are run for the items of a list are guarded by what guards each of them; here
what is needed is about what the items are made from. -/
theorem mapM_of_forall₂ {f : β → Except Problem γ} {Q : α → Prop} {xs : List α} {ys : List β}
    (h : List.Forall₂ (fun x y => Guarded C (f y) R (Q x)) xs ys) :
    Guarded C (ys.mapM f) R (∀ x ∈ xs, Q x) := by
  induction h with
  | nil => exact .ok [] nofun
  | cons hxy _ ih =>
    rw [List.mapM_cons]
    refine .bind hxy fun z _ hx => .bind ih fun zs _ hxs => ?_
    exact .ok (z :: zs) (List.forall_mem_cons.mpr ⟨hx, hxs⟩)

theorem mapM {f : α → Except Problem β} {Q : α → Prop} {xs : List α}
    (h : ∀ x ∈ xs, Guarded C (f x) R (Q x)) : Guarded C (xs.mapM f) R (∀ x ∈ xs, Q x) :=
  mapM_of_forall₂ (List.forall₂_same.mpr h)

end Guarded

namespace Document

open SchemaPlan.Doc
open SchemaPlan.Problem (IsReading)

/-! ## Fields -/

section

variable {α : Type} {d : Doc} {fields : Fields} {key place : String} {R : Prop}

/-- What is read from the fields of a mapping is guarded by what its fields ask for. -/
theorem guarded_fieldsOf {k : Fields → Except Problem α} {Q : Fields → Prop} {allowed : List String}
    (h : ∀ fields, d = .mapping fields → Guarded IsReading (k fields) R (Q fields)) :
    Guarded IsReading (fieldsOf d allowed place >>= k) R (d.IfMapping Q) := by
  cases d with
  | mapping fields =>
    rw [ifMapping_mapping]
    unfold fieldsOf
    dsimp only
    split_ifs
    · exact h fields rfl
    · exact .rejection (.malformed _)
  | _ => exact .rejection (.malformed _)

theorem eq_mapping_of_fieldsOf {allowed : List String} (h : fieldsOf d allowed place = .ok fields) :
    d = .mapping fields := by
  unfold fieldsOf at h
  split at h
  · dsimp only at h
    split_ifs at h
    cases h
    rfl
  · cases h

theorem guarded_require : Guarded IsReading (require fields key place) R True := by
  unfold require
  dsimp only
  split_ifs
  · exact .rejection (.malformed _)
  · exact .ok _ trivial

theorem value_of_require {value : Doc} (h : require fields key place = .ok value) :
    value = fields.value key ∧ (fields.value key).isNull = false := by
  have hblank := not_isBlank_of_require h
  unfold require at h
  dsimp only at h
  split_ifs at h
  cases h
  refine ⟨rfl, Bool.eq_false_iff.mpr fun hnull => ?_⟩
  cases hvalue : fields.value key with
  | null =>
    rw [hvalue] at hblank
    cases hblank
  | _ =>
    rw [hvalue] at hnull
    cases hnull

theorem guarded_decoded (value : Doc) : Guarded IsReading (decoded value place) R True := by
  unfold decoded
  split
  · exact .ok _ trivial
  · exact .rejection (.malformed _)

theorem guarded_count (h : R → (fields.value key).IsCount) :
    Guarded IsReading (count fields key) R (fields.value key).IsCount := by
  unfold count
  dsimp only
  split_ifs with htruthy
  · cases hint : (fields.value key).toInt with
    | ok n => exact .ok n fun _ => ⟨n, hint⟩
    | error cause =>
      refine .fault fun hR => ?_
      obtain ⟨n, hn⟩ := h hR htruthy
      rw [hint] at hn
      cases hn
  · exact .ok 0 fun h => absurd h htruthy

theorem guarded_items {C : Problem → Prop} (h : R → d.IsIterable) :
    Guarded C (items d) R d.IsIterable := by
  cases hitems : items d with
  | ok xs => exact .ok xs ⟨xs, hitems⟩
  | error p =>
    refine .fault fun hR => ?_
    obtain ⟨xs, hxs⟩ := h hR
    rw [hitems] at hxs
    cases hxs

theorem guarded_itemsIfAny (h : R → d.truthy = true → d.IsIterable) :
    Guarded IsReading (itemsIfAny d) R (d.truthy = true → d.IsIterable) := by
  unfold itemsIfAny
  split_ifs with htruthy
  · exact (guarded_items fun hR => h hR htruthy).mono fun h _ => h
  · exact .ok [] fun h => absurd h htruthy

/-- The items of a value that is true are its items. -/
theorem items_of_itemsIfAny {xs : List Doc} (h : itemsIfAny d = .ok xs) (htruthy : d.truthy = true) :
    items d = .ok xs := by
  unfold itemsIfAny at h
  rwa [if_pos htruthy] at h

/-- Only a value that is true has items. -/
theorem truthy_of_mem_itemsIfAny {xs : List Doc} {x : Doc} (h : itemsIfAny d = .ok xs)
    (hx : x ∈ xs) : d.truthy = true := by
  unfold itemsIfAny at h
  split_ifs at h with htruthy
  · exact htruthy
  · cases h
    cases hx

end

end Document

end SchemaPlan
