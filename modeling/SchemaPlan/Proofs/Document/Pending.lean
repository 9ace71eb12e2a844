import SchemaPlan.Proofs.Document.Fitting

/-!
# Entries that are read and not yet built

Reading an entry gives a draft, and building comes later, with one exception: the sources of the
values of a seed row are made while the row is read.  Here everything is left for later.  What is
read of an entry is then the pending computation that builds its entity, and what goes wrong while
an entry is read is a matter of its form alone.

* `pendingEntry` reads an entry in this way; `pendingSeed` is the one reader that differs.
* `Staged` says what a computation that builds a part along the way has to do with the one that
  builds nothing; `Staged.bind`, `Staged.andThen` and `Staged.mapM` put such computations together.
* `staged_entry` says so of `readEntry` and `pendingEntry`.
-/
namespace SchemaPlan

namespace Document

open SchemaPlan.Doc
open SchemaPlan.Problem (IsReading IsBadSource IsRejection)

/-! ## Values of seed rows -/

section

variable {d column : Doc} {fields : Fields} {table place : String} {kind : SourceKind} {R : Prop}

theorem isSymbol_of_seedValue {value : Doc} (h : seedValue d = .ok value) : value.IsSymbol := by
  unfold seedValue at h
  split at h
  · cases h
    trivial
  · cases h
    trivial
  · obtain ⟨s, -, rfl⟩ := map_eq_ok_iff.mp h
    trivial

theorem isSymbol_of_writtenValue {value : Doc}
    (h : writtenValue fields kind table column = .ok value) : value.IsSymbol := by
  unfold writtenValue at h
  rw [bind_eq_ok_iff] at h
  obtain ⟨written, hwritten, h⟩ := h
  split_ifs at h
  · rw [bind_eq_ok_iff] at h
    obtain ⟨shown, -, h⟩ := h
    unfold decoded at h
    split at h
    · cases h
      trivial
    · cases h
  · cases h
    exact isSymbol_of_seedValue hwritten

theorem guarded_seedValue (hd : R → d.IsOrdinary) : Guarded IsReading (seedValue d) R True := by
  unfold seedValue
  split
  · exact .ok _ trivial
  · exact .ok _ trivial
  · exact (Guarded.shown hd).map _

theorem guarded_writtenValue (hvalue : R → (fields.value kind.name).IsOrdinary)
    (hcolumn : R → column.IsOrdinary) :
    Guarded IsReading (writtenValue fields kind table column) R True := by
  unfold writtenValue
  refine .bind (guarded_seedValue hvalue) fun written _ _ => ?_
  split_ifs
  · exact .bind (.shown hcolumn) fun shown _ _ => guarded_decoded _
  · exact .ok _ trivial

/-- A value with letters is a source or is rejected. -/
theorem guarded_ofDoc_source {name : String} {value : Doc} (h : value.IsSymbol) :
    Guarded IsBadSource (SeedSource.ofDoc name kind value) R True := by
  unfold SeedSource.ofDoc
  cases kind with
  | literal =>
    cases value with
    | null | text _ | bytes _ => exact .ok _ trivial
    | _ => exact h.elim
  | file =>
    dsimp only
    split_ifs with hempty
    · exact .rejection (.emptyFilename name)
    · cases value with
      | null => exact absurd rfl hempty
      | text _ | bytes _ => exact .ok _ trivial
      | _ => exact h.elim
  | system =>
    dsimp only
    split
    · split
      · exact .ok _ trivial
      · exact .rejection (.unknownSymbol _ name)
    · rw [h.isOrdinary.worded]
      exact .rejection (.unknownSymbol _ name)

theorem guarded_sourceOf {value : Doc} (hvalue : value.IsSymbol) (hcolumn : R → column.IsOrdinary) :
    Guarded IsBadSource (sourceOf column kind value) R True :=
  (guarded_ofDoc_source hvalue).worded hcolumn

/-- Reads a value of a seed row; its source is still to be made. -/
def pendingSeedColumn (table d : Doc) : Except Problem (Except Problem (SeedColumn Doc)) := do
  let owner ← table.shown
  let place := "seed column of table " ++ owner
  let fields ← fieldsOf d
    (["name", "quoted", "valueIsBase64Encoded"] ++ SourceKind.all.map SourceKind.name) place
  let column ← require fields "name" place
  match sourceKinds fields with
  | [kind] =>
    let value ← writtenValue fields kind owner column
    return (sourceOf column kind value).map fun source =>
      ⟨column, source, switch fields "quoted" false⟩
  | _ => .error (column.worded (.source (.notExactlyOne owner column.display)))

end

/-! ## Entries -/

/-- Reads the key columns of a seed row, the values of which are still to be made. -/
def pendingRow (fields : Fields) (table : Doc) (columns : Except Problem (List (SeedColumn Doc))) :
    Except Problem (Except Problem (Entity Doc)) := do
  let keys ← itemsIfAny (fields.value "keyColumns")
  return columns >>= fun columns =>
    EntityDraft.build (.seed table columns keys (switch fields "updateIfExists" false))

/-- Reads a seed row that is still to be built. -/
def pendingSeed (d : Doc) (place : String) : Except Problem (Except Problem (Entity Doc)) := do
  let fields ← fieldsOf d ["kind", "table", "keyColumns", "updateIfExists", "columns"] place
  let table ← require fields "table" place
  let columns ← (← items (← require fields "columns" place)).mapM (pendingSeedColumn table)
  pendingRow fields table (columns.mapM id)

/-- Reads the entry at a position, counted from one; its entity is still to be built. -/
def pendingEntry (position : Nat) (d : Doc) : Except Problem (Except Problem (Entity Doc)) :=
  match kindOf d with
  | .text "insert" => pendingSeed d ("entity #" ++ Numeral.ofNat position)
  | _ => (readEntry position d).map EntityDraft.build

end Document

/-! ## Building along the way -/

open SchemaPlan.Problem (IsReading IsBadSource IsRejection)

/-- One computation builds nothing, and another one, whose draft is built later, makes sources along
the way.  They have the same results and, where a condition holds, the same problems, but that of a
source comes too early. -/
structure Staged {α β : Type} (R : Prop) (pending : Except Problem (Except Problem β))
    (x : Except Problem α) (build : α → Except Problem β) : Prop where
  accepts : ∀ a, x = .ok a → pending = .ok (build a)
  rejects : R → ∀ p, x = .error p →
    pending = .error p ∨ p.IsBadSource ∧ ∀ built, pending = .ok built → built = .error p

namespace Staged

variable {α β γ : Type} {R : Prop} {x : Except Problem α} {y : Except Problem (Except Problem β)}
  {build : α → Except Problem β}

theorem error (p : Problem) : Staged R (.error p) (.error p) build where
  accepts _ ha := by cases ha
  rejects _ q hq := by
    cases hq
    exact .inl rfl

/-- What makes nothing along the way is built later. -/
theorem map (x : Except Problem α) (build : α → Except Problem β) :
    Staged R (x.map build) x build := by
  cases x with
  | error p => exact .error p
  | ok a => exact ⟨fun b hb => (by cases hb; rfl), fun _ _ hp => by cases hp⟩

/-- What is asked of the fields when nothing is made along the way is asked of them in any case. -/
theorem guarded {Q : Prop} (h : Staged R y x build) (hy : Guarded IsReading y R Q) :
    Guarded IsRejection x R Q where
  rejects hR p hp := by
    rcases h.rejects hR p hp with hpending | ⟨hbad, -⟩
    · exact (hy.rejects hR p hpending).isRejection
    · exact hbad.isRejection
  accepts a ha := hy.accepts (build a) (h.accepts a ha)

/-- What is made at once is otherwise left for later. -/
theorem make {x : Except Problem β} (h : R → ∀ p, x = .error p → p.IsBadSource) :
    Staged R (.ok x) x .ok where
  accepts _ hb := congrArg Except.ok hb
  rejects hR p hp := .inr ⟨h hR p hp, fun _ hbuilt => (Except.ok.inj hbuilt).symm.trans hp⟩

/-- Going on with one result in two ways. -/
theorem bind {m : Except Problem γ} {f : γ → Except Problem α}
    {g : γ → Except Problem (Except Problem β)} (h : ∀ c, m = .ok c → Staged R (g c) (f c) build) :
    Staged R (m >>= g) (m >>= f) build := by
  cases m with
  | ok c => exact h c rfl
  | error p => exact .error p

/-- Going on with a part that is made along the way in one computation, and left for later in the
other one, where its problem is kept. -/
theorem andThen {x : Except Problem α} {y : Except Problem (Except Problem α)}
    {f : α → Except Problem γ} {k : Except Problem α → Except Problem (Except Problem β)}
    {build : γ → Except Problem β} (hx : Staged R y x .ok)
    (hk : ∀ a, Staged R (k (.ok a)) (f a) build)
    (hlate : ∀ p built, k (.error p) = .ok built → built = .error p) :
    Staged R (y >>= k) (x >>= f) build := by
  cases x with
  | ok a =>
    rw [hx.accepts a rfl]
    exact hk a
  | error p =>
    constructor
    · intro a ha
      cases ha
    · intro hR q hq
      cases hq
      rcases hx.rejects hR p rfl with hy | ⟨hbad, hy⟩
      · rw [hy]
        exact .inl rfl
      · refine .inr ⟨hbad, fun built hbuilt => ?_⟩
        obtain ⟨part, hpart, hrest⟩ := (bind_eq_ok_iff _ _ _).mp hbuilt
        rw [hy part hpart] at hrest
        exact hlate p built hrest

/-- The parts of a list. -/
theorem mapM {f : γ → Except Problem α} {g : γ → Except Problem (Except Problem α)} {l : List γ}
    (h : ∀ c ∈ l, Staged R (g c) (f c) .ok) :
    Staged R ((l.mapM g).map (List.mapM id)) (l.mapM f) .ok := by
  induction l with
  | nil => exact .map (.ok []) .ok
  | cons c rest ih =>
    obtain ⟨hc, hrest⟩ := List.forall_mem_cons.mp h
    -- the items behind the first one are parts of their own
    have hcons : ((c :: rest).mapM g).map (List.mapM id) = g c >>= fun first =>
        (rest.mapM g).map (List.mapM id) >>= fun others =>
          .ok (first >>= fun a => others >>= fun as => .ok (a :: as)) := by
      rw [List.mapM_cons]
      cases g c with
      | error p => rfl
      | ok first =>
        cases rest.mapM g with
        | error p => rfl
        | ok others =>
          show Except.ok ((first :: others).mapM id) = _
          rw [List.mapM_cons]
          rfl
    rw [hcons, List.mapM_cons]
    refine hc.andThen (fun a => ?_) fun p built hbuilt => ?_
    · refine (ih hrest).andThen (fun as => .map (.ok (a :: as)) .ok) fun p built hbuilt => ?_
      cases hbuilt
      rfl
    · obtain ⟨others, -, hbuilt⟩ := (bind_eq_ok_iff _ _ _).mp hbuilt
      cases hbuilt
      rfl

end Staged

namespace Document

variable {d : Doc} {R : Prop}

theorem staged_seedColumn (table : Doc) (hd : R → d.IsOrdinary) :
    Staged R (pendingSeedColumn table d) (readSeedColumn table d) .ok := by
  refine .bind fun owner _ => .bind fun fields hfields => .bind fun column hcolumn => ?_
  -- one kind of source, or none, or several
  rcases sourceKinds fields with _ | ⟨kind, _ | ⟨other, rest⟩⟩
  · exact .error _
  · refine .bind fun value hvalue => ?_
    have hname : R → column.IsOrdinary := by
      intro hR
      obtain rfl := eq_mapping_of_fieldsOf hfields
      obtain ⟨rfl, -⟩ := value_of_require hcolumn
      exact (hd hR).value "name"
    have hsource : Guarded IsBadSource (sourceOf column kind value) R True :=
      guarded_sourceOf (isSymbol_of_writtenValue hvalue) hname
    show Staged R (.ok ((sourceOf column kind value).map fun source =>
      (⟨column, source, switch fields "quoted" false⟩ : SeedColumn Doc)))
      ((sourceOf column kind value).map fun source =>
        (⟨column, source, switch fields "quoted" false⟩ : SeedColumn Doc)) .ok
    exact .make (hsource.map _).rejects
  · exact .error _

theorem staged_seed (place : String) (hd : R → d.IsOrdinary) :
    Staged R (pendingSeed d place) (readSeed d place) EntityDraft.build := by
  refine .bind fun fields hfields => .bind fun table _ => .bind fun value hvalue =>
    .bind fun docs hdocs => ?_
  have hparts : (docs.mapM (pendingSeedColumn table) >>= fun columns =>
      pendingRow fields table (columns.mapM id)) =
      (docs.mapM (pendingSeedColumn table)).map (List.mapM id) >>= pendingRow fields table := by
    cases docs.mapM (pendingSeedColumn table) <;> rfl
  have hcolumns : Staged R ((docs.mapM (pendingSeedColumn table)).map (List.mapM id))
      (docs.mapM (readSeedColumn table)) .ok := by
    refine .mapM fun c hc => staged_seedColumn table fun hR => ?_
    obtain rfl := eq_mapping_of_fieldsOf hfields
    obtain ⟨rfl, -⟩ := value_of_require hvalue
    exact ((hd hR).value "columns").items hdocs c hc
  show Staged R (docs.mapM (pendingSeedColumn table) >>= fun columns =>
    pendingRow fields table (columns.mapM id)) _ _
  rw [hparts]
  refine hcolumns.andThen (fun columns => ?_) fun p built hbuilt => ?_
  · refine .bind fun keys _ => ?_
    exact .map (.ok (.seed table columns keys (switch fields "updateIfExists" false)))
      EntityDraft.build
  · unfold pendingRow at hbuilt
    rw [bind_eq_ok_iff] at hbuilt
    obtain ⟨keys, -, hbuilt⟩ := hbuilt
    cases hbuilt
    rfl

/-- An entry is read and built as it is when its sources are made along the way, unless one of them
cannot be made. -/
theorem staged_entry (position : Nat) (hd : R → d.IsOrdinary) :
    Staged R (pendingEntry position d) (readEntry position d) EntityDraft.build := by
  unfold pendingEntry
  split
  · next hkind =>
    have hread : readEntry position d = readSeed d ("entity #" ++ Numeral.ofNat position) := by
      unfold readEntry
      rw [hkind]
      rfl
    rw [hread]
    exact staged_seed _ hd
  · exact .map _ _

end Document

end SchemaPlan
