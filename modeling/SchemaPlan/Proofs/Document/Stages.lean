import SchemaPlan.Proofs.Document.Verdict

/-!
# What is reported of a document with several faults

Of the entries of a document some may be malformed, and others may describe what breaks a rule.  A
malformed entry is meant to be reported first, wherever it stands; only when there is none is the
first entry reported that breaks a rule.

* `ReportsInStages` says what is meant to be reported of the entries of a document.
* `Overtaken` names what is reported too early: the source of a seed value that cannot be made, as
  sources are made while their row is read.
* `reportsInStages_iff` says that nothing else goes wrong.
-/
namespace SchemaPlan

open SchemaPlan.Problem (IsReading IsInvariant IsBadSource IsRejection)

namespace Document

open SchemaPlan.Doc

variable {d : Doc} {e : Doc × Nat} {l r entries : List (Doc × Nat)} {p q : Problem}
  {has : Doc × Nat → Problem → Prop}

/-! ## Numbered entries -/

/-- The entries of a document with their positions, counted from one. -/
def numbered (d : Doc) : List (Doc × Nat) :=
  (entriesIn d).zipIdx 1

/-- A document with a list of entries, or with none. -/
def ListsEntries : Doc → Prop
  | .null => True
  | .mapping fields => (Fields.value fields "entities").truthy = true →
    ∃ xs, Fields.value fields "entities" = .list xs
  | _ => False

/-- The schema of numbered entries. -/
def schemaOf (entries : List (Doc × Nat)) : Except Problem (Schema Doc) := do
  let drafts ← entries.mapM fun e => readEntry e.2 e.1
  return ⟨← drafts.mapM EntityDraft.build⟩

theorem schemaOf_of_read {drafts : List EntityDraft}
    (h : (entries.mapM fun e => readEntry e.2 e.1) = .ok drafts) :
    schemaOf entries = (drafts.mapM EntityDraft.build).map Schema.mk := by
  rw [schemaOf, h]
  show (drafts.mapM EntityDraft.build >>= fun entities => pure (Schema.mk entities)) = _
  cases drafts.mapM EntityDraft.build <;> rfl

theorem readEntriesFrom_eq_mapM (position : Nat) (docs : List Doc) :
    readEntriesFrom position docs = (docs.zipIdx position).mapM fun e => readEntry e.2 e.1 := by
  induction docs generalizing position with
  | nil => rfl
  | cons d rest ih =>
    rw [List.zipIdx_cons, List.mapM_cons, ← ih]
    rfl

theorem ofDoc_eq_schemaOf (h : ListsEntries d) : Schema.ofDoc d = schemaOf (numbered d) := by
  have hread : readEntries d = readEntriesFrom 1 (entriesIn d) := by
    cases d with
    | null => rfl
    | mapping fields =>
      unfold readEntries
      dsimp only
      split_ifs with htruthy
      · obtain ⟨xs, hxs⟩ := h htruthy
        rw [hxs, entriesIn_of_list hxs]
      · rw [entriesIn_of_not_truthy htruthy]
        rfl
    | _ => exact h.elim
  rw [Schema.ofDoc, schemaOf, hread, readEntriesFrom_eq_mapM]
  rfl

/-! ## First problems -/

/-- The first of several entries that has a problem of some kind, and its problem. -/
def FirstProblem (has : Doc × Nat → Problem → Prop) (entries : List (Doc × Nat)) (p : Problem) :
    Prop :=
  ∃ before e after, entries = before ++ e :: after ∧ (∀ x ∈ before, ∀ q, ¬ has x q) ∧ has e p

theorem firstProblem_nil : ¬ FirstProblem has [] p := by
  rintro ⟨before, e, after, h, -⟩
  simp at h

theorem firstProblem_cons : FirstProblem has (e :: l) p ↔
    has e p ∨ (∀ q, ¬ has e q) ∧ FirstProblem has l p := by
  constructor
  · rintro ⟨before, x, after, h, hbefore, hx⟩
    cases before with
    | nil =>
      cases h
      exact .inl hx
    | cons y before =>
      cases h
      obtain ⟨he, hrest⟩ := List.forall_mem_cons.mp hbefore
      exact .inr ⟨he, before, x, after, rfl, hrest, hx⟩
  · rintro (h | ⟨he, before, x, after, rfl, hbefore, hx⟩)
    · exact ⟨[], e, l, rfl, fun _ hx => absurd hx List.not_mem_nil, h⟩
    · exact ⟨e :: before, x, after, rfl, List.forall_mem_cons.mpr ⟨he, hbefore⟩, hx⟩

/-- The first problem of entries in two parts stands in the first part, if there is one. -/
theorem firstProblem_append : FirstProblem has (l ++ r) p ↔
    FirstProblem has l p ∨ (∀ x ∈ l, ∀ q, ¬ has x q) ∧ FirstProblem has r p := by
  induction l with
  | nil => simp [firstProblem_nil]
  | cons e l ih =>
    rw [List.cons_append, firstProblem_cons, firstProblem_cons, ih, List.forall_mem_cons]
    tauto

theorem exists_firstProblem (h : ∃ x ∈ entries, ∃ q, has x q) :
    ∃ p, FirstProblem has entries p := by
  induction entries with
  | nil => simp at h
  | cons e rest ih =>
    by_cases he : ∃ q, has e q
    · obtain ⟨q, hq⟩ := he
      exact ⟨q, firstProblem_cons.mpr (.inl hq)⟩
    · obtain ⟨x, hx, hq⟩ := h
      rcases List.mem_cons.mp hx with rfl | hx
      · exact absurd hq he
      · obtain ⟨p, hp⟩ := ih ⟨x, hx, hq⟩
        exact ⟨p, firstProblem_cons.mpr (.inr ⟨not_exists.mp he, hp⟩)⟩

theorem FirstProblem.exists_mem (h : FirstProblem has entries p) : ∃ x ∈ entries, has x p := by
  obtain ⟨before, e, after, rfl, -, he⟩ := h
  exact ⟨e, by simp, he⟩

/-- There is one first problem when each entry has one at most. -/
theorem FirstProblem.unique (hhas : ∀ x p q, has x p → has x q → p = q)
    (hp : FirstProblem has entries p) (hq : FirstProblem has entries q) : p = q := by
  induction entries with
  | nil => exact (firstProblem_nil hp).elim
  | cons e rest ih =>
    rcases firstProblem_cons.mp hp with hep | ⟨hnone, hp⟩
    · rcases firstProblem_cons.mp hq with heq | ⟨hnone, -⟩
      · exact hhas e p q hep heq
      · exact absurd hep (hnone p)
    · rcases firstProblem_cons.mp hq with heq | ⟨-, hq⟩
      · exact absurd heq (hnone q)
      · exact ih hp hq

/-! ## What is meant to be reported -/

/-- The checks of its reader reject an entry. -/
def IsMalformed (e : Doc × Nat) (p : Problem) : Prop :=
  pendingEntry e.2 e.1 = .error p

/-- What an entry describes breaks a rule, although the checks of its reader accept it. -/
def Violates (e : Doc × Nat) (p : Problem) : Prop :=
  pendingEntry e.2 e.1 = .ok (.error p)

/-- None of the entries is malformed. -/
def WellFormed (entries : List (Doc × Nat)) : Prop :=
  ∀ x ∈ entries, ∀ p, ¬ IsMalformed x p

/-- The problem to be reported: that of the first malformed entry, and else that of the first entry
that breaks a rule. -/
def Reported (entries : List (Doc × Nat)) (p : Problem) : Prop :=
  FirstProblem IsMalformed entries p ∨ WellFormed entries ∧ FirstProblem Violates entries p

/-- What comes of the entries is reported in stages: first what is malformed, whatever rules are
broken in front of it or behind it, then what breaks a rule; there is a schema when nothing does. -/
structure ReportsInStages (entries : List (Doc × Nat)) (result : Except Problem (Schema Doc)) :
    Prop where
  malformed : ∀ p, FirstProblem IsMalformed entries p → p.IsReading ∧ result = .error p
  violated : WellFormed entries → ∀ p, FirstProblem Violates entries p →
    (p.IsInvariant ∨ p.IsBadSource) ∧ result = .error p
  accepted : WellFormed entries →
    ((∃ schema, result = .ok schema) ↔ ∀ x ∈ entries, ∀ p, ¬ Violates x p)

/-- The source of a seed value, which is made while its row is read, cannot be made; but this entry
or a later one is malformed, or an earlier one breaks a rule. -/
def Overtaken (entries : List (Doc × Nat)) : Prop :=
  ∃ before e after p, entries = before ++ e :: after ∧
    (∀ x ∈ before, ∃ draft, readEntry x.2 x.1 = .ok draft) ∧
    readEntry e.2 e.1 = .error p ∧ p.IsBadSource ∧
    ((∃ x ∈ e :: after, ∃ q, IsMalformed x q) ∨ ∃ x ∈ before, ∃ q, Violates x q)

theorem Reported.unique (hp : Reported entries p) (hq : Reported entries q) : p = q := by
  have hmalformed (x : Doc × Nat) (p q : Problem) (hp : IsMalformed x p) (hq : IsMalformed x q) :
      p = q := Except.error.inj (hp.symm.trans hq)
  have hviolates (x : Doc × Nat) (p q : Problem) (hp : Violates x p) (hq : Violates x q) :
      p = q := Except.error.inj (Except.ok.inj (hp.symm.trans hq))
  rcases hp with hp | ⟨hwell, hp⟩
  · rcases hq with hq | ⟨hwell, -⟩
    · exact hp.unique hmalformed hq
    · obtain ⟨x, hx, hxp⟩ := hp.exists_mem
      exact absurd hxp (hwell x hx p)
  · rcases hq with hq | ⟨-, hq⟩
    · obtain ⟨x, hx, hxq⟩ := hq.exists_mem
      exact absurd hxq (hwell x hx q)
    · exact hp.unique hviolates hq

/-- Of entries with a problem, one is to be reported. -/
theorem exists_reported (h : (∃ x ∈ entries, ∃ q, IsMalformed x q) ∨
    ∃ x ∈ entries, ∃ q, Violates x q) : ∃ p, Reported entries p := by
  by_cases hmalformed : ∃ x ∈ entries, ∃ q, IsMalformed x q
  · obtain ⟨p, hp⟩ := exists_firstProblem hmalformed
    exact ⟨p, .inl hp⟩
  · obtain ⟨p, hp⟩ := exists_firstProblem (h.resolve_left hmalformed)
    exact ⟨p, .inr ⟨fun x hx q hq => hmalformed ⟨x, hx, q, hq⟩, hp⟩⟩

/-! ## Single entries -/

section

variable {draft : EntityDraft}

theorem not_isMalformed_of_readEntry (h : readEntry e.2 e.1 = .ok draft) : ¬ IsMalformed e p := by
  intro hp
  cases ((staged_entry (R := False) e.2 nofun).accepts draft h).symm.trans hp

/-- An entry that is read breaks the rules that its draft breaks. -/
theorem violates_iff_build (h : readEntry e.2 e.1 = .ok draft) :
    Violates e p ↔ draft.build = .error p := by
  rw [Violates, (staged_entry (R := False) e.2 nofun).accepts draft h]
  exact ⟨Except.ok.inj, congrArg Except.ok⟩

/-- What is not read is malformed, or the source of a seed value is made too early. -/
theorem of_readEntry_error (hd : e.1.IsOrdinary) (h : readEntry e.2 e.1 = .error p) :
    IsMalformed e p ∨ p.IsBadSource ∧ ∀ built, pendingEntry e.2 e.1 = .ok built →
      built = .error p :=
  (staged_entry e.2 fun _ : True => hd).rejects trivial p h

variable (hd : e.1.IsOrdinary) (hfits : FitEntry e.1)

include hd hfits

theorem isReading_of_isMalformed (h : IsMalformed e p) : p.IsReading :=
  (guarded_pendingEntry (R := True) (fun _ => hd) fun _ => hfits).rejects trivial p h

theorem isInvariant_of_violates (hread : readEntry e.2 e.1 = .ok draft) (h : Violates e p) :
    p.IsInvariant :=
  (guarded_build (R := True) hread (fun _ => hd) fun _ => hfits).rejects trivial p
    ((violates_iff_build hread).mp h)

theorem isInvariant_or_isBadSource_of_violates (h : Violates e p) :
    p.IsInvariant ∨ p.IsBadSource := by
  cases hread : readEntry e.2 e.1 with
  | ok draft => exact .inl (isInvariant_of_violates hd hfits hread h)
  | error q =>
    rcases of_readEntry_error hd hread with hmalformed | ⟨hbad, hlate⟩
    · cases hmalformed.symm.trans h
    · obtain rfl := Except.error.inj (hlate _ h)
      exact .inr hbad

end

/-! ## All entries -/

/-- Of entries that are read, the first one that breaks a rule keeps them from being built. -/
theorem firstProblem_violates_iff {drafts : List EntityDraft}
    (h : List.Forall₂ (fun (x : Doc × Nat) draft => readEntry x.2 x.1 = .ok draft) entries drafts) :
    FirstProblem Violates entries p ↔ drafts.mapM EntityDraft.build = .error p := by
  induction h with
  | nil => exact iff_of_false firstProblem_nil nofun
  | @cons x draft others rest hread _ ih =>
    rw [firstProblem_cons, mapM_cons_eq_error_iff, ih]
    simp only [violates_iff_build hread]
    cases draft.build <;> simp

theorem wellFormed_of_read {drafts : List EntityDraft}
    (h : List.Forall₂ (fun (x : Doc × Nat) draft => readEntry x.2 x.1 = .ok draft) entries drafts) :
    WellFormed entries := by
  induction h with
  | nil => exact fun x hx => absurd hx List.not_mem_nil
  | cons hread _ ih =>
    exact List.forall_mem_cons.mpr ⟨fun _ => not_isMalformed_of_readEntry hread, ih⟩

/-- Nothing is to be reported of entries that give a schema. -/
theorem not_reported_of_schemaOf {schema : Schema Doc} (h : schemaOf entries = .ok schema) :
    ¬ Reported entries p := by
  simp only [schemaOf, bind_eq_ok_iff] at h
  obtain ⟨drafts, hread, entities, hbuild, -⟩ := h
  have hdrafts := mapM_eq_ok_iff.mp hread
  rintro (hp | ⟨-, hp⟩)
  · obtain ⟨x, hx, hxp⟩ := hp.exists_mem
    exact wellFormed_of_read hdrafts x hx p hxp
  · cases hbuild.symm.trans ((firstProblem_violates_iff hdrafts).mp hp)

/-- What is reported is meant to be, or the source of a seed value has overtaken it. -/
theorem reported_or_overtaken (hd : ∀ x ∈ entries, x.1.IsOrdinary) (h : schemaOf entries = .error p) :
    Reported entries p ∨ Overtaken entries := by
  cases hread : entries.mapM fun e => readEntry e.2 e.1 with
  | ok drafts =>
    have hdrafts := mapM_eq_ok_iff.mp hread
    refine .inl (.inr ⟨wellFormed_of_read hdrafts, (firstProblem_violates_iff hdrafts).mpr ?_⟩)
    rw [schemaOf_of_read hread] at h
    cases hbuild : drafts.mapM EntityDraft.build with
    | ok entities =>
      rw [hbuild] at h
      cases h
    | error q =>
      rw [hbuild] at h
      cases h
      rfl
  | error q =>
    rw [schemaOf, hread] at h
    cases h
    obtain ⟨before, e, after, rfl, hbefore, he⟩ := mapM_eq_error_iff.mp hread
    have hwell (x : Doc × Nat) (hx : x ∈ before) (q : Problem) : ¬ IsMalformed x q := by
      obtain ⟨draft, hdraft⟩ := hbefore x hx
      exact not_isMalformed_of_readEntry hdraft
    have he' := hd e (List.mem_append_right before List.mem_cons_self)
    rcases of_readEntry_error he' he with hpending | ⟨hbad, hlate⟩
    · exact .inl (.inl ⟨before, e, after, rfl, hwell, hpending⟩)
    · by_cases hcase : (∃ x ∈ e :: after, ∃ q, IsMalformed x q) ∨ ∃ x ∈ before, ∃ q, Violates x q
      · exact .inr ⟨before, e, after, p, rfl, hbefore, he, hbad, hcase⟩
      · simp only [not_or, not_exists, not_and] at hcase
        obtain ⟨hrest, hkept⟩ := hcase
        have hviolates : Violates e p := by
          cases hbuilt : pendingEntry e.2 e.1 with
          | error q => exact absurd hbuilt (hrest e List.mem_cons_self q)
          | ok built =>
            rw [Violates, hbuilt, hlate built hbuilt]
        refine .inl (.inr ⟨fun x hx => ?_, before, e, after, rfl, hkept, hviolates⟩)
        rcases List.mem_append.mp hx with hx | hx
        · exact hwell x hx
        · exact hrest x hx

section

variable (hd : ∀ x ∈ entries, x.1.IsOrdinary) (hfits : ∀ x ∈ entries, FitEntry x.1)

include hd hfits

/-- Where a source has overtaken what is meant to be reported, something else is reported. -/
theorem exists_unreported (h : Overtaken entries) :
    ∃ p q, schemaOf entries = .error p ∧ ¬ Reported entries p ∧ Reported entries q := by
  obtain ⟨before, e, after, p, rfl, hbefore, he, hbad, hcase⟩ := h
  have herror : schemaOf (before ++ e :: after) = .error p := by
    rw [schemaOf, mapM_eq_error_iff.mpr ⟨before, e, after, rfl, hbefore, he⟩]
    rfl
  have hnot : ¬ Reported (before ++ e :: after) p := by
    rintro (hmalformed | ⟨hwell, hviolates⟩)
    · obtain ⟨x, hx, hp⟩ := hmalformed.exists_mem
      exact (isReading_of_isMalformed (hd x hx) (hfits x hx) hp).not_isBadSource hbad
    · rcases hcase with ⟨x, hx, q, hq⟩ | ⟨x, hx, q, hq⟩
      · exact hwell x (List.mem_append_right before hx) q hq
      · rcases firstProblem_append.mp hviolates with hfirst | ⟨hnone, -⟩
        · obtain ⟨y, hy, hp⟩ := hfirst.exists_mem
          obtain ⟨draft, hdraft⟩ := hbefore y hy
          have hmem := List.mem_append_left (e :: after) hy
          have hinvariant := isInvariant_of_violates (hd y hmem) (hfits y hmem) hdraft hp
          exact hinvariant.not_isBadSource hbad
        · exact hnone x hx q hq
  have hsome : (∃ x ∈ before ++ e :: after, ∃ q, IsMalformed x q) ∨
      ∃ x ∈ before ++ e :: after, ∃ q, Violates x q :=
    hcase.imp (fun ⟨x, hx, hq⟩ => ⟨x, List.mem_append_right before hx, hq⟩)
      fun ⟨x, hx, hq⟩ => ⟨x, List.mem_append_left _ hx, hq⟩
  obtain ⟨q, hq⟩ := exists_reported hsome
  exact ⟨p, q, herror, hnot, hq⟩

/-- Where all that is reported is meant to be, it is reported in stages. -/
theorem reportsInStages_of_reported (h : ∀ p, schemaOf entries = .error p → Reported entries p) :
    ReportsInStages entries (schemaOf entries) := by
  have herror (p : Problem) (hp : Reported entries p) : schemaOf entries = .error p := by
    cases hresult : schemaOf entries with
    | error q => rw [(h q hresult).unique hp]
    | ok schema => exact (not_reported_of_schemaOf hresult hp).elim
  constructor
  · intro p hp
    obtain ⟨x, hx, hxp⟩ := hp.exists_mem
    exact ⟨isReading_of_isMalformed (hd x hx) (hfits x hx) hxp, herror p (.inl hp)⟩
  · intro hwell p hp
    obtain ⟨x, hx, hxp⟩ := hp.exists_mem
    exact ⟨isInvariant_or_isBadSource_of_violates (hd x hx) (hfits x hx) hxp, herror p (.inr ⟨hwell, hp⟩)⟩
  · intro hwell
    constructor
    · rintro ⟨schema, hschema⟩ x hx p hp
      obtain ⟨q, hq⟩ := exists_reported (.inr ⟨x, hx, p, hp⟩)
      exact not_reported_of_schemaOf hschema hq
    · intro hkept
      cases hresult : schemaOf entries with
      | ok schema => exact ⟨schema, rfl⟩
      | error q =>
        rcases h q hresult with hq | ⟨-, hq⟩
        · obtain ⟨x, hx, hxq⟩ := hq.exists_mem
          exact absurd hxq (hwell x hx q)
        · obtain ⟨x, hx, hxq⟩ := hq.exists_mem
          exact absurd hxq (hkept x hx q)

end

/-! ## Documents -/

/-- A seed row with one value. -/
def rowDoc (source : Option String × Doc) (updates : Bool) : Doc :=
  .mapping [(some "kind", .text "insert"), (some "table", .text "t"),
    (some "columns", .list [.mapping [(some "name", .text "a"), source]]),
    (some "updateIfExists", .bool updates)]

/-- An entry of an unknown kind. -/
def viewDoc : Doc :=
  .mapping [(some "kind", .text "view")]

/-- A seed row, and behind it an entry of an unknown kind. -/
def faultyDoc (source : Option String × Doc) (updates : Bool) : Doc :=
  .mapping [(some "entities", .list [rowDoc source updates, viewDoc])]

/-- What is wrong with the second entry. -/
def viewProblem : Problem :=
  .malformed (.unknownKind "entity #2" "'view'")

theorem listsEntries_faultyDoc (source : Option String × Doc) (updates : Bool) :
    ListsEntries (faultyDoc source updates) :=
  fun _ => ⟨_, rfl⟩

theorem isOrdinary_faultyDoc {source : Option String × Doc} (h : source.2.IsOrdinary)
    (updates : Bool) : (faultyDoc source updates).IsOrdinary := by
  have hcolumn : (Doc.mapping [(some "name", .text "a"), source]).IsOrdinary :=
    .mapping (List.forall_mem_cons.mpr ⟨.text _, List.forall_mem_singleton.mpr h⟩)
  have hrow : (rowDoc source updates).IsOrdinary := by
    refine .mapping (List.forall_mem_cons.mpr ⟨.text _, List.forall_mem_cons.mpr ⟨.text _, ?_⟩⟩)
    refine List.forall_mem_cons.mpr ⟨?_, List.forall_mem_singleton.mpr (.bool updates)⟩
    exact .list (List.forall_mem_singleton.mpr hcolumn)
  have hview : viewDoc.IsOrdinary := .mapping (List.forall_mem_singleton.mpr (.text _))
  refine .mapping (List.forall_mem_singleton.mpr (.list ?_))
  exact List.forall_mem_cons.mpr ⟨hrow, List.forall_mem_singleton.mpr hview⟩

theorem fits_faultyDoc (source : Option String × Doc) (updates : Bool) :
    Fits (faultyDoc source updates) := by
  have hseed : SeedFits IsKey [(some "kind", .text "insert"), (some "table", .text "t"),
      (some "columns", .list [.mapping [(some "name", .text "a"), source]]),
      (some "updateIfExists", .bool updates)] :=
    ⟨rfl, fun _ => ⟨_, rfl⟩, nofun⟩
  have hview : EntryFits IsKey ColumnFits [(some "kind", .text "view")] := by
    simp [EntryFits, Fields.value, IsKey, isKey]
  have hentries : entriesIn (faultyDoc source updates) = [rowDoc source updates, viewDoc] := rfl
  rw [Fits, hentries, List.forall_mem_cons, List.forall_mem_singleton]
  exact ⟨ifMapping_mapping.mpr hseed, ifMapping_mapping.mpr hview⟩

/-- **Documents are reported in stages**, except where the source of a seed value that cannot be
made overtakes a malformed entry or an earlier entry that breaks a rule. -/
theorem reportsInStages_iff (hlist : ListsEntries d) (hd : d.IsOrdinary) (hfits : Fits d) :
    ReportsInStages (numbered d) (Schema.ofDoc d) ↔ ¬ Overtaken (numbered d) := by
  have hordinary : ∀ x ∈ numbered d, x.1.IsOrdinary := fun x hx =>
    isOrdinary_of_mem_entriesIn hd (List.fst_mem_of_mem_zipIdx hx)
  have hentries : ∀ x ∈ numbered d, FitEntry x.1 := fun x hx =>
    hfits x.1 (List.fst_mem_of_mem_zipIdx hx)
  rw [ofDoc_eq_schemaOf hlist]
  constructor
  · intro hstages hovertaken
    obtain ⟨p, q, hp, hnot, hq⟩ := exists_unreported hordinary hentries hovertaken
    have herror : schemaOf (numbered d) = .error q := by
      rcases hq with hq | ⟨hwell, hq⟩
      · exact (hstages.malformed q hq).2
      · exact (hstages.violated hwell q hq).2
    obtain rfl := Except.error.inj (hp.symm.trans herror)
    exact hnot hq
  · intro hnot
    exact reportsInStages_of_reported hordinary hentries fun p hp =>
      (reported_or_overtaken hordinary hp).resolve_right hnot

/-- A row that is updated without key columns breaks a rule, but the unknown kind of the entry
behind it is reported. -/
theorem view_reported_before_row :
    ListsEntries (faultyDoc (some "value", .text "1") true) ∧
      (faultyDoc (some "value", .text "1") true).IsOrdinary ∧
      Fits (faultyDoc (some "value", .text "1") true) ∧
      ReportsInStages (numbered (faultyDoc (some "value", .text "1") true))
        (Schema.ofDoc (faultyDoc (some "value", .text "1") true)) ∧
      Schema.ofDoc (faultyDoc (some "value", .text "1") true) = .error viewProblem := by
  have hlist := listsEntries_faultyDoc (some "value", .text "1") true
  have hd : (faultyDoc (some "value", .text "1") true).IsOrdinary :=
    isOrdinary_faultyDoc (.text "1") true
  have hfits := fits_faultyDoc (some "value", .text "1") true
  refine ⟨hlist, hd, hfits, (reportsInStages_iff hlist hd hfits).mpr ?_, rfl⟩
  rintro ⟨before, e, after, p, hentries, hbefore, he, hbad, -⟩
  have hread : ((numbered (faultyDoc (some "value", .text "1") true)).mapM fun e =>
      readEntry e.2 e.1) = .error viewProblem := rfl
  obtain rfl := Except.error.inj
    (hread.symm.trans (mapM_eq_error_iff.mpr ⟨before, e, after, hentries, hbefore, he⟩))
  cases hbad

/-- An empty filename overtakes the unknown kind of the entry behind it. -/
theorem filename_reported_before_view :
    ListsEntries (faultyDoc (some "filename", .text "") false) ∧
      (faultyDoc (some "filename", .text "") false).IsOrdinary ∧
      Fits (faultyDoc (some "filename", .text "") false) ∧
      FirstProblem IsMalformed (numbered (faultyDoc (some "filename", .text "") false))
        viewProblem ∧
      Schema.ofDoc (faultyDoc (some "filename", .text "") false) =
        .error (.source (.emptyFilename "a")) ∧
      ¬ ReportsInStages (numbered (faultyDoc (some "filename", .text "") false))
        (Schema.ofDoc (faultyDoc (some "filename", .text "") false)) := by
  have hrow : pendingEntry 1 (rowDoc (some "filename", .text "") false) =
      .ok (.error (.source (.emptyFilename "a"))) := rfl
  have hfirst : FirstProblem IsMalformed
      (numbered (faultyDoc (some "filename", .text "") false)) viewProblem := by
    refine ⟨[_], _, [], rfl, List.forall_mem_singleton.mpr fun q hq => ?_, rfl⟩
    cases hrow.symm.trans hq
  have herror : Schema.ofDoc (faultyDoc (some "filename", .text "") false) =
      .error (.source (.emptyFilename "a")) := rfl
  refine ⟨listsEntries_faultyDoc _ _, isOrdinary_faultyDoc (.text "") false, fits_faultyDoc _ _,
    hfirst, herror, fun hstages => ?_⟩
  cases herror.symm.trans (hstages.malformed viewProblem hfirst).2

end Document

end SchemaPlan
