import SchemaPlan.Proofs.Command
import SchemaPlan.Proofs.Document.Verdict
import SchemaPlan.Proofs.Session.Files

/-!
# Rejected documents

A run that comes to a document which is rejected reports the rejection and ends, and leaves the
files alone.  That a document is rejected, and does not break the run off, is so for documents whose
values fit their fields.

* `Command.run_of_rejected` is about one run.
* `document_is_read_or_reported` is about any document and all runs that come to it.
-/
namespace SchemaPlan

/-- A rejection is reported. -/
theorem Problem.IsRejection.isReported {p : Problem} (h : p.IsRejection) : p.isReported = true := by
  cases h <;> rfl

/-- Settings that options were put over have a mapping that can be read. -/
theorem Settings.exists_mapping_of_apply {s t : Settings} {o : Options} (h : s.apply o = .ok t) :
    ∃ mapping, t.mapping = .ok mapping := by
  unfold apply at h
  dsimp only at h
  split at h
  all_goals
    simp only [bind_eq_ok_iff] at h
    obtain ⟨dialect, -, mapping, hmapping, bound, -, h⟩ := h
    cases h
    exact ⟨mapping, hmapping⟩

namespace Command

variable {c : Command} {o : Outside} {tree : FileTree} {d : Doc} {p : Problem}

/-- A run comes to a document when it has its settings and when the documents in front of this one
are read. -/
def ComesTo (c : Command) (o : Outside) (tree : FileTree) (d : Doc) : Prop :=
  ∃ s before name after, c.settings o tree = .ok s ∧
    c.documents = before ++ some name :: after ∧
    (∀ n ∈ before, ∃ schema, readSchema o tree s n = .ok schema) ∧ readDoc o tree name = .ok d

theorem exists_mapping_of_settings {s : Settings} (h : c.settings o tree = .ok s) :
    ∃ mapping, s.mapping = .ok mapping := by
  unfold settings at h
  dsimp only at h
  split at h
  · exact Settings.exists_mapping_of_apply h
  · exact Settings.exists_mapping_of_apply h
  · simp only [bind_eq_ok_iff] at h
    obtain ⟨doc, -, base, -, h⟩ := h
    exact Settings.exists_mapping_of_apply h

theorem readSchema_of_rejected {s : Settings} {name : String} (hdoc : readDoc o tree name = .ok d)
    (hp : Schema.ofDoc d = .error p) : readSchema o tree s (some name) = .error p := by
  have hwhole : readWhole o tree name = .error p := by
    rw [readWhole, hdoc]
    change (Schema.ofDoc d >>= _) = _
    rw [hp]
    rfl
  rw [readSchema, hwhole]
  rfl

/-- A rejected document is the end of the work on a command. -/
theorem describe_of_rejected (hlength : c.documents.length = c.task.documents)
    (h : c.ComesTo o tree d) (hp : Schema.ofDoc d = .error p) :
    c.describe o tree = ⟨[], .error p⟩ := by
  obtain ⟨s, before, name, after, hs, hdocuments, hbefore, hdoc⟩ := h
  obtain ⟨mapping, hmapping⟩ := exists_mapping_of_settings hs
  have hrejected : readSchema o tree s (some name) = .error p := readSchema_of_rejected hdoc hp
  have hcount : before.length + (after.length + 1) = c.task.documents := by
    rw [← hlength, hdocuments, List.length_append, List.length_cons]
  rw [describe, hs]
  change c.generateWith o tree s = _
  rw [generateWith, hmapping, hdocuments]
  cases htask : c.task with
  | migrate =>
    have htwo : before.length + (after.length + 1) = 2 := by
      rw [hcount, htask]
      rfl
    cases before with
    | nil =>
      -- the old schema is rejected
      obtain ⟨new, rfl⟩ : ∃ new, after = [new] := List.length_eq_one_iff.mp (by simpa using htwo)
      change Noted.ofExcept (readSchema o tree s (some name)) >>= _ = _
      rw [hrejected]
      rfl
    | cons old rest =>
      -- the old schema is read, and the new one is rejected
      rw [List.length_cons] at htwo
      obtain rfl : rest = [] := List.length_eq_zero_iff.mp (by omega)
      obtain rfl : after = [] := List.length_eq_zero_iff.mp (by omega)
      obtain ⟨schema, hschema⟩ := hbefore old List.mem_cons_self
      change Noted.ofExcept (readSchema o tree s old) >>= _ = _
      rw [hschema]
      change Noted.ofExcept (readSchema o tree s (some name)) >>= _ = _
      rw [hrejected]
      rfl
  | create | seed | list =>
    have hone : before.length + (after.length + 1) = 1 := by
      rw [hcount, htask]
      rfl
    obtain rfl : before = [] := List.length_eq_zero_iff.mp (by omega)
    obtain rfl : after = [] := List.length_eq_zero_iff.mp (by omega)
    change Noted.ofExcept (readSchema o tree s (some name)) >>= _ = _
    rw [hrejected]
    rfl

/-- A run that comes to a document without a schema reports why, or breaks off. -/
theorem run_of_rejected (hlength : c.documents.length = c.task.documents) (h : c.ComesTo o tree d)
    (hp : Schema.ofDoc d = .error p) (hbeyond : p ≠ .beyond) :
    c.run o tree =
      ⟨if p.isReported then .finished 2 "" ["error: " ++ p.message] else .broken p, tree⟩ := by
  have hdescribe := describe_of_rejected hlength h hp
  have hgenerate : c.generate o tree = ⟨[], .error p⟩ := by
    rw [← hdescribe]
    refine generate_of_described ?_
    rw [hdescribe]
    exact fun heq => hbeyond (Except.error.inj heq)
  rw [run, hgenerate]
  dsimp only
  split_ifs
  · rfl
  · rfl

end Command

/-- **A document is read or reported** when it is ordinary and its values fit its fields: it gives a
schema, or it is rejected, and then every run that comes to it ends with the code 2 and the line of
the rejection and leaves the files as they are.  A document that does not fit gives no schema. -/
theorem document_is_read_or_reported (d : Doc) :
    (d.IsOrdinary → Document.Fits d → (∃ s, Schema.ofDoc d = .ok s) ∨
      ∃ p, Schema.ofDoc d = .error p ∧ p.IsRejection ∧
        ∀ o tree words c, Command.parse? o.lax words = some c → c.ComesTo o tree d →
          runWords o tree words = ⟨.finished 2 "" ["error: " ++ p.message], tree⟩) ∧
    ∀ s, Schema.ofDoc d = .ok s → Document.Fits d := by
  have hguarded := guarded_ofDoc d
  refine ⟨fun hd hfits => ?_, hguarded.accepts⟩
  cases hresult : Schema.ofDoc d with
  | ok s => exact Or.inl ⟨s, rfl⟩
  | error p =>
    have hp : p.IsRejection := hguarded.rejects ⟨hd, hfits⟩ p hresult
    have hbeyond : p ≠ .beyond := by
      rintro rfl
      cases hp
    refine Or.inr ⟨p, rfl, hp, fun o tree words c hparse hcomes => ?_⟩
    rw [runWords_of_parse? hparse, Command.run_of_rejected
      (Command.length_documents_of_parse? hparse) hcomes hresult hbeyond, if_pos hp.isReported]

/-! ## A table and its columns -/

/-- A document of a table with these columns. -/
def tableDoc (columns : Doc) : Doc :=
  .mapping [(some "entities", .list [.mapping [(some "kind", .text "table"),
    (some "name", .text "t"), (some "columns", columns)]])]

/-- The text of such a document. -/
def tableText (columns : String) : String :=
  "entities:\n- kind: table\n  name: t\n  columns: " ++ columns ++ "\n"

/-- A column with these fields beside its name. -/
def columnDoc (fields : Fields) : Doc :=
  .list [.mapping ((some "name", .text "a") :: fields)]

/-- The text of a column that has nothing but its name. -/
def columnText : String := "[\x7bname: a\x7d]"

/-- A file with such a document. -/
def tableFiles (columns : String) : FileTree :=
  ⟨[(Path.ofText "m.yaml", Text.utf8 (tableText columns))], []⟩

/-- A reader of the document with these columns. -/
def tableReader (columns : String) (doc : Doc) : Outside :=
  .knowing (tableText columns) (tableDoc doc)

/-- The words that ask for the script of the document. -/
def tableWords : List String := ["sql", "m.yaml"]

/-- The command of these words. -/
def tableCommand : Command :=
  { Command.plain .create with documents := [some "m.yaml"] }

theorem parse?_tableWords (columns : String) (doc : Doc) :
    Command.parse? (tableReader columns doc).lax tableWords = some tableCommand := rfl

theorem comesTo_tableDoc {columns : String} {doc : Doc}
    (hreturn : '\r' ∉ (tableText columns).toList) :
    tableCommand.ComesTo (tableReader columns doc) (tableFiles columns) (tableDoc doc) :=
  ⟨Settings.standard, [], "m.yaml", [], rfl, rfl, fun _ h => absurd h List.not_mem_nil,
    Command.readDoc_knowing rfl hreturn⟩

section

open Document Doc

theorem isOrdinary_tableDoc {columns : Doc} (h : columns.IsOrdinary) :
    (tableDoc columns).IsOrdinary := by
  refine .mapping (List.forall_mem_singleton.mpr (.list (List.forall_mem_singleton.mpr ?_)))
  exact .mapping (List.forall_mem_cons.mpr ⟨.text _, List.forall_mem_cons.mpr
    ⟨.text _, List.forall_mem_singleton.mpr h⟩⟩)

theorem isOrdinary_untyped : (tableDoc (columnDoc [])).IsOrdinary :=
  isOrdinary_tableDoc (.list (List.forall_mem_singleton.mpr
    (.mapping (List.forall_mem_singleton.mpr (.text _)))))

theorem columnFits_untyped : ColumnFits [(some "name", .text "a")] where
  size := by simp [Fields.value, List.lookup_cons, IsCount, truthy]
  scale := by simp [Fields.value, List.lookup_cons, IsCount, truthy]
  limits := by simp [Fields.value, List.lookup_cons, isNull]
  symbol := by simp [Fields.value, List.lookup_cons, IsSymbol]
  zero := by simp [switch, List.lookup_cons]
  number := by simp [Fields.value, List.lookup_cons, ColumnType.ofDoc]

theorem fits_untyped : Fits (tableDoc (columnDoc [])) := by
  have htable : TableFits IsKey ColumnFits [(some "kind", .text "table"),
      (some "name", .text "t"), (some "columns", columnDoc [])] := by
    constructor
    · simp [Fields.value, List.lookup_cons, IsKey, isKey]
    · simp [Fields.value, List.lookup_cons, truthy]
    · intro _
      refine ⟨[.mapping [(some "name", .text "a")]], ?_, ?_⟩
      · simp [Fields.value, List.lookup_cons, columnDoc, items]
      · simp [columnEntries, columnFits_untyped]
  simpa [Fits, FitEntry, entriesIn, tableDoc, Fields.value, List.lookup_cons, EntryFits] using htable

end

theorem ofDoc_untyped : Schema.ofDoc (tableDoc (columnDoc [])) =
    .error (.malformed (.missing ("column " ++ "t" ++ "." ++ "a") "type")) := rfl

theorem ofDoc_typed : Schema.ofDoc (tableDoc (columnDoc [(some "type", .text "json")])) =
    .ok ⟨[.table ⟨.text "t", [⟨.text "a", .other (.text "json"), 0, 0, true, none, none, false,
      false, none⟩], none, none⟩]⟩ := rfl

theorem ofDoc_number : Schema.ofDoc (tableDoc (.int 7)) = .error (.fault .wrongKind) := rfl

/-- A column without a type is reported; with one it is read, so its document fits. -/
theorem untyped_is_reported :
    (tableDoc (columnDoc [])).IsOrdinary ∧ Document.Fits (tableDoc (columnDoc [])) ∧
      tableCommand.ComesTo (tableReader columnText (columnDoc [])) (tableFiles columnText)
        (tableDoc (columnDoc [])) ∧
      runWords (tableReader columnText (columnDoc [])) (tableFiles columnText) tableWords =
        ⟨.finished 2 "" ["error: column t.a is missing 'type'"], tableFiles columnText⟩ ∧
      Document.Fits (tableDoc (columnDoc [(some "type", .text "json")])) := by
  have hcomes : tableCommand.ComesTo (tableReader columnText (columnDoc []))
      (tableFiles columnText) (tableDoc (columnDoc [])) := comesTo_tableDoc (by decide +kernel)
  refine ⟨isOrdinary_untyped, fits_untyped, hcomes, ?_,
    (document_is_read_or_reported _).2 _ ofDoc_typed⟩
  rcases (document_is_read_or_reported _).1 isOrdinary_untyped fits_untyped with
    ⟨s, hs⟩ | ⟨p, hp, -, hruns⟩
  · rw [ofDoc_untyped] at hs
    cases hs
  · rw [ofDoc_untyped] at hp
    obtain rfl := Except.error.inj hp
    rw [hruns _ _ _ _ (parse?_tableWords _ _) hcomes]
    have hmessage : "error: " ++
        (Problem.malformed (.missing ("column " ++ "t" ++ "." ++ "a") "type")).message =
          "error: column t.a is missing 'type'" := by decide +kernel
    rw [hmessage]

/-- A number in the place of columns is no rejection, and the run breaks off. -/
theorem number_of_columns_breaks_off :
    (¬ ∃ s, Schema.ofDoc (tableDoc (.int 7)) = .ok s) ∧
      (∀ p, Schema.ofDoc (tableDoc (.int 7)) = .error p → ¬ p.IsRejection) ∧
      tableCommand.ComesTo (tableReader "7" (.int 7)) (tableFiles "7") (tableDoc (.int 7)) ∧
      runWords (tableReader "7" (.int 7)) (tableFiles "7") tableWords =
        ⟨.broken (.fault .wrongKind), tableFiles "7"⟩ := by
  have hcomes : tableCommand.ComesTo (tableReader "7" (.int 7)) (tableFiles "7")
      (tableDoc (.int 7)) := comesTo_tableDoc (by decide +kernel)
  refine ⟨?_, ?_, hcomes, ?_⟩
  · rintro ⟨s, hs⟩
    rw [ofDoc_number] at hs
    cases hs
  · intro p hp hrejection
    rw [ofDoc_number] at hp
    obtain rfl := Except.error.inj hp
    cases hrejection
  · rw [runWords_of_parse? (parse?_tableWords _ _),
      Command.run_of_rejected rfl hcomes ofDoc_number nofun]
    rfl

end SchemaPlan
