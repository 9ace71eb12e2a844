import Mathlib.Tactic.SplitIfs
import SchemaPlan.FileTree
import SchemaPlan.Proofs.Noted

/-!
# Writing one file

Writing a file makes the folders that it needs and leaves all other files alone.  So everything that
could be found before is found afterwards, but for the file itself; what could not be found may be
found now, by a way through a new folder.  The bytes of a text are read back as the text; where the
ends of lines are unified as well, a text comes back as it was exactly when it has no carriage
return.

* `FileTree.AddsFolders` and `FileTree.Writes` say what two trees have in common when folders are
  made in between, and one file written as well.
* `FileTree.writes_of_write` says that writing a file does nothing else, and that the path then
  leads to the file; `FileTree.Writes.readBytes` that it is read as it was written.
* `FileTree.Writes.find_of_ok` says what is still found, `FileTree.Writes.showsAlike` where the same
  is still to be seen.
-/
namespace SchemaPlan

/-! ## Texts in files -/

namespace Text

/-- The bytes of a text are read as that text. -/
theorem ofUtf8?_utf8 (s : String) : ofUtf8? (utf8 s) = some s := by
  have hbytes : (utf8 s).toByteArray = s.toByteArray := by
    rw [utf8, ← List.utf8Encode, String.utf8Encode_toList]
  rw [ofUtf8?, hbytes, String.fromUTF8?, dif_pos s.isValidUTF8]
  rfl

/-- Unified ends of lines have no carriage return. -/
theorem not_mem_unifyLineEnds (s : List Char) : '\r' ∉ unifyLineEnds s := by
  fun_induction unifyLineEnds s with
  | case1 rest ih => simpa using ih
  | case2 rest _ ih => simpa using ih
  | case3 c rest _ hc ih =>
    rw [List.mem_cons, not_or]
    exact ⟨fun heq => hc heq.symm, ih⟩
  | case4 => exact List.not_mem_nil

/-- Only carriage returns are ends of lines that are not unified yet. -/
theorem unifyLineEnds_eq_self_iff {s : List Char} : unifyLineEnds s = s ↔ '\r' ∉ s := by
  constructor
  · intro h
    rw [← h]
    exact not_mem_unifyLineEnds s
  · intro h
    fun_induction unifyLineEnds s with
    | case1 rest _ => exact absurd List.mem_cons_self h
    | case2 rest _ _ => exact absurd List.mem_cons_self h
    | case3 c rest _ _ ih => rw [ih fun hmem => h (List.mem_cons_of_mem c hmem)]
    | case4 => rfl

end Text

namespace FileTree

variable {t u v : FileTree} {p q place : Path} {bytes : List UInt8}

/-! ## Making folders -/

/-- The second tree has the files of the first one, and perhaps more folders. -/
structure AddsFolders (t u : FileTree) : Prop where
  files : u.files = t.files
  folders : ∀ place ∈ t.folders, place ∈ u.folders

theorem AddsFolders.refl (t : FileTree) : t.AddsFolders t :=
  ⟨rfl, fun _ h => h⟩

theorem AddsFolders.trans (h : t.AddsFolders u) (h' : u.AddsFolders v) : t.AddsFolders v :=
  ⟨h'.files.trans h.files, fun place hplace => h'.folders place (h.folders place hplace)⟩

/-- A folder that is made is one more folder. -/
theorem addsFolders_of_makeFolder (h : t.makeFolder p = .ok u) : t.AddsFolders u := by
  unfold makeFolder at h
  rw [bind_eq_ok_iff] at h
  obtain ⟨place, -, h⟩ := h
  split at h
  · cases h
  · cases h
    exact ⟨rfl, fun _ hq => List.mem_append_left _ hq⟩

theorem addsFolders_ensureFolder (t : FileTree) (p : Path) :
    t.AddsFolders (t.ensureFolder p).tree := by
  unfold ensureFolder
  split
  · next after hmade => exact addsFolders_of_makeFolder hmade
  · split_ifs <;> exact .refl t

/-- Whatever becomes of it, making folders adds folders and does nothing else. -/
theorem addsFolders_ensureFolders (t : FileTree) (rooted : Bool) (parts : List String) :
    t.AddsFolders (t.ensureFolders rooted parts).tree := by
  induction parts with
  | nil => exact t.addsFolders_ensureFolder _
  | cons part front ih =>
    rw [ensureFolders]
    split_ifs
    · dsimp only
      split
      · exact ih
      · exact ih.trans (addsFolders_ensureFolder _ _)
    · exact t.addsFolders_ensureFolder _

/-! ## Writing -/

theorem lookup_putFile (place q : Path) (bytes : List UInt8) (files : List (Path × List UInt8)) :
    (putFile place bytes files).lookup q = if q = place then some bytes else files.lookup q := by
  induction files with
  | nil =>
    by_cases hq : q = place
    · simp [putFile, hq]
    · have hb : (q == place) = false := by simp [hq]
      simp [putFile, List.lookup_cons, hb, hq]
  | cons file rest ih =>
    obtain ⟨r, b⟩ := file
    by_cases hr : r = place
    · subst hr
      by_cases hq : q = r
      · simp [putFile, hq]
      · have hb : (q == r) = false := by simp [hq]
        simp [putFile, List.lookup_cons, hb, hq]
    · by_cases hqr : q = r
      · have hq : q ≠ place := fun heq => hr (hqr ▸ heq)
        simp [putFile, hr, hqr]
      · have hb : (q == r) = false := by simp [hqr]
        simp [putFile, hr, List.lookup_cons, hb, ih]

/-- The second tree has one file written, where no folder was, and perhaps more folders. -/
structure Writes (t u : FileTree) (place : Path) (bytes : List UInt8) : Prop where
  free : t.entryAt? place ≠ some .folder
  files : ∀ q, u.files.lookup q = if q = place then some bytes else t.files.lookup q
  folders : ∀ q ∈ t.folders, q ∈ u.folders

/-- What stands at a place, file by file and folder by folder. -/
theorem entryAt?_eq_some_iff {e : Entry} :
    t.entryAt? q = some e ↔
      (∃ b, t.files.lookup q = some b ∧ e = .file b) ∨
        (t.files.lookup q = none ∧ (q.isOutermost ∨ q ∈ t.folders) ∧ e = .folder) := by
  unfold entryAt?
  cases t.files.lookup q with
  | some b => simp [eq_comm (a := e)]
  | none => simp [eq_comm (a := e)]

/-- New folders cover nothing up. -/
theorem AddsFolders.entryAt? (h : t.AddsFolders u) {e : Entry} (he : t.entryAt? q = some e) :
    u.entryAt? q = some e := by
  rw [entryAt?_eq_some_iff] at he ⊢
  rw [h.files]
  rcases he with hfile | ⟨hnone, hfolder, heq⟩
  · exact Or.inl hfile
  · exact Or.inr ⟨hnone, hfolder.imp_right (h.folders q), heq⟩

namespace Writes

/-- Folders may be made before. -/
theorem of_addsFolders (h : t.AddsFolders u) (h' : u.Writes v place bytes) :
    t.Writes v place bytes where
  free hfolder := h'.free (h.entryAt? hfolder)
  files q := by rw [h'.files, h.files]
  folders q hq := h'.folders q (h.folders q hq)

/-- What stands elsewhere stays. -/
theorem entryAt? (h : t.Writes u place bytes) {e : Entry} (hq : q ≠ place)
    (he : t.entryAt? q = some e) : u.entryAt? q = some e := by
  rw [entryAt?_eq_some_iff] at he ⊢
  rw [h.files, if_neg hq]
  rcases he with hfile | ⟨hnone, hfolder, heq⟩
  · exact Or.inl hfile
  · exact Or.inr ⟨hnone, hfolder.imp_right (h.folders q), heq⟩

theorem entryAt?_place (h : t.Writes u place bytes) : u.entryAt? place = some (.file bytes) := by
  rw [entryAt?_eq_some_iff, h.files, if_pos rfl]
  exact Or.inl ⟨bytes, rfl, rfl⟩

/-! ## Finding -/

/-- A step through a folder can still be made; a folder is no place where a file is written. -/
theorem step (h : t.Writes u place bytes) {part : String} (hq : t.entryAt? q = some .folder) :
    u.step p q part = t.step p q part := by
  have hne : q ≠ place := fun heq => h.free (heq ▸ hq)
  rw [FileTree.step, FileTree.step, hq, h.entryAt? hne hq]

/-- A way that leads to a place still leads there, and one with too long a part still has it. -/
theorem walk (h : t.Writes u place bytes) (parts : List String) :
    (∀ r, t.walk p q parts = .ok r → u.walk p q parts = .ok r) ∧
      ∀ shown, t.walk p q parts = .error (.tooLong shown) →
        u.walk p q parts = .error (.tooLong shown) := by
  induction parts generalizing q with
  | nil => exact ⟨fun _ hr => hr, nofun⟩
  | cons part rest ih =>
    cases hq : t.entryAt? q with
    | none =>
      have hstep : t.step p q part = .error (.missing p.text) := by rw [FileTree.step, hq]
      rw [FileTree.walk, hstep]
      exact ⟨nofun, nofun⟩
    | some entry =>
      cases entry with
      | file b =>
        have hstep : t.step p q part = .error (.notFolder p.text) := by rw [FileTree.step, hq]
        rw [FileTree.walk, hstep]
        exact ⟨nofun, nofun⟩
      | folder =>
        rw [FileTree.walk, FileTree.walk, h.step hq]
        cases t.step p q part with
        | ok next => exact ih
        | error fault => exact ⟨fun _ hr => hr, fun _ hs => hs⟩

/-- A path that leads to a place still leads there. -/
theorem locate (h : t.Writes u place bytes) (hp : t.locate p = .ok q) : u.locate p = .ok q := by
  unfold FileTree.locate at hp ⊢
  split_ifs at hp ⊢
  exact (h.walk p.parts).1 q hp

theorem locate_tooLong (h : t.Writes u place bytes) {shown : String}
    (hp : t.locate p = .error (.tooLong shown)) : u.locate p = .error (.tooLong shown) := by
  unfold FileTree.locate at hp ⊢
  split_ifs at hp ⊢
  · exact hp
  · exact hp
  · exact (h.walk p.parts).2 shown hp

end Writes

/-- What is found stands at the place that the path leads to. -/
theorem find_eq_ok_iff {e : Entry} :
    t.find p = .ok e ↔ ∃ q, t.locate p = .ok q ∧ t.entryAt? q = some e := by
  unfold find
  rw [bind_eq_ok_iff]
  refine exists_congr fun q => and_congr_right fun _ => ?_
  cases t.entryAt? q with
  | none => exact iff_of_false nofun nofun
  | some entry =>
    rw [Option.some.injEq]
    exact Except.ok.injEq entry e ▸ Iff.rfl

/-- Nothing is found because the way is too long, or a part of it is. -/
theorem find_eq_tooLong_iff {shown : String} :
    t.find p = .error (.tooLong shown) ↔ t.locate p = .error (.tooLong shown) := by
  unfold find
  cases t.locate p with
  | error fault =>
    constructor <;> intro h <;> cases h <;> rfl
  | ok q =>
    refine iff_of_false (fun h => ?_) nofun
    -- at a place there is something, or it is missing
    cases hq : t.entryAt? q with
    | none =>
      simp only [bind, Except.bind, hq] at h
      cases h
    | some entry =>
      simp only [bind, Except.bind, hq] at h
      cases h

/-- There is something at a path whose file can be read. -/
theorem has_of_readBytes (h : t.readBytes p = .ok bytes) : t.has p = .ok true := by
  unfold FileTree.readBytes at h
  rw [bind_eq_ok_iff] at h
  obtain ⟨e, he, -⟩ := h
  rw [has, he]

/-- A text is read from its bytes with the ends of its lines unified. -/
theorem readText_of_readBytes {text : String} (h : t.readBytes p = .ok (Text.utf8 text)) :
    t.readText p = .ok (String.ofList (Text.unifyLineEnds text.toList)) := by
  unfold FileTree.readText
  rw [bind_eq_ok_iff]
  exact ⟨Text.utf8 text, h, by rw [Text.ofUtf8?_utf8]; rfl⟩

/-- A path has no answer, something at its end, or nothing. -/
theorem has_cases (t : FileTree) (p : Path) :
    (∃ e, t.find p = .ok e) ∨ (∃ shown, t.find p = .error (.tooLong shown)) ∨
      t.has p = .ok false := by
  unfold has
  split
  · next e he => exact Or.inl ⟨e, he⟩
  · next shown hs => exact Or.inr (Or.inl ⟨shown, hs⟩)
  · exact Or.inr (Or.inr rfl)

namespace Writes

/-- What is found at a path is found there again, unless it is the file that is written. -/
theorem find_of_ok (h : t.Writes u place bytes) {e : Entry} (hp : t.find p = .ok e)
    (hother : u.locate p ≠ .ok place) : u.find p = .ok e := by
  obtain ⟨q, hq, he⟩ := find_eq_ok_iff.mp hp
  have hu := h.locate hq
  have hne : q ≠ place := fun heq => hother (heq ▸ hu)
  exact find_eq_ok_iff.mpr ⟨q, hu, h.entryAt? hne he⟩

/-- What is read from another file is read again. -/
theorem readBytes_of_ok (h : t.Writes u place bytes) {read : List UInt8}
    (hp : t.readBytes p = .ok read) (hother : u.locate p ≠ .ok place) :
    u.readBytes p = .ok read := by
  unfold FileTree.readBytes at hp ⊢
  rw [bind_eq_ok_iff] at hp ⊢
  obtain ⟨e, he, hread⟩ := hp
  exact ⟨e, h.find_of_ok he hother, hread⟩

end Writes

/-- Two trees show the same at a path: whether something is there, and what can be read from it. -/
structure ShowsAlike (t u : FileTree) (p : Path) : Prop where
  has : u.has p = t.has p
  readBytes : t.has p ≠ .ok false → u.readBytes p = t.readBytes p

theorem ShowsAlike.of_find (h : u.find p = t.find p) : t.ShowsAlike u p where
  has := by rw [FileTree.has, FileTree.has, h]
  readBytes _ := by rw [FileTree.readBytes, FileTree.readBytes, h]

/-- The same is to be seen at a path, unless it leads to the file that is written, or nothing was
there before and something is there now. -/
theorem Writes.showsAlike (h : t.Writes u place bytes) (hother : u.locate p ≠ .ok place)
    (hmissing : t.has p = .ok false → u.has p = .ok false) : t.ShowsAlike u p := by
  rcases has_cases t p with ⟨e, he⟩ | ⟨shown, hs⟩ | hnothing
  · refine .of_find ?_
    rw [he, h.find_of_ok he hother]
  · refine .of_find ?_
    rw [hs, find_eq_tooLong_iff]
    exact h.locate_tooLong (find_eq_tooLong_iff.mp hs)
  · exact ⟨by rw [hnothing, hmissing hnothing], fun hne => absurd hnothing hne⟩

/-! ## The file that is written -/

/-- A file is put where the path leads to, if no folder is there. -/
theorem putBytes_eq_ok_iff :
    t.putBytes p bytes = .ok u ↔ ∃ place, t.locate p = .ok place ∧
      t.entryAt? place ≠ some .folder ∧ u = { t with files := putFile place bytes t.files } := by
  unfold putBytes
  rw [bind_eq_ok_iff]
  refine exists_congr fun place => and_congr_right fun _ => ?_
  split
  · next hfolder => exact iff_of_false nofun fun h => h.1 hfolder
  · next hfree =>
    constructor
    · intro h
      cases h
      exact ⟨hfree, rfl⟩
    · rintro ⟨-, rfl⟩
      rfl

theorem writes_of_putBytes (h : t.putBytes p bytes = .ok u) :
    ∃ place, u.locate p = .ok place ∧ t.Writes u place bytes := by
  obtain ⟨place, hplace, hfree, rfl⟩ := putBytes_eq_ok_iff.mp h
  have hwrites : t.Writes { t with files := putFile place bytes t.files } place bytes :=
    ⟨hfree, fun q => lookup_putFile place q bytes t.files, fun _ hq => hq⟩
  exact ⟨place, hwrites.locate hplace, hwrites⟩

/-- **Writing a file** makes folders and writes that file. -/
theorem writes_of_write (h : (t.write p bytes).fault = none) :
    ∃ place, (t.write p bytes).tree.locate p = .ok place ∧
      t.Writes (t.write p bytes).tree place bytes := by
  unfold write at h ⊢
  dsimp only at h ⊢
  have hfolders := t.addsFolders_ensureFolders p.rooted p.parent.parts.reverse
  cases hmade : (t.ensureFolders p.rooted p.parent.parts.reverse).fault with
  | some fault =>
    simp only [hmade] at h
    cases h
  | none =>
    simp only [hmade] at h ⊢
    cases hput : (t.ensureFolders p.rooted p.parent.parts.reverse).tree.putBytes p bytes with
    | error fault =>
      rw [hput] at h
      cases h
    | ok after =>
      obtain ⟨place, hplace, hwrites⟩ := writes_of_putBytes hput
      exact ⟨place, hplace, hwrites.of_addsFolders hfolders⟩

/-- The file is read as it was written. -/
theorem Writes.readBytes (h : t.Writes u place bytes) (hp : u.locate p = .ok place) :
    u.readBytes p = .ok bytes := by
  unfold FileTree.readBytes
  rw [bind_eq_ok_iff]
  exact ⟨.file bytes, find_eq_ok_iff.mpr ⟨place, hp, h.entryAt?_place⟩, rfl⟩

end FileTree

end SchemaPlan
