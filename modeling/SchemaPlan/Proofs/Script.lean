import Mathlib.Tactic.TFAE
import SchemaPlan.Proofs.Merge.Groups
import SchemaPlan.Proofs.Migration.Terms
import SchemaPlan.Proofs.Statement.OneLine
import SchemaPlan.Proofs.Statement.Restriction

/-!
# Reading scripts back

A script has its statements one to a line, so the lines give the statements back, with the lines
around them and the semicolons taken off, unless a statement goes over several lines itself.

* `readScript_script_iff` says so of any statements.
* `oneLine_merge_iff` says that merging makes no lines and takes none away.
* `lines_tfae` says of a schema that is created and of one that is changed into another which of
  their statements break the script.
-/
namespace SchemaPlan

/-! ## Lines -/

/-- What stands between two separators holds none. -/
theorem not_mem_of_mem_splitOnP {α : Type} {p : α → Bool} {xs piece : List α}
    (h : piece ∈ xs.splitOnP p) : ∀ x ∈ piece, p x = false := by
  induction xs generalizing piece with
  | nil =>
    rw [List.splitOnP_nil, List.mem_singleton] at h
    rw [h]
    exact List.forall_mem_nil _
  | cons x rest ih =>
    obtain ⟨first, others, hpieces⟩ := List.exists_cons_of_ne_nil (List.splitOnP_ne_nil p rest)
    rw [hpieces] at ih
    rw [List.splitOnP_cons_eq_if_modifyHead, hpieces, List.modifyHead_cons] at h
    split_ifs at h with hx
    · rcases List.mem_cons.mp h with rfl | hrest
      · exact List.forall_mem_nil _
      · exact ih hrest
    · rcases List.mem_cons.mp h with rfl | hothers
      · exact List.forall_mem_cons.mpr ⟨Bool.eq_false_iff.mpr hx, ih List.mem_cons_self⟩
      · exact ih (List.mem_cons_of_mem first hothers)

/-- A line without the semicolon at its end. -/
def withoutSemicolon (line : List Char) : List Char :=
  if line.getLast? = some ';' then line.dropLast else line

theorem withoutSemicolon_append (s : List Char) : withoutSemicolon (s ++ [';']) = s := by
  rw [withoutSemicolon, if_pos (List.getLast?_concat), List.dropLast_concat]

/-- The statements of a script: its lines without the semicolons, and without the lines that the
dialect has before and after them.  The empty text has none. -/
def readScript (d : Dialect) (text : String) : List String :=
  if text = "" then []
  else
    -- The last line ends with a line feed, and nothing follows it.
    let lines := (text.toList.splitOn '\n').dropLast
    let body := (lines.drop (scriptHead d).length).take
      (lines.length - (scriptHead d).length - (scriptFoot d).length)
    body.map fun line => String.ofList (withoutSemicolon line)

/-- What is read from a script is one line. -/
theorem oneLine_of_mem_readScript {d : Dialect} {text s : String} (h : s ∈ readScript d text) :
    OneLine s := by
  unfold readScript at h
  split_ifs at h
  · cases h
  · obtain ⟨line, hline, rfl⟩ := List.mem_map.mp h
    have hpiece : line ∈ text.toList.splitOn '\n' :=
      List.dropLast_subset _ (List.mem_of_mem_drop (List.mem_of_mem_take hline))
    rw [List.splitOn_eq_splitOnP] at hpiece
    have hnone : ∀ c ∈ line, c ≠ '\n' := fun c hc =>
      beq_eq_false_iff_ne.mp (not_mem_of_mem_splitOnP hpiece c hc)
    rw [oneLine_ofList, withoutSemicolon]
    split_ifs
    · exact fun c hc => hnone c (List.dropLast_subset _ hc)
    · exact hnone

/-- The lines of a script, and nothing behind the last line feed. -/
theorem splitOn_script {d : Dialect} {statements : List String} (hne : statements ≠ [])
    (h : ∀ s ∈ statements, OneLine s) :
    (script d statements).toList.splitOn '\n' =
      (scriptHead d ++ statements.map (· ++ ";") ++ scriptFoot d).map String.toList ++ [[]] := by
  have hlines : scriptHead d ++ statements.map (· ++ ";") ++ scriptFoot d ≠ [] := by
    simp [hne]
  have hone : ∀ s ∈ scriptHead d ++ statements.map (· ++ ";") ++ scriptFoot d, OneLine s := by
    rw [List.forall_mem_append, List.forall_mem_append, List.forall_mem_map]
    refine ⟨⟨?_, fun s hs => oneLine_append.mpr ⟨h s hs, by decide⟩⟩, ?_⟩
    · cases d <;> decide
    · cases d <;> decide
  rw [script, if_neg (by simp [hne])]
  generalize scriptHead d ++ statements.map (· ++ ";") ++ scriptFoot d = lines at hlines hone
  -- The last line feed stands before one more line, which is empty.
  have hend : "\n".intercalate lines ++ "\n" = "\n".intercalate (lines ++ [""]) := by
    rw [String.intercalate_append_of_ne_nil hlines (List.cons_ne_nil _ _),
      String.intercalate_singleton, String.append_empty]
  have hfree : ∀ line ∈ (lines ++ [""]).map String.toList, '\n' ∉ line := by
    rw [List.forall_mem_map, List.forall_mem_append, List.forall_mem_singleton]
    exact ⟨hone, by decide⟩
  rw [hend, String.toList_intercalate]
  refine (List.splitOn_intercalate '\n' hfree (by simp)).trans ?_
  rw [List.map_append]
  rfl

/-- Statements of one line are read back. -/
theorem readScript_script {d : Dialect} {statements : List String}
    (h : ∀ s ∈ statements, OneLine s) : readScript d (script d statements) = statements := by
  by_cases hne : statements = []
  · rw [hne]
    rfl
  · have hnonempty : script d statements ≠ "" := by
      rw [script, if_neg (by simp [hne])]
      simp
    have hlength : ((scriptHead d ++ statements.map (· ++ ";") ++ scriptFoot d).map
        String.toList).length - (scriptHead d).length - (scriptFoot d).length = statements.length := by
      simp only [List.length_map, List.length_append]
      omega
    unfold readScript
    rw [if_neg hnonempty, splitOn_script hne h, List.dropLast_concat]
    dsimp only
    rw [hlength, List.append_assoc, List.map_append, List.map_append,
      List.drop_left' (List.length_map _), List.take_left' (by simp), List.map_map, List.map_map]
    refine (List.map_congr_left fun s _ => ?_).trans (List.map_id statements)
    show String.ofList (withoutSemicolon (s ++ ";").toList) = s
    rw [String.toList_append]
    exact (congrArg String.ofList (withoutSemicolon_append s.toList)).trans String.ofList_toList

/-- **A script is read back** if its statements are one line each, and not otherwise. -/
theorem readScript_script_iff {d : Dialect} {statements : List String} :
    readScript d (script d statements) = statements ↔ ∀ s ∈ statements, OneLine s := by
  refine ⟨fun h s hs => ?_, readScript_script⟩
  rw [← h] at hs
  exact oneLine_of_mem_readScript hs

/-! ## Merged statements -/

/-- A text of several statements is one line if they all are. -/
theorem IsMerged.oneLine_text_iff {bound : Int} {g : MergeGroup} (h : IsMerged bound g) :
    OneLine g.text ↔ ∀ s ∈ g.members, OneLine s := by
  cases h with
  | single s => exact List.forall_mem_singleton.symm
  | @several head rests hhead hmany hfits =>
    have hsome : ∃ rest, rest ∈ rests := List.exists_mem_of_length_pos (by omega)
    simp only [MergeGroup.behind, oneLine_append, List.forall_mem_map]
    rw [oneLine_intercalate (by decide)]
    constructor
    · exact fun h rest hrest => ⟨h.1, h.2 rest hrest⟩
    · intro h
      obtain ⟨rest, hrest⟩ := hsome
      exact ⟨(h rest hrest).1, fun other hother => (h other hother).2⟩

/-- **Merging** makes no lines and takes none away. -/
theorem oneLine_merge_iff (bound : Int) (statements : List String) :
    (∀ s ∈ merge bound statements, OneLine s) ↔ ∀ s ∈ statements, OneLine s := by
  obtain ⟨groups, hcut⟩ := merge_isCut bound statements
  rw [← hcut.texts, ← hcut.members, List.forall_mem_map, List.forall_mem_flatMap]
  exact forall₂_congr fun g hg => (hcut.merged g hg).oneLine_text_iff

/-! ## Creations and migrations -/

variable {d : Deployment} {l : List Statement}

/-- Only the names are to be one line. -/
def namesOnly : Terms :=
  ⟨OneLine, fun _ => True, fun _ => True⟩

/-- No default and no value is to break a line. -/
def unbroken (d : Dialect) : Terms :=
  ⟨fun _ => True, fun c => ¬ c.BreaksLine d, fun v => ¬ v.BreaksLine⟩

/-- The defaults of a schema break no line, and its rows write only literals as they stand that break
none. -/
structure Schema.IsUnbroken (d : Dialect) (s : Schema) : Prop where
  columns : ∀ t, .table t ∈ s.entities → ∀ c ∈ t.columns, ¬ c.BreaksLine d
  rows : ∀ r, .seed r ∈ s.entities → r.IsPlain

theorem Schema.Named.supplies {s : Schema} (hs : s.Named OneLine) : s.Supplies namesOnly d :=
  ⟨hs, fun _ _ _ _ => trivial, fun _ _ _ _ _ _ => trivial⟩

theorem Schema.IsUnbroken.supplies {s : Schema} (hs : s.IsUnbroken d.target.dialect) :
    s.Supplies (unbroken d.target.dialect) d :=
  ⟨fun _ _ _ _ => trivial, hs.columns, fun r hr _ hcontents _ hc =>
    SeedRow.not_breaksLine_assign (hs.rows r hr) hcontents hc⟩

/-- Statements whose names are one line are one line each, but for those that break it. -/
theorem oneLine_texts_iff {t : Target} (ht : OneLine t.localSchema)
    (h : Each (Statement.WrittenFor t.dialect namesOnly) l) :
    (∀ text ∈ l.map (Statement.sql t), OneLine text) ↔ ∀ s ∈ l, ¬ s.BreaksLine t.dialect := by
  rw [List.forall_mem_map]
  exact forall₂_congr fun s hs => Statement.oneLine_sql_iff ht (fun _ => id) (h s hs)

theorem not_breaksLine_of_writtenFor {t : Target}
    (h : Each (Statement.WrittenFor t.dialect (unbroken t.dialect)) l) :
    ∀ s ∈ l, ¬ s.BreaksLine t.dialect := fun s hs =>
  Statement.not_breaksLine_iff.mpr ⟨(h s hs).defined, (h s hs).values⟩

/-- **The lines of a script are its statements** when a schema is created and when it is changed into
another one, unless one of them writes a default or a value with a line feed.  None does if the new
schema has no such default and its rows name no column twice and have no such literal without
quotes; otherwise its texts may hold anything, as long as no name holds a line feed. -/
theorem lines_tfae (hschema : OneLine d.target.localSchema)
    (hdatabases : MapsInto OneLine d.mapping) :
    (∀ (s : Schema) (texts : List String), s.Named OneLine → (s.creationSql d).outcome = .ok texts →
      ∃ l, (s.creation d).outcome = .ok l ∧
        [∀ text ∈ texts, OneLine text,
          readScript d.target.dialect (script d.target.dialect texts) = texts,
          ∀ x ∈ l, ¬ x.BreaksLine d.target.dialect].TFAE ∧
        (s.IsUnbroken d.target.dialect → ∀ x ∈ l, ¬ x.BreaksLine d.target.dialect)) ∧
    ∀ (m : Migration) (bound : Int) (texts : List String), m.deployment = d →
      m.old.Named OneLine → m.new.Named OneLine → (m.sql bound).outcome = .ok texts →
      ∃ l, m.run.outcome = .ok l ∧
        [∀ text ∈ texts, OneLine text,
          readScript d.target.dialect (script d.target.dialect texts) = texts,
          ∀ x ∈ l, ¬ x.BreaksLine d.target.dialect].TFAE ∧
        (m.new.IsUnbroken d.target.dialect → ∀ x ∈ l, ¬ x.BreaksLine d.target.dialect) := by
  have hanything : MapsInto (fun _ => True) d.mapping := fun _ _ _ _ => trivial
  constructor
  · intro s texts hs h
    obtain ⟨l, hl, rfl⟩ := Schema.creationSql_eq_ok_iff.mp h
    refine ⟨l, hl, ?_, fun hquiet => not_breaksLine_of_writtenFor
      (Schema.writtenFor_creation hquiet.supplies hanything hl)⟩
    have hlines := oneLine_texts_iff hschema (Schema.writtenFor_creation hs.supplies hdatabases hl)
    tfae_have 1 ↔ 2 := readScript_script_iff.symm
    tfae_have 1 ↔ 3 := hlines
    tfae_finish
  · rintro m bound texts rfl hold hnew h
    obtain ⟨l, hl, rfl⟩ := (m.sql_eq_ok_iff).mp h
    refine ⟨l, hl, ?_, fun hquiet => not_breaksLine_of_writtenFor
      (Migration.writtenFor_run (fun _ _ _ _ => trivial) hquiet.supplies hanything hl)⟩
    have hlines := oneLine_texts_iff hschema
      (Migration.writtenFor_run hold hnew.supplies hdatabases hl)
    tfae_have 1 ↔ 2 := readScript_script_iff.symm
    tfae_have 1 ↔ 3 := (oneLine_merge_iff bound _).trans hlines
    tfae_finish

/-! ## Moods of two lines -/

/-- Moods, one of which has two lines, with this default, and a row with that mood. -/
def moods (default : String) : Schema :=
  ⟨[.table ⟨"mood", [⟨"name", .base .enum, 0, 0, true, some (.text default), none, false, false,
      some ["calm", "up\ndown"]⟩], none, none⟩,
    .seed ⟨"mood", [⟨"name", .literal (some (.text "up\ndown")), true⟩], [], false⟩]⟩

/-- Where `moods` are created: on the dialect without backslashes. -/
def moodDeployment : Deployment := ⟨⟨.pgsql, ""⟩, none, none, .empty⟩

/-- The change of nothing into `moods`. -/
def moodMigration (default : String) : Migration :=
  ⟨.empty, moods default, moodDeployment, ⟨false, false, false⟩⟩

/-- The creation of `moods`; only the default stands as it is. -/
def moodTexts (default : String) : List String :=
  ["drop table if exists mood", "drop view if exists mood",
    "create table mood (name varchar(7) default '" ++ default ++ "')",
    "insert into mood (name) values (decode('75700a646f776e', 'hex'))"]

theorem isUnbroken_calm_moods : (moods "calm").IsUnbroken .pgsql := by
  constructor
  · intro t ht c hc
    simp only [moods, List.mem_cons, Entity.table.injEq, reduceCtorEq, List.not_mem_nil, or_false] at ht
    subst ht
    rw [List.mem_singleton] at hc
    subst hc
    decide
  · intro r hr
    simp only [moods, List.mem_cons, Entity.seed.injEq, reduceCtorEq, List.not_mem_nil, or_false,
      false_or] at hr
    subst hr
    refine ⟨by decide, fun c hc hquoted => ?_⟩
    rw [List.mem_singleton] at hc
    subst hc
    cases hquoted

/-- With a calm default all is read back, the mood of two lines in the row too. -/
theorem calm_moods_read_back :
    OneLine moodDeployment.target.localSchema ∧ MapsInto OneLine moodDeployment.mapping ∧
      (moods "calm").Named OneLine ∧ Schema.empty.Named OneLine ∧ (moods "calm").IsUnbroken .pgsql ∧
      ((moods "calm").creationSql moodDeployment).outcome = .ok (moodTexts "calm") ∧
      ((moodMigration "calm").sql defaultBound).outcome = .ok (moodTexts "calm") ∧
      readScript .pgsql (script .pgsql (moodTexts "calm")) = moodTexts "calm" ∧
      ∀ text ∈ moodTexts "calm", OneLine text := by
  have hschema : OneLine moodDeployment.target.localSchema := by decide
  have hdatabases : MapsInto OneLine moodDeployment.mapping := fun _ _ _ h => by cases h
  have hnamed : (moods "calm").Named OneLine := by decide
  have hempty : Schema.empty.Named OneLine := by decide
  have hcreation : ((moods "calm").creationSql moodDeployment).outcome = .ok (moodTexts "calm") := by
    decide +kernel
  have hmigration : ((moodMigration "calm").sql defaultBound).outcome = .ok (moodTexts "calm") := by
    decide +kernel
  obtain ⟨hschemas, hmigrations⟩ := lines_tfae hschema hdatabases
  obtain ⟨_, -, hread, hquiet⟩ := hschemas (moods "calm") _ hnamed hcreation
  obtain ⟨_, -, hlines, hsafe⟩ := hmigrations (moodMigration "calm") _ _ rfl hempty hnamed hmigration
  exact ⟨hschema, hdatabases, hnamed, hempty, isUnbroken_calm_moods, hcreation, hmigration,
    (hread.out 1 2).mpr (hquiet isUnbroken_calm_moods),
    (hlines.out 0 2).mpr (hsafe isUnbroken_calm_moods)⟩

/-- A default of two lines makes a line more, although the row and the type with it make none. -/
theorem default_of_two_lines :
    (moods "up\ndown").Named OneLine ∧
      ((moods "up\ndown").creationSql moodDeployment).outcome = .ok (moodTexts "up\ndown") ∧
      ¬ (∀ text ∈ moodTexts "up\ndown", OneLine text) ∧
      readScript .pgsql (script .pgsql (moodTexts "up\ndown")) ≠ moodTexts "up\ndown" := by
  refine ⟨by decide, by decide +kernel, by decide, ?_⟩
  rw [Ne, readScript_script_iff]
  decide

end SchemaPlan
