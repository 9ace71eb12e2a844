import SchemaPlan.Proofs.Migration.Reading
import SchemaPlan.Proofs.Seeding.Files
import SchemaPlan.Session

/-!
# What a run reads

The text that a command asks for depends on its inputs alone: the configuration, the documents and
the files that their seed rows name.

* `Migration.sql_withFiles` says that a migration reads the files that the new schema names.
* `Command.readDoc_of_rereadsAt` says that a document is the same when its file is read again.
* `Command.describe_congr` says that a command that has a text has the same text, and notes the
  same, over other files that hold the same inputs.
-/
namespace SchemaPlan

/-! ## Statements -/

/-- A migration has the same text when the files of the new seed rows look the same. -/
theorem Migration.sql_withFiles {old new : Schema} {d : Deployment} {u : FileTree}
    (h : new.NamesAlike d u) (allow : Permissions) (bound : Int) :
    (⟨old, new, d.withFiles u, allow⟩ : Migration).sql bound =
      (⟨old, new, d, allow⟩ : Migration).sql bound := by
  have hreads : ReadsAlike ⟨old, new, d.withFiles u, allow⟩ ⟨old, new, d, allow⟩ :=
    ⟨.refl old, .refl new, rfl, rfl, rfl⟩
  refine hreads.sql (fun table _ => ?_) bound
  -- a new table is created with the seed rows that the new schema has for it
  refine Schema.creation_withFiles fun r hr => h r ?_
  rw [← Schema.mem_declaredSeeds, Migration.declaredSeeds_partOf, Schema.seedsOf_eq] at hr
  exact (Schema.mem_declaredSeeds _).mp (List.mem_of_mem_filter hr)

namespace Command

variable {o : Outside} {t u : FileTree}

/-- The files that seed rows name are those that look the same. -/
theorem namesAlike_of_filesOfSeeds {d : Deployment} {schema : Schema}
    (h : ∀ p ∈ filesOfSeeds d schema, d.files.ShowsAlike u p) : schema.NamesAlike d u := by
  intro r hr c hc name path hsource hpath
  refine h path (List.mem_flatMap.mpr ⟨.seed r, hr, List.mem_filterMap.mpr ⟨c, hc, ?_⟩⟩)
  rw [hsource]
  exact hpath

theorem keyedSeeds_withFiles {d : Deployment} {schema : Schema} (h : schema.NamesAlike d u) :
    keyedSeeds (d.withFiles u) schema = keyedSeeds d schema := by
  have hseeds : schema.entities.map (keyedSeed (d.withFiles u)) =
      schema.entities.map (keyedSeed d) := by
    refine List.map_congr_left fun e he => ?_
    cases e with
    | seed r => rw [keyedSeed, keyedSeed, SeedRow.statements_withFiles (h r he)]
    | table _ => rfl
    | index _ => rfl
    | foreignKey _ => rfl
  rw [keyedSeeds, keyedSeeds, hseeds]
  rfl

/-! ## Documents -/

/-- What is read from a file in the first tree is read from it in the second one. -/
def RereadsAt (t u : FileTree) (name : String) : Prop :=
  ∀ bytes, t.readBytes (Path.ofText name) = .ok bytes → u.readBytes (Path.ofText name) = .ok bytes

/-- A document whose text has no carriage return is read from that text. -/
theorem readDoc_of_text {name text : String}
    (h : t.readBytes (Path.ofText name) = .ok (Text.utf8 text)) (hreturn : '\r' ∉ text.toList) :
    readDoc o t name = o.read text := by
  rw [readDoc, FileTree.readText_of_readBytes h, Text.unifyLineEnds_eq_self_iff.mpr hreturn,
    String.ofList_toList]
  rfl

theorem readDoc_of_rereadsAt {name : String} {doc : Doc} (h : RereadsAt t u name)
    (hdoc : readDoc o t name = .ok doc) : readDoc o u name = .ok doc := by
  cases hread : t.readBytes (Path.ofText name) with
  | error fault =>
    have htext : t.readText (Path.ofText name) = .error fault := by
      rw [FileTree.readText, hread]
      rfl
    rw [readDoc, htext] at hdoc
    cases hdoc
  | ok bytes =>
    have htext : u.readText (Path.ofText name) = t.readText (Path.ofText name) := by
      rw [FileTree.readText, FileTree.readText, hread, h bytes hread]
    rw [← hdoc, readDoc, readDoc, htext]

variable {c : Command} {s : Settings} {text : String}

/-- The settings are the same when the configuration is read again. -/
theorem settings_of_rereadsAt (h : ∀ name ∈ c.config.toList.filter (· != ""), RereadsAt t u name)
    (hs : c.settings o t = .ok s) : c.settings o u = .ok s := by
  unfold settings at hs ⊢
  dsimp only at hs ⊢
  split at hs
  · exact hs
  · exact hs
  · next name hempty hconfig =>
    rw [bind_eq_ok_iff] at hs ⊢
    obtain ⟨doc, hdoc, hs⟩ := hs
    refine ⟨doc, readDoc_of_rereadsAt (h name ?_) hdoc, hs⟩
    simpa [hconfig] using hempty

/-- A schema is the same when its document is read again. -/
theorem readSchema_of_rereadsAt {name : Option String} {schema : Schema}
    (h : ∀ n ∈ name, RereadsAt t u n) (hschema : readSchema o t s name = .ok schema) :
    readSchema o u s name = .ok schema := by
  cases name with
  | none => exact hschema
  | some n =>
    unfold readSchema readWhole at hschema ⊢
    simp only [bind_eq_ok_iff] at hschema ⊢
    obtain ⟨whole, ⟨doc, hdoc, hwhole⟩, hrest⟩ := hschema
    exact ⟨whole, ⟨doc, readDoc_of_rereadsAt (h n rfl) hdoc, hwhole⟩, hrest⟩

/-! ## The text -/

theorem generateWith_of_create {name : Option String} (htask : c.task = .create)
    (hname : c.documents = [name]) :
    c.generateWith o t s = (do
      let mapping ← Noted.ofExcept s.mapping
      let schema ← Noted.ofExcept (readSchema o t s name)
      let texts ← schema.creationSql (deployment t s mapping)
      c.asScript s.dialect texts) := by
  rw [generateWith, htask, hname]

theorem generateWith_of_seed {name : Option String} (htask : c.task = .seed)
    (hname : c.documents = [name]) :
    c.generateWith o t s = (do
      let mapping ← Noted.ofExcept s.mapping
      let schema ← Noted.ofExcept (readSchema o t s name)
      let texts ← keyedSeeds (deployment t s mapping) schema
      c.asScript s.dialect texts) := by
  rw [generateWith, htask, hname]

/-- The script that creates a schema, with the settings of a run. -/
theorem describe_of_create {name : Option String} {mapping : Option DatabaseMap}
    (htask : c.task = .create) (hname : c.documents = [name]) (hs : c.settings o t = .ok s)
    (hmapping : s.mapping = .ok mapping) :
    c.describe o t = (do
      let schema ← Noted.ofExcept (readSchema o t s name)
      c.asScript s.dialect (← schema.creationSql (deployment t s mapping))) := by
  rw [describe, hs]
  change c.generateWith o t s = _
  rw [generateWith_of_create htask hname, hmapping]
  rfl

theorem generateWith_congr (htext : (c.generateWith o t s).outcome = .ok text)
    (hdocuments : ∀ name ∈ c.documents, ∀ n ∈ name, RereadsAt t u n)
    (hseeds : ∀ name ∈ c.documents, ∀ schema, readSchema o t s name = .ok schema →
      ∀ p ∈ filesOfSeeds (deployment t s none) schema, t.ShowsAlike u p) :
    c.generateWith o u s = c.generateWith o t s := by
  unfold generateWith at htext ⊢
  refine Noted.ofExcept_bind_congr htext (fun _ h => h) fun mapping _ htext => ?_
  have hnames : ∀ name ∈ c.documents, ∀ schema, readSchema o t s name = .ok schema →
      schema.NamesAlike (deployment t s mapping) u := fun name hname schema hschema =>
    namesAlike_of_filesOfSeeds (hseeds name hname schema hschema)
  have hreads : ∀ name ∈ c.documents, ∀ schema, readSchema o t s name = .ok schema →
      readSchema o u s name = .ok schema := fun name hname schema =>
    readSchema_of_rereadsAt (hdocuments name hname)
  split at htext
  · -- the names of the tables
    next name _ hname =>
    exact Noted.ofExcept_bind_congr htext (hreads name (by simp [hname])) fun schema _ _ => rfl
  · -- a creation
    next name _ hname =>
    refine Noted.ofExcept_bind_congr htext (hreads name (by simp [hname]))
      fun schema hschema _ => ?_
    have hsql : schema.creationSql (deployment u s mapping) =
        schema.creationSql (deployment t s mapping) :=
      Schema.creationSql_withFiles (hnames name (by simp [hname]) schema hschema)
    rw [hsql]
  · -- a migration
    next oldName newName _ hname =>
    refine Noted.ofExcept_bind_congr htext (hreads oldName (by simp [hname]))
      fun old hold htext => ?_
    refine Noted.ofExcept_bind_congr htext (hreads newName (by simp [hname])) fun new hnew _ => ?_
    have hsql : (⟨old, new, deployment u s mapping, s.allow⟩ : Migration).sql s.bound =
        (⟨old, new, deployment t s mapping, s.allow⟩ : Migration).sql s.bound :=
      Migration.sql_withFiles (hnames newName (by simp [hname]) new hnew) s.allow s.bound
    rw [hsql]
  · -- seed rows
    next name _ hname =>
    refine Noted.ofExcept_bind_congr htext (hreads name (by simp [hname]))
      fun schema hschema _ => ?_
    have hsql : keyedSeeds (deployment u s mapping) schema =
        keyedSeeds (deployment t s mapping) schema :=
      keyedSeeds_withFiles (hnames name (by simp [hname]) schema hschema)
    rw [hsql]
  · rfl

/-- The files that a command reads: its configuration, its documents and those that their seed rows
name. -/
def inputs (c : Command) (o : Outside) (tree : FileTree) : List Path :=
  (c.config.toList.filter (· != "") ++ c.documents.filterMap id).map Path.ofText ++
    c.seedFiles o tree

/-- **What a command reads.**  A command that has a text has the same one over other files, when its
configuration and documents are read again and its seed files look the same. -/
theorem describe_congr (htext : (c.describe o t).outcome = .ok text)
    (hsources : ∀ name ∈ c.config.toList.filter (· != "") ++ c.documents.filterMap id,
      RereadsAt t u name)
    (hseeds : ∀ p ∈ c.seedFiles o t, t.ShowsAlike u p) : c.describe o u = c.describe o t := by
  unfold describe at htext ⊢
  refine Noted.ofExcept_bind_congr htext (fun s => settings_of_rereadsAt fun name hname => ?_)
    fun s hs htext => ?_
  · exact hsources name (List.mem_append_left _ hname)
  · refine generateWith_congr htext (fun name hname n hn => ?_)
      fun name hname schema hschema p hp => ?_
    · exact hsources n (List.mem_append_right _ (List.mem_filterMap.mpr ⟨name, hname, hn⟩))
    · refine hseeds p ?_
      rw [seedFiles, hs]
      refine List.mem_flatMap.mpr ⟨name, hname, ?_⟩
      rw [hschema]
      exact hp

/-- The text of a command is the one that is described, unless it comes upon something else. -/
theorem generate_of_described (h : (c.describe o t).outcome ≠ .error .beyond) :
    c.generate o t = c.describe o t := by
  unfold generate
  dsimp only
  split
  · next hbeyond => exact absurd hbeyond h
  · rfl

theorem generate_of_describe {notes : List Note} (h : c.describe o t = ⟨notes, .ok text⟩) :
    c.generate o t = ⟨notes, .ok text⟩ := by
  rw [generate, h]

end Command

/-! ## A document that is known -/

/-- A reader that knows the document in one text. -/
def Outside.knowing (text : String) (doc : Doc) : Outside where
  read other :=
    if other = text then .ok doc else .error (.flaw "mapping values are not allowed here")
  text _ _ := Noted.ofExcept (.error .beyond)
  lax := false

theorem Command.readDoc_knowing {tree : FileTree} {name text : String} {doc : Doc}
    (h : tree.readBytes (Path.ofText name) = .ok (Text.utf8 text)) (hreturn : '\r' ∉ text.toList) :
    readDoc (.knowing text doc) tree name = .ok doc := by
  rw [readDoc_of_text h hreturn, Outside.knowing]
  exact if_pos rfl

end SchemaPlan
