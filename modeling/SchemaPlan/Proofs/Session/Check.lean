import SchemaPlan.Proofs.Command
import SchemaPlan.Proofs.Session.Files
import SchemaPlan.Proofs.Session.Inputs

/-!
# Comparing what was written

A script is written as it is and read back with the ends of its lines unified.  So a run that only
compares, after one that has written, finds the file as it should be exactly when the script has no
carriage return.

* `Command.compare_written` says what comparing a written file with its text comes to.
* `runWords_check` says what a run comes to that only compares, after one that has written.
-/
namespace SchemaPlan

namespace Command

variable {c : Command} {o : Outside} {tree after : FileTree} {text : String}

/-- A file that holds a text is as it should be when the text has no carriage return. -/
theorem compare_written {path : Path} (h : tree.readBytes path = .ok (Text.utf8 text))
    (log : List String) :
    compare tree path text log =
      if '\r' ∈ text.toList then
        .finished 1 ""
          (log ++ driftReport path.text (String.ofList (Text.unifyLineEnds text.toList)) text)
      else .finished 0 "" log := by
  have hsame : String.ofList (Text.unifyLineEnds text.toList) = text ↔ '\r' ∉ text.toList := by
    rw [← Text.unifyLineEnds_eq_self_iff]
    constructor
    · intro heq
      rw [← String.toList_inj, String.toList_ofList] at heq
      exact heq
    · intro heq
      rw [heq, String.ofList_toList]
  unfold compare
  rw [FileTree.has_of_readBytes h, FileTree.readText_of_readBytes h]
  dsimp only
  by_cases hreturn : '\r' ∈ text.toList
  · rw [if_neg fun heq => hsame.mp heq hreturn, if_pos hreturn]
  · rw [if_pos (hsame.mpr hreturn), if_neg hreturn]

/-- A command that has written its text has the same text again, unless it has written one of its
inputs or has made a way to a seed file that was missing. -/
theorem describe_of_written {place : Path} {bytes : List UInt8}
    (htext : (c.describe o tree).outcome = .ok text) (hwrites : tree.Writes after place bytes)
    (hother : ∀ p ∈ c.inputs o tree, after.locate p ≠ .ok place)
    (hmissing : ∀ p ∈ c.seedFiles o tree, tree.has p = .ok false → after.has p = .ok false) :
    c.describe o after = c.describe o tree := by
  refine describe_congr htext (fun name hname bytes hread => ?_) fun p hp => ?_
  · refine hwrites.readBytes_of_ok hread (hother _ ?_)
    exact List.mem_append_left _ (List.mem_map_of_mem hname)
  · exact hwrites.showsAlike (hother p (List.mem_append_right _ hp)) (hmissing p hp)

/-- So has a command that comes upon something that is not described, if that is the same again. -/
theorem generate_of_written {place : Path} {bytes : List UInt8}
    (htext : (c.generate o tree).outcome = .ok text) (hwrites : tree.Writes after place bytes)
    (hother : ∀ p ∈ c.inputs o tree, after.locate p ≠ .ok place)
    (hmissing : ∀ p ∈ c.seedFiles o tree, tree.has p = .ok false → after.has p = .ok false)
    (hbeyond : (c.describe o tree).outcome = .error .beyond →
      c.generate o after = c.generate o tree) :
    c.generate o after = c.generate o tree := by
  by_cases hdescribed : (c.describe o tree).outcome = .error .beyond
  · exact hbeyond hdescribed
  · have hgenerate := generate_of_described hdescribed
    have hagain : c.describe o after = c.describe o tree :=
      describe_of_written (hgenerate ▸ htext) hwrites hother hmissing
    rw [generate_of_described (hagain ▸ hdescribed), hgenerate, hagain]

end Command

/-- **Comparing after writing.**  A run has written a script to a file that is none of its inputs,
and seed files that were missing are missing still; where the run came upon something that is not
described here, its text is the same again.  Then the run with the same words that only compares
ends with the code 0 if the script has no carriage return, and reports drift if it has one. -/
theorem runWords_check {o : Outside} {tree after : FileTree} {c : Command}
    {name file printed : String} {words log : List String} (hname : name ≠ "list-tables")
    (hparse : Command.parse? o.lax (name :: words) = some c) (hcheck : c.check = false)
    (hfile : c.outFile = some file)
    (hrun : runWords o tree (name :: words) = ⟨.finished 0 printed log, after⟩)
    (hother : ∀ p ∈ c.inputs o tree, after.locate p ≠ after.locate (Path.ofText file))
    (hmissing : ∀ p ∈ c.seedFiles o tree, tree.has p = .ok false → after.has p = .ok false)
    (hbeyond : (c.describe o tree).outcome = .error .beyond →
      c.generate o after = c.generate o tree) :
    Command.parse? o.lax (name :: "--check" :: words) = some (c.turnOn .check) ∧
    ∃ text, (c.generate o tree).outcome = .ok text ∧
      ∀ again, Command.parse? o.lax again = some (c.turnOn .check) →
        runWords o after again =
          ⟨if '\r' ∈ text.toList then
              .finished 1 "" (log ++ Command.driftReport (Path.ofText file).text
                (String.ofList (Text.unifyLineEnds text.toList)) text)
            else .finished 0 "" log, after⟩ := by
  refine ⟨Command.parse?_check hname hparse hfile, ?_⟩
  have hcommand : c.run o tree = ⟨.finished 0 printed log, after⟩ := by
    rw [← hrun, runWords_of_parse? hparse]
  have hcode : (c.run o tree).ending.code? = some 0 := by
    rw [hcommand]
    rfl
  obtain ⟨text, place, htext, hending, hplace, hwrites⟩ :=
    Command.run_of_written hcheck hfile hcode
  rw [hcommand] at hending hplace hwrites
  -- the log of the first run is what its notes come to
  obtain ⟨-, -, hlog⟩ := Ending.finished.inj hending
  have hagain : c.generate o after = c.generate o tree := by
    refine Command.generate_of_written htext hwrites (fun p hp => ?_) hmissing hbeyond
    rw [← hplace]
    exact hother p hp
  refine ⟨text, htext, fun again hwords => ?_⟩
  have hcompare := Command.run_of_compare (c := c.turnOn .check) rfl hfile (hagain ▸ htext)
  have hlogged : (c.turnOn .check).logLines ((c.turnOn .check).generate o after).notes = log := by
    rw [hlog, ← hagain]
    rfl
  rw [runWords_of_parse? hwords, hcompare, hlogged,
    Command.compare_written (hwrites.readBytes hplace)]

/-! ## A note -/

theorem seedFiles_noteFiles :
    noteCommand.seedFiles noteReader noteFiles = [Path.ofText "h", Path.ofText "b"] := by
  have hsettings : noteCommand.settings noteReader noteFiles = .ok Settings.standard := rfl
  have hdocuments : noteCommand.documents = [some "m.yaml"] := rfl
  rw [Command.seedFiles, hsettings, hdocuments]
  dsimp only
  rw [List.flatMap_singleton, Command.readSchema, Command.readWhole, readDoc_noteFiles]
  decide +kernel

/-- The script of the note, which is written into a new folder and reads a file that is not there,
is as it should be. -/
theorem noteScript_unchanged :
    Command.parse? noteReader.lax ("sql" :: "--check" :: noteWords) =
        some (noteCommand.turnOn .check) ∧
      runWords noteReader noteFilesWritten ("sql" :: "--check" :: noteWords) =
        ⟨.finished 0 "" ["WARNING: Cannot find insert filename: h"], noteFilesWritten⟩ := by
  have hother : ∀ p ∈ noteCommand.inputs noteReader noteFiles,
      noteFilesWritten.locate p ≠ noteFilesWritten.locate (Path.ofText "sql/o.sql") := by
    rw [Command.inputs, seedFiles_noteFiles]
    decide +kernel
  have hmissing : ∀ p ∈ noteCommand.seedFiles noteReader noteFiles,
      noteFiles.has p = .ok false → noteFilesWritten.has p = .ok false := by
    rw [seedFiles_noteFiles]
    decide +kernel
  have hbeyond : (noteCommand.describe noteReader noteFiles).outcome = .error .beyond →
      noteCommand.generate noteReader noteFilesWritten =
        noteCommand.generate noteReader noteFiles := by
    rw [describe_noteFiles]
    exact nofun
  obtain ⟨hparse, text, htext, hagain⟩ := runWords_check (by decide) parse?_noteWords rfl rfl
    runWords_noteFiles hother hmissing hbeyond
  have hscript : text = noteScript := by
    rw [generate_noteFiles] at htext
    exact (Except.ok.inj htext).symm
  have hreturn : '\r' ∉ text.toList := by
    rw [hscript]
    decide +kernel
  have hrun := hagain _ hparse
  rw [if_neg hreturn] at hrun
  exact ⟨hparse, hrun⟩

/-! ## A value of two lines -/

/-- The text of a document with a seed row whose value has two lines, with a carriage return between
them. -/
def sumText : String :=
  "entities:\n- kind: insert\n  table: t\n  columns:\n" ++
    "  - name: a\n    value: \"1\\r\\n+1\"\n"

/-- The document. -/
def sumDoc : Doc :=
  .mapping [(some "entities", .list [.mapping [(some "kind", .text "insert"),
    (some "table", .text "t"), (some "columns", .list [
      .mapping [(some "name", .text "a"), (some "value", .text "1\r\n+1")]])]])]

/-- A reader of the document. -/
def sumReader : Outside := .knowing sumText sumDoc

/-- The script of the document. -/
def sumScript : String :=
  "set foreign_key_checks = 0;\ninsert into t (a) values (1\r\n+1);\nset foreign_key_checks = 1;\n"

/-- The document and some files. -/
def sumFiles (files : List (Path × List UInt8)) : FileTree :=
  ⟨(Path.ofText "m.yaml", Text.utf8 sumText) :: files, []⟩

/-- The files with the script. -/
def sumFilesWritten : FileTree :=
  sumFiles [(Path.ofText "o.sql", Text.utf8 sumScript)]

/-- The command that writes the script. -/
def sumCommand : Command :=
  { Command.plain .create with documents := [some "m.yaml"], out := some "o.sql" }

theorem generate_sum {tree : FileTree}
    (h : tree.readBytes (Path.ofText "m.yaml") = .ok (Text.utf8 sumText)) :
    sumCommand.generate sumReader tree = ⟨[.generated 1 "sql"], .ok sumScript⟩ := by
  have hdoc : Command.readDoc sumReader tree "m.yaml" = .ok sumDoc :=
    Command.readDoc_knowing h (by decide +kernel)
  have hdescribe : sumCommand.describe sumReader tree =
      ⟨[.generated 1 "sql"], .ok sumScript⟩ := by
    rw [Command.describe_of_create rfl rfl rfl rfl, Command.readSchema, Command.readWhole, hdoc]
    rfl
  exact Command.generate_of_describe hdescribe

/-- The script is written, and comparing it right after reports drift: the file is read with a line
feed between the two lines. -/
theorem sumScript_drifts :
    runWords sumReader (sumFiles []) ["sql", "m.yaml", "--out", "o.sql"] =
        ⟨.finished 0 "Generated o.sql\n" [], sumFilesWritten⟩ ∧
      ∃ report, runWords sumReader sumFilesWritten ["sql", "m.yaml", "--out", "o.sql", "--check"] =
        ⟨.finished 1 "" ("[check] drift detected: o.sql" :: report), sumFilesWritten⟩ := by
  constructor
  · have htext : (sumCommand.generate sumReader (sumFiles [])).outcome = .ok sumScript := by
      rw [generate_sum rfl]
    change sumCommand.run sumReader (sumFiles []) = _
    rw [Command.run_of_store rfl rfl htext, generate_sum rfl]
    rfl
  · have hagain : (sumCommand.turnOn .check).generate sumReader sumFilesWritten =
        ⟨[.generated 1 "sql"], .ok sumScript⟩ := by
      change sumCommand.generate sumReader sumFilesWritten = _
      exact generate_sum rfl
    have htext : ((sumCommand.turnOn .check).generate sumReader sumFilesWritten).outcome =
        .ok sumScript := by
      rw [hagain]
    have hfile : sumFilesWritten.readBytes (Path.ofText "o.sql") = .ok (Text.utf8 sumScript) := rfl
    have hreturn : '\r' ∈ sumScript.toList := by decide +kernel
    change ∃ report, (sumCommand.turnOn .check).run sumReader sumFilesWritten = _
    rw [Command.run_of_compare rfl rfl htext, Command.compare_written hfile, if_pos hreturn, hagain]
    exact ⟨_, rfl⟩

end SchemaPlan
