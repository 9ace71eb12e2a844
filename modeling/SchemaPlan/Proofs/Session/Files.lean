import SchemaPlan.Proofs.Command
import SchemaPlan.Proofs.Session.Inputs

/-!
# What a run does to the files

A run makes its text before it does anything else.  It touches the files when it has a text and a
file to write it to, and when it does not just compare: then it writes that file and no other one.

* `Command.run_of_error`, `Command.run_of_check` and `Command.run_of_no_outFile` say where the files
  are left alone.
* `Command.run_of_written` says that a run which comes to its end otherwise has written its text.
* `runWords_files` is the whole for any words and any files.
-/
namespace SchemaPlan

/-- The code that a run ends with, if it comes to its end. -/
def Ending.code? : Ending → Option Nat
  | .refused .help => some 0
  | .refused .misuse => some 2
  | .finished code _ _ => some code
  | .broken _ => none

namespace Command

variable {c : Command} {o : Outside} {tree : FileTree} {text name : String}

/-! ## A run with a text -/

/-- The text is printed where there is no file to write it to. -/
theorem run_of_print (hfile : c.outFile = none) (htext : (c.generate o tree).outcome = .ok text) :
    c.run o tree = ⟨.finished 0 text (c.logLines (c.generate o tree).notes), tree⟩ := by
  simp only [run, htext, hfile]

theorem run_of_compare (hcheck : c.check = true) (hfile : c.outFile = some name)
    (htext : (c.generate o tree).outcome = .ok text) :
    c.run o tree =
      ⟨compare tree (Path.ofText name) text (c.logLines (c.generate o tree).notes), tree⟩ := by
  simp only [run, htext, hfile, hcheck, if_true]

theorem run_of_store (hcheck : c.check = false) (hfile : c.outFile = some name)
    (htext : (c.generate o tree).outcome = .ok text) :
    c.run o tree = store tree (Path.ofText name) text (c.logLines (c.generate o tree).notes) := by
  simp only [run, htext, hfile, hcheck, Bool.false_eq_true, if_false]

/-! ## Files that are left alone -/

/-- Without a text the files are left alone, and the run does not end well. -/
theorem run_of_error {problem : Problem} (h : (c.generate o tree).outcome = .error problem) :
    (c.run o tree).tree = tree ∧ (c.run o tree).ending.code? ≠ some 0 := by
  unfold run
  simp only [h]
  split_ifs
  · exact ⟨rfl, nofun⟩
  · exact ⟨rfl, nofun⟩

theorem run_of_no_outFile (h : c.outFile = none) : (c.run o tree).tree = tree := by
  cases htext : (c.generate o tree).outcome with
  | error problem => exact (run_of_error htext).1
  | ok text => rw [run_of_print h htext]

theorem run_of_check (h : c.check = true) : (c.run o tree).tree = tree := by
  cases htext : (c.generate o tree).outcome with
  | error problem => exact (run_of_error htext).1
  | ok text =>
    cases hfile : c.outFile with
    | none => exact run_of_no_outFile hfile
    | some name => rw [run_of_compare h hfile htext]

/-! ## The file that is written -/

/-- Storing a text comes to its end with the file written, or breaks off. -/
theorem store_cases (tree : FileTree) (path : Path) (text : String) (log : List String) :
    (tree.write path (Text.utf8 text)).fault = none ∧
        store tree path text log =
          ⟨.finished 0 ("Generated " ++ path.text ++ "\n") log,
            (tree.write path (Text.utf8 text)).tree⟩ ∨
      (store tree path text log).ending.code? = none := by
  unfold store
  dsimp only
  cases (tree.write path (Text.utf8 text)).fault with
  | none => exact Or.inl ⟨rfl, rfl⟩
  | some fault => exact Or.inr rfl

/-- A run that ends well with a file to write to has written its text there and nothing else. -/
theorem run_of_written (hcheck : c.check = false) (hfile : c.outFile = some name)
    (hcode : (c.run o tree).ending.code? = some 0) :
    ∃ text place, (c.generate o tree).outcome = .ok text ∧
      (c.run o tree).ending = .finished 0 ("Generated " ++ (Path.ofText name).text ++ "\n")
        (c.logLines (c.generate o tree).notes) ∧
      (c.run o tree).tree.locate (Path.ofText name) = .ok place ∧
      tree.Writes (c.run o tree).tree place (Text.utf8 text) := by
  cases htext : (c.generate o tree).outcome with
  | error problem => exact absurd hcode (run_of_error htext).2
  | ok text =>
    rw [run_of_store hcheck hfile htext] at hcode ⊢
    rcases store_cases tree (Path.ofText name) text (c.logLines (c.generate o tree).notes) with
      ⟨hfault, hstore⟩ | hbroken
    · obtain ⟨place, hplace, hwrites⟩ := FileTree.writes_of_write hfault
      rw [hstore]
      exact ⟨text, place, rfl, rfl, hplace, hwrites⟩
    · rw [hbroken] at hcode
      cases hcode

/-- A run that ends with a code other than zero leaves the files alone. -/
theorem run_of_code_ne_zero {code : Nat} (hcode : (c.run o tree).ending.code? = some code)
    (hne : code ≠ 0) : (c.run o tree).tree = tree := by
  cases htext : (c.generate o tree).outcome with
  | error problem => exact (run_of_error htext).1
  | ok text =>
    cases hfile : c.outFile with
    | none => exact run_of_no_outFile hfile
    | some name =>
      cases hcheck : c.check with
      | true => exact run_of_check hcheck
      | false =>
        rw [run_of_store hcheck hfile htext] at hcode
        rcases store_cases tree (Path.ofText name) text (c.logLines (c.generate o tree).notes) with
          ⟨-, hstore⟩ | hbroken
        · rw [hstore] at hcode
          cases hcode
          exact absurd rfl hne
        · rw [hbroken] at hcode
          cases hcode

end Command

/-! ## Any words -/

theorem runWords_of_parse? {o : Outside} {words : List String} {c : Command}
    (h : Command.parse? o.lax words = some c) (tree : FileTree) :
    runWords o tree words = c.run o tree := by
  rw [runWords, Command.parse_of_parse? h]

theorem runWords_of_refused {o : Outside} {words : List String}
    (h : Command.parse? o.lax words = none) (tree : FileTree) :
    ∃ why, runWords o tree words = ⟨.refused why, tree⟩ := by
  unfold Command.parse? at h
  unfold runWords
  cases hparse : Command.parse o.lax words with
  | error why => exact ⟨why, rfl⟩
  | ok c =>
    rw [hparse] at h
    cases h

/-- **What a run does to the files.**  They stay as they are when the run ends with the code 1 or 2,
when its words are no command, when it only compares, when it has no file to write to, and when
making the text ends in a problem.  When it ends with the code 0 otherwise, the file holds the whole
text that is printed where there is no such file, and all other files stay. -/
theorem runWords_files (o : Outside) (tree : FileTree) (words : List String) :
    ((runWords o tree words).ending.code? = some 1 ∨
        (runWords o tree words).ending.code? = some 2 →
      (runWords o tree words).tree = tree) ∧
    (Command.parse? o.lax words = none → (runWords o tree words).tree = tree) ∧
    ∀ c, Command.parse? o.lax words = some c →
      ((c.check = true ∨ c.outFile = none ∨
          ∃ problem, (c.generate o tree).outcome = .error problem) →
        (runWords o tree words).tree = tree) ∧
      ∀ name, c.outFile = some name → c.check = false →
        (runWords o tree words).ending.code? = some 0 →
        ∃ text place, { c with out := none }.run o tree =
            ⟨.finished 0 text (c.logLines (c.generate o tree).notes), tree⟩ ∧
          (runWords o tree words).tree.locate (Path.ofText name) = .ok place ∧
          (runWords o tree words).tree.files.lookup place = some (Text.utf8 text) ∧
          ∀ q, q ≠ place →
            (runWords o tree words).tree.files.lookup q = tree.files.lookup q := by
  cases hparse : Command.parse? o.lax words with
  | none =>
    obtain ⟨why, hrun⟩ := runWords_of_refused hparse tree
    rw [hrun]
    exact ⟨fun _ => rfl, fun _ => rfl, fun c hc => absurd hc nofun⟩
  | some c =>
    rw [runWords_of_parse? hparse]
    refine ⟨fun hcode => ?_, fun hnone => absurd hnone nofun, fun c' hc => ?_⟩
    · rcases hcode with hcode | hcode
      · exact Command.run_of_code_ne_zero hcode (by decide)
      · exact Command.run_of_code_ne_zero hcode (by decide)
    · obtain rfl := Option.some.inj hc
      refine ⟨?_, fun name hfile hcheck hcode => ?_⟩
      · rintro (hcheck | hfile | ⟨problem, hproblem⟩)
        · exact Command.run_of_check hcheck
        · exact Command.run_of_no_outFile hfile
        · exact (Command.run_of_error hproblem).1
      · obtain ⟨text, place, htext, -, hplace, hwrites⟩ :=
          Command.run_of_written hcheck hfile hcode
        refine ⟨text, place, Command.run_of_print rfl htext, hplace, ?_, fun q hq => ?_⟩
        · rw [hwrites.files, if_pos rfl]
        · rw [hwrites.files, if_neg hq]

/-! ## A note -/

deriving instance DecidableEq for Noted

/-- The text of a document with a seed row whose values stand in two files. -/
def noteText : String :=
  "entities:\n- kind: insert\n  table: note\n  columns:\n" ++
    "  - name: head\n    filename: h\n  - name: body\n    filename: b\n"

/-- The document. -/
def noteDoc : Doc :=
  .mapping [(some "entities", .list [.mapping [(some "kind", .text "insert"),
    (some "table", .text "note"), (some "columns", .list [
      .mapping [(some "name", .text "head"), (some "filename", .text "h")],
      .mapping [(some "name", .text "body"), (some "filename", .text "b")]])]])]

/-- A reader of the document. -/
def noteReader : Outside := .knowing noteText noteDoc

/-- The document and one of the files that it names. -/
def noteFiles : FileTree :=
  ⟨[(Path.ofText "m.yaml", Text.utf8 noteText), (Path.ofText "b", Text.utf8 "It's")], []⟩

/-- The words that write the script of the document into a new folder. -/
def noteWords : List String := ["m.yaml", "--out", "sql/o.sql"]

/-- The command of these words. -/
def noteCommand : Command :=
  { Command.plain .create with documents := [some "m.yaml"], out := some "sql/o.sql" }

/-- The script of the document. -/
def noteScript : String :=
  "set foreign_key_checks = 0;\n" ++
    "insert into note (head, body) values ('', 'It\\'s');\n" ++
    "set foreign_key_checks = 1;\n"

/-- The files with the script. -/
def noteFilesWritten : FileTree :=
  ⟨noteFiles.files ++ [(Path.ofText "sql/o.sql", Text.utf8 noteScript)], [Path.ofText "sql"]⟩

theorem parse?_noteWords :
    Command.parse? noteReader.lax ("sql" :: noteWords) = some noteCommand := rfl

theorem readDoc_noteFiles : Command.readDoc noteReader noteFiles "m.yaml" = .ok noteDoc :=
  Command.readDoc_knowing rfl (by decide +kernel)

theorem describe_noteFiles : noteCommand.describe noteReader noteFiles =
    ⟨[.missingSeedFile "h", .generated 1 "sql"], .ok noteScript⟩ := by
  rw [Command.describe_of_create rfl rfl rfl rfl, Command.readSchema, Command.readWhole,
    readDoc_noteFiles]
  decide +kernel

theorem generate_noteFiles : noteCommand.generate noteReader noteFiles =
    ⟨[.missingSeedFile "h", .generated 1 "sql"], .ok noteScript⟩ :=
  Command.generate_of_describe describe_noteFiles

theorem runWords_noteFiles :
    runWords noteReader noteFiles ("sql" :: noteWords) =
      ⟨.finished 0 "Generated sql/o.sql\n" ["WARNING: Cannot find insert filename: h"],
        noteFilesWritten⟩ := by
  have htext : (noteCommand.generate noteReader noteFiles).outcome = .ok noteScript := by
    rw [generate_noteFiles]
  rw [runWords_of_parse? parse?_noteWords, Command.run_of_store rfl rfl htext, generate_noteFiles]
  rfl

/-- A missing document leaves the files alone, and so do a command that there is not and a run that
only compares; the script is written as a whole. -/
theorem noteFiles_kept_or_written :
    (runWords noteReader noteFiles ["sql", "absent.yaml", "--out", "sql/o.sql"]).tree = noteFiles ∧
      (runWords noteReader noteFiles ["create", "m.yaml", "--out", "sql/o.sql"]).tree = noteFiles ∧
      (runWords noteReader noteFiles ("sql" :: "--check" :: noteWords)).tree = noteFiles ∧
      ∃ text place, { noteCommand with out := none }.run noteReader noteFiles =
          ⟨.finished 0 text ["WARNING: Cannot find insert filename: h"], noteFiles⟩ ∧
        noteFilesWritten.locate (Path.ofText "sql/o.sql") = .ok place ∧
        noteFilesWritten.files.lookup place = some (Text.utf8 text) ∧
        ∀ q, q ≠ place → noteFilesWritten.files.lookup q = noteFiles.files.lookup q := by
  have hfiles := runWords_files noteReader noteFiles
  refine ⟨?_, ?_, ?_, ?_⟩
  · have hcode : (runWords noteReader noteFiles
        ["sql", "absent.yaml", "--out", "sql/o.sql"]).ending.code? = some 2 := by decide +kernel
    exact (hfiles _).1 (Or.inr hcode)
  · exact (hfiles _).2.1 rfl
  · have hparse : Command.parse? noteReader.lax ("sql" :: "--check" :: noteWords) =
        some (noteCommand.turnOn .check) := rfl
    exact ((hfiles _).2.2 _ hparse).1 (Or.inl rfl)
  · have hcode : (runWords noteReader noteFiles ("sql" :: noteWords)).ending.code? = some 0 := by
      rw [runWords_noteFiles]
      rfl
    obtain ⟨text, place, hprint, hplace, hfile, hothers⟩ :=
      ((hfiles _).2.2 _ parse?_noteWords).2 "sql/o.sql" rfl rfl hcode
    rw [generate_noteFiles] at hprint
    rw [runWords_noteFiles] at hplace hfile hothers
    exact ⟨text, place, hprint, hplace, hfile, hothers⟩

end SchemaPlan
