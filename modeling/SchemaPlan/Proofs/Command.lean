import Mathlib.Tactic.SplitIfs
import SchemaPlan.Command

/-!
# Command lines

The words of a command line are read one after another, and each of them changes its own part of the
command.  So a switch does the same wherever it stands.

* `Command.readWords_turnOn` says that a switch may be turned on before or after words are read.
* `Command.parse?_eq_some_iff` says what a command line is, `Command.parse?_check` that one with a
  file to write to stays one when it only compares.
* `Command.length_documents_of_parse?` says that a command has as many documents as it needs.
-/
namespace SchemaPlan.Command

variable {lax : Bool} {c : Command} {name : String} {words : List String}

/-! ## Switches -/

@[simp] theorem task_turnOn (c : Command) (f : Flag) : (c.turnOn f).task = c.task := by
  cases f <;> rfl

theorem addDocument_turnOn (c : Command) (f : Flag) (document : Option String) :
    (c.turnOn f).addDocument document = (c.addDocument document).turnOn f := by
  cases f <;> rfl

theorem turnOn_comm (c : Command) (f g : Flag) : (c.turnOn f).turnOn g = (c.turnOn g).turnOn f := by
  cases f <;> cases g <;> rfl

/-- An option with a value and a switch change different parts of a command. -/
theorem give?_turnOn (c : Command) (f g : Flag) (value : Option String) :
    (c.turnOn f).give? g value = (c.give? g value).map (·.turnOn f) := by
  cases g with
  | bound =>
    rw [give?, give?, Option.map_map]
    congr 1
    funext bound
    cases f <;> rfl
  | _ => cases f <;> rfl

theorem foldl_addDocument_turnOn (c : Command) (f : Flag) (documents : List (Option String)) :
    documents.foldl addDocument (c.turnOn f) = (documents.foldl addDocument c).turnOn f := by
  induction documents generalizing c with
  | nil => rfl
  | cons document rest ih =>
    rw [List.foldl_cons, List.foldl_cons, addDocument_turnOn, ih]

theorem readRest?_turnOn (c : Command) (f : Flag) (afterDocument : Bool) (words : List String) :
    (c.turnOn f).readRest? afterDocument words =
      (c.readRest? afterDocument words).map (·.turnOn f) := by
  unfold readRest?
  split_ifs
  · rw [foldl_addDocument_turnOn, Option.map_some]
  · cases words with
    | nil => rfl
    | cons word rest =>
      dsimp only
      rw [addDocument_turnOn, foldl_addDocument_turnOn, Option.map_some]

/-- What later words come to counts only as far as they are refused. -/
theorem behind_map (g : Command → Command) (later : Except Refusal Command) :
    Refusal.behind (later.map g) = Refusal.behind later := by
  cases later <;> rfl

theorem orMisuse_map (g : Command → Command) (read : Option Command) :
    orMisuse (read.map g) = (orMisuse read).map g := by
  cases read <;> rfl

theorem foldl_turnOn_comm (c : Command) (f : Flag) (flags : List Flag) :
    flags.foldl turnOn (c.turnOn f) = (flags.foldl turnOn c).turnOn f := by
  induction flags generalizing c with
  | nil => rfl
  | cons g rest ih => rw [List.foldl_cons, List.foldl_cons, turnOn_comm, ih]

/-- A switch may be turned on before or after words are read. -/
theorem readWords_turnOn (c : Command) (f : Flag) (afterDocument : Bool) (words : List String) :
    readWords lax (c.turnOn f) afterDocument words =
      (readWords lax c afterDocument words).map (·.turnOn f) := by
  -- along the words as they are read without the switch
  fun_induction readWords lax c afterDocument words with
  | case1 => rfl
  | case2 c _ word rest hword ih =>
    rw [readWords, task_turnOn, hword, ← ih, ← addDocument_turnOn]
  | case3 c afterDocument word rest hword =>
    rw [readWords, task_turnOn, hword, ← orMisuse_map, ← readRest?_turnOn]
  | case4 c _ word rest hword ih =>
    rw [readWords, task_turnOn, hword]
    simp only [ih, behind_map]
    rfl
  | case5 c _ word rest hword | case6 c _ word rest hword =>
    rw [readWords, task_turnOn, hword]
    rfl
  | case7 c _ word rest flags hword hhelp =>
    rw [readWords, task_turnOn, hword]
    simp only [hhelp, if_true]
    rfl
  | case8 c _ word rest flags hword hhelp ih =>
    rw [readWords, task_turnOn, hword, ← ih, ← foldl_turnOn_comm]
    simp only [hhelp]
    rfl
  | case9 c _ word rest g value hword c' hgive ih =>
    rw [readWords, task_turnOn, hword, ← ih]
    simp only [give?_turnOn, hgive, Option.map_some]
  | case10 c _ word rest g value hword hgive =>
    rw [readWords, task_turnOn, hword]
    simp only [give?_turnOn, hgive, Option.map_none]
    rfl
  | case11 c _ word g hword value rest hvalue c' hgive ih =>
    rw [readWords, task_turnOn, hword, ← ih]
    simp only [hvalue, if_true, give?_turnOn, hgive, Option.map_some]
  | case12 c _ word g hword value rest hvalue hgive =>
    rw [readWords, task_turnOn, hword]
    simp only [hvalue, if_true, give?_turnOn, hgive, Option.map_none]
    rfl
  | case13 c _ word g hword value rest hvalue =>
    rw [readWords, task_turnOn, hword]
    simp only [hvalue]
    rfl
  | case14 c _ word g hword =>
    rw [readWords, task_turnOn, hword]
    rfl

/-! ## The whole line -/

/-- A switch is clear. -/
theorem isUnclear_cons {flags switches : List Flag} {word : String} (hdashes : word ≠ dashes)
    (hword : readWord lax flags word = .switches switches) :
    isUnclear lax flags (word :: words) = isUnclear lax flags words := by
  have hpos : (word != dashes) = true := bne_iff_ne.mpr hdashes
  unfold isUnclear
  rw [List.takeWhile_cons]
  simp only [hpos, if_true, List.any_cons, hword, Bool.false_or]

/-- The name of a command is no option. -/
theorem readWord_of_named? {flags : List Flag} {t : Task} (h : Task.named? name = some t) :
    readWord lax flags name = .plain := by
  have hfound := List.find?_some h
  obtain rfl : t.name = name := beq_iff_eq.mp hfound
  cases t <;> rfl

/-- A command line is the name of a task and words that can be read, each of which is clear, with as
many documents as the task needs; only a file can be compared with. -/
theorem parse?_eq_some_iff :
    parse? lax (name :: words) = some c ↔ ∃ t, Task.named? name = some t ∧
      isUnclear lax (Flag.ofTask t) words = false ∧
        readWords lax (plain t) false words = .ok c ∧ c.isComplete = true := by
  unfold parse? parse
  constructor
  · intro h
    split at h
    · split at h
      · next t ht =>
        split_ifs at h with hunclear
        · cases h
        · split at h
          · next c' hread =>
            split_ifs at h with hcomplete
            · cases h
              exact ⟨t, ht, Bool.eq_false_iff.mpr hunclear, hread, hcomplete⟩
            · cases h
          · cases h
      · cases h
    · cases h
    · cases h
    · cases h
  · rintro ⟨t, ht, hclear, hread, hcomplete⟩
    simp only [readWord_of_named? ht, ht, hclear, hread, hcomplete, if_true]
    rfl

/-- A complete command has the documents that its task needs. -/
theorem isComplete_iff : c.isComplete = true ↔
    c.documents.length = c.task.documents ∧ (c.check = true → c.outFile.isSome = true) := by
  unfold isComplete
  cases c.check <;> simp

/-- A command of a command line has the documents that its task needs. -/
theorem length_documents_of_parse? {words : List String} (hparse : parse? lax words = some c) :
    c.documents.length = c.task.documents := by
  cases words with
  | nil => cases hparse
  | cons name words =>
    obtain ⟨t, -, -, -, hcomplete⟩ := parse?_eq_some_iff.mp hparse
    exact (isComplete_iff.mp hcomplete).1

/-- A command line with a file to write to stays one when it only compares. -/
theorem parse?_check {file : String} (hname : name ≠ "list-tables")
    (hparse : parse? lax (name :: words) = some c) (hfile : c.outFile = some file) :
    parse? lax (name :: "--check" :: words) = some (c.turnOn .check) := by
  obtain ⟨t, ht, hclear, hwords, hcomplete⟩ := parse?_eq_some_iff.mp hparse
  have hlist : t ≠ .list := by
    rintro rfl
    have hfound := List.find?_some ht
    exact hname (beq_iff_eq.mp hfound).symm
  have hword : readWord lax (Flag.ofTask (plain t).task) "--check" = .switches [.check] := by
    cases t with
    | list => exact absurd rfl hlist
    | _ => rfl
  have hstays : isUnclear lax (Flag.ofTask t) ("--check" :: words) = false :=
    (isUnclear_cons (by decide) hword).trans hclear
  have hread : readWords lax (plain t) false ("--check" :: words) = .ok (c.turnOn .check) := by
    rw [readWords, hword]
    change readWords lax ((plain t).turnOn .check) false words = _
    rw [readWords_turnOn, hwords]
    rfl
  refine parse?_eq_some_iff.mpr ⟨t, ht, hstays, hread, isComplete_iff.mpr ⟨?_, fun _ => ?_⟩⟩
  · exact (isComplete_iff.mp hcomplete).1
  · change c.outFile.isSome = true
    rw [hfile]
    rfl

/-- The command of a line that is one is what parsing it gives. -/
theorem parse_of_parse? {words : List String} (hparse : parse? lax words = some c) :
    parse lax words = .ok c := by
  unfold parse? at hparse
  cases h : parse lax words with
  | error => simp [h, Except.toOption] at hparse
  | ok c' =>
    rw [h] at hparse
    cases hparse
    rfl

end SchemaPlan.Command
