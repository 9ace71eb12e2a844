import SchemaPlan.Settings

/-!
# Commands

What the command line asks for.  `Command.parse` reads the words of a command line: the name of a
command, its documents, and options in any place after the name.  A value stands in the word after
its option or after an equals sign; a word that looks like an option is no value.  A long option may
be cut off where no other one begins alike: `readWord` says what a word is.

Two dashes end the options.  They belong to the document before them or else to the one after
them, and where they stand in the place of a document or a value of their own, nothing is given:
`readWords` and `readRest?` read documents, `readValue` reads values.

A line that is no command asks for help or is misused.  A word that may be several options is noticed
before any word is read (`isUnclear`).  An option that there is not is noticed when all words are
read, so that help is given if a later word asks for it; everything else that is wrong with a word is
noticed at once.
-/
namespace SchemaPlan

/-- What is to be done. -/
inductive Task where
  /-- Create a schema from scratch. -/
  | create
  /-- Change one schema into another. -/
  | migrate
  /-- Write the seed rows that name key columns. -/
  | seed
  /-- List the tables of a schema. -/
  | list
deriving DecidableEq

namespace Task

/-- All tasks. -/
def all : List Task := [create, migrate, seed, list]

/-- The name of the command for a task. -/
def name : Task → String
  | create => "sql"
  | migrate => "diff"
  | seed => "inserts"
  | list => "list-tables"

/-- The task of the command of this name. -/
def named? (s : String) : Option Task :=
  all.find? fun t => t.name == s

/-- How many documents a task needs. -/
def documents : Task → Nat
  | migrate => 2
  | _ => 1

end Task

/-- An option of the command line. -/
inductive Flag where
  | help
  | verbose
  | config
  | dialect
  | map
  | localSchema
  | basePath
  | tables
  | out
  | check
  | dropTable
  | dropColumn
  | dropIndex
  | bound
deriving DecidableEq

namespace Flag

/-- The words of an option. -/
def words : Flag → List String
  | help => ["-h", "--help"]
  | verbose => ["-v", "--verbose"]
  | config => ["--config"]
  | dialect => ["--dialect"]
  | map => ["--map"]
  | localSchema => ["--local-schema"]
  | basePath => ["--base-path"]
  | tables => ["--tables"]
  | out => ["--out"]
  | check => ["--check"]
  | dropTable => ["--allow-drop-table"]
  | dropColumn => ["--allow-drop-column"]
  | dropIndex => ["--allow-drop-index"]
  | bound => ["--max-statement-length"]

/-- Whether an option is a switch; the others take a value. -/
def isSwitch : Flag → Bool
  | help | verbose | check | dropTable | dropColumn | dropIndex => true
  | _ => false

/-- The options of a task. -/
def ofTask (t : Task) : List Flag :=
  [help, verbose, config, dialect, map, localSchema, basePath, tables] ++
    (if t = .list then [] else [out, check]) ++
    if t = .migrate then [dropTable, dropColumn, dropIndex, bound] else []

/-- The option that a word names, of these options. -/
def named? (flags : List Flag) (word : String) : Option Flag :=
  flags.find? fun f => f.words.contains word

/-- The options with a word that begins like this. -/
def begun (flags : List Flag) (word : String) : List Flag :=
  flags.filter fun f => f.words.any fun w => word.toList.isPrefixOf w.toList

end Flag

/-- What the command line asks for. -/
structure Command where
  task : Task
  /-- The documents that the task works on; none is two dashes in the place of a document. -/
  documents : List (Option String)
  verbose : Bool
  config : Option String
  options : Options
  /-- The file that the script goes to. -/
  out : Option String
  /-- Whether the file is only compared with the script. -/
  check : Bool

namespace Command

/-- The command without documents and options. -/
def plain (t : Task) : Command := ⟨t, [], false, none, .none, none, false⟩

/-- The names in a list with commas. -/
def nameList (s : String) : List String :=
  ((s.toList.splitOn ',').map fun name => String.ofList (Text.trim name)).filter (· != "")

/-- The command with a switch turned on. -/
def turnOn (c : Command) : Flag → Command
  | .verbose => { c with verbose := true }
  | .check => { c with check := true }
  | .dropTable => { c with options := { c.options with dropTable := some true } }
  | .dropColumn => { c with options := { c.options with dropColumn := some true } }
  | .dropIndex => { c with options := { c.options with dropIndex := some true } }
  | _ => c

/-- The two dashes. -/
def dashes : String := "--"

/-- A value after an equals sign; two dashes are none. -/
def readValue (value : String) : Option String :=
  if value = dashes then none else some value

/-- The bound that a value gives, if it is one. -/
def readBound? : Option String → Option (Option Int)
  | none => some none
  | some value => (Numeral.toInt? value.toList).map some

/-- The command with the value of an option, if the value is one for it.  A dialect that is not
given is shown as an empty list. -/
def give? (c : Command) (f : Flag) (value : Option String) : Option Command :=
  match f with
  | .config => some { c with config := value }
  | .dialect => some { c with options := { c.options with dialect := some (value.getD "[]") } }
  | .map => some { c with options := { c.options with map := some (value.getD "") } }
  | .localSchema =>
    some { c with options := { c.options with localSchema := some (value.getD "") } }
  | .basePath => some { c with options := { c.options with basePath := some value } }
  | .tables =>
    let names := value.getD ""
    let tables := if names = "" then none else some (nameList names)
    some { c with options := { c.options with tables := tables } }
  | .out => some { c with out := value }
  | .bound =>
    (readBound? value).map fun bound => { c with options := { c.options with bound := some bound } }
  | _ => none

/-! ## Words -/

/-- A text without a line feed at its end. -/
def withoutLineFeed (s : List Char) : List Char :=
  if s.getLast? == some '\n' then s.dropLast else s

/-- Whether a text is a negative number, which is no option; a line feed may follow it. -/
def isNegativeNumber (s : List Char) : Bool :=
  match withoutLineFeed s with
  | '-' :: rest =>
    let whole := rest.takeWhile Text.isDecimalDigit
    match rest.drop whole.length with
    | [] => !whole.isEmpty
    | '.' :: fraction => !fraction.isEmpty && fraction.all Text.isDecimalDigit
    | _ => false
  | _ => false

/-- The parts of a word before and after its first equals sign. -/
def splitValue (word : String) : String × Option String :=
  let cs := word.toList
  let front := cs.takeWhile (· != '=')
  match cs.drop front.length with
  | _ :: value => (String.ofList front, some (String.ofList value))
  | [] => (word, none)

/-- What a word is. -/
inductive Word where
  /-- A document or a value. -/
  | plain
  /-- Switches, one of them or several in one word. -/
  | switches (flags : List Flag)
  /-- An option with a value, which may stand in the next word. -/
  | option (flag : Flag) (value : Option String)
  /-- Two dashes: after them no word is an option. -/
  | rest
  /-- An option that there is not. -/
  | unknown
  /-- The beginning of several options. -/
  | unclear
  /-- A switch with a value. -/
  | wrong

/-- An option and the value after its equals sign, if there is one. -/
def Word.ofFlag (f : Flag) (value : Option String) : Word :=
  if f.isSwitch then
    match value with
    | none => .switches [f]
    | some _ => .wrong
  else .option f value

/-- The switch with a letter. -/
def letter? (flags : List Flag) (c : Char) : Option Flag :=
  Flag.named? flags (String.ofList ['-', c])

/-- The switches with these letters.  What is left behind the switches is a value of the last one if
the reader is `lax`, or if it begins with an equals sign or a dash; else it is an option that there is
not, if no switch before it asks for help. -/
def readLetters (lax : Bool) (flags : List Flag) (letters : List Char) : Word :=
  let front := letters.takeWhile fun c => (letter? flags c).isSome
  let switches := front.filterMap (letter? flags)
  match letters.drop front.length with
  | [] => .switches switches
  | c :: _ =>
    if lax || c == '=' || c == '-' then .wrong
    else if switches.contains .help then .switches switches
    else .unknown

/-- The option with a value that a word is, if an option stands before its equals sign. -/
def valued? (flags : List Flag) (word : String) : Option (Flag × String) :=
  match splitValue word with
  | (front, some value) => (Flag.named? flags front).map fun f => (f, value)
  | (_, none) => none

/-- Reads a word with an option before its equals sign.  A switch has no value, unless letters may
stand there (`lax`): then they are more switches. -/
def readValued (lax : Bool) (flags : List Flag) (word : String) (f : Flag) (value : String) : Word :=
  if lax && f.isSwitch && !("--".toList.isPrefixOf word.toList) && value != "" then
    match readLetters lax flags value.toList with
    | .switches more => .switches (f :: more)
    | other => other
  else .ofFlag f (some value)

/-- Reads a word that begins with a dash and this character and is no option by itself.  It may be a
long option that is cut off, or the letters of switches; of the others a negative number and a word
with a blank are no options. -/
def readDashed (lax : Bool) (flags : List Flag) (word : String) (c : Char) (more : List Char) :
    Word :=
  match valued? flags word with
  | some (f, value) => readValued lax flags word f value
  | none =>
    let (front, value) := splitValue word
    let begun := if c == '-' then Flag.begun flags front else []
    match begun, letter? flags c with
    | [f], _ => .ofFlag f value
    | _ :: _, _ => .unclear
    | [], some _ => readLetters lax flags (c :: more)
    | [], none =>
      if isNegativeNumber word.toList || word.toList.contains ' ' then .plain else .unknown

/-- Reads a word where there are these options. -/
def readWord (lax : Bool) (flags : List Flag) (word : String) : Word :=
  match word.toList with
  | '-' :: c :: more =>
    if word = dashes then .rest
    else
      match Flag.named? flags word with
      | some f => .ofFlag f none
      | none => readDashed lax flags word c more
  | _ => .plain

/-- Whether a word can be the value of an option. -/
def isValue (lax : Bool) (flags : List Flag) (word : String) : Bool :=
  match readWord lax flags word with
  | .plain => true
  | _ => false

/-- The command with one more document. -/
def addDocument (c : Command) (name : Option String) : Command :=
  { c with documents := c.documents ++ [name] }

/-- Reads the words after the two dashes, which belong to the word before them if that is a
document, and to the word after them otherwise. -/
def readRest? (c : Command) (afterDocument : Bool) (words : List String) : Option Command :=
  if afterDocument then some ((words.map readValue).foldl addDocument c)
  else
    match words with
    | [] => none
    | word :: rest => some ((rest.map readValue).foldl addDocument (c.addDocument (some word)))

/-- Why a line is no command. -/
inductive Refusal where
  | help
  | misuse
deriving DecidableEq

/-- Why a line with an option that there is not is no command, with what its later words come to. -/
def Refusal.behind (later : Except Refusal Command) : Refusal :=
  match later with
  | .error refusal => refusal
  | .ok _ => .misuse

/-- What is read, unless the line is misused. -/
def orMisuse (read : Option Command) : Except Refusal Command :=
  match read with
  | some c => .ok c
  | none => .error .misuse

/-- Reads the words after the name of a command, or after a document. -/
def readWords (lax : Bool) (c : Command) (afterDocument : Bool) :
    List String → Except Refusal Command
  | [] => .ok c
  | word :: rest =>
    match readWord lax (Flag.ofTask c.task) word with
    | .plain => readWords lax (c.addDocument (some word)) true rest
    | .rest => orMisuse (c.readRest? afterDocument rest)
    | .unknown => .error (.behind (readWords lax c false rest))
    | .unclear | .wrong => .error .misuse
    | .switches flags =>
      if flags.contains .help then .error .help
      else readWords lax (flags.foldl turnOn c) false rest
    | .option f (some value) =>
      match c.give? f (readValue value) with
      | some c => readWords lax c false rest
      | none => .error .misuse
    | .option f none =>
      match rest with
      | value :: rest =>
        if isValue lax (Flag.ofTask c.task) value then
          match c.give? f (some value) with
          | some c => readWords lax c false rest
          | none => .error .misuse
        else .error .misuse
      | [] => .error .misuse

/-- Whether a word may be several options.  All words up to the two dashes are looked at for this
before any of them is read. -/
def isUnclear (lax : Bool) (flags : List Flag) (words : List String) : Bool :=
  (words.takeWhile (· != dashes)).any fun word =>
    match readWord lax flags word with
    | .unclear => true
    | _ => false

/-- The file that the script goes to; the empty name is none. -/
def outFile (c : Command) : Option String :=
  match c.out with
  | some "" => none
  | out => out

/-- A command has the documents that its task needs, and a file if there is one to be compared. -/
def isComplete (c : Command) : Bool :=
  c.documents.length == c.task.documents && (!c.check || c.outFile.isSome)

/-- The command of a command line.  Before the name of a command only help is an option.  Releases
of the reader of command lines differ in what may stand behind a switch: those that are `lax` take the
letters behind an equals sign for switches, as in `-v=v`, and other letters for the value of one. -/
def parse (lax : Bool) : List String → Except Refusal Command
  | [] => .error .misuse
  | word :: words =>
    match readWord lax [.help] word with
    | .plain =>
      match Task.named? word with
      | some t =>
        if isUnclear lax (Flag.ofTask t) words then .error .misuse
        else
          match readWords lax (plain t) false words with
          | .ok c => if c.isComplete then .ok c else .error .misuse
          | .error refusal => .error refusal
      | none => .error .misuse
    | .switches _ => .error .help
    | .unknown => .error (.behind (parse lax words))
    | _ => .error .misuse

/-- The command of a command line, if it is one. -/
def parse? (lax : Bool) (words : List String) : Option Command :=
  (parse lax words).toOption

end Command

end SchemaPlan
