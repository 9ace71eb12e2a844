import SchemaPlan.Doc.Text

/-!
# Problems

Everything that can stop the work, by cause.  The causes are grouped by what was wrong: a rule of
a mapping, a setting, a document, the model that a document describes, the source of a seed value,
a raw value that a computation has no meaning for, a file, or the form of the text in a file.  Where
what happens is not described, that is a problem of its own.
`Problem.message` gives the text.
-/
namespace SchemaPlan

/-- What is wrong with a rule that maps tables to databases. -/
inductive BadRule where
  | noTable (rule : String)
  | noGroupWord (rule : String)
  | noGroup (rule : String)
  | misshapen (rule : String)
deriving DecidableEq

/-- What is wrong with the settings of a run. -/
inductive BadSetting where
  | notMapping
  | unknownKeys (keys : List String)
  | wrongKind (key expected got : String)
  | boundNotPositive (bound : Int)
deriving DecidableEq

/-- What is wrong with the form of a schema document. -/
inductive Malformed where
  | documentNotMapping
  | entitiesNotList
  | unknownKind (place shown : String)
  | notMapping (place kind : String)
  | unknownKeys (place : String) (keys : List String)
  | missing (place key : String)
  | badBase64 (place : String)
deriving DecidableEq

/-- What a schema must satisfy and does not. -/
inductive Invariant where
  | enumWithoutValues (column : String)
  | autoIncrementWithSymbol (column : String)
  | autoIncrementWithDefault (column : String)
  | symbolWithDefault (column : String)
  | unknownSymbol (reference column : String)
  | defaultNotNumeric (shown type column : String)
  | defaultNotListed (shown column values : String)
  | manyAutoIncrements (table : String)
  | autoIncrementNotKey (table : String)
  | updateWithoutKeys (table : String)
  | unknownType (type column : String)
deriving DecidableEq

/-- What is wrong with the source of a seed value. -/
inductive BadSource where
  | notExactlyOne (table column : String)
  | unknownKind (column : String)
  | emptyFilename (column : String)
  | unknownSymbol (reference column : String)
deriving DecidableEq

/-- What a computation on a raw value met. -/
inductive Fault where
  /-- A value of a kind that the computation has no meaning for. -/
  | wrongKind
  /-- A value that no number is read from. -/
  | noNumber
  /-- A value that is no text where letters are compared. -/
  | noLetters
  /-- An infinity where an integer is needed. -/
  | unbounded
  /-- An integer that is too long to be written. -/
  | tooManyDigits
  /-- A value that the block form has no text for. -/
  | unwritable
  /-- A comparison with a signalling number. -/
  | incomparable
deriving DecidableEq

/-- What is wrong with a file. -/
inductive FileFault where
  | missing (path : String)
  | isFolder (path : String)
  | notFolder (path : String)
  | occupied (path : String)
  | tooLong (path : String)
  | nullCharacter (path : String)
  | undecodable (path : String)
deriving DecidableEq

/-- Why the work stopped. -/
inductive Problem where
  | unknownDialect (name : String)
  | rule (cause : BadRule)
  | setting (cause : BadSetting)
  | malformed (cause : Malformed)
  | invariant (cause : Invariant)
  | source (cause : BadSource)
  | unknownSymbol (reference : String)
  | fault (cause : Fault)
  | file (cause : FileFault)
  /-- What the reader of documents has to say about a text. -/
  | flaw (message : String)
  /-- Something that is not described here. -/
  | beyond
deriving DecidableEq

open SchemaPlan.Text

/-- The text between double quotes. -/
def inDoubleQuotes (s : String) : String :=
  "\"" ++ s ++ "\""

/-- The text of a bad rule. -/
def BadRule.message : BadRule → String
  | noTable rule => "Missing table name in table mapping: " ++ rule
  | noGroupWord rule => "Missing \"group\" keyword at beginning of group mapping: " ++ rule
  | noGroup rule => "Missing group name in group mapping: " ++ rule
  | misshapen rule => "Mal-formed mapping: " ++ rule

/-- The text of a bad setting. -/
def BadSetting.message : BadSetting → String
  | notMapping => "Configuration must be a mapping"
  | unknownKeys keys => "Unknown configuration keys: " ++ ", ".intercalate keys
  | wrongKind key expected got =>
    "Configuration key " ++ quoted key ++ " must be of type " ++ expected ++ ", got " ++ got
  | boundNotPositive bound =>
    "maxStatementLength must be positive, got " ++ Numeral.ofInt bound

/-- The kinds of entries of a schema document. -/
def entryKinds : List String := ["table", "index", "foreignKey", "insert"]

/-- The text of a malformed document. -/
def Malformed.message : Malformed → String
  | documentNotMapping => "Schema document must be a mapping with an 'entities' list"
  | entitiesNotList => "'entities' must be a list"
  | unknownKind place shown =>
    place ++ " has unknown kind " ++ shown ++ "; expected one of " ++ ", ".intercalate entryKinds
  | notMapping place kind => place ++ " must be a mapping, got " ++ kind
  | unknownKeys place keys => place ++ " has unknown keys: " ++ ", ".intercalate keys
  | missing place key => place ++ " is missing " ++ quoted key
  | badBase64 place => place ++ " is not valid base64"

/-- The text of a model that breaks a rule. -/
def Invariant.message : Invariant → String
  | enumWithoutValues column => "enum column " ++ column ++ " requires a list of enum values"
  | autoIncrementWithSymbol column =>
    "Column " ++ column ++ " cannot have both auto-increment and a symbolic default"
  | autoIncrementWithDefault column =>
    "Column " ++ column ++ " cannot have both auto-increment and a default value"
  | symbolWithDefault column =>
    "Column " ++ column ++ " cannot have both a symbolic default and a default value"
  | unknownSymbol reference column =>
    "Invalid system variable reference " ++ inDoubleQuotes reference ++ " on column " ++ column
  | defaultNotNumeric shown type column =>
    "Default " ++ shown ++ " is not numeric for " ++ type ++ " column " ++ column
  | defaultNotListed shown column values =>
    "Default " ++ shown ++ " of enum column " ++ column ++ " is not one of " ++ values
  | manyAutoIncrements table =>
    "Cannot have more than one auto-increment column per table in table name " ++
      inDoubleQuotes table
  | autoIncrementNotKey table =>
    "Use of auto-increment requires the primary key to be comprised of only the " ++
      "auto-increment column in table " ++ inDoubleQuotes table
  | updateWithoutKeys table =>
    "Seed row for table " ++ table ++ " sets updateIfExists without key columns"
  | unknownType type column => "Invalid column type: " ++ type ++ " (column " ++ column ++ ")"

/-- The text of a bad source. -/
def BadSource.message : BadSource → String
  | notExactlyOne table column =>
    "Seed column " ++ table ++ "." ++ column ++
      " must specify exactly one of value, filename or sysVarValue"
  | unknownKind column =>
    "Seed column " ++ column ++ " must specify one of value, filename or sysVarValue"
  | emptyFilename column => "Seed column " ++ column ++ " has an empty filename"
  | unknownSymbol reference column =>
    "Invalid system variable reference " ++ inDoubleQuotes reference ++ " in seed column " ++ column

/-- The text of a fault. -/
def Fault.message : Fault → String
  | wrongKind => "a value of this kind has no meaning here"
  | noNumber => "no number can be read from the value"
  | noLetters => "the value is no text"
  | unbounded => "an infinity is no integer"
  | tooManyDigits => "an integer has too many digits to be written"
  | unwritable => "the block form has no text for a value of this kind"
  | incomparable => "a signalling number takes part in no comparison"

/-- The text of a fault with a file. -/
def FileFault.message : FileFault → String
  | missing path => "[Errno 2] No such file or directory: " ++ quoted path
  | isFolder path => "[Errno 21] Is a directory: " ++ quoted path
  | notFolder path => "[Errno 20] Not a directory: " ++ quoted path
  | occupied path => "[Errno 17] File exists: " ++ quoted path
  | tooLong path => "[Errno 36] File name too long: " ++ quoted path
  | nullCharacter path => "a null character stands in the path " ++ quoted path
  | undecodable path => "the bytes of " ++ quoted path ++ " are no text"

/-- The dialects that statements are written in, by name. -/
def dialectNames : List String := ["mysql", "pgsql"]

/-- The text of a problem. -/
def Problem.message : Problem → String
  | unknownDialect name =>
    "Requested SQL dialect " ++ inDoubleQuotes name ++
      " is not in the list of supported dialects (" ++ ", ".intercalate dialectNames ++ ")."
  | rule cause => cause.message
  | setting cause => cause.message
  | malformed cause => cause.message
  | invariant cause => cause.message
  | source cause => cause.message
  | unknownSymbol reference =>
    "Invalid system variable reference " ++ inDoubleQuotes reference ++ "."
  | fault cause => cause.message
  | file cause => cause.message
  | flaw message => message
  | beyond => "this is not described"

end SchemaPlan
