import BulkInsert.Text.Basic

/-!
# Faults of the SQL store

What can go wrong in the store, each cause with the values that its report mentions.
`Fault.message` is the only place where a report is put into words.

Faults up to `multipleStatements` arise while a statement is prepared, the others while it
is executed.
-/

namespace BulkInsert.Sql

/-- Why the store refuses to prepare or to execute a statement. -/
inductive Fault where
  /-- A token that the grammar does not allow at its place: the token, the whole statement
  text and the byte offset of the token in it. -/
  | unexpectedToken (token sql : Text) (offset : Nat)
  /-- A piece of the text that is no token: the piece, the whole statement text and the byte
  offset of the piece in it. -/
  | unknownToken (token sql : Text) (offset : Nat)
  /-- The statement text ends before the statement does. -/
  | incompleteInput
  /-- The rows of one statement differ in length. -/
  | unevenRows
  /-- The statement names a table that does not exist. -/
  | noSuchTable (table : Text)
  /-- The column list names a column that the table does not have. -/
  | noSuchListedColumn (table column : Text)
  /-- A result expression names a column that the table does not have. -/
  | noSuchColumn (column sql : Text) (offset : Nat)
  /-- There is no column list, and the rows are not as long as the table is wide. -/
  | widthMismatch (table : Text) (columns values : Nat)
  /-- The column list and the rows differ in length. -/
  | listMismatch (values columns : Nat)
  /-- Another statement follows the first one. -/
  | multipleStatements
  /-- The number of arguments is not the number of placeholders. -/
  | argumentCount (got needed : Nat)
  /-- A null would enter a column that admits none. -/
  | notNull (table column : Text)
  /-- A value would occur twice in a column of unique values. -/
  | notUnique (table column : Text)
  deriving DecidableEq, Repr

/-- The report of a fault. -/
def Fault.message : Fault → Text
  | unexpectedToken token sql offset =>
    "near \"".toList ++ token ++ "\": syntax error in ".toList ++ sql ++
      " at offset ".toList ++ Text.digitsOf offset
  | unknownToken token sql offset =>
    "unrecognized token: \"".toList ++ token ++ "\" in ".toList ++ sql ++
      " at offset ".toList ++ Text.digitsOf offset
  | incompleteInput => "incomplete input".toList
  | unevenRows => "all VALUES must have the same number of terms".toList
  | noSuchTable table => "no such table: ".toList ++ table
  | noSuchListedColumn table column =>
    "table ".toList ++ table ++ " has no column named ".toList ++ column
  | noSuchColumn column sql offset =>
    "no such column: ".toList ++ column ++ " in ".toList ++ sql ++ " at offset ".toList ++
      Text.digitsOf offset
  | widthMismatch table columns values =>
    "table ".toList ++ table ++ " has ".toList ++ Text.digitsOf columns ++
      " columns but ".toList ++ Text.digitsOf values ++ " values were supplied".toList
  | listMismatch values columns =>
    Text.digitsOf values ++ " values for ".toList ++ Text.digitsOf columns ++
      " columns".toList
  | multipleStatements => "Multiple statements provided".toList
  | argumentCount got needed =>
    "Wrong number of parameters passed to query. Got ".toList ++ Text.digitsOf got ++
      ", needed ".toList ++ Text.digitsOf needed
  | notNull table column =>
    "NOT NULL constraint failed: ".toList ++ table ++ ".".toList ++ column
  | notUnique table column =>
    "UNIQUE constraint failed: ".toList ++ table ++ ".".toList ++ column

end BulkInsert.Sql
