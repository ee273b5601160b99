import BulkInsert.Text.Basic

/-!
# SQL values

The values that the store keeps. Columns have no type of their own, so a value is kept
exactly as it was given, and two values are equal when they are of the same kind and have
the same content.
-/

namespace BulkInsert.Sql

/-- A value of the store. -/
inductive Value where
  | null
  | integer (value : Int)
  | text (value : Text)
  | blob (bytes : List UInt8)
  deriving DecidableEq, Repr

/-- A row of a table, or the values given for one. -/
abbrev Row := List Value

end BulkInsert.Sql
