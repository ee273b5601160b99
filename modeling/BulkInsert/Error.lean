import BulkInsert.Sql.Fault

/-!
# Errors of an insertion

The causes for which an insertion fails. The first five are found by looking at the
arguments alone, before anything is asked of the connection: these are the *statement
errors*. The other three are what a connection reports.
-/

namespace BulkInsert

/-- Why an insertion fails. -/
inductive InsertError where
  /-- There is no row to insert. -/
  | noArguments
  /-- The batch size cannot cut the rows into windows. -/
  | invalidBatchSize (size : Nat)
  /-- The text does not look like an insertion. -/
  | statementNotRecognized
  /-- The text looks like an insertion but holds no `VALUES (...)` group. -/
  | valuesNotRecognized
  /-- There is no value tuple, or one with a blank pair of parentheses. -/
  | unparsableValues
  /-- The connection could not prepare a statement. -/
  | prepareFailed (report : Text)
  /-- The connection could not execute a prepared statement. -/
  | executionFailed (report : Text)
  /-- The SQL store refused a statement. -/
  | storeFault (fault : Sql.Fault)
  deriving DecidableEq, Repr

namespace InsertError

/-- The report of an error. -/
def message : InsertError → Text
  | noArguments => "Invalid multi-row INSERT call with no arguments".toList
  | invalidBatchSize size =>
    "Invalid multi-row INSERT batch size ".toList ++ Text.digitsOf size
  | statementNotRecognized =>
    ("Invalid statement for multi-row INSERT: " ++
      "INSERT [ INTO ] <object> [ column_list ] VALUES sequence not recognized").toList
  | valuesNotRecognized =>
    ("Invalid statement for multi-row INSERT: " ++
      "... VALUES (? [, ...?]) ... sequence not recognized").toList
  | unparsableValues => "Unable to parse VALUES (? [, ...?]) sequence".toList
  | prepareFailed report => report
  | executionFailed report => report
  | storeFault fault => fault.message

/-- Whether an error is found before anything is asked of the connection. -/
def isStatementError : InsertError → Bool
  | noArguments | invalidBatchSize _ | statementNotRecognized | valuesNotRecognized
  | unparsableValues => true
  | prepareFailed _ | executionFailed _ | storeFault _ => false

end InsertError

end BulkInsert
