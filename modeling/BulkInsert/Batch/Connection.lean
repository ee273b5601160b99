import BulkInsert.Error

/-!
# Connections

An insertion asks three things of a connection: to prepare a statement, to execute a
prepared one with arguments, and to close it. Each may fail, and each may change the state
of the connection whether or not it fails. Everything else about a connection, such as
transactions and the meaning of values, stays with its owner.

Beside these calls an insertion sends *notices* of what it is doing. They carry no result
and a connection is free to ignore them. A notice has a level, a name and details, by which
those who see it can tell notices apart; a close has one name, and its level says whether it
has failed.
-/

namespace BulkInsert.Batch

/-- A notice of what an insertion is doing. -/
inductive Notice where
  /-- A statement of this text, for this many rows, is about to be prepared. -/
  | prepare (sql : Text) (width : Nat)
  /-- A statement for this many rows is about to be executed with so many arguments. -/
  | execute (width arguments : Nat)
  /-- A statement for this many rows has been closed. -/
  | close (width : Nat)
  /-- Closing a statement for this many rows has failed. -/
  | closeFailed (width : Nat) (error : InsertError)
  deriving DecidableEq, Repr

/-- The notice of a close with the given result. -/
def Notice.ofClose (width : Nat) : Except InsertError Unit → Notice
  | .ok () => close width
  | .error error => closeFailed width error

namespace Notice

/-- How much attention a notice asks for. -/
inductive Level where
  | trace
  | debug
  | warn
  deriving DecidableEq, Repr

/-- What a notice tells under one of its labels. -/
inductive Detail where
  | text (t : Text)
  | number (n : Nat)
  deriving DecidableEq, Repr

/-- The level of a notice. Statements come and go at the same level, a failing close warns,
and executions are the least of all. -/
def level : Notice → Level
  | prepare .. | close _ => .debug
  | execute .. => .trace
  | closeFailed .. => .warn

/-- The name of a notice. -/
def name : Notice → Text
  | prepare .. => "batchsql.prepare".toList
  | execute .. => "batchsql.execute".toList
  | close _ | closeFailed .. => "batchsql.close".toList

/-- What a notice tells, with its labels, in order. -/
def details : Notice → List (Text × Detail)
  | prepare sql width => [("sql".toList, .text sql), ("width".toList, .number width)]
  | execute width arguments =>
    [("width".toList, .number width), ("params".toList, .number arguments)]
  | close width => [("width".toList, .number width)]
  | closeFailed width error =>
    [("width".toList, .number width), ("error".toList, .text error.message)]

end Notice

/-- A **connection** with state `σ`, statement handles `S` and values `V`. -/
structure Connection (σ S V : Type) where
  /-- Prepares a statement. -/
  prepare : Text → StateM σ (Except InsertError S)
  /-- Executes a prepared statement with its arguments in order, discarding any rows. -/
  execute : S → List V → StateM σ (Except InsertError Unit)
  /-- Releases a prepared statement. -/
  close : S → StateM σ (Except InsertError Unit)
  /-- Takes note of a notice. -/
  notify : Notice → StateM σ Unit

end BulkInsert.Batch
