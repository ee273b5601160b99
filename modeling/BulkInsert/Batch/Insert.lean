import BulkInsert.Batch.Slot
import BulkInsert.Batch.Window
import BulkInsert.Statement.Check
import BulkInsert.Statement.Widen

/-!
# Batched insertion

`insertRows` executes a single-row insertion once per row, many rows at a time. The
arguments are looked at first, in this order: there must be rows, the batch size must be
positive, the statement must be a single-row insertion, and its tuple must be found. Only
then is anything asked of the connection.

The rows are cut into windows of the batch size. For each window the statement of its width
is taken from the slot, or built by widening the query, and executed with the values of the
window. So one statement serves all windows but a shorter last one. The first failure ends
the insertion; batches executed before it stay executed. Whatever the way out, the
statement in the slot is closed.
-/

namespace BulkInsert.Batch

variable {σ S V : Type}

/-- Prepares the query for `width` rows. -/
def prepareWidth (conn : Connection σ S V) (query tuple : Text) (width : Nat) :
    StateM σ (Except InsertError S) := do
  let sql := Statement.widen query tuple width
  conn.notify (.prepare sql width)
  conn.prepare sql

/-- Executes a statement for one window. -/
def executeWindow (conn : Connection σ S V) (c : Cached S) (window : List (List V)) :
    StateM σ (Except InsertError Unit) := do
  let args := arguments window
  conn.notify (.execute window.length args.length)
  conn.execute c.handle args

/-- Executes the windows one after the other and closes the last statement. -/
def insertWindows (conn : Connection σ S V) (query tuple : Text) :
    Slot S → List (List (List V)) → StateM σ (Except InsertError Unit)
  | slot, [] => slot.finish conn
  | slot, window :: rest => do
    match ← slot.obtain conn (prepareWidth conn query tuple) window.length with
    | (.error error, slot) =>
      slot.discard conn
      return .error error
    | (.ok c, slot) =>
      match ← executeWindow conn c window with
      | .error error =>
        slot.discard conn
        return .error error
      | .ok () => insertWindows conn query tuple slot rest

/-- What is wrong with the arguments of an insertion, or the tuple of its statement. -/
def examine (query : Text) (batchSize : Nat) (rows : List (List V)) :
    Except InsertError Text := do
  if rows.isEmpty then throw .noArguments
  if batchSize = 0 then throw (.invalidBatchSize batchSize)
  Statement.check query
  Statement.extractTuple query

/-- Executes the single-row insertion `query` once per row, at most `batchSize` rows at a
time. -/
def insertRows (conn : Connection σ S V) (query : Text) (batchSize : Nat)
    (rows : List (List V)) : StateM σ (Except InsertError Unit) :=
  match examine query batchSize rows with
  | .error error => return .error error
  | .ok tuple => insertWindows conn query tuple none (windows batchSize rows)

end BulkInsert.Batch
