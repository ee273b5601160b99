import BulkInsert.Batch.Insert

/-!
# Executors

An executor is a connection together with the batch size that its insertions use. The
connection itself is described by its operations, which stay fixed; the executor holds its
current state.

Changing the batch size, or taking the connection out and wrapping it again, leaves the
state of the connection alone.
-/

namespace BulkInsert.Batch

variable {σ S V : Type}

/-- An **executor**: the state of a connection, and the most rows sent at a time. -/
structure Executor (σ : Type) where
  state : σ
  batchSize : Nat

namespace Executor

/-- The executor with another batch size. -/
def resize (e : Executor σ) (batchSize : Nat) : Executor σ := { e with batchSize }

/-- Inserts rows with a batch size of their own over the executor's connection. -/
def insertSized (conn : Connection σ S V) (query : Text) (batchSize : Nat)
    (rows : List (List V)) : StateM (Executor σ) (Except InsertError Unit) := fun e =>
  let (result, state) := insertRows conn query batchSize rows e.state
  (result, { e with state })

/-- Inserts rows with the batch size of the executor. -/
def insert (conn : Connection σ S V) (query : Text) (rows : List (List V)) :
    StateM (Executor σ) (Except InsertError Unit) := fun e =>
  insertSized conn query e.batchSize rows e

end Executor

end BulkInsert.Batch
