import BulkInsert.Sql.Store

/-!
# Transactions

A transaction is a connection of its own over a store. What is asked of it is asked of the
store inside, so its commands see the tables as they are by then and change them. Beside the
store it keeps the tables as they were when it began, so that they can be put back.

Committing a transaction leaves the store as it is inside. Rolling it back puts the tables
back. The notices that the store took stay in either case.
-/

namespace BulkInsert.Sql

open Batch

/-- A **transaction** on a store. -/
structure Transaction where
  store : Store
  /-- The tables as they were when the transaction began. -/
  saved : Database

/-- How a transaction ends. -/
inductive Ending where
  | commit
  | rollback
  deriving DecidableEq, Repr

namespace Transaction

/-- Begins a transaction. -/
def start (s : Store) : Transaction := ⟨s, s.database⟩

/-- Runs an action of the store on the store inside. -/
def onStore {α : Type} (action : StateM Store α) : StateM Transaction α := fun t =>
  let (a, store) := action t.store
  (a, { t with store })

/-- The transaction as a connection. -/
def connection : Connection Transaction Prepared Value where
  prepare sql := onStore (Store.prepare sql)
  execute p args := onStore (Store.execute p args)
  close p := onStore (Store.close p)
  notify notice := onStore (Store.notify notice)

/-- A transaction as a way to the store inside. -/
def access : Access Transaction := ⟨connection, store⟩

/-- The store when a transaction has ended. -/
def finish (t : Transaction) : Ending → Store
  | .commit => t.store
  | .rollback => { t.store with database := t.saved }

end Transaction

end BulkInsert.Sql
