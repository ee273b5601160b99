import BulkInsert.Batch.Connection
import BulkInsert.Sql.Prepared

/-!
# The SQL store as a connection

A store is a database together with the notices it was sent. Preparing a command does not
change the database, executing one that fails does not either, and closing one always
succeeds.
-/

namespace BulkInsert.Sql

open Batch

/-- A **store**: a database and the notices it took. -/
structure Store where
  database : Database
  /-- Whether notices are kept. -/
  tracing : Bool
  /-- The notices taken, the latest first. -/
  log : List Notice := []

namespace Store

/-- The notices of `s` that `earlier` had not yet taken. -/
def noticesSince (s earlier : Store) : List Notice :=
  (s.log.take (s.log.length - earlier.log.length)).reverse

/-- Prepares a command. -/
def prepare (sql : Text) : StateM Store (Except InsertError Prepared) := fun s =>
  ((s.database.prepare sql).mapError .storeFault, s)

/-- Executes a command; the database changes only if this succeeds. -/
def execute (p : Prepared) (args : List Value) : StateM Store (Except InsertError Unit) :=
  fun s =>
    match s.database.execute p args with
    | .ok database => (.ok (), { s with database })
    | .error fault => (.error (.storeFault fault), s)

/-- Releases a command. -/
def close (_ : Prepared) : StateM Store (Except InsertError Unit) := return .ok ()

/-- Keeps a notice when tracing is on. -/
def notify (notice : Notice) : StateM Store Unit := fun s =>
  ((), if s.tracing then { s with log := notice :: s.log } else s)

/-- The store as a connection. -/
def connection : Connection Store Prepared Value := { prepare, execute, close, notify }

end Store

/-- A way to a store, for those who also look at its tables and its notices: a connection with
states `σ`, and the store behind it. -/
structure Access (σ : Type) where
  connection : Connection σ Prepared Value
  store : σ → Store

/-- A store as a way to itself. -/
def Store.access : Access Store := ⟨connection, id⟩

end BulkInsert.Sql
