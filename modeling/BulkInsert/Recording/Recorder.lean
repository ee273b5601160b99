import BulkInsert.Batch.Connection
import BulkInsert.Recording.Plan

/-!
# The recorder

A recorder is a connection that executes nothing and remembers everything: each call leaves
an event and advances a counter, and a failure plan decides which calls fail. With tracing
on, notices leave events too, between those of the calls.

## Counting

A call counts whether or not it fails. A statement is named by its place among the
successful prepares. A failing close closes its statement all the same, so the open
statements are the successful prepares less the closes. `peak` is the greatest number of
open statements seen right after a successful prepare.
-/

namespace BulkInsert.Recording

open Batch

/-- What a recorder has seen. -/
inductive Event (V : Type) where
  /-- A statement was prepared and got this name. -/
  | prepared (statement : Nat) (sql : Text)
  /-- A statement could not be prepared. -/
  | prepareFailed (sql : Text)
  /-- A statement was executed, and whether this succeeded. -/
  | executed (succeeded : Bool) (statement : Nat) (arguments : List V)
  /-- A statement was closed, and whether this succeeded. -/
  | closed (succeeded : Bool) (statement : Nat)
  /-- A notice was sent. -/
  | noticed (notice : Notice)
  deriving DecidableEq, Repr

/-- The counters of a recorder. -/
structure Counters where
  prepares : Nat := 0
  executes : Nat := 0
  closes : Nat := 0
  /-- The successful ones among the prepares. -/
  prepared : Nat := 0
  peak : Nat := 0
  deriving DecidableEq, Repr

/-- The number of open statements. -/
def Counters.openCount (k : Counters) : Nat := k.prepared - k.closes

/-- A **recorder** of calls with values `V`. -/
structure Recorder (V : Type) where
  /-- Which calls fail. -/
  plan : FailurePlan
  /-- Whether notices are recorded. -/
  tracing : Bool
  counters : Counters := {}
  /-- What was seen, the latest first. -/
  log : List (Event V) := []

namespace Recorder

variable {V : Type}

/-- What a recorder has seen, in order. -/
def events (r : Recorder V) : List (Event V) := r.log.reverse

/-- The recorder after one more event. -/
def see (r : Recorder V) (event : Event V) : Recorder V := { r with log := event :: r.log }

/-- The events of `r` that `earlier` had not yet seen. -/
def eventsSince (r earlier : Recorder V) : List (Event V) :=
  (r.log.take (r.log.length - earlier.log.length)).reverse

/-- Records an attempt to prepare a statement. -/
def prepare (sql : Text) : StateM (Recorder V) (Except InsertError Nat) := fun r =>
  let call := r.counters.prepares + 1
  match outcome r.plan.prepare call with
  | .error error =>
    let counters := { r.counters with prepares := call }
    (.error error, { r with counters }.see (.prepareFailed sql))
  | .ok () =>
    let name := r.counters.prepared + 1
    let counters := { r.counters with prepares := call, prepared := name }
    let counters := { counters with peak := max counters.peak counters.openCount }
    (.ok name, { r with counters }.see (.prepared name sql))

/-- Records an attempt to execute a statement. -/
def execute (statement : Nat) (arguments : List V) :
    StateM (Recorder V) (Except InsertError Unit) := fun r =>
  let call := r.counters.executes + 1
  let result := outcome r.plan.execute call
  let counters := { r.counters with executes := call }
  (result, { r with counters }.see (.executed result.isOk statement arguments))

/-- Records the closing of a statement. -/
def close (statement : Nat) : StateM (Recorder V) (Except InsertError Unit) := fun r =>
  let call := r.counters.closes + 1
  let result := outcome r.plan.close call
  let counters := { r.counters with closes := call }
  (result, { r with counters }.see (.closed result.isOk statement))

/-- Records a notice when tracing is on. -/
def notify (notice : Notice) : StateM (Recorder V) Unit := fun r =>
  ((), if r.tracing then r.see (.noticed notice) else r)

/-- The recorder as a connection; a statement is handled by its name. -/
def connection : Connection (Recorder V) Nat V := { prepare, execute, close, notify }

end Recorder

end BulkInsert.Recording
