import BulkInsert.Batch.Executor
import BulkInsert.Recording.Recorder

/-!
# Recorded sessions

A session is a list of steps taken one after the other by one executor over one recorder.
Its counters and statement names run on through all steps. Each step has an answer; that of
an insertion shows the events that the insertion caused.
-/

namespace BulkInsert.Recording

open Batch

/-- A step of a session. -/
inductive Step (V : Type) where
  /-- Insert rows with the batch size of the executor. -/
  | insert (query : Text) (rows : List (List V))
  /-- Insert rows with a batch size of their own. -/
  | insertSized (query : Text) (batchSize : Nat) (rows : List (List V))
  /-- Change the batch size. -/
  | resize (batchSize : Nat)
  /-- Ask for the batch size. -/
  | size
  /-- Replace the failure plan. -/
  | replan (plan : FailurePlan)
  /-- Ask for the counters. -/
  | count
  /-- Take the connection out and wrap it in a new executor. -/
  | rewrap (batchSize : Nat)

/-- The answer to a step. -/
inductive Answer (V : Type) where
  | inserted (result : Except InsertError Unit) (events : List (Event V))
  | size (batchSize : Nat)
  | replanned
  | counted (counters : Counters)

variable {V : Type}

/-- An insertion together with the events it causes. -/
def observe (action : StateM (Executor (Recorder V)) (Except InsertError Unit)) :
    StateM (Executor (Recorder V)) (Answer V) := do
  let before ← get
  let result ← action
  return .inserted result ((← get).state.eventsSince before.state)

/-- Takes one step. -/
def Step.run : Step V → StateM (Executor (Recorder V)) (Answer V)
  | .insert query rows => observe (Executor.insert Recorder.connection query rows)
  | .insertSized query batchSize rows =>
    observe (Executor.insertSized Recorder.connection query batchSize rows)
  | .resize batchSize => do
    modify fun e => e.resize batchSize
    return .size (← get).batchSize
  | .size => return .size (← get).batchSize
  | .replan plan => do
    modify fun e => { e with state := { e.state with plan } }
    return .replanned
  | .count => return .counted (← get).state.counters
  | .rewrap batchSize => do
    modify fun e => ⟨e.state, batchSize⟩
    return .size (← get).batchSize

/-- Takes the steps of a session in order. -/
def runSession (steps : List (Step V)) : StateM (Executor (Recorder V)) (List (Answer V)) :=
  steps.mapM Step.run

end BulkInsert.Recording
