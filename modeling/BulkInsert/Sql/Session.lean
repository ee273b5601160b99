import BulkInsert.Batch.Executor
import BulkInsert.Sql.Transaction

/-!
# Sessions over the SQL store

A session is a list of steps taken by one executor over one store. A step may be a
transaction, which takes steps of its own over the transaction, with an executor of its own and
a batch size of its own, and then keeps or undoes everything they did to the tables.
Transactions do not nest.

The steps are the same over a store and over a transaction, so what they do is said once, for
any way to a store. Neither end of a transaction touches the batch size of the executor
outside.
-/

namespace BulkInsert.Sql

open Batch

variable {σ : Type}

/-- A step that is no transaction. -/
inductive Step where
  /-- Insert rows with the batch size of the executor. -/
  | insert (query : Text) (rows : List Row)
  /-- Change the batch size. -/
  | resize (batchSize : Nat)
  /-- Prepare a command, execute it once for each list of arguments, and close it. -/
  | execute (sql : Text) (runs : List (List Value))
  /-- Ask for the rows of a table. -/
  | dump (table : Text)

/-- The answer to a step. -/
inductive Answer where
  | inserted (result : Except InsertError Unit) (notices : List Notice)
  | size (batchSize : Nat)
  /-- The command could not be prepared. -/
  | refused (error : InsertError)
  /-- The command was prepared; how each run and the close ended. -/
  | executed (command : Prepared) (runs : List (Except InsertError Unit))
    (close : Except InsertError Unit)
  | rows (rows : List Row)

/-- Runs an action of the connection on the state of an executor. -/
def onState {α : Type} (action : StateM σ α) : StateM (Executor σ) α := fun e =>
  let (a, state) := action e.state
  (a, { e with state })

/-- Prepares a command, executes it once for each list of arguments, and closes it. A run
that fails does not keep the next one from being made. -/
def executeRuns (conn : Connection σ Prepared Value) (sql : Text) (runs : List (List Value)) :
    StateM σ Answer := do
  match ← conn.prepare sql with
  | .error error => return .refused error
  | .ok command =>
    let results ← runs.mapM (conn.execute command)
    return .executed command results (← conn.close command)

/-- Takes one step. -/
def Step.run (access : Access σ) : Step → StateM (Executor σ) Answer
  | .insert query rows => do
    let before ← get
    let result ← Executor.insert access.connection query rows
    return .inserted result
      ((access.store (← get).state).noticesSince (access.store before.state))
  | .resize batchSize => do
    modify fun e => e.resize batchSize
    return .size (← get).batchSize
  | .execute sql runs => onState (executeRuns access.connection sql runs)
  | .dump table => return .rows ((access.store (← get).state).database.rows table)

/-- Takes steps in order. -/
def runSteps (access : Access σ) (steps : List Step) : StateM (Executor σ) (List Answer) :=
  steps.mapM (Step.run access)

/-- Begins a transaction, takes steps over it with an executor of their own, and ends it. -/
def transaction (batchSize : Nat) (ending : Ending) (steps : List Step) :
    StateM Store (List Answer) := fun s =>
  let (answers, e) := runSteps Transaction.access steps ⟨Transaction.start s, batchSize⟩
  (answers, e.state.finish ending)

/-- A step of a session. -/
inductive SessionStep where
  | plain (step : Step)
  | transaction (batchSize : Nat) (ending : Ending) (steps : List Step)

/-- The answer to a step of a session. -/
inductive SessionAnswer where
  | plain (answer : Answer)
  /-- The answers to the steps of a transaction, and how its end went. -/
  | transaction (answers : List Answer) (ending : Except InsertError Unit)

/-- Takes one step of a session. Both ends of a transaction succeed. -/
def SessionStep.run : SessionStep → StateM (Executor Store) SessionAnswer
  | .plain step => SessionAnswer.plain <$> step.run Store.access
  | .transaction batchSize ending steps => do
    let answers ← onState (Sql.transaction batchSize ending steps)
    return .transaction answers (.ok ())

/-- Takes the steps of a session in order. -/
def runSession (steps : List SessionStep) : StateM (Executor Store) (List SessionAnswer) :=
  steps.mapM SessionStep.run

end BulkInsert.Sql
