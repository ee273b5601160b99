import BulkInsert.Proofs.Batch.Simulation
import BulkInsert.Sql.Session

/-!
# Steps inside a transaction

A transaction hands everything on to the store inside and keeps the saved tables as they are.
So steps over a transaction are the steps over the store itself, with saved tables beside it:
`onStore` is a map of actions, and an insertion, the runs of a command, a step and a list of
steps over the transaction are the images of those over the store.

`transaction_eq_runSteps` draws the conclusion. A transaction that is committed answers as its
steps do without one and leaves what they leave; one that is rolled back gives the same answers
and leaves every table as it was, whatever succeeded or failed inside.
-/

namespace BulkInsert.Sql

open Batch

variable {α β : Type}

namespace Transaction

/-! ### Actions on the store inside -/

/-- Actions one after the other inside a transaction. -/
theorem onStore_bind (action : StateM Store α) (next : α → StateM Store β) :
    onStore (action >>= next) = onStore action >>= fun a => onStore (next a) := rfl

/-- An action for each element of a list inside a transaction. -/
theorem onStore_mapM (action : α → StateM Store β) (xs : List α) :
    onStore (xs.mapM action) = xs.mapM fun x => onStore (action x) := by
  induction xs with
  | nil => rfl
  | cons x xs ih =>
      rw [List.mapM_cons, List.mapM_cons, onStore_bind]
      refine congrArg (onStore (action x) >>= ·) (funext fun b => ?_)
      rw [onStore_bind, ih]
      rfl

/-- A store, and a transaction over it that keeps the tables `saved`, stay so over all that an
insertion does. -/
theorem simulation_connection (saved : Database) :
    Simulation Store.connection connection Eq fun s t => t = ⟨s, saved⟩ where
  prepare := by
    rintro s _ rfl query tuple width
    exact ⟨rfl, rfl⟩
  execute := by
    rintro s _ window window' rfl hwindow c
    rw [List.forall₂_eq_eq_eq] at hwindow
    subst hwindow
    exact ⟨rfl, rfl⟩
  close := by
    rintro s _ rfl c
    exact ⟨rfl, rfl⟩

/-- An insertion over a transaction is the insertion over the store inside. -/
theorem insertRows_connection (query : Text) (size : Nat) (rows : List Row) :
    insertRows connection query size rows =
      onStore (insertRows Store.connection query size rows) := by
  funext ⟨s, saved⟩
  have hrows : List.Forall₂ Eq rows rows := List.forall₂_same.2 fun _ _ => rfl
  obtain ⟨hresult, hstate⟩ :=
    (simulation_connection saved).insertRows query size hrows (s := s) rfl
  exact Prod.ext hresult.symm hstate

/-- The runs of a command over a transaction are its runs over the store inside. -/
theorem executeRuns_connection (sql : Text) (runs : List (List Value)) :
    executeRuns connection sql runs = onStore (executeRuns Store.connection sql runs) := by
  rw [executeRuns, executeRuns, onStore_bind]
  refine congrArg (onStore (Store.prepare sql) >>= ·) (funext fun prepared => ?_)
  cases prepared with
  | error error => rfl
  | ok command =>
      rw [onStore_bind]
      change runs.mapM (fun args => onStore (Store.execute command args)) >>= _ =
        onStore (runs.mapM (Store.execute command)) >>= _
      rw [onStore_mapM]
      rfl

end Transaction

/-! ### Steps -/

/-- The executor of a transaction over the store of another executor. -/
def executorInside (saved : Database) (e : Executor Store) : Executor Transaction :=
  ⟨⟨e.state, saved⟩, e.batchSize⟩

/-- What an insertion as a step does. -/
theorem Step.run_insert {σ : Type} (access : Access σ) (query : Text) (rows : List Row)
    (e : Executor σ) :
    (Step.insert query rows).run access e =
      let out := insertRows access.connection query e.batchSize rows e.state
      (.inserted out.1 ((access.store out.2).noticesSince (access.store e.state)),
        { e with state := out.2 }) := rfl

/-- What the runs of a command as a step do. -/
theorem Step.run_execute {σ : Type} (access : Access σ) (sql : Text)
    (runs : List (List Value)) (e : Executor σ) :
    (Step.execute sql runs).run access e =
      let out := executeRuns access.connection sql runs e.state
      (out.1, { e with state := out.2 }) := rfl

/-- A step is answered inside a transaction as it is outside, and does the same. -/
theorem Step.run_inside (saved : Database) (step : Step) (e : Executor Store) :
    step.run Transaction.access (executorInside saved e) =
      ((step.run Store.access e).1, executorInside saved (step.run Store.access e).2) := by
  cases step with
  | insert query rows =>
      have hinsert := Transaction.insertRows_connection query e.batchSize rows
      rw [Step.run_insert, Step.run_insert, Transaction.access, executorInside, hinsert]
      rfl
  | resize batchSize => rfl
  | execute sql runs =>
      have hruns := Transaction.executeRuns_connection sql runs
      rw [Step.run_execute, Step.run_execute, Transaction.access, executorInside, hruns]
      rfl
  | dump table => rfl

/-- A step is taken and then the others. -/
theorem runSteps_cons {σ : Type} (access : Access σ) (step : Step) (steps : List Step)
    (e : Executor σ) :
    runSteps access (step :: steps) e =
      ((step.run access e).1 :: (runSteps access steps (step.run access e).2).1,
        (runSteps access steps (step.run access e).2).2) := by
  rw [runSteps, List.mapM_cons]
  rfl

/-- Steps are answered inside a transaction as they are outside, and do the same. -/
theorem runSteps_inside (saved : Database) (steps : List Step) (e : Executor Store) :
    runSteps Transaction.access steps (executorInside saved e) =
      ((runSteps Store.access steps e).1,
        executorInside saved (runSteps Store.access steps e).2) := by
  induction steps generalizing e with
  | nil => rfl
  | cons step steps ih => rw [runSteps_cons, runSteps_cons, Step.run_inside, ih]

/-- What a transaction as a step of a session does. -/
theorem SessionStep.run_transaction (batchSize : Nat) (ending : Ending) (steps : List Step)
    (e : Executor Store) :
    (SessionStep.transaction batchSize ending steps).run e =
      let inner := runSteps Transaction.access steps ⟨Transaction.start e.state, batchSize⟩
      (.transaction inner.1 (.ok ()), { e with state := inner.2.state.finish ending }) := rfl

/-- **Transactions and plain steps.** The steps of a transaction are answered as they are when
an executor of the same batch size takes them over the store itself, whichever of them fail. A
commit leaves the tables that those leave. A rollback leaves every table as it was before, and
of the steps only the notices. Either way the end succeeds, and the batch size of the executor
outside stays. -/
theorem transaction_eq_runSteps (batchSize : Nat) (steps : List Step) (e : Executor Store) :
    let direct := runSteps Store.access steps ⟨e.state, batchSize⟩
    (SessionStep.transaction batchSize .commit steps).run e =
        (.transaction direct.1 (.ok ()), { e with state := direct.2.state }) ∧
      (SessionStep.transaction batchSize .rollback steps).run e =
        (.transaction direct.1 (.ok ()),
          { e with state := { direct.2.state with database := e.state.database } }) := by
  intro direct
  have hinside : runSteps Transaction.access steps ⟨Transaction.start e.state, batchSize⟩ =
      (direct.1, executorInside e.state.database direct.2) :=
    runSteps_inside e.state.database steps ⟨e.state, batchSize⟩
  rw [SessionStep.run_transaction, SessionStep.run_transaction, hinside]
  exact ⟨rfl, rfl⟩

end BulkInsert.Sql
