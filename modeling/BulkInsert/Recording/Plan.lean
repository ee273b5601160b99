import BulkInsert.Error

/-!
# Failure plans

A plan says which calls on a connection fail, and with which error. The calls of each kind
are counted from one; the first entry for a count decides. An empty plan lets every call
succeed.
-/

namespace BulkInsert.Recording

/-- The `call`-th call of its kind fails with `error`. -/
structure PlannedFailure where
  call : Nat
  error : InsertError
  deriving DecidableEq, Repr

/-- A **failure plan**: the failing calls of each kind. -/
structure FailurePlan where
  prepare : List PlannedFailure := []
  execute : List PlannedFailure := []
  close : List PlannedFailure := []
  deriving DecidableEq, Repr

/-- The result that a list of planned failures gives to the `call`-th call. -/
def outcome (planned : List PlannedFailure) (call : Nat) : Except InsertError Unit :=
  match planned.find? fun f => f.call == call with
  | some f => .error f.error
  | none => .ok ()

end BulkInsert.Recording
