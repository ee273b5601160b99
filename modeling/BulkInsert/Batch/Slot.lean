import BulkInsert.Batch.Connection

/-!
# The statement slot

An insertion keeps at most one prepared statement at a time, together with the number of
rows it was built for. `Slot.obtain` hands out a statement for a wanted width: the one in
the slot if its width fits, otherwise a new one, for which the old one is closed first. What
it hands out is also what the slot holds from then on.

## Failing closes

A statement counts as closed even when closing it fails. On a change of width, and when an
insertion ends early, the result of the close is dropped. Only `Slot.finish` hands it on.
-/

namespace BulkInsert.Batch

variable {σ S V : Type}

/-- A prepared statement and the number of rows it was built for. -/
structure Cached (S : Type) where
  width : Nat
  handle : S

/-- A **slot** holds at most one prepared statement. -/
abbrev Slot (S : Type) := Option (Cached S)

/-- Closes a statement and sends notice of the result. -/
def Cached.close (conn : Connection σ S V) (c : Cached S) :
    StateM σ (Except InsertError Unit) := do
  let result ← conn.close c.handle
  conn.notify (.ofClose c.width result)
  return result

namespace Slot

/-- Empties the slot, dropping the result of the close. -/
def discard (conn : Connection σ S V) (slot : Slot S) : StateM σ Unit := do
  if let some c := slot then
    let _ ← c.close conn

/-- Empties the slot and reports the result of the close. -/
def finish (conn : Connection σ S V) (slot : Slot S) : StateM σ (Except InsertError Unit) :=
  match slot with
  | some c => c.close conn
  | none => return .ok ()

/-- A statement for `width` rows, and the slot afterwards. The one in the slot is handed out
and kept when it fits. Otherwise the slot is emptied, and a new one from `build` is handed
out and kept; when building fails the slot stays empty. -/
def obtain (conn : Connection σ S V) (build : Nat → StateM σ (Except InsertError S))
    (slot : Slot S) (width : Nat) : StateM σ (Except InsertError (Cached S) × Slot S) := do
  match slot.filter fun c => c.width == width with
  | some c => return (.ok c, some c)
  | none =>
    slot.discard conn
    match ← build width with
    | .error error => return (.error error, none)
    | .ok handle => return (.ok ⟨width, handle⟩, some ⟨width, handle⟩)

/-! ### What is obtained -/

variable (conn : Connection σ S V) (build : Nat → StateM σ (Except InsertError S))

/-- Emptying an empty slot does nothing. -/
theorem discard_none (s : σ) : discard conn (none : Slot S) s = ((), s) := rfl

/-- From an empty slot a statement is obtained by building it. -/
theorem obtain_none (width : Nat) (s : σ) :
    obtain conn build none width s =
      match build width s with
      | (.error error, s) => ((.error error, none), s)
      | (.ok handle, s) => ((.ok ⟨width, handle⟩, some ⟨width, handle⟩), s) := by
  simp only [obtain, Option.filter, bind, StateT.bind, discard_none]
  rcases build width s with ⟨error | handle, s'⟩ <;> rfl

/-- A statement of the wanted width is handed out and stays in the slot. -/
theorem obtain_of_width_eq {c : Cached S} {width : Nat} (h : c.width = width) (s : σ) :
    obtain conn build (some c) width s = ((.ok c, some c), s) := by
  simp only [obtain, Option.filter, h, beq_self_eq_true, if_true]
  rfl

/-- A statement of another width is closed first, and then the slot is empty. -/
theorem obtain_of_width_ne {c : Cached S} {width : Nat} (h : c.width ≠ width) (s : σ) :
    obtain conn build (some c) width s = obtain conn build none width (c.close conn s).2 := by
  simp only [obtain, Option.filter, beq_eq_false_iff_ne.2 h, Bool.false_eq_true, if_false]
  rfl

end Slot

end BulkInsert.Batch
