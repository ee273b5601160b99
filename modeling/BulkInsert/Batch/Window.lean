import BulkInsert.Text.Basic

/-!
# Windows of rows

The rows of an insertion are cut into consecutive windows of one size; only the last may be
shorter. A window becomes one statement, and its values, row after row, become the
arguments of that statement.

The law `flatten_windows` says that no row is lost, repeated or moved.
-/

namespace BulkInsert.Batch

/-- Cuts rows into consecutive windows of `size` rows, the last one possibly shorter. -/
def windows {α : Type} (size : Nat) : List α → List (List α)
  | [] => []
  | row :: rest => (row :: rest.take (size - 1)) :: windows size (rest.drop (size - 1))
termination_by rows => rows.length
decreasing_by simp only [List.length_cons, List.length_drop]; omega

/-- The arguments for a window: the values of its rows, one row after the other. -/
def arguments {V : Type} (window : List (List V)) : List V := window.flatten

/-! ### Basic laws -/

/-- The windows, put together again, are the rows. -/
theorem flatten_windows {α : Type} (size : Nat) (rows : List α) :
    (windows size rows).flatten = rows := by
  fun_induction windows size rows with
  | case1 => rfl
  | case2 row rest ih => simp [ih]

/-- No window is empty. -/
theorem ne_nil_of_mem_windows {α : Type} {size : Nat} {rows window : List α}
    (h : window ∈ windows size rows) : window ≠ [] := by
  fun_induction windows size rows with
  | case1 => simp at h
  | case2 row rest ih =>
    rcases List.mem_cons.1 h with rfl | h
    · simp
    · exact ih h

end BulkInsert.Batch
