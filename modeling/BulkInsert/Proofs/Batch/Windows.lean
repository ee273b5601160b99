import BulkInsert.Batch.Window
import Mathlib.Data.List.Forall2

/-!
# Cuts of rows

`IsCut size rows cut` says what it is to cut rows into consecutive windows of `size` rows,
the last one possibly shorter, without saying how it is done. Rows have exactly one such
cut, and `windows` makes it: this is `isCut_windows` and `IsCut.eq_windows`.

The last section counts: which rows a window and the windows before it hold, and where the
values of a row stand among the arguments of its window.
-/

namespace BulkInsert.Batch

variable {α : Type} {size : Nat}

/-- `IsCut size rows cut`: the windows in `cut` are consecutive rows, `size` in each but
the last, which holds at least one and at most `size`. -/
inductive IsCut (size : Nat) : List α → List (List α) → Prop
  | nil : IsCut size [] []
  | last {window : List α} : window ≠ [] → window.length ≤ size → IsCut size window [window]
  | full {window rows : List α} {cut : List (List α)} :
      window.length = size → IsCut size rows cut → IsCut size (window ++ rows) (window :: cut)

/-! ### Two equations of `windows` -/

/-- Rows that fit into one window are that window. -/
theorem windows_of_length_le {window : List α} (hne : window ≠ [])
    (hle : window.length ≤ size) : windows size window = [window] := by
  obtain ⟨row, rest, rfl⟩ := List.exists_cons_of_ne_nil hne
  rw [List.length_cons] at hle
  rw [windows, List.take_of_length_le (by omega), List.drop_of_length_le (by omega), windows]

/-- A full window in front of more rows is the first window. -/
theorem windows_append {window : List α} (hsize : 1 ≤ size) (hlen : window.length = size)
    (rows : List α) : windows size (window ++ rows) = window :: windows size rows := by
  obtain ⟨row, rest, rfl⟩ : ∃ row rest, window = row :: rest :=
    List.exists_cons_of_ne_nil (by rintro rfl; simp at hlen; omega)
  have hrest : size - 1 = rest.length := by rw [List.length_cons] at hlen; omega
  rw [List.cons_append, windows, hrest, List.take_left, List.drop_left]

/-- Rows make a window. -/
theorem windows_ne_nil {rows : List α} (h : rows ≠ []) (size : Nat) : windows size rows ≠ [] := by
  obtain ⟨row, rest, rfl⟩ := List.exists_cons_of_ne_nil h
  rw [windows]
  exact List.cons_ne_nil _ _

/-! ### There is exactly one cut -/

/-- Rows are cut by `windows`. -/
theorem isCut_windows (hsize : 1 ≤ size) (rows : List α) :
    IsCut size rows (windows size rows) := by
  fun_induction windows size rows with
  | case1 => exact .nil
  | case2 row rest ih =>
      by_cases hle : (row :: rest).length ≤ size
      · rw [List.length_cons] at hle
        rw [List.take_of_length_le (by omega), List.drop_of_length_le (by omega), windows]
        exact .last (by simp) hle
      · have hlen : (row :: rest.take (size - 1)).length = size := by
          simp only [List.length_cons, List.length_take] at hle ⊢
          omega
        have key := IsCut.full hlen ih
        rwa [List.cons_append, List.take_append_drop] at key

/-- Every cut of rows is the one made by `windows`. -/
theorem IsCut.eq_windows {rows : List α} {cut : List (List α)} (h : IsCut size rows cut)
    (hsize : 1 ≤ size) : cut = windows size rows := by
  induction h with
  | nil => rw [windows]
  | last hne hle => rw [windows_of_length_le hne hle]
  | full hlen _ ih => rw [windows_append hsize hlen, ih]

/-- Rows that are related one by one are cut into windows whose rows are. -/
theorem forall₂_windows {β : Type} {P : α → β → Prop} {rows : List α} {rows' : List β}
    (h : List.Forall₂ P rows rows') (size : Nat) :
    List.Forall₂ (List.Forall₂ P) (windows size rows) (windows size rows') := by
  fun_induction windows size rows generalizing rows' with
  | case1 =>
      cases h
      rw [windows]
      exact .nil
  | case2 row rest ih =>
      obtain ⟨row', rest', hrow, hrest, rfl⟩ := List.forall₂_cons_left_iff.1 h
      rw [windows]
      exact .cons (.cons hrow (List.forall₂_take _ hrest)) (ih (List.forall₂_drop _ hrest))

/-! ### Rows and windows counted -/

/-- The windows in front hold the rows in front. -/
theorem flatten_take_windows (hsize : 1 ≤ size) (rows : List α) (count : Nat) :
    ((windows size rows).take count).flatten = rows.take (count * size) := by
  fun_induction windows size rows generalizing count with
  | case1 => simp
  | case2 row rest ih =>
      cases count with
      | zero => simp
      | succ count =>
          have hrows : (count + 1) * size = (size - 1 + count * size) + 1 := by
            rw [Nat.succ_mul]
            omega
          rw [List.take_succ_cons, List.flatten_cons, ih, hrows, List.take_succ_cons,
            List.take_add, List.cons_append]

/-- There is a further window exactly when the windows in front leave a row. -/
theorem lt_length_windows_iff (hsize : 1 ≤ size) (rows : List α) (count : Nat) :
    count < (windows size rows).length ↔ count * size < rows.length := by
  fun_induction windows size rows generalizing count with
  | case1 => simp
  | case2 row rest ih =>
      cases count with
      | zero => simp
      | succ count =>
          rw [List.length_cons, Nat.succ_lt_succ_iff, ih, List.length_drop, List.length_cons,
            Nat.succ_mul]
          omega

/-- A window holds the rows behind those of the windows before it, as many as fit. -/
theorem eq_of_getElem?_windows {rows window : List α} {count : Nat}
    (h : (windows size rows)[count]? = some window) (hsize : 1 ≤ size) :
    window = (rows.drop (count * size)).take size := by
  fun_induction windows size rows generalizing count with
  | case1 => simp at h
  | case2 row rest ih =>
      obtain ⟨extra, rfl⟩ : ∃ extra, size = extra + 1 := ⟨size - 1, by omega⟩
      cases count with
      | zero =>
          rw [List.getElem?_cons_zero, Option.some.injEq] at h
          rw [← h, Nat.zero_mul, List.drop_zero, List.take_succ_cons, Nat.add_sub_cancel]
      | succ count =>
          have hrows : (count + 1) * (extra + 1) = (extra + count * (extra + 1)) + 1 := by
            rw [Nat.succ_mul]
            omega
          rw [ih h, Nat.add_sub_cancel, hrows, List.drop_succ_cons, List.drop_drop]

/-- No window holds more rows than fit, or than there are. -/
theorem length_le_of_mem_windows {rows window : List α} (hsize : 1 ≤ size)
    (h : window ∈ windows size rows) : window.length ≤ min size rows.length := by
  obtain ⟨count, hcount⟩ := List.mem_iff_getElem?.1 h
  rw [eq_of_getElem?_windows hcount hsize, List.length_take, List.length_drop]
  omega

/-- Rows are cut into full windows and a last one, which holds a row at least. -/
theorem exists_windows_eq_concat {rows : List α} (hsize : 1 ≤ size) (hrows : rows ≠ []) :
    ∃ full last, windows size rows = full ++ [last] ∧ (∀ window ∈ full, window.length = size) ∧
      last ≠ [] ∧ last.length ≤ size := by
  have hcut := isCut_windows hsize rows
  generalize windows size rows = cut at hcut
  induction hcut with
  | nil => exact absurd rfl hrows
  | @last window hne hle => exact ⟨[], window, rfl, by simp, hne, hle⟩
  | @full window rows cut hlen hcut ih =>
      rcases eq_or_ne rows [] with rfl | hmore
      · obtain rfl : cut = [] := by rw [hcut.eq_windows hsize, windows]
        exact ⟨[], window, rfl, by simp, by rintro rfl; simp at hlen; omega, Nat.le_of_eq hlen⟩
      · obtain ⟨full, last, rfl, hfull, hlast⟩ := ih hmore
        exact ⟨window :: full, last, rfl, List.forall_mem_cons.2 ⟨hlen, hfull⟩, hlast⟩

/-- How many rows there are in full windows and a last one. -/
theorem length_of_windows_eq_concat {rows last : List α} {full : List (List α)}
    (h : windows size rows = full ++ [last]) (hfull : ∀ window ∈ full, window.length = size) :
    rows.length = full.length * size + last.length := by
  have hlength := congrArg List.length (flatten_windows size rows)
  rw [h, List.flatten_append, List.length_append, List.length_flatten, List.map_congr_left hfull,
    List.map_const', List.sum_replicate_nat, List.flatten_singleton] at hlength
  exact hlength.symm

/-- Rows of one length make that many arguments each. -/
theorem length_arguments {V : Type} {window : List (List V)} {width : Nat}
    (h : ∀ row ∈ window, row.length = width) :
    (arguments window).length = window.length * width := by
  rw [arguments, List.length_flatten, List.map_congr_left h, List.map_const',
    List.sum_replicate_nat]

/-- Among the arguments for rows of one length, those of a row stand behind those of the
rows before it. -/
theorem getElem?_arguments {V : Type} {window : List (List V)} {width : Nat}
    (h : ∀ row ∈ window, row.length = width) {i j : Nat} {row : List V}
    (hi : window[i]? = some row) (hj : j < width) :
    (arguments window)[i * width + j]? = row[j]? := by
  rw [arguments]
  induction window generalizing i with
  | nil => simp at hi
  | cons first window ih =>
      have hfirst : first.length = width := h first List.mem_cons_self
      rw [List.flatten_cons]
      cases i with
      | zero =>
          obtain rfl : first = row := by simpa using hi
          rw [Nat.zero_mul, Nat.zero_add, List.getElem?_append_left (by omega)]
      | succ i =>
          rw [List.getElem?_cons_succ] at hi
          rw [List.getElem?_append_right (by rw [Nat.succ_mul]; omega), hfirst,
            ← ih (fun r hr => h r (List.mem_cons_of_mem _ hr)) hi]
          congr 1
          rw [Nat.succ_mul]
          omega

end BulkInsert.Batch
