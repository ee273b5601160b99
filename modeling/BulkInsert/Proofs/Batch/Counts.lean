import BulkInsert.Proofs.Batch.Progress
import BulkInsert.Proofs.Statement.Widening
import Mathlib.Algebra.Order.Floor.Div

/-!
# How many calls an insertion makes

When nothing fails, an insertion makes all the calls that are planned, so they can be counted in
the plan. There each maximal run of adjacent windows of one width has one prepare and one close,
and each window one execution: `countP_planned`. All windows but the last are full, so there is
one such run when the last one is full too or is the only one, and there are two otherwise:
`length_splitBy_windows`. What remains is division with remainder. The main result is
`insertRows_counts`.
-/

namespace BulkInsert.Batch

variable {σ S V : Type}

/-! ### Requests of each kind -/

/-- Whether a request is for a statement to be prepared. -/
def Request.isPrepare : Request V → Bool
  | prepare _ => true
  | execute _ | close => false

/-- Whether a request is for the open statement to be executed. -/
def Request.isExecute : Request V → Bool
  | execute _ => true
  | prepare _ | close => false

/-- Whether a request is for the open statement to be closed. -/
def Request.isClose : Request V → Bool
  | close => true
  | prepare _ | execute _ => false

/-- Whether a call executes a statement. -/
def Call.isExecute : Call S V → Bool
  | execute _ _ _ => true
  | prepare _ _ | close _ _ => false

/-- Calls of one kind are as many as the requests of that kind. -/
theorem countP_request (calls : List (Call S V)) :
    calls.countP Call.isPrepare = (calls.map Call.request).countP Request.isPrepare ∧
      calls.countP Call.isExecute = (calls.map Call.request).countP Request.isExecute ∧
      calls.countP Call.isClose = (calls.map Call.request).countP Request.isClose := by
  simp only [List.countP_map]
  refine ⟨?_, ?_, ?_⟩ <;>
    · congr 1
      funext call
      cases call <;> rfl

/-- A run of windows is one prepare, an execution for each window, and one close. -/
theorem countP_plannedRun (query tuple : Text) {run : List (List (List V))} (h : run ≠ []) :
    (plannedRun query tuple run).countP Request.isPrepare = 1 ∧
      (plannedRun query tuple run).countP Request.isExecute = run.length ∧
      (plannedRun query tuple run).countP Request.isClose = 1 := by
  obtain ⟨window, run, rfl⟩ := List.exists_cons_of_ne_nil h
  simp [plannedRun, List.countP_cons, List.countP_map, Function.comp_def, Request.isPrepare,
    Request.isExecute, Request.isClose]

/-- Runs of windows are one prepare and one close each, and an execution for each window. -/
theorem countP_flatMap_plannedRun (query tuple : Text) {runs : List (List (List (List V)))}
    (hnil : [] ∉ runs) :
    (runs.flatMap (plannedRun query tuple)).countP Request.isPrepare = runs.length ∧
      (runs.flatMap (plannedRun query tuple)).countP Request.isExecute = runs.flatten.length ∧
      (runs.flatMap (plannedRun query tuple)).countP Request.isClose = runs.length := by
  induction runs with
  | nil => simp
  | cons run runs ih =>
      obtain ⟨hrun, hruns⟩ := List.ne_and_not_mem_of_not_mem_cons hnil
      obtain ⟨hprepare, hexecute, hclose⟩ := countP_plannedRun query tuple hrun.symm
      obtain ⟨ihprepare, ihexecute, ihclose⟩ := ih hruns
      simp only [List.flatMap_cons, List.countP_append, List.flatten_cons, List.length_append,
        List.length_cons]
      omega

/-- As many statements are planned as there are maximal runs of windows of one width, and as
many executions as there are windows. -/
theorem countP_planned (query tuple : Text) (cut : List (List (List V))) :
    let runs := cut.splitBy fun w w' => w.length == w'.length
    (planned query tuple cut).countP Request.isPrepare = runs.length ∧
      (planned query tuple cut).countP Request.isExecute = cut.length ∧
      (planned query tuple cut).countP Request.isClose = runs.length := by
  intro runs
  have hnil : [] ∉ runs := List.nil_notMem_splitBy _ cut
  have hflatten : runs.flatten = cut := List.flatten_splitBy _ cut
  have hcounts := countP_flatMap_plannedRun query tuple hnil
  rwa [hflatten] at hcounts

/-- A statement is planned for the width of some window. -/
theorem exists_window_of_prepare_mem_planned {query tuple sql : Text}
    {cut : List (List (List V))} (h : .prepare sql ∈ planned query tuple cut) :
    ∃ window ∈ cut, sql = Statement.widen query tuple window.length := by
  obtain ⟨run, hrun, hsql⟩ := List.mem_flatMap.1 h
  rcases run with - | ⟨window, rest⟩
  · cases hsql
  · refine ⟨window, ?_, by simpa [plannedRun] using hsql⟩
    rw [← List.flatten_splitBy (fun w w' => w.length == w'.length) cut]
    exact List.mem_flatten.2 ⟨_, hrun, List.mem_cons_self⟩

/-! ### The windows of rows -/

section

variable {size : Nat} {rows : List (List V)}

/-- Windows of one width are one run. -/
theorem splitBy_of_forall_length {run : List (List (List V))} (hne : run ≠ [])
    (h : ∀ window ∈ run, window.length = size) :
    run.splitBy (fun w w' => w.length == w'.length) = [run] := by
  refine List.splitBy_of_isChain hne (List.Pairwise.isChain ?_)
  refine List.pairwise_of_forall_mem_list fun w hw w' hw' => ?_
  rw [h w hw, h w' hw', beq_self_eq_true]

/-- A window of another width behind a run is a run of its own. -/
theorem splitBy_append_singleton {run : List (List (List V))} {last : List (List V)}
    (hne : run ≠ []) (h : ∀ window ∈ run, window.length = size) (hlast : last.length ≠ size) :
    (run ++ [last]).splitBy (fun w w' => w.length == w'.length) = [run, [last]] := by
  have hwidth : ∀ w ∈ run.getLast?, (w.length == last.length) = false := by
    intro w hw
    rw [h w (List.mem_of_getLast? hw), beq_eq_false_iff_ne]
    exact hlast.symm
  rw [List.splitBy_append_cons [] hwidth, splitBy_of_forall_length hne h]
  rfl

/-- The numbers of full windows and of rows in the last one are those of a division. -/
theorem div_mod_of_windows {full : List (List (List V))} {last : List (List V)}
    (hrows : rows.length = full.length * size + last.length) (hne : last ≠ [])
    (hle : last.length ≤ size) :
    (rows.length - 1) / size = full.length ∧ (rows.length - 1) % size + 1 = last.length := by
  have hpos : 0 < last.length := List.length_pos_iff.2 hne
  have hsplit : rows.length - 1 = (last.length - 1) + full.length * size := by omega
  rw [hsplit, Nat.add_mul_div_right _ _ (by omega), Nat.add_mul_mod_self_right,
    Nat.div_eq_of_lt (by omega), Nat.mod_eq_of_lt (by omega)]
  omega

/-- The windows of rows are one run when all rows fit into one window or into full ones, and
two otherwise. -/
theorem length_splitBy_windows (hsize : 1 ≤ size) (hrows : rows ≠ []) :
    ((windows size rows).splitBy fun w w' => w.length == w'.length).length =
      if rows.length ≤ size ∨ size ∣ rows.length then 1 else 2 := by
  obtain ⟨full, last, hwindows, hfull, hne, hle⟩ := exists_windows_eq_concat hsize hrows
  have hlength := length_of_windows_eq_concat hwindows hfull
  have hpos : 0 < last.length := List.length_pos_iff.2 hne
  have hfits : rows.length ≤ size ↔ full = [] := by
    constructor
    · intro h
      by_contra hfullne
      have hcount := Nat.mul_le_mul_right size (List.length_pos_iff.2 hfullne)
      omega
    · rintro rfl
      simpa [hlength] using hle
  have hdvd : size ∣ rows.length ↔ last.length = size := by
    rw [hlength, Nat.dvd_add_right (Nat.dvd_mul_left size full.length)]
    exact ⟨fun h => Nat.le_antisymm hle (Nat.le_of_dvd hpos h), fun h => h ▸ dvd_rfl⟩
  rw [hwindows]
  split
  · rename_i hone
    rw [hfits, hdvd] at hone
    have hall : ∀ window ∈ full ++ [last], window.length = last.length := by
      rcases hone with rfl | hlast
      · simp
      · simpa [hlast, or_imp, forall_and] using hfull
    rw [splitBy_of_forall_length (by simp) hall]
    rfl
  · rename_i htwo
    rw [hfits, hdvd, not_or] at htwo
    rw [splitBy_append_singleton htwo.1 hfull htwo.2]
    rfl

/-- There are as many windows as batches are needed for the rows. -/
theorem length_windows (hsize : 1 ≤ size) (rows : List (List V)) :
    (windows size rows).length = rows.length ⌈/⌉ size := by
  refine eq_of_forall_ge_iff fun count => ?_
  rw [ceilDiv_le_iff_le_mul hsize, Nat.mul_comm, ← Nat.not_lt, ← Nat.not_lt,
    lt_length_windows_iff hsize]

end

/-! ### The calls of an insertion -/

/-- **How many calls an insertion makes.** When no prepare and no execute fails, there are as
many executions as batches are needed for the rows. Full windows are executed first and then
the rows left over, one at least. One statement is prepared and closed for the full windows,
and one for a last window that is shorter; none is for more rows than there are or than the
batch size admits. -/
theorem insertRows_counts (conn : Connection σ S V) {query tuple : Text} {size : Nat}
    {rows : List (List V)} {s : σ} (htuple : Statement.extractTuple query = .ok tuple)
    (hsize : 1 ≤ size) (hrows : rows ≠ [])
    (hnone : ∀ call ∈ callsOf conn query size rows s, call.failure? = none) :
    let calls := callsOf conn query size rows s
    let statements := if rows.length ≤ size ∨ size ∣ rows.length then 1 else 2
    calls.countP Call.isExecute = rows.length ⌈/⌉ size ∧
      calls.countP Call.isPrepare = statements ∧ calls.countP Call.isClose = statements ∧
      (∃ (full : List (List (List V))) (last : List (List V)), full.flatten ++ last = rows ∧
        executions calls = full.map arguments ++ [arguments last] ∧
        (∀ window ∈ full, window.length = size) ∧
        last.length = (rows.length - 1) % size + 1) ∧
      ∀ sql result, .prepare sql result ∈ calls →
        ∃ width, 1 ≤ width ∧ width ≤ min size rows.length ∧
          sql = Statement.widen query tuple width := by
  intro calls statements
  have hcheck := Statement.check_of_extractTuple htuple
  have hexamine := examine_eq_ok hrows hsize hcheck htuple
  have hplanned : calls.map Call.request = planned query tuple (windows size rows) :=
    ((insertRows_result conn hcheck htuple hsize hrows s).of_no_failure hnone).1
  obtain ⟨hprepares, hexecutes, hcloses⟩ := countP_request calls
  rw [hplanned] at hprepares hexecutes hcloses
  obtain ⟨hprepare, hexecute, hclose⟩ := countP_planned query tuple (windows size rows)
  have hstatements := length_splitBy_windows hsize hrows
  refine ⟨by rw [hexecutes, hexecute, length_windows hsize],
    by rw [hprepares, hprepare, hstatements], by rw [hcloses, hclose, hstatements], ?_, ?_⟩
  · obtain ⟨full, last, hwindows, hfull, hne, hle⟩ := exists_windows_eq_concat hsize hrows
    have hlength := length_of_windows_eq_concat hwindows hfull
    refine ⟨full, last, ?_, ?_, hfull, (div_mod_of_windows hlength hne hle).2.symm⟩
    · rw [← flatten_windows size rows, hwindows, List.flatten_concat]
    · rw [executions_eq_of_no_failure conn hexamine hnone, hwindows, List.map_append]
      rfl
  · intro sql result hmem
    have hrequest : .prepare sql ∈ planned query tuple (windows size rows) :=
      hplanned ▸ List.mem_map_of_mem hmem
    obtain ⟨window, hwindow, rfl⟩ := exists_window_of_prepare_mem_planned hrequest
    have hwidth := length_le_of_mem_windows hsize hwindow
    exact ⟨window.length, List.length_pos_iff.2 (ne_nil_of_mem_windows hwindow), hwidth, rfl⟩

/-- Seven rows in windows of three: two full windows with one statement, and a window of one row
with another. -/
theorem insertRows_counts_seven_by_three :
    let query := "INSERT INTO t VALUES (?)".toList
    let rows := [[1], [2], [3], [4], [5], [6], [7]]
    let start : Recording.Recorder Nat := { plan := {}, tracing := false }
    let calls := callsOf Recording.Recorder.connection query 3 rows start
    Statement.extractTuple query = .ok "(?)".toList ∧
      (∀ call ∈ calls, call.failure? = none) ∧
      calls.countP Call.isExecute = 3 ∧ calls.countP Call.isPrepare = 2 ∧
      calls.countP Call.isClose = 2 ∧ executions calls = [[1, 2, 3], [4, 5, 6], [7]] ∧
      ∀ sql result, .prepare sql result ∈ calls →
        ∃ width, 1 ≤ width ∧ width ≤ 3 ∧ sql = Statement.widen query "(?)".toList width := by
  intro query rows start calls
  have htuple : Statement.extractTuple query = .ok "(?)".toList := by decide
  have hnone : ∀ call ∈ calls, call.failure? = none := by decide +kernel
  obtain ⟨hexecutes, hprepares, hcloses, -, hwidths⟩ :=
    insertRows_counts Recording.Recorder.connection htuple (by decide) (by decide) hnone
  exact ⟨htuple, hnone, hexecutes.trans (by decide), hprepares.trans (by decide),
    hcloses.trans (by decide), by decide +kernel, hwidths⟩

end BulkInsert.Batch
