import BulkInsert.Proofs.Batch.Outcome

/-!
# How far an insertion comes

The executions that succeed are those of the first windows, in order and with the arguments
of their windows: `Traced.executions_prefix`. They are all of them unless a prepare or an
execute fails: `Traced.exists_failure_iff`. As only the last window can be shorter, an
insertion that fails after `k` executions has inserted the first `k * size` rows, and no
other. Whoever inserts the remaining rows, in windows of any size, has then inserted every
row once and in order: `insertRows_resume`.
-/

namespace BulkInsert.Batch

variable {σ S V : Type}

/-- The arguments of an execution that succeeds. -/
def Call.executed? : Call S V → Option (List V)
  | execute _ arguments (.ok _) => some arguments
  | execute _ _ (.error _) | prepare _ _ | close _ _ => none

/-- The arguments of the executions that succeed, one list for each, in order. -/
def executions (calls : List (Call S V)) : List (List V) := calls.filterMap Call.executed?

/-- An execution that succeeds is one more. -/
theorem executions_cons_ok (handle : S) (arguments : List V) (u : Unit)
    (calls : List (Call S V)) :
    executions (.execute handle arguments (.ok u) :: calls) = arguments :: executions calls :=
  rfl

/-- Any other call in front does not count. -/
theorem executions_cons_of_none {call : Call S V} (h : call.executed? = none)
    (calls : List (Call S V)) : executions (call :: calls) = executions calls :=
  List.filterMap_cons_none h

/-! ### The executions of a trace -/

section

variable {query tuple : Text} {slot : Slot S} {cut : List (List (List V))}
  {calls : List (Call S V)} {result : Except InsertError Unit}

/-- The windows executed are the first ones, each with its own arguments. -/
theorem Traced.executions_prefix (h : Traced query tuple slot cut calls result) :
    executions calls <+: cut.map arguments := by
  induction h with
  | done | finished | prepareFailed | executeFailed => exact List.nil_prefix
  | prepared _ ih | replaced _ _ ih => exact ih
  | executed _ _ ih =>
      rw [executions_cons_ok, List.map_cons, List.prefix_cons_inj]
      exact ih

/-- A prepare or an execute fails exactly when some window is not executed. -/
theorem Traced.exists_failure_iff (h : Traced query tuple slot cut calls result) :
    (∃ call ∈ calls, call.failure?.isSome) ↔ (executions calls).length < cut.length := by
  induction h with
  | done => simp
  | finished => simp [Call.failure?]
  | prepareFailed =>
      rw [executions_cons_of_none rfl]
      simp [Call.failure?, executions]
  | executeFailed =>
      rw [executions_cons_of_none rfl, executions_cons_of_none rfl]
      simp [Call.failure?, executions]
  | prepared _ ih | replaced _ _ ih =>
      rw [List.exists_mem_cons_iff, executions_cons_of_none rfl, ih]
      simp [Call.failure?]
  | executed _ _ ih =>
      rw [List.exists_mem_cons_iff, executions_cons_ok, List.length_cons, List.length_cons,
        Nat.succ_lt_succ_iff, ih]
      simp [Call.failure?]

end

/-! ### The rows of an insertion -/

section

variable {query tuple : Text} {size : Nat} {rows : List (List V)}

/-- The arguments for several windows are the values of all their rows. -/
theorem flatten_map_arguments (cut : List (List (List V))) :
    (cut.map arguments).flatten = arguments cut.flatten :=
  List.flatten_flatten.symm

/-- What is executed are the values of the rows in front. -/
theorem flatten_executions (conn : Connection σ S V)
    (h : examine query size rows = .ok tuple) (s : σ) :
    (executions (callsOf conn query size rows s)).flatten =
      arguments (rows.take ((executions (callsOf conn query size rows s)).length * size)) := by
  obtain ⟨hsize, -⟩ := of_examine_eq_ok h
  have htraced := traced_callsOf conn h s
  have htake := List.prefix_iff_eq_take.1 htraced.executions_prefix
  generalize executions (callsOf conn query size rows s) = done at htake ⊢
  rw [← List.map_take] at htake
  calc done.flatten = (((windows size rows).take done.length).map arguments).flatten := by
        rw [← htake]
    _ = arguments (rows.take (done.length * size)) := by
        rw [flatten_map_arguments, flatten_take_windows hsize]

/-- Unless a prepare or an execute fails, every window is executed. -/
theorem executions_eq_of_no_failure (conn : Connection σ S V)
    (h : examine query size rows = .ok tuple) {s : σ}
    (hnone : ∀ call ∈ callsOf conn query size rows s, call.failure? = none) :
    executions (callsOf conn query size rows s) = (windows size rows).map arguments := by
  have htraced := traced_callsOf conn h s
  refine htraced.executions_prefix.eq_of_length_le ?_
  rw [List.length_map, ← Nat.not_lt, ← htraced.exists_failure_iff]
  rintro ⟨call, hmem, hfailure⟩
  rw [hnone call hmem] at hfailure
  simp at hfailure

/-- In an insertion that succeeds, no prepare or execute fails. -/
theorem failure?_eq_none_of_ok (conn : Connection σ S V)
    (h : examine query size rows = .ok tuple) {s : σ}
    (hok : (insertRows conn query size rows s).1 = .ok ()) :
    ∀ call ∈ callsOf conn query size rows s, call.failure? = none := by
  have htraced := traced_callsOf conn h s
  rcases htraced.tells with ⟨error, -, hresult⟩ | ⟨hnone, -⟩
  · rw [hok] at hresult
    cases hresult
  · exact hnone

/-- An insertion that succeeds has executed all its rows, whatever its batch size. -/
theorem flatten_executions_of_ok (conn : Connection σ S V) {s : σ}
    (hok : (insertRows conn query size rows s).1 = .ok ()) :
    (executions (callsOf conn query size rows s)).flatten = arguments rows := by
  cases hexamine : examine query size rows with
  | error error =>
      rw [insertRows_of_examine_error hexamine] at hok
      cases hok
  | ok tuple =>
      rw [executions_eq_of_no_failure conn hexamine (failure?_eq_none_of_ok conn hexamine hok),
        flatten_map_arguments, flatten_windows]

end

/-- **No row is lost, repeated or moved.** An insertion that fails in a prepare or an execute
has executed full windows only, and these are the rows in front; when the rows left are then
inserted with success, over any connection and with any batch size, the two have executed
all rows in order. An insertion that succeeds, or that fails in its last close only, has
executed every window. -/
theorem insertRows_resume {σ' S' : Type} (conn : Connection σ S V) (query : Text) (size : Nat)
    (rows : List (List V)) (s : σ) (conn' : Connection σ' S' V) (size' : Nat) (s' : σ') :
    let calls := callsOf conn query size rows s
    let result := (insertRows conn query size rows s).1
    let inserted := (executions calls).length * size
    let calls' := callsOf conn' query size' (rows.drop inserted) s'
    let result' := (insertRows conn' query size' (rows.drop inserted) s').1
    ((∃ call ∈ calls, call.failure?.isSome) →
      inserted < rows.length ∧ (executions calls).flatten = arguments (rows.take inserted) ∧
        (result' = .ok () →
          (executions calls).flatten ++ (executions calls').flatten = arguments rows)) ∧
    ((result = .ok () ∨
        (∀ call ∈ calls, call.failure? = none) ∧ ∃ error, EndsInClose calls (.error error)) →
      executions calls = (windows size rows).map arguments ∧
        (executions calls).flatten = arguments rows) := by
  intro calls result inserted calls' result'
  cases hexamine : examine query size rows with
  | error error =>
      have hcalls : calls = [] := callsOf_of_examine_error conn hexamine s
      have hresult : result = .error error := by
        simp only [result, insertRows_of_examine_error hexamine]
      refine ⟨by simp [hcalls], ?_⟩
      rintro (hok | ⟨-, _, earlier, handle, hends⟩)
      · rw [hresult] at hok
        cases hok
      · simp [hcalls] at hends
  | ok tuple =>
      obtain ⟨hsize, -⟩ := of_examine_eq_ok hexamine
      have htraced := traced_callsOf conn hexamine s
      have hfront := flatten_executions conn hexamine s
      refine ⟨?_, ?_⟩
      · intro hfailure
        refine ⟨(lt_length_windows_iff hsize rows _).1 (htraced.exists_failure_iff.1 hfailure),
          hfront, ?_⟩
        intro hok
        rw [hfront, flatten_executions_of_ok conn' hok, arguments, arguments, arguments,
          ← List.flatten_append, List.take_append_drop]
      · intro hdone
        have hnone : ∀ call ∈ calls, call.failure? = none := by
          rcases hdone with hok | ⟨hnone, -⟩
          · exact failure?_eq_none_of_ok conn hexamine hok
          · exact hnone
        have hall := executions_eq_of_no_failure conn hexamine hnone
        exact ⟨hall, by rw [hall, flatten_map_arguments, flatten_windows]⟩

/-- Five rows in windows of two, where the second execute fails: two rows are inserted, and
the other three can be inserted one by one. -/
theorem insertRows_resume_after_second_window :
    let query := "INSERT INTO t VALUES (?)".toList
    let rows := [[1], [2], [3], [4], [5]]
    let failing : Recording.Recorder Nat :=
      { plan := { execute := [⟨2, .executionFailed "full".toList⟩] }, tracing := false }
    let working : Recording.Recorder Nat := { plan := {}, tracing := false }
    let calls := callsOf Recording.Recorder.connection query 2 rows failing
    let left := rows.drop ((executions calls).length * 2)
    let calls' := callsOf Recording.Recorder.connection query 1 left working
    (∃ call ∈ calls, call.failure?.isSome) ∧ executions calls = [[1, 2]] ∧
      (insertRows Recording.Recorder.connection query 1 left working).1 = .ok () ∧
      (executions calls).flatten ++ (executions calls').flatten = arguments rows := by
  intro query rows failing working calls left calls'
  have hfailure : ∃ call ∈ calls, call.failure?.isSome := by decide +kernel
  have hok : (insertRows Recording.Recorder.connection query 1 left working).1 = .ok () := by
    decide +kernel
  obtain ⟨hresume, -⟩ := insertRows_resume Recording.Recorder.connection query 2 rows failing
    Recording.Recorder.connection 1 working
  exact ⟨hfailure, by decide +kernel, hok, (hresume hfailure).2.2 hok⟩

end BulkInsert.Batch
