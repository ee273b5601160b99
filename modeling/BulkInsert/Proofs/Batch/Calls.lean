import BulkInsert.Proofs.Batch.Run
import BulkInsert.Proofs.Batch.Windows
import BulkInsert.Recording.Recorder
import Mathlib.Data.List.SplitBy

/-!
# The calls of an insertion

Which calls does an insertion make on its connection? Two answers are compared here. One is
what happens: `Connection.logged` is a connection that, besides, keeps the calls made on it
with their results. The other is what is planned: `planned` lists, for a cut of the rows,
the requests that would be made if none failed, and `Served` says what becomes of a list of
requests when some calls fail.

## Failing calls

A failing prepare is the last call. A failing execute is followed by one close of the open
statement, and that is the last call. A failing close changes nothing. `Served` has one
rule for each of these, and one for each call that succeeds.

The main result is `served_insertRows`: on every connection and from every state, the calls
of an insertion serve what is planned. On the way the states are forgotten: `Traced` relates
a cut of the rows to the calls made for it and to the result, and what holds of all calls is
proved by induction on it.
-/

namespace BulkInsert.Batch

variable {σ S V : Type}

/-- What is asked of a connection; executions and closes are of the open statement. -/
inductive Request (V : Type) where
  | prepare (sql : Text)
  | execute (arguments : List V)
  | close
  deriving DecidableEq, Repr

/-- A call on a connection, with its result. -/
inductive Call (S V : Type) where
  | prepare (sql : Text) (result : Except InsertError S)
  | execute (handle : S) (arguments : List V) (result : Except InsertError Unit)
  | close (handle : S) (result : Except InsertError Unit)

/-- The connection that keeps the calls made on it, in order, beside its state. -/
def Connection.logged (conn : Connection σ S V) : Connection (σ × List (Call S V)) S V where
  prepare sql := fun (s, calls) =>
    let (result, s) := conn.prepare sql s
    (result, s, calls ++ [.prepare sql result])
  execute handle arguments := fun (s, calls) =>
    let (result, s) := conn.execute handle arguments s
    (result, s, calls ++ [.execute handle arguments result])
  close handle := fun (s, calls) =>
    let (result, s) := conn.close handle s
    (result, s, calls ++ [.close handle result])
  notify notice := fun (s, calls) => ((), (conn.notify notice s).2, calls)

/-! ### What is planned -/

/-- The requests for adjacent windows of one width: one prepare, an execution for each
window, one close. -/
def plannedRun (query tuple : Text) : List (List (List V)) → List (Request V)
  | [] => []
  | window :: rest =>
    .prepare (Statement.widen query tuple window.length) ::
      (window :: rest).map (fun w => .execute (arguments w)) ++ [.close]

/-- The requests for a cut of the rows: those for each maximal run of adjacent windows of
one width, one run after the other. -/
def planned (query tuple : Text) (cut : List (List (List V))) : List (Request V) :=
  (cut.splitBy fun w w' => w.length == w'.length).flatMap (plannedRun query tuple)

/-- `Served held requests calls`: on a connection where `held` is the open statement, if
any, `calls` are what becomes of `requests`. -/
inductive Served : Option S → List (Request V) → List (Call S V) → Prop
  | done : Served none [] []
  | prepared {sql : Text} {handle : S} {requests : List (Request V)}
      {calls : List (Call S V)} :
      Served (some handle) requests calls →
      Served none (.prepare sql :: requests) (.prepare sql (.ok handle) :: calls)
  | prepareFailed {sql : Text} {error : InsertError} {requests : List (Request V)} :
      Served none (.prepare sql :: requests) [.prepare sql (.error error)]
  | executed {handle : S} {arguments : List V} {requests : List (Request V)}
      {calls : List (Call S V)} :
      Served (some handle) requests calls →
      Served (some handle) (.execute arguments :: requests)
        (.execute handle arguments (.ok ()) :: calls)
  | executeFailed {handle : S} {arguments : List V} {error : InsertError}
      {result : Except InsertError Unit} {requests : List (Request V)} :
      Served (some handle) (.execute arguments :: requests)
        [.execute handle arguments (.error error), .close handle result]
  | closed {handle : S} {result : Except InsertError Unit} {requests : List (Request V)}
      {calls : List (Call S V)} :
      Served none requests calls →
      Served (some handle) (.close :: requests) (.close handle result :: calls)

/-! ### What is planned, window by window -/

/-- The requests still to be made when a statement of some width may be open. -/
def remaining (query tuple : Text) : Option Nat → List (List (List V)) → List (Request V)
  | none, [] => []
  | some _, [] => [.close]
  | none, window :: rest =>
    .prepare (Statement.widen query tuple window.length) :: .execute (arguments window) ::
      remaining query tuple (some window.length) rest
  | some width, window :: rest =>
    if width = window.length then
      .execute (arguments window) :: remaining query tuple (some width) rest
    else
      .close :: .prepare (Statement.widen query tuple window.length) ::
        .execute (arguments window) :: remaining query tuple (some window.length) rest

/-- In front of a window of another width, or of no window at all, the open statement is
closed and the rest is as without it. -/
theorem remaining_some_of_head {query tuple : Text} {width : Nat}
    {cut : List (List (List V))} (h : ∀ window ∈ cut.head?, window.length ≠ width) :
    remaining query tuple (some width) cut = .close :: remaining query tuple none cut := by
  cases cut with
  | nil => rfl
  | cons window rest =>
      have hne : width ≠ window.length := (h window rfl).symm
      simp only [remaining, if_neg hne]

/-- Windows of the width of the open statement are executed with it. -/
theorem remaining_append {query tuple : Text} {width : Nat} {run : List (List (List V))}
    (h : ∀ window ∈ run, window.length = width) (cut : List (List (List V))) :
    remaining query tuple (some width) (run ++ cut) =
      run.map (fun w => .execute (arguments w)) ++ remaining query tuple (some width) cut := by
  induction run with
  | nil => rfl
  | cons window run ih =>
      have hw : width = window.length := (h window (by simp)).symm
      rw [List.cons_append, remaining, if_pos hw, ih fun w hmem => h w (by simp [hmem])]
      rfl

/-- Adjacent windows of one width each have the width of the first. -/
theorem length_eq_of_isChain {window : List (List V)} {run : List (List (List V))}
    (h : (window :: run).IsChain fun w w' => w.length == w'.length) :
    ∀ w ∈ run, w.length = window.length := by
  induction run generalizing window with
  | nil => simp
  | cons next run ih =>
      obtain ⟨heq, hrun⟩ := List.isChain_cons_cons.1 h
      have hnext : next.length = window.length := (beq_iff_eq.1 heq).symm
      intro w hmem
      rcases List.mem_cons.1 hmem with rfl | hmem
      · exact hnext
      · exact (ih hrun w hmem).trans hnext

/-- The first window behind a maximal run has another width than the run. -/
theorem length_ne_of_isChain {window : List (List V)} {run : List (List (List V))}
    {runs : List (List (List (List V)))}
    (hrun : ∀ w ∈ run, w.length = window.length)
    (hmax : ((window :: run) :: runs).IsChain fun r r' =>
      ∃ hr hr', ((r.getLast hr).length == (r'.head hr').length) = false) :
    ∀ w ∈ runs.flatten.head?, w.length ≠ window.length := by
  cases runs with
  | nil => simp
  | cons next runs =>
      obtain ⟨⟨hr, hr', hlen⟩, -⟩ := List.isChain_cons_cons.1 hmax
      have hlast : ((window :: run).getLast hr).length = window.length := by
        rcases List.mem_cons.1 (List.getLast_mem hr) with h | h
        · rw [h]
        · exact hrun _ h
      obtain ⟨first, next, rfl⟩ := List.exists_cons_of_ne_nil hr'
      rw [hlast, List.head_cons, beq_eq_false_iff_ne] at hlen
      intro w hw
      obtain rfl : first = w := by simpa using hw
      exact hlen.symm

/-- Maximal runs are planned one after the other. -/
theorem remaining_none_flatten {query tuple : Text} {runs : List (List (List (List V)))}
    (hne : [] ∉ runs) (hrun : ∀ run ∈ runs, run.IsChain fun w w' => w.length == w'.length)
    (hmax : runs.IsChain fun run run' =>
      ∃ hr hr', ((run.getLast hr).length == (run'.head hr').length) = false) :
    remaining query tuple none runs.flatten = runs.flatMap (plannedRun query tuple) := by
  induction runs with
  | nil => rfl
  | cons run runs ih =>
      obtain ⟨window, run, rfl⟩ : ∃ w r, run = w :: r :=
        List.exists_cons_of_ne_nil fun h => hne (by simp [h])
      have hwidth := length_eq_of_isChain (hrun _ List.mem_cons_self)
      have hhead := length_ne_of_isChain hwidth hmax
      have htail := ih (fun h => hne (List.mem_cons_of_mem _ h))
        (fun r hr => hrun r (List.mem_cons_of_mem _ hr)) hmax.tail
      rw [List.flatten_cons, List.cons_append, remaining, remaining_append hwidth,
        remaining_some_of_head hhead, htail]
      simp [plannedRun]

/-- With nothing open, all that is planned remains to be made. -/
theorem remaining_none (query tuple : Text) (cut : List (List (List V))) :
    remaining query tuple none cut = planned query tuple cut := by
  have key : remaining query tuple none _ = planned query tuple cut :=
    remaining_none_flatten (List.nil_notMem_splitBy _ cut)
      (fun _ => List.isChain_of_mem_splitBy)
      (List.isChain_getLast_head_splitBy (fun w w' => w.length == w'.length) cut)
  rwa [List.flatten_splitBy] at key

/-! ### What is served -/

/-- A close over a logged connection leaves one call in the log. -/
theorem Cached.close_logged (conn : Connection σ S V) (c : Cached S) (s : σ)
    (log : List (Call S V)) :
    c.close conn.logged (s, log) =
      ((c.close conn s).1, (c.close conn s).2,
        log ++ [.close c.handle (c.close conn s).1]) := rfl

/-- An execution over a logged connection leaves one call in the log. -/
theorem executeWindow_logged (conn : Connection σ S V) (c : Cached S)
    (window : List (List V)) (s : σ) (log : List (Call S V)) :
    executeWindow conn.logged c window (s, log) =
      ((executeWindow conn c window s).1, (executeWindow conn c window s).2,
        log ++ [.execute c.handle (arguments window) (executeWindow conn c window s).1]) := rfl

/-- A prepare over a logged connection leaves one call in the log. -/
theorem prepareWidth_logged (conn : Connection σ S V) (query tuple : Text) (width : Nat)
    (s : σ) (log : List (Call S V)) :
    prepareWidth conn.logged query tuple width (s, log) =
      ((prepareWidth conn query tuple width s).1, (prepareWidth conn query tuple width s).2,
        log ++ [.prepare (Statement.widen query tuple width)
          (prepareWidth conn query tuple width s).1]) := rfl

/-- `Logs P run logged`: from every state and log, `logged` does what `run` does and adds
calls to the log for which `P` holds. -/
def Logs {α : Type} (P : List (Call S V) → Prop) (run : StateM σ α)
    (logged : StateM (σ × List (Call S V)) α) : Prop :=
  ∀ s log, ∃ calls, logged (s, log) = ((run s).1, (run s).2, log ++ calls) ∧ P calls

/-- `Traced query tuple slot cut calls result`: what can be seen on a connection of the loop
over the windows in `cut`, begun with `slot`. It makes these calls and ends with this
result. There is a rule for each rule of `Runs`, with the states left out. -/
inductive Traced (query tuple : Text) :
    Slot S → List (List (List V)) → List (Call S V) → Except InsertError Unit → Prop
  | done : Traced query tuple none [] [] (.ok ())
  | finished {c : Cached S} {result : Except InsertError Unit} :
      Traced query tuple (some c) [] [.close c.handle result] result
  | prepareFailed {window : List (List V)} {rest : List (List (List V))}
      {error : InsertError} :
      Traced query tuple none (window :: rest)
        [.prepare (Statement.widen query tuple window.length) (.error error)] (.error error)
  | prepared {window : List (List V)} {rest : List (List (List V))} {handle : S}
      {calls : List (Call S V)} {result : Except InsertError Unit} :
      Traced query tuple (some ⟨window.length, handle⟩) (window :: rest) calls result →
      Traced query tuple none (window :: rest)
        (.prepare (Statement.widen query tuple window.length) (.ok handle) :: calls) result
  | replaced {c : Cached S} {window : List (List V)} {rest : List (List (List V))}
      {closed : Except InsertError Unit} {calls : List (Call S V)}
      {result : Except InsertError Unit} :
      c.width ≠ window.length →
      Traced query tuple none (window :: rest) calls result →
      Traced query tuple (some c) (window :: rest) (.close c.handle closed :: calls) result
  | executeFailed {c : Cached S} {window : List (List V)} {rest : List (List (List V))}
      {error : InsertError} {closed : Except InsertError Unit} :
      c.width = window.length →
      Traced query tuple (some c) (window :: rest)
        [.execute c.handle (arguments window) (.error error), .close c.handle closed]
        (.error error)
  | executed {c : Cached S} {window : List (List V)} {rest : List (List (List V))}
      {calls : List (Call S V)} {result : Except InsertError Unit} :
      c.width = window.length →
      Traced query tuple (some c) rest calls result →
      Traced query tuple (some c) (window :: rest)
        (.execute c.handle (arguments window) (.ok ()) :: calls) result

/-- The run over the logged connection is the run itself, whatever the log, and the calls it
adds are a trace of it. -/
theorem Runs.traced {conn : Connection σ S V} {query tuple : Text} {slot : Slot S}
    {cut : List (List (List V))} {s : σ} {out : Except InsertError Unit × σ}
    (h : Runs conn query tuple slot cut s out) :
    ∃ calls, Traced query tuple slot cut calls out.1 ∧
      ∀ log, Runs conn.logged query tuple slot cut (s, log) (out.1, out.2, log ++ calls) := by
  induction h with
  | done =>
      refine ⟨[], .done, fun log => ?_⟩
      rw [List.append_nil]
      exact .done
  | @finished c s =>
      refine ⟨[.close c.handle (c.close conn s).1], .finished, fun log => ?_⟩
      rw [← Cached.close_logged]
      exact .finished
  | @prepareFailed window rest s s' error hprep =>
      refine ⟨_, .prepareFailed, fun log => ?_⟩
      exact .prepareFailed (by rw [prepareWidth_logged, hprep])
  | @prepared window rest s s' handle out hprep _ ih =>
      obtain ⟨calls, htraced, hrun⟩ := ih
      refine ⟨_, .prepared htraced, fun log => ?_⟩
      have hrest := hrun
        (log ++ [.prepare (Statement.widen query tuple window.length) (.ok handle)])
      rw [List.append_assoc, List.singleton_append] at hrest
      exact .prepared (by rw [prepareWidth_logged, hprep]) hrest
  | @replaced c window rest s out hw _ ih =>
      obtain ⟨calls, htraced, hrun⟩ := ih
      refine ⟨.close c.handle (c.close conn s).1 :: calls, .replaced hw htraced, fun log => ?_⟩
      have hrest := hrun (log ++ [.close c.handle (c.close conn s).1])
      rw [List.append_assoc, List.singleton_append] at hrest
      refine .replaced hw ?_
      rw [Cached.close_logged]
      exact hrest
  | @executeFailed c window rest s s' error hw hexec =>
      refine ⟨[.execute c.handle (arguments window) (.error error),
        .close c.handle (c.close conn s').1], .executeFailed hw, fun log => ?_⟩
      have hlogged : executeWindow conn.logged c window (s, log) =
          (.error error, s', log ++ [.execute c.handle (arguments window) (.error error)]) := by
        rw [executeWindow_logged, hexec]
      simpa only [Cached.close_logged, List.append_assoc, List.singleton_append] using
        Runs.executeFailed hw hlogged
  | @executed c window rest s s' out hw hexec _ ih =>
      obtain ⟨calls, htraced, hrun⟩ := ih
      refine ⟨_, .executed hw htraced, fun log => ?_⟩
      have hrest := hrun (log ++ [.execute c.handle (arguments window) (.ok ())])
      rw [List.append_assoc, List.singleton_append] at hrest
      exact .executed hw (by rw [executeWindow_logged, hexec]) hrest

/-- The calls of a trace serve what remains to be made. -/
theorem Traced.served {query tuple : Text} {slot : Slot S} {cut : List (List (List V))}
    {calls : List (Call S V)} {result : Except InsertError Unit}
    (h : Traced query tuple slot cut calls result) :
    Served (slot.map Cached.handle) (remaining query tuple (slot.map Cached.width) cut)
      calls := by
  induction h with
  | done => exact .done
  | finished => exact .closed .done
  | prepareFailed => exact .prepareFailed
  | prepared _ ih =>
      simp only [Option.map_some, remaining, if_true] at ih
      exact .prepared ih
  | @replaced c window rest closed calls result hw _ ih =>
      have hhead : ∀ w ∈ (window :: rest).head?, w.length ≠ c.width := by simpa using hw.symm
      rw [Option.map_some, Option.map_some, remaining_some_of_head hhead]
      exact .closed ih
  | executeFailed hw => simpa only [Option.map_some, remaining, if_pos hw] using .executeFailed
  | executed hw _ ih => simpa only [Option.map_some, remaining, if_pos hw] using .executed ih

/-- The run over the logged connection is the run itself, and its calls serve what remains
to be made. -/
theorem Runs.logged {conn : Connection σ S V} {query tuple : Text} {slot : Slot S}
    {cut : List (List (List V))} {s : σ} {out : Except InsertError Unit × σ}
    (h : Runs conn query tuple slot cut s out) (log : List (Call S V)) :
    ∃ calls, Runs conn.logged query tuple slot cut (s, log) (out.1, out.2, log ++ calls) ∧
      Served (slot.map Cached.handle) (remaining query tuple (slot.map Cached.width) cut)
        calls := by
  obtain ⟨calls, htraced, hrun⟩ := h.traced
  exact ⟨calls, hrun log, htraced.served⟩

/-- **The calls of an insertion.** On every connection and from every state, the calls that
an accepted insertion makes serve what is planned for the cut of its rows: they are the
planned ones up to the first failing prepare or execute, and behind a failing execute the
open statement is closed. -/
theorem served_insertRows (conn : Connection σ S V) {query tuple : Text} {size : Nat}
    {rows : List (List V)} {cut : List (List (List V))}
    (hcheck : Statement.check query = .ok ()) (htuple : Statement.extractTuple query = .ok tuple)
    (hsize : 1 ≤ size) (hrows : rows ≠ []) (hcut : IsCut size rows cut) :
    Logs (Served none (planned query tuple cut)) (insertRows conn query size rows)
      (insertRows conn.logged query size rows) := by
  have hexamine := examine_eq_ok hrows hsize hcheck htuple
  rw [insertRows_of_examine hexamine, insertRows_of_examine hexamine,
    ← hcut.eq_windows hsize, ← remaining_none]
  intro s log
  obtain ⟨calls, hrun, hserved⟩ := (runs_insertWindows conn query tuple none cut s).logged log
  exact ⟨calls, hrun.eq_insertWindows.symm, hserved⟩

/-- Three rows in windows of two, over a recorder: two statements are planned. -/
theorem served_insertRows_three_by_two :
    let query := "INSERT INTO t VALUES (?)".toList
    let cut : List (List (List Nat)) := [[[1], [2]], [[3]]]
    Statement.check query = .ok () ∧ Statement.extractTuple query = .ok "(?)".toList ∧
      IsCut 2 [[1], [2], [3]] cut ∧
      planned query "(?)".toList cut =
        [.prepare "INSERT INTO t VALUES (?),(?)".toList, .execute [1, 2], .close,
          .prepare "INSERT INTO t VALUES (?)".toList, .execute [3], .close] ∧
      Logs (Served none (planned query "(?)".toList cut))
        (insertRows Recording.Recorder.connection query 2 [[1], [2], [3]])
        (insertRows Recording.Recorder.connection.logged query 2 [[1], [2], [3]]) := by
  have hcut : IsCut 2 [[1], [2], [3]] [[[1], [2]], [[3]]] :=
    .full (show [[1], [2]].length = 2 from rfl) (.last (by simp) (by simp))
  exact ⟨by decide, by decide, hcut, by decide,
    served_insertRows _ (by decide) (by decide) (by decide) (by simp) hcut⟩

end BulkInsert.Batch
