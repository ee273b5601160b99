import BulkInsert.Proofs.Batch.Calls

/-!
# The result of an insertion

Several calls of one insertion can fail, and the caller sees one result. This module says
which: `insertRows_result`.

## Which failure is reported

A prepare or an execute that fails ends the insertion, so at most one of them fails, and its
error is the result. The close that follows a failing execute has no say. When none of them
fails, the result is that of the last close. The closes before it make room for a statement
of another width; whatever they return, a prepare follows, and the insertion goes on to make
every call that is planned.
-/

namespace BulkInsert.Batch

variable {σ S V : Type}

/-! ### Reading a list of calls -/

deriving instance DecidableEq for Call

/-- What a call asks for. -/
def Call.request : Call S V → Request V
  | prepare sql _ => .prepare sql
  | execute _ arguments _ => .execute arguments
  | close _ _ => .close

/-- The error of a failing prepare or execute. A failing close does not count. -/
def Call.failure? : Call S V → Option InsertError
  | prepare _ (.error error) | execute _ _ (.error error) => some error
  | prepare _ (.ok _) | execute _ _ (.ok _) | close _ _ => none

/-- Whether a call prepares a statement. -/
def Call.isPrepare : Call S V → Bool
  | prepare _ _ => true
  | execute _ _ _ | close _ _ => false

/-- Whether a call closes a statement. -/
def Call.isClose : Call S V → Bool
  | close _ _ => true
  | prepare _ _ | execute _ _ _ => false

/-- `FailsOnce calls error`: exactly one prepare or execute fails, with this error, and all
calls behind it are closes. -/
def FailsOnce (calls : List (Call S V)) (error : InsertError) : Prop :=
  ∃ earlier call later, calls = earlier ++ call :: later ∧ call.failure? = some error ∧
    (∀ other ∈ earlier ++ later, other.failure? = none) ∧ ∀ other ∈ later, other.isClose = true

/-- `EndsInClose calls result`: the last call is a close with this result. -/
def EndsInClose (calls : List (Call S V)) (result : Except InsertError Unit) : Prop :=
  ∃ earlier handle, calls = earlier ++ [.close handle result]

/-- How the calls of an insertion decide its result, where `requests` is what was planned. -/
structure Decides (requests : List (Request V)) (calls : List (Call S V))
    (result : Except InsertError Unit) : Prop where
  /-- When a prepare or an execute fails, no other does, only closes follow it, and its error
  is the result. -/
  of_failure : (∃ call ∈ calls, call.failure?.isSome) →
    ∃ error, FailsOnce calls error ∧ result = .error error
  /-- Otherwise all that was planned is called for, and the result is that of the last
  close. -/
  of_no_failure : (∀ call ∈ calls, call.failure? = none) →
    calls.map Call.request = requests ∧ EndsInClose calls result
  /-- Behind a close stands a prepare, or nothing. -/
  isChain : calls.IsChain fun call next => call.isClose = true → next.isPrepare = true

/-- What is known of the result of calls made so far: the one prepare or execute that fails
gives it, or else the last close, once there is a call. -/
def Tells (calls : List (Call S V)) (result : Except InsertError Unit) : Prop :=
  (∃ error, FailsOnce calls error ∧ result = .error error) ∨
    (∀ call ∈ calls, call.failure? = none) ∧ (calls = [] ∨ EndsInClose calls result)

/-- A call in front that does not fail is one more of the others. -/
theorem FailsOnce.cons {calls : List (Call S V)} {error : InsertError} {call : Call S V}
    (hcall : call.failure? = none) (h : FailsOnce calls error) :
    FailsOnce (call :: calls) error := by
  obtain ⟨earlier, failing, later, rfl, hfailure, hothers, hlater⟩ := h
  refine ⟨call :: earlier, failing, later, rfl, hfailure, ?_, hlater⟩
  rw [List.cons_append, List.forall_mem_cons]
  exact ⟨hcall, hothers⟩

/-- A call in front leaves the last one in its place. -/
theorem EndsInClose.cons {calls : List (Call S V)} {result : Except InsertError Unit}
    (h : EndsInClose calls result) (call : Call S V) : EndsInClose (call :: calls) result := by
  obtain ⟨earlier, handle, rfl⟩ := h
  exact ⟨call :: earlier, handle, rfl⟩

/-- A call that does not fail, in front of others, has no say. -/
theorem Tells.cons {calls : List (Call S V)} {result : Except InsertError Unit}
    {call : Call S V} (hcall : call.failure? = none) (hne : calls ≠ [])
    (h : Tells calls result) : Tells (call :: calls) result := by
  rcases h with ⟨error, hfails, hresult⟩ | ⟨hnone, hends⟩
  · exact .inl ⟨error, hfails.cons hcall, hresult⟩
  · have hends := hends.resolve_left hne
    exact .inr ⟨List.forall_mem_cons.2 ⟨hcall, hnone⟩, .inr (hends.cons call)⟩

/-! ### The calls of a trace -/

section

variable {query tuple : Text} {slot : Slot S} {cut : List (List (List V))}
  {calls : List (Call S V)} {result : Except InsertError Unit}

/-- Something is called unless nothing is left to do. -/
theorem Traced.ne_nil (h : Traced query tuple slot cut calls result)
    (hleft : slot.isSome ∨ cut ≠ []) : calls ≠ [] := by
  cases h with
  | done => simp at hleft
  | _ => simp

/-- The calls of a trace tell its result. -/
theorem Traced.tells (h : Traced query tuple slot cut calls result) : Tells calls result := by
  induction h with
  | done => exact .inr ⟨by simp, .inl rfl⟩
  | @finished c result => exact .inr ⟨by simp [Call.failure?], .inr ⟨[], c.handle, rfl⟩⟩
  | prepareFailed => exact .inl ⟨_, ⟨[], _, [], rfl, rfl, by simp, by simp⟩, rfl⟩
  | prepared htraced ih => exact ih.cons rfl (htraced.ne_nil (.inl rfl))
  | replaced _ htraced ih => exact ih.cons rfl (htraced.ne_nil (.inr (by simp)))
  | executeFailed =>
      exact .inl ⟨_, ⟨[], _, _, rfl, rfl, by simp [Call.failure?], by simp [Call.isClose]⟩, rfl⟩
  | executed _ htraced ih => exact ih.cons rfl (htraced.ne_nil (.inl rfl))

/-- With nothing open the first call is a prepare. -/
theorem Traced.isPrepare_head (h : Traced query tuple (none : Slot S) cut calls result) :
    ∀ call ∈ calls.head?, call.isPrepare = true := by
  cases h with
  | done => simp
  | prepareFailed => simp [Call.isPrepare]
  | prepared => simp [Call.isPrepare]

/-- A close is followed by a prepare, or by nothing. -/
theorem Traced.isChain (h : Traced query tuple slot cut calls result) :
    calls.IsChain fun call next => call.isClose = true → next.isPrepare = true := by
  induction h with
  | done => exact .nil
  | finished => exact .singleton _
  | prepareFailed => exact .singleton _
  | prepared _ ih => exact List.isChain_cons.2 ⟨by simp [Call.isClose], ih⟩
  | replaced _ htraced ih =>
      exact List.isChain_cons.2 ⟨fun next hnext _ => htraced.isPrepare_head next hnext, ih⟩
  | executeFailed => exact List.isChain_pair.2 (by simp [Call.isClose])
  | executed _ _ ih => exact List.isChain_cons.2 ⟨by simp [Call.isClose], ih⟩

end

/-- When no prepare or execute fails, every request is made, whatever the closes return. -/
theorem Served.map_request {held : Option S} {requests : List (Request V)}
    {calls : List (Call S V)} (h : Served held requests calls)
    (hnone : ∀ call ∈ calls, call.failure? = none) : calls.map Call.request = requests := by
  induction h with
  | done => rfl
  | prepared _ ih | executed _ ih | closed _ ih =>
      rw [List.map_cons, ih (List.forall_mem_cons.1 hnone).2]
      rfl
  | prepareFailed => simp [Call.failure?] at hnone
  | executeFailed => simp [Call.failure?] at hnone

/-! ### The calls of an insertion -/

/-- The calls that an insertion makes on its connection, in order. -/
def callsOf (conn : Connection σ S V) (query : Text) (size : Nat) (rows : List (List V))
    (s : σ) : List (Call S V) :=
  (insertRows conn.logged query size rows (s, [])).2.2

/-- An insertion that is not accepted makes no call. -/
theorem callsOf_of_examine_error (conn : Connection σ S V) {query : Text} {size : Nat}
    {rows : List (List V)} {error : InsertError} (h : examine query size rows = .error error)
    (s : σ) : callsOf conn query size rows s = [] := by
  rw [callsOf, insertRows_of_examine_error h]

/-- What an accepted insertion does over the logged connection: it is the insertion itself,
and the calls it adds to the log are a trace of it. -/
theorem exists_traced_insertRows (conn : Connection σ S V) {query tuple : Text} {size : Nat}
    {rows : List (List V)} (h : examine query size rows = .ok tuple) (s : σ) :
    ∃ calls, Traced query tuple none (windows size rows) calls
        (insertRows conn query size rows s).1 ∧
      ∀ log, insertRows conn.logged query size rows (s, log) =
        ((insertRows conn query size rows s).1, (insertRows conn query size rows s).2,
          log ++ calls) := by
  rw [insertRows_of_examine h, insertRows_of_examine h]
  obtain ⟨calls, htraced, hrun⟩ :=
    (runs_insertWindows conn query tuple none (windows size rows) s).traced
  exact ⟨calls, htraced, fun log => (hrun log).eq_insertWindows.symm⟩

/-- The calls of an accepted insertion are a trace of it. -/
theorem traced_callsOf (conn : Connection σ S V) {query tuple : Text} {size : Nat}
    {rows : List (List V)} (h : examine query size rows = .ok tuple) (s : σ) :
    Traced query tuple none (windows size rows) (callsOf conn query size rows s)
      (insertRows conn query size rows s).1 := by
  obtain ⟨calls, htraced, hlogged⟩ := exists_traced_insertRows conn h s
  rw [callsOf, hlogged []]
  exact htraced

/-- The insertion over the logged connection is the insertion itself, and adds its calls to
the log. -/
theorem insertRows_logged (conn : Connection σ S V) (query : Text) (size : Nat)
    (rows : List (List V)) (s : σ) (log : List (Call S V)) :
    insertRows conn.logged query size rows (s, log) =
      ((insertRows conn query size rows s).1, (insertRows conn query size rows s).2,
        log ++ callsOf conn query size rows s) := by
  cases hexamine : examine query size rows with
  | error error =>
      rw [callsOf_of_examine_error conn hexamine, insertRows_of_examine_error hexamine,
        insertRows_of_examine_error hexamine, List.append_nil]
  | ok tuple =>
      obtain ⟨calls, -, hlogged⟩ := exists_traced_insertRows conn hexamine s
      rw [callsOf, hlogged [], hlogged log]
      rfl

/-- **The result of an insertion.** When a prepare or an execute fails, its error is the
result, whatever closes return. Otherwise every planned call is made, and the result is that
of the last close. -/
theorem insertRows_result (conn : Connection σ S V) {query tuple : Text} {size : Nat}
    {rows : List (List V)} (hcheck : Statement.check query = .ok ())
    (htuple : Statement.extractTuple query = .ok tuple) (hsize : 1 ≤ size) (hrows : rows ≠ [])
    (s : σ) :
    Decides (planned query tuple (windows size rows)) (callsOf conn query size rows s)
      (insertRows conn query size rows s).1 := by
  have htraced := traced_callsOf conn (examine_eq_ok hrows hsize hcheck htuple) s
  have hcut : windows size rows ≠ [] := by
    obtain ⟨row, rest, rfl⟩ := List.exists_cons_of_ne_nil hrows
    rw [windows]
    simp
  refine ⟨?_, ?_, htraced.isChain⟩
  · rintro ⟨call, hmem, hfailure⟩
    rcases htraced.tells with hfails | ⟨hnone, -⟩
    · exact hfails
    · rw [hnone call hmem] at hfailure
      simp at hfailure
  · intro hnone
    have hserved : Served none (planned query tuple (windows size rows))
        (callsOf conn query size rows s) := by
      rw [← remaining_none]
      exact htraced.served
    refine ⟨hserved.map_request hnone, ?_⟩
    rcases htraced.tells with ⟨error, hfails, -⟩ | ⟨-, hends⟩
    · obtain ⟨earlier, call, later, hcalls, hfailure, -⟩ := hfails
      have hcall : call.failure? = none := hnone call (by simp [hcalls])
      rw [hcall] at hfailure
      simp at hfailure
    · exact hends.resolve_left (htraced.ne_nil (.inr hcut))

/-- Both closes and the second execute fail, and the error of the execute is the result. -/
theorem insertRows_result_of_three_failures :
    let query := "INSERT INTO t VALUES (?)".toList
    let rows := [[1], [2], [3]]
    let plan : Recording.FailurePlan :=
      { execute := [⟨2, .executionFailed "full".toList⟩]
        close := [⟨1, .executionFailed "busy".toList⟩, ⟨2, .executionFailed "gone".toList⟩] }
    let start : Recording.Recorder Nat := { plan, tracing := false }
    let calls := callsOf Recording.Recorder.connection query 2 rows start
    let result := (insertRows Recording.Recorder.connection query 2 rows start).1
    Statement.check query = .ok () ∧ Statement.extractTuple query = .ok "(?)".toList ∧
      result = .error (.executionFailed "full".toList) ∧
      calls.map Call.request = [.prepare "INSERT INTO t VALUES (?),(?)".toList,
        .execute [1, 2], .close, .prepare query, .execute [3], .close] ∧
      Decides (planned query "(?)".toList (windows 2 rows)) calls result := by
  refine ⟨by decide, by decide, by decide +kernel, by decide +kernel, ?_⟩
  exact insertRows_result _ (by decide) (by decide) (by decide) (by decide) _

end BulkInsert.Batch
