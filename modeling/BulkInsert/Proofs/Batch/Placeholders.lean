import BulkInsert.Proofs.Batch.Progress
import BulkInsert.Proofs.Statement.Widening

/-!
# Arguments and placeholders

The text of a statement and the arguments it is executed with are made apart: the text when
the statement is prepared, by repeating the tuple, and the arguments for each window anew.
They fit together. When the placeholders of a query all stand in its tuple and every row has
a value for each, every execution has as many arguments as the text of its statement has
placeholders, and each value stands at the place of its row and column:
`insertRows_placeholders`.

Behind this is what `Traced.exists_window` says of any trace: a window is executed with a
statement that was prepared for its width, and since then nothing but executions happened.
-/

namespace BulkInsert.Batch

variable {σ S V : Type}

/-- Whether all calls are successful executions of one statement. -/
def OnlyExecuted (handle : S) (calls : List (Call S V)) : Prop :=
  ∀ call ∈ calls, ∃ arguments, call = .execute handle arguments (.ok ())

/-- `OpenedFrom sql handle calls`: after these calls the statement that `handle` stands for is
open, and it was prepared from `sql`. -/
def OpenedFrom (sql : Text) (handle : S) (calls : List (Call S V)) : Prop :=
  ∃ before between, calls = before ++ .prepare sql (.ok handle) :: between ∧
    OnlyExecuted handle between

/-- What happened before does not matter to the statement that is open. -/
theorem OpenedFrom.cons {sql : Text} {handle : S} {calls : List (Call S V)}
    (h : OpenedFrom sql handle calls) (call : Call S V) :
    OpenedFrom sql handle (call :: calls) := by
  obtain ⟨before, between, rfl, honly⟩ := h
  exact ⟨call :: before, between, rfl, honly⟩

/-! ### The executions of a trace -/

section

variable {query tuple : Text} {slot : Slot S} {cut : List (List (List V))}
  {calls earlier later : List (Call S V)} {result executed : Except InsertError Unit}
  {handle : S} {args : List V}

/-- The statement of an execution has the width of its window: it is the one in the slot, or
it was prepared on the way. -/
theorem Traced.exists_window (h : Traced query tuple slot cut calls result)
    (hcalls : calls = earlier ++ .execute handle args executed :: later) :
    ∃ window, cut[(executions earlier).length]? = some window ∧ args = arguments window ∧
      (slot = some ⟨window.length, handle⟩ ∧ OnlyExecuted handle earlier ∨
        OpenedFrom (Statement.widen query tuple window.length) handle earlier) := by
  induction h generalizing earlier with
  | done => simp at hcalls
  | finished | prepareFailed => rcases earlier with - | ⟨call, earlier⟩ <;> simp at hcalls
  | @prepared window rest handle' calls result _ ih =>
      rcases earlier with - | ⟨call, earlier⟩
      · simp at hcalls
      · obtain ⟨rfl, hrest⟩ := List.cons.inj hcalls
        obtain ⟨window', hwindow, hargs, ⟨hslot, honly⟩ | hopened⟩ := ih hrest
        · obtain ⟨hwidth, rfl⟩ := Cached.mk.inj (Option.some.inj hslot)
          refine ⟨window', hwindow, hargs, .inr ⟨[], earlier, ?_, honly⟩⟩
          rw [hwidth, List.nil_append]
        · exact ⟨window', hwindow, hargs, .inr (hopened.cons _)⟩
  | replaced _ _ ih =>
      rcases earlier with - | ⟨call, earlier⟩
      · simp at hcalls
      · obtain ⟨rfl, hrest⟩ := List.cons.inj hcalls
        obtain ⟨window', hwindow, hargs, ⟨hslot, -⟩ | hopened⟩ := ih hrest
        · cases hslot
        · exact ⟨window', hwindow, hargs, .inr (hopened.cons _)⟩
  | @executeFailed c window rest error closed hw =>
      rcases earlier with - | ⟨call, - | ⟨call', earlier⟩⟩
      · obtain ⟨rfl, rfl, -⟩ := Call.execute.inj (List.cons.inj hcalls).1
        exact ⟨window, rfl, rfl, .inl ⟨by rw [← hw], fun _ h => absurd h List.not_mem_nil⟩⟩
      · simp at hcalls
      · simp at hcalls
  | @executed c window rest calls result hw _ ih =>
      rcases earlier with - | ⟨call, earlier⟩
      · obtain ⟨rfl, rfl, -⟩ := Call.execute.inj (List.cons.inj hcalls).1
        exact ⟨window, rfl, rfl, .inl ⟨by rw [← hw], fun _ h => absurd h List.not_mem_nil⟩⟩
      · obtain ⟨rfl, hrest⟩ := List.cons.inj hcalls
        obtain ⟨window', hwindow, hargs, ⟨hslot, honly⟩ | hopened⟩ := ih hrest
        · refine ⟨window', hwindow, hargs, .inl ⟨hslot, ?_⟩⟩
          obtain rfl := Option.some.inj hslot
          exact List.forall_mem_cons.2 ⟨⟨_, rfl⟩, honly⟩
        · exact ⟨window', hwindow, hargs, .inr (hopened.cons _)⟩

end

/-- When all placeholders of a statement stand in its tuple, those of the widened statement
stand in the copies. -/
theorem count_widen {query tuple : Text} {c : Char}
    (htuple : Statement.extractTuple query = .ok tuple) (hc : c ≠ ',')
    (hquery : query.count c = tuple.count c) (count : Nat) :
    (Statement.widen query tuple count).count c = count * tuple.count c := by
  obtain ⟨before, after, rfl, hwiden⟩ := Statement.exists_widen_eq htuple
  rw [List.count_append, List.count_append] at hquery
  rw [hwiden, List.count_append, List.count_append, Statement.count_copies hc]
  omega

/-- **Arguments fill placeholders.** When all placeholders of an accepted query stand in its
tuple and every row has as many values, each execution, successful or not, has as many
arguments as there are placeholders in the text its statement was prepared from, and the
values of its window stand among them row after row. -/
theorem insertRows_placeholders (conn : Connection σ S V) {query tuple : Text} {size : Nat}
    {rows : List (List V)} (htuple : Statement.extractTuple query = .ok tuple)
    (hquery : query.count '?' = tuple.count '?')
    (hrows : ∀ row ∈ rows, row.length = tuple.count '?') (s : σ) {n : Nat} {handle : S}
    {args : List V} {executed : Except InsertError Unit}
    (hcall : (callsOf conn query size rows s)[n]? = some (.execute handle args executed)) :
    let earlier := (callsOf conn query size rows s).take n
    let window := (rows.drop ((executions earlier).length * size)).take size
    (∃ sql, OpenedFrom sql handle earlier ∧ args.length = sql.count '?') ∧
      ∀ i j row, window[i]? = some row → j < tuple.count '?' →
        args[i * tuple.count '?' + j]? = row[j]? := by
  intro earlier window
  cases hexamine : examine query size rows with
  | error error =>
      rw [callsOf_of_examine_error conn hexamine] at hcall
      simp at hcall
  | ok tuple' =>
      obtain ⟨hsize, htuple'⟩ := of_examine_eq_ok hexamine
      obtain rfl : tuple' = tuple := Except.ok.inj (htuple'.symm.trans htuple)
      have htraced := traced_callsOf conn hexamine s
      obtain ⟨hn, hget⟩ := List.getElem?_eq_some_iff.1 hcall
      have hcalls : callsOf conn query size rows s = earlier ++
          .execute handle args executed :: (callsOf conn query size rows s).drop (n + 1) := by
        rw [← hget, List.getElem_cons_drop, List.take_append_drop]
      obtain ⟨window', hwindow, rfl, ⟨hslot, -⟩ | hopened⟩ := htraced.exists_window hcalls
      · cases hslot
      · obtain rfl : window' = window := eq_of_getElem?_windows hwindow hsize
        have hwidth : ∀ row ∈ window, row.length = tuple'.count '?' := fun row hrow =>
          hrows row (List.mem_of_mem_drop (List.mem_of_mem_take hrow))
        refine ⟨⟨_, hopened, ?_⟩, fun i j row hi hj => getElem?_arguments hwidth hi hj⟩
        rw [length_arguments hwidth, count_widen htuple (by decide) hquery]

/-- Three rows of two values in windows of two: the fifth call executes the shorter window
with a statement of its own, and fails. -/
theorem insertRows_placeholders_of_short_window :
    let query := "INSERT INTO t VALUES (?,?)".toList
    let rows := [[1, 2], [3, 4], [5, 6]]
    let start : Recording.Recorder Nat :=
      { plan := { execute := [⟨2, .executionFailed "full".toList⟩] }, tracing := false }
    let calls := callsOf Recording.Recorder.connection query 2 rows start
    Statement.extractTuple query = .ok "(?,?)".toList ∧ query.count '?' = 2 ∧
      "(?,?)".toList.count '?' = 2 ∧ (∀ row ∈ rows, row.length = 2) ∧
      calls[4]? = some (.execute 2 [5, 6] (.error (.executionFailed "full".toList))) ∧
      (∃ sql, OpenedFrom sql 2 (calls.take 4) ∧ 2 = sql.count '?') ∧
      ∀ i j row, ((rows.drop ((executions (calls.take 4)).length * 2)).take 2)[i]? = some row →
        j < 2 → [5, 6][i * 2 + j]? = row[j]? := by
  intro query rows start calls
  have htuple : Statement.extractTuple query = .ok "(?,?)".toList := by decide
  have hcall : calls[4]? =
      some (.execute 2 [5, 6] (.error (.executionFailed "full".toList))) := by decide +kernel
  exact ⟨htuple, by decide, by decide, by decide, hcall,
    insertRows_placeholders _ htuple (by decide) (by decide) start hcall⟩

end BulkInsert.Batch
