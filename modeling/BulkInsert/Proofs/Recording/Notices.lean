import BulkInsert.Proofs.Batch.Progress
import BulkInsert.Proofs.Recording.Silence

/-!
# Notices stand beside the calls

With tracing on, a recorder sees one notice beside each call of an insertion, and no others.
That of a prepare or an execution stands right in front of the call, that of a close right
behind it. `NotedCall.events` says so for one call, and the events of an insertion are those
of its calls, one after the other: `exists_accounts_insertRows`. The warnings among them are
those beside the closes that fail: `exists_warnings_insertRows`.

## Widths

Every notice tells a width, `NotedCall.width_mem_details`. `NotedCall.Fits` says which it has to
be: the text of a prepare is the query widened to it, the window of an execution has so many
rows, and an execution or a close has the width with which its statement was prepared. The width
of a close is taken from the slot, where it was put when the statement was prepared; the
invariant behind the proof, `Recorder.Mirrors`, therefore speaks of the slot.

The last section puts this together with `runSession_silence`: tracing shows the calls of a
session and changes none of them.
-/

namespace BulkInsert.Recording

open Batch

variable {V : Type}

/-- A call on a recorder, and the width that the notice beside it tells. -/
structure NotedCall (V : Type) where
  call : Call Nat V
  width : Nat

/-- What is seen of a prepare. -/
def Event.ofPrepare (sql : Text) : Except InsertError Nat → Event V
  | .ok name => .prepared name sql
  | .error _ => .prepareFailed sql

/-- What is seen of a call and its notice, in order. -/
def NotedCall.events : NotedCall V → List (Event V)
  | ⟨.prepare sql result, width⟩ => [.noticed (.prepare sql width), .ofPrepare sql result]
  | ⟨.execute name arguments result, width⟩ =>
    [.noticed (.execute width arguments.length), .executed result.isOk name arguments]
  | ⟨.close name result, width⟩ =>
    [.closed result.isOk name, .noticed (.ofClose width result)]

/-- The notice beside a call tells its width. -/
theorem NotedCall.width_mem_details {noted : NotedCall V} {notice : Notice}
    (h : .noticed notice ∈ noted.events) :
    ("width".toList, .number noted.width) ∈ notice.details := by
  obtain ⟨call, width⟩ := noted
  cases call with
  | prepare sql result =>
      obtain rfl : notice = .prepare sql width := by
        cases result <;> simpa [events, Event.ofPrepare] using h
      simp [Notice.details]
  | execute name arguments result =>
      obtain rfl : notice = .execute width arguments.length := by simpa [events] using h
      simp [Notice.details]
  | close name result =>
      obtain rfl : notice = .ofClose width result := by simpa [events] using h
      cases result <;> simp [Notice.ofClose, Notice.details]

/-- The notice in an event, if it is a warning. -/
def Event.warning? : Event V → Option Notice
  | .noticed notice => if notice.level = .warn then some notice else none
  | .prepared .. | .prepareFailed _ | .executed .. | .closed .. => none

/-- The warning beside a call: there is one beside a close that fails. -/
def NotedCall.warning? : NotedCall V → Option Notice
  | ⟨.close _ (.error error), width⟩ => some (.closeFailed width error)
  | ⟨.close _ (.ok ()), _⟩ | ⟨.prepare .., _⟩ | ⟨.execute .., _⟩ => none

/-- What is seen of a call holds its warning and no other. -/
theorem NotedCall.filterMap_warning? (noted : NotedCall V) :
    noted.events.filterMap Event.warning? = noted.warning?.toList := by
  obtain ⟨call, width⟩ := noted
  cases call with
  | prepare sql result => cases result <;> rfl
  | execute name arguments result => rfl
  | close name result => cases result <;> rfl

/-- `OpenFor name width noted`: after these calls the statement of this name is open. It was
prepared with this width, and since then nothing but executions of it happened. -/
def OpenFor (name width : Nat) (noted : List (NotedCall V)) : Prop :=
  ∃ sql before between, noted = before ++ ⟨.prepare sql (.ok name), width⟩ :: between ∧
    ∀ n ∈ between, ∃ arguments result, n.call = .execute name arguments result

/-- The first window that has not been executed by these calls. -/
def nextWindow? (cut : List (List (List V))) (noted : List (NotedCall V)) :
    Option (List (List V)) :=
  cut[(executions (noted.map NotedCall.call)).length]?

/-- The width that the notice of a call tells is the right one after the calls `earlier`. -/
def NotedCall.Fits (query tuple : Text) (cut : List (List (List V)))
    (earlier : List (NotedCall V)) (noted : NotedCall V) : Prop :=
  match noted.call with
  | .prepare sql _ =>
    sql = Statement.widen query tuple noted.width ∧
      ∃ window, nextWindow? cut earlier = some window ∧ noted.width = window.length
  | .execute name arguments _ =>
    OpenFor name noted.width earlier ∧
      ∃ window, nextWindow? cut earlier = some window ∧ noted.width = window.length ∧
        arguments = Batch.arguments window
  | .close name _ => OpenFor name noted.width earlier

/-- A statement just prepared is open. -/
theorem openFor_concat_prepare (noted : List (NotedCall V)) (sql : Text) (name width : Nat) :
    OpenFor name width (noted ++ [⟨.prepare sql (.ok name), width⟩]) :=
  ⟨sql, noted, [], rfl, fun _ h => absurd h List.not_mem_nil⟩

/-- An open statement that is executed stays open. -/
theorem OpenFor.concat_execute {noted : List (NotedCall V)} {name width : Nat}
    (h : OpenFor name width noted) (arguments : List V) (result : Except InsertError Unit)
    (width' : Nat) : OpenFor name width (noted ++ [⟨.execute name arguments result, width'⟩]) := by
  obtain ⟨sql, before, between, rfl, honly⟩ := h
  refine ⟨sql, before, between ++ [⟨.execute name arguments result, width'⟩], by simp, ?_⟩
  intro n hn
  rcases List.mem_append.1 hn with hn | hn
  · exact honly n hn
  · obtain rfl := List.mem_singleton.1 hn
    exact ⟨arguments, result, rfl⟩

/-! ### What a tracing recorder sees of a call -/

namespace Recorder

/-- A prepare is seen with its result. -/
theorem events_prepare (sql : Text) (r : Recorder V) :
    (prepare sql r).2.events = r.events ++ [.ofPrepare sql (prepare sql r).1] := by
  simp only [prepare]
  split <;> exact events_see _ _

/-- A prepare leaves tracing as it is. -/
theorem tracing_prepare (sql : Text) (r : Recorder V) :
    (prepare sql r).2.tracing = r.tracing := by
  simp only [prepare]
  split <;> rfl

/-- An execution is seen with its success. -/
theorem events_execute (name : Nat) (arguments : List V) (r : Recorder V) :
    (execute name arguments r).2.events =
      r.events ++ [.executed (execute name arguments r).1.isOk name arguments] :=
  events_see _ _

/-- A close is seen with its success. -/
theorem events_close (name : Nat) (r : Recorder V) :
    (close name r).2.events = r.events ++ [.closed (close name r).1.isOk name] :=
  events_see _ _

/-- With tracing on, a notice is seen, and nothing else changes. -/
theorem notify_of_tracing {r : Recorder V} (h : r.tracing = true) (notice : Notice) :
    (notify notice r).2 = r.see (.noticed notice) := by
  rw [notify, h]
  rfl

/-- `r'.Adds r noted`: over the tracing recorder `r`, one call and its notice have led to
`r'`. -/
structure Adds (r' r : Recorder V) (noted : NotedCall V) : Prop where
  tracing_eq : r'.tracing = true
  events_eq : r'.events = r.events ++ noted.events

section

variable {r : Recorder V} (h : r.tracing = true)

include h

/-- The notice of a prepare stands in front of it. -/
theorem adds_prepareWidth (query tuple : Text) (width : Nat) :
    (prepareWidth connection query tuple width r).2.Adds r
      ⟨.prepare (Statement.widen query tuple width)
        (prepareWidth connection query tuple width r).1, width⟩ := by
  have happly : prepareWidth connection query tuple width r =
      prepare (Statement.widen query tuple width)
        (r.see (.noticed (.prepare (Statement.widen query tuple width) width))) := by
    rw [← notify_of_tracing h]
    rfl
  rw [happly]
  refine ⟨(tracing_prepare _ _).trans h, ?_⟩
  rw [events_prepare, events_see, List.append_assoc]
  rfl

/-- The notice of an execution stands in front of it. -/
theorem adds_executeWindow (c : Cached Nat) (window : List (List V)) :
    (executeWindow connection c window r).2.Adds r
      ⟨.execute c.handle (arguments window) (executeWindow connection c window r).1,
        window.length⟩ := by
  have happly : executeWindow connection c window r =
      execute c.handle (arguments window)
        (r.see (.noticed (.execute window.length (arguments window).length))) := by
    rw [← notify_of_tracing h]
    rfl
  rw [happly]
  refine ⟨h, ?_⟩
  rw [events_execute, events_see, List.append_assoc]
  rfl

/-- The notice of a close stands behind it. -/
theorem adds_close (c : Cached Nat) :
    (c.close connection r).2.Adds r
      ⟨.close c.handle (c.close connection r).1, c.width⟩ := by
  have hclosed : (close c.handle r).2.tracing = true := h
  have happly : c.close connection r = ((close c.handle r).1, (close c.handle r).2.see
      (.noticed (.ofClose c.width (close c.handle r).1))) := by
    rw [← notify_of_tracing hclosed]
    rfl
  rw [happly]
  refine ⟨hclosed, ?_⟩
  rw [events_see, events_close, List.append_assoc]
  rfl

end

/-! ### The calls of an insertion -/

/-- `Mirrors query tuple cut start noted slot left state`: in the midst of an insertion of the
windows in `cut`, begun from `start`, the calls `noted` were made, with fitting notices. The
statement in the slot is open, with the width kept there, and `left` are the windows not
executed yet. The state is that of a recorder beside a log of the calls. -/
structure Mirrors (query tuple : Text) (cut : List (List (List V))) (start : Recorder V)
    (noted : List (NotedCall V)) (slot : Slot Nat) (left : List (List (List V)))
    (state : Recorder V × List (Call Nat V)) : Prop where
  tracing_eq : state.1.tracing = true
  events_eq : state.1.events = start.events ++ noted.flatMap NotedCall.events
  calls_eq : noted.map NotedCall.call = state.2
  fits : ∀ earlier n later, noted = earlier ++ n :: later → n.Fits query tuple cut earlier
  left_eq : left = cut.drop (executions (noted.map NotedCall.call)).length
  slot_open : ∀ c ∈ slot, OpenFor c.handle c.width noted

section

variable {query tuple : Text} {cut : List (List (List V))} {start r r' : Recorder V}
  {calls : List (Call Nat V)} {noted : List (NotedCall V)} {slot slot' : Slot Nat}
  {left left' : List (List (List V))}

/-- Nothing was called yet. -/
theorem mirrors_start (query tuple : Text) (cut : List (List (List V)))
    (h : start.tracing = true) : Mirrors query tuple cut start [] none cut (start, []) where
  tracing_eq := h
  events_eq := (List.append_nil _).symm
  calls_eq := rfl
  fits := by simp
  left_eq := rfl
  slot_open := by simp

/-- The next window is the first one left. -/
theorem Mirrors.nextWindow?_eq (h : Mirrors query tuple cut start noted slot left (r, calls)) :
    nextWindow? cut noted = left.head? := by
  rw [h.left_eq, List.head?_drop, nextWindow?]

/-- One more call, with a fitting notice. -/
theorem Mirrors.add (h : Mirrors query tuple cut start noted slot left (r, calls))
    {n : NotedCall V} (hadds : r'.Adds r n) (hfits : n.Fits query tuple cut noted)
    (hleft : left' = left.drop (executions [n.call]).length)
    (hopen : ∀ c ∈ slot', OpenFor c.handle c.width (noted ++ [n])) :
    Mirrors query tuple cut start (noted ++ [n]) slot' left' (r', calls ++ [n.call]) where
  tracing_eq := hadds.tracing_eq
  events_eq := by
    rw [hadds.events_eq, h.events_eq, List.flatMap_append, List.flatMap_singleton,
      List.append_assoc]
  calls_eq := by
    rw [List.map_append, h.calls_eq]
    rfl
  fits _ _ _ heq := forall_split_concat h.fits hfits heq
  left_eq := by
    rw [hleft, h.left_eq, List.drop_drop, List.map_append, executions, executions, executions,
      List.filterMap_append, List.length_append]
    rfl
  slot_open := hopen

end

/-- Whatever a run does next over a tracing recorder, its call has a fitting notice. -/
theorem keeps_mirrors (query tuple : Text) (cut : List (List (List V)))
    (start : Recorder V) :
    Keeps connection.logged query tuple fun slot left state =>
      ∃ noted, Mirrors query tuple cut start noted slot left state where
  prepare {window rest state} := by
    obtain ⟨r, calls⟩ := state
    rintro ⟨noted, hmirrors⟩
    rw [prepareWidth_logged]
    refine ⟨_, hmirrors.add (adds_prepareWidth hmirrors.tracing_eq query tuple window.length)
      ⟨rfl, window, hmirrors.nextWindow?_eq, rfl⟩ rfl ?_⟩
    -- Only a prepare that succeeds puts a statement into the slot.
    cases hprepared : (prepareWidth connection query tuple window.length r).1 with
    | error error => simp [Except.toOption]
    | ok name =>
        intro c hc
        obtain rfl : ⟨window.length, name⟩ = c := by simpa [Except.toOption] using hc
        exact openFor_concat_prepare _ _ _ _
  execute {c window rest state} hw := by
    obtain ⟨r, calls⟩ := state
    rintro ⟨noted, hmirrors⟩
    have hopen : OpenFor c.handle c.width noted := hmirrors.slot_open c rfl
    rw [executeWindow_logged]
    refine ⟨_, hmirrors.add (adds_executeWindow hmirrors.tracing_eq c window)
      ⟨hw ▸ hopen, window, hmirrors.nextWindow?_eq, rfl, rfl⟩ ?_ ?_⟩
    · cases (executeWindow connection c window r).1 <;> rfl
    · intro c' hc'
      obtain rfl : c = c' := by simpa using hc'
      exact hopen.concat_execute _ _ _
  close {c left state} := by
    obtain ⟨r, calls⟩ := state
    rintro ⟨noted, hmirrors⟩
    have hopen : OpenFor c.handle c.width noted := hmirrors.slot_open c rfl
    rw [Cached.close_logged]
    -- The notice has the width kept in the slot, and that is the width of the open statement.
    exact ⟨_, hmirrors.add (adds_close hmirrors.tracing_eq c) hopen rfl (by simp)⟩

end Recorder

/-- `Accounts query size rows r noted`: the calls that an insertion of these rows makes from
the recorder `r` are those in `noted`, and each has a fitting notice. -/
structure Accounts (query : Text) (size : Nat) (rows : List (List V)) (r : Recorder V)
    (noted : List (NotedCall V)) : Prop where
  calls_eq : noted.map NotedCall.call = callsOf Recorder.connection query size rows r
  fits : ∀ earlier n later, noted = earlier ++ n :: later → ∃ tuple,
    Statement.extractTuple query = .ok tuple ∧ n.Fits query tuple (windows size rows) earlier

/-- **What a tracing recorder sees of an insertion** are its calls, each with its notice. -/
theorem exists_accounts_insertRows (query : Text) (size : Nat) (rows : List (List V))
    {r : Recorder V} (h : r.tracing = true) :
    let r' := (insertRows Recorder.connection query size rows r).2
    r'.tracing = true ∧ ∃ noted, Accounts query size rows r noted ∧
      r'.eventsSince r = noted.flatMap NotedCall.events := by
  intro r'
  cases hexamine : examine query size rows with
  | error error =>
      have hr' : r' = r := by simp only [r', insertRows_of_examine_error hexamine]
      rw [hr']
      refine ⟨h, [], ⟨(callsOf_of_examine_error _ hexamine r).symm, by simp⟩, ?_⟩
      exact Recorder.eventsSince_eq (List.append_nil _).symm
  | ok tuple =>
      obtain ⟨-, htuple⟩ := of_examine_eq_ok hexamine
      have hruns := runs_insertWindows Recorder.connection.logged query tuple none
        (windows size rows) (r, [])
      rw [← insertRows_of_examine hexamine, insertRows_logged] at hruns
      obtain ⟨left, noted, hmirrors⟩ := hruns.keeps
        (Recorder.keeps_mirrors query tuple (windows size rows) r)
        ⟨[], Recorder.mirrors_start query tuple _ h⟩
      refine ⟨hmirrors.tracing_eq, noted, ⟨hmirrors.calls_eq, ?_⟩,
        Recorder.eventsSince_eq hmirrors.events_eq⟩
      intro earlier n later hsplit
      exact ⟨tuple, htuple, hmirrors.fits earlier n later hsplit⟩

-- Three rows in windows of two, where the close between the two statements fails.
example :
    let wide := "INSERT INTO t VALUES (?),(?)".toList
    let narrow := "INSERT INTO t VALUES (?)".toList
    let busy := InsertError.executionFailed "busy".toList
    let r : Recorder Nat := { plan := { close := [⟨1, busy⟩] }, tracing := true }
    (insertRows Recorder.connection narrow 2 [[1], [2], [3]] r).2.eventsSince r =
      [.noticed (.prepare wide 2), .prepared 1 wide,
        .noticed (.execute 2 2), .executed true 1 [1, 2],
        .closed false 1, .noticed (.closeFailed 2 busy),
        .noticed (.prepare narrow 1), .prepared 2 narrow,
        .noticed (.execute 1 1), .executed true 2 [3],
        .closed true 2, .noticed (.close 1)] := by
  decide +kernel

/-- **A tracing recorder is warned of the closes that fail**, in order, each with the width of
its statement, and of nothing else. -/
theorem exists_warnings_insertRows (query : Text) (size : Nat) (rows : List (List V))
    {r : Recorder V} (h : r.tracing = true) :
    ∃ noted, Accounts query size rows r noted ∧
      ((insertRows Recorder.connection query size rows r).2.eventsSince r).filterMap
          Event.warning? = noted.filterMap NotedCall.warning? := by
  obtain ⟨-, noted, haccounts, hevents⟩ := exists_accounts_insertRows query size rows h
  refine ⟨noted, haccounts, ?_⟩
  rw [hevents, List.filterMap_flatMap, List.filterMap_eq_flatMap_toList]
  simp only [NotedCall.filterMap_warning?]

/-! ### Sessions -/

end BulkInsert.Recording
