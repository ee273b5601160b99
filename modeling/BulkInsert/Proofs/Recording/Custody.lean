import BulkInsert.Proofs.Batch.Run
import BulkInsert.Recording.Session
import Mathlib.Data.List.Range

/-!
# Custody of statements

A recorder sees every statement that is prepared on it, executed and closed. This module
says what it sees over a session, whatever fails on the way: never are two statements open,
only the open one is used, and each is closed once, by the call that prepared it.

## How an event list is read

A statement is named by a number. `preparedNames` and `closedNames` are the names in the
order of their events, a failing close counting as a close, and `openNames` are those
prepared and not closed.

`Orderly` is what holds at every point of an event list. `Recorder.Holds` is the invariant
behind it: it relates the events of a recorder, its counters and the statement in the slot,
and every operation of the recorder keeps it.
-/

namespace BulkInsert.Recording

open Batch

variable {V : Type}

/-! ### Reading an event list -/

/-- The name that an event prepares. -/
def Event.preparedName : Event V → Option Nat
  | prepared name _ => some name
  | prepareFailed _ | executed .. | closed .. | noticed _ => none

/-- The name that an event closes, whether or not closing succeeds. -/
def Event.closedName : Event V → Option Nat
  | closed _ name => some name
  | prepared .. | prepareFailed _ | executed .. | noticed _ => none

/-- The name of the statement that an event executes or closes. -/
def Event.usedName : Event V → Option Nat
  | executed _ name _ | closed _ name => some name
  | prepared .. | prepareFailed _ | noticed _ => none

/-- The names of the statements prepared, in order. -/
def preparedNames (events : List (Event V)) : List Nat := events.filterMap Event.preparedName

/-- The names of the statements closed, in order. -/
def closedNames (events : List (Event V)) : List Nat := events.filterMap Event.closedName

/-- The names of the statements prepared and not closed. -/
def openNames (events : List (Event V)) : List Nat :=
  (preparedNames events).filter fun name => !(closedNames events).contains name

/-- An event list is **orderly** when at every point of it at most one statement is open,
and whatever is executed or closed is the one prepared last and not closed yet. -/
structure Orderly (events : List (Event V)) : Prop where
  open_le_one : ∀ earlier, earlier <+: events → (openNames earlier).length ≤ 1
  used_open : ∀ earlier event later, events = earlier ++ event :: later →
    ∀ name ∈ event.usedName,
      (preparedNames earlier).getLast? = some name ∧ name ∉ closedNames earlier

@[simp] theorem preparedNames_append (xs ys : List (Event V)) :
    preparedNames (xs ++ ys) = preparedNames xs ++ preparedNames ys :=
  List.filterMap_append

@[simp] theorem closedNames_append (xs ys : List (Event V)) :
    closedNames (xs ++ ys) = closedNames xs ++ closedNames ys :=
  List.filterMap_append

/-- Nothing is out of order in an empty list. -/
theorem orderly_nil : Orderly ([] : List (Event V)) where
  open_le_one := by
    intro earlier h
    rw [List.prefix_nil.1 h]
    exact Nat.zero_le 1
  used_open := by simp

/-- What holds at every place of a list and at one more behind it holds at every place of the
longer list. -/
theorem forall_split_concat {α : Type} {P : List α → α → Prop} {xs : List α} {x : α}
    (h : ∀ earlier y later, xs = earlier ++ y :: later → P earlier y) (hx : P xs x)
    {earlier later : List α} {y : α} (heq : xs ++ [x] = earlier ++ y :: later) :
    P earlier y := by
  rcases List.eq_nil_or_concat later with rfl | ⟨later, last, rfl⟩
  · obtain ⟨rfl, hlast⟩ := List.append_inj' heq rfl
    obtain rfl : x = y := by simpa using hlast
    exact hx
  · rw [List.concat_eq_append, ← List.cons_append, ← List.append_assoc] at heq
    obtain ⟨rfl, -⟩ := List.append_inj' heq rfl
    exact h earlier y later rfl

/-- One more event is in order when afterwards at most one statement is open, and the
statement it uses is the one prepared last and not closed yet. -/
theorem Orderly.snoc {events : List (Event V)} {event : Event V} (h : Orderly events)
    (hopen : (openNames (events ++ [event])).length ≤ 1)
    (hused : ∀ name ∈ event.usedName,
      (preparedNames events).getLast? = some name ∧ name ∉ closedNames events) :
    Orderly (events ++ [event]) where
  open_le_one := by
    intro earlier hp
    rcases List.prefix_concat_iff.1 hp with rfl | hp
    · exact hopen
    · exact h.open_le_one earlier hp
  used_open := by
    intro earlier e later heq
    exact forall_split_concat h.used_open hused heq

/-- When all statements prepared are closed but one, or none, then that is what is open. -/
theorem openNames_eq {events : List (Event V)} {held : Option Nat}
    (hnodup : (preparedNames events).Nodup)
    (heq : closedNames events ++ held.toList = preparedNames events) :
    openNames events = held.toList := by
  rw [← heq, List.nodup_append] at hnodup
  have hclosed : (closedNames events).filter
      (fun name => !(closedNames events).contains name) = [] := by
    rw [List.filter_eq_nil_iff]
    intro name hname
    simpa using hname
  have hheld : held.toList.filter (fun name => !(closedNames events).contains name) =
      held.toList := by
    rw [List.filter_eq_self]
    intro name hname
    have hne : name ∉ closedNames events := fun hc => hnodup.2.2 name hc name hname rfl
    simpa using hne
  rw [openNames, ← heq, List.filter_append, hclosed, hheld, List.nil_append]

/-! ### The invariant of a recorder -/

namespace Recorder

/-- A recorder **holds** a statement, or none: its events are orderly, and all statements
prepared are closed but the one it holds. Names are given in order, and the counters count
what was seen. -/
structure Holds (r : Recorder V) (held : Option Nat) : Prop where
  names_eq : preparedNames r.events = List.range' 1 r.counters.prepared
  closed_eq : closedNames r.events ++ held.toList = preparedNames r.events
  closes_eq : r.counters.closes = (closedNames r.events).length
  peak_le : r.counters.peak ≤ 1
  orderly : Orderly r.events

@[simp] theorem events_see (r : Recorder V) (event : Event V) :
    (r.see event).events = r.events ++ [event] := by
  simp [see, events]

/-- A recorder that has seen nothing holds nothing. -/
theorem holds_start (plan : FailurePlan) (tracing : Bool) :
    Holds ({ plan, tracing } : Recorder V) none where
  names_eq := rfl
  closed_eq := rfl
  closes_eq := rfl
  peak_le := Nat.zero_le 1
  orderly := orderly_nil

namespace Holds

variable {r : Recorder V} {held : Option Nat}

/-- Every name is given once. -/
theorem nodup (h : r.Holds held) : (preparedNames r.events).Nodup := by
  rw [h.names_eq]
  exact List.nodup_range'

/-- A held statement is the one prepared last, and it is not closed. -/
theorem last_of_some {name : Nat} (h : r.Holds (some name)) :
    (preparedNames r.events).getLast? = some name ∧ name ∉ closedNames r.events := by
  have hnodup := h.nodup
  rw [← h.closed_eq, List.nodup_append] at hnodup
  refine ⟨?_, fun hc => hnodup.2.2 name hc name (by simp) rfl⟩
  rw [← h.closed_eq, Option.toList_some, List.getLast?_concat]

/-- As many statements are closed as prepared, less the one held. -/
theorem closes_add (h : r.Holds held) :
    r.counters.closes + held.toList.length = r.counters.prepared := by
  have hlen := congrArg List.length h.closed_eq
  rw [List.length_append, h.names_eq, List.length_range'] at hlen
  rw [h.closes_eq, hlen]

/-- One more event, with the counters changed to match, and the statement held afterwards:
the event uses no statement but the held one, and what it closes or prepares is what
changes hands. -/
theorem see {counters : Counters} {event : Event V} {held' : Option Nat} (h : r.Holds held)
    (hprepared : List.range' 1 counters.prepared =
      List.range' 1 r.counters.prepared ++ event.preparedName.toList)
    (hcloses : counters.closes = r.counters.closes + event.closedName.toList.length)
    (hpeak : counters.peak ≤ 1) (hused : ∀ name ∈ event.usedName, held = some name)
    (hheld : event.closedName.toList ++ held'.toList =
      held.toList ++ event.preparedName.toList) :
    ({ r with counters }.see event).Holds held' := by
  have hevents : ({ r with counters }.see event).events = r.events ++ [event] := by
    rw [events_see]
    rfl
  have hnames : preparedNames (r.events ++ [event]) =
      preparedNames r.events ++ event.preparedName.toList := by
    rw [preparedNames_append]
    cases he : event.preparedName <;> simp [preparedNames, he]
  have hnames' : closedNames (r.events ++ [event]) =
      closedNames r.events ++ event.closedName.toList := by
    rw [closedNames_append]
    cases he : event.closedName <;> simp [closedNames, he]
  have hrange : preparedNames (r.events ++ [event]) = List.range' 1 counters.prepared := by
    rw [hnames, h.names_eq, hprepared]
  have hclosed : closedNames (r.events ++ [event]) ++ held'.toList =
      preparedNames (r.events ++ [event]) := by
    rw [hnames, hnames', ← h.closed_eq, List.append_assoc, List.append_assoc, hheld]
  have hopen : openNames (r.events ++ [event]) = held'.toList := by
    refine openNames_eq ?_ hclosed
    rw [hrange]
    exact List.nodup_range'
  refine ⟨?_, ?_, ?_, hpeak, ?_⟩
  · rw [hevents]
    exact hrange
  · rw [hevents]
    exact hclosed
  · rw [hevents, hnames', List.length_append, ← h.closes_eq]
    exact hcloses
  · rw [hevents]
    refine h.orderly.snoc ?_ ?_
    · rw [hopen]
      cases held' <;> simp
    · intro name hname
      obtain rfl := hused name hname
      exact h.last_of_some

/-- A prepare that succeeds puts its statement into hand; one that fails changes nothing. -/
theorem prepare (h : r.Holds none) (sql : Text) :
    (Recorder.prepare sql r).2.Holds (Recorder.prepare sql r).1.toOption := by
  have hcloses : r.counters.closes = r.counters.prepared := h.closes_add
  have hpeak := h.peak_le
  simp only [Recorder.prepare]
  cases outcome r.plan.prepare (r.counters.prepares + 1) with
  | error e => exact h.see (by simp [Event.preparedName]) rfl hpeak (by simp [Event.usedName]) rfl
  | ok _ =>
      refine h.see ?_ rfl ?_ (by simp [Event.usedName]) rfl
      · rw [List.range'_concat]
        simp [Event.preparedName, Nat.add_comm]
      · simp only [Counters.openCount, hcloses]
        omega

/-- The held statement can be executed. -/
theorem execute {name : Nat} (h : r.Holds (some name)) (arguments : List V) :
    (Recorder.execute name arguments r).2.Holds (some name) :=
  h.see (by simp [Event.preparedName]) rfl h.peak_le (by simp [Event.usedName]) rfl

/-- The held statement can be closed, and then nothing is held, whether or not closing
succeeds. -/
theorem close {name : Nat} (h : r.Holds (some name)) : (Recorder.close name r).2.Holds none :=
  h.see (by simp [Event.preparedName]) rfl h.peak_le (by simp [Event.usedName]) rfl

/-- A notice changes nothing. -/
theorem notify (h : r.Holds held) (notice : Notice) :
    (Recorder.notify notice r).2.Holds held := by
  simp only [Recorder.notify]
  split
  · exact h.see (by simp [Event.preparedName]) rfl h.peak_le (by simp [Event.usedName])
      (by simp [Event.preparedName, Event.closedName])
  · exact h

end Holds

/-! ### What was seen stays -/

/-- `r.Precedes r'`: all that `r` has seen, `r'` has seen first. -/
def Precedes (r r' : Recorder V) : Prop := r.events <+: r'.events

theorem Precedes.refl (r : Recorder V) : r.Precedes r := List.prefix_rfl

theorem Precedes.trans {r r' r'' : Recorder V} (h : r.Precedes r') (h' : r'.Precedes r'') :
    r.Precedes r'' :=
  List.IsPrefix.trans h h'

theorem precedes_see (r : Recorder V) (counters : Counters) (event : Event V) :
    r.Precedes ({ r with counters }.see event) := by
  rw [Precedes, events_see]
  exact List.prefix_append _ _

theorem precedes_prepare (r : Recorder V) (sql : Text) : r.Precedes (prepare sql r).2 := by
  simp only [prepare]
  split <;> exact precedes_see r _ _

theorem precedes_notify (r : Recorder V) (notice : Notice) :
    r.Precedes (notify notice r).2 := by
  simp only [notify]
  split
  · exact precedes_see r r.counters _
  · exact .refl r

/-- What was seen behind the earlier events is what was seen since. -/
theorem eventsSince_eq {r r' : Recorder V} {later : List (Event V)}
    (h : r'.events = r.events ++ later) : r'.eventsSince r = later := by
  have hlog : r'.log = later.reverse ++ r.log := by
    have hrev := congrArg List.reverse h
    simpa [events] using hrev
  have hlen : r'.log.length - r.log.length = later.reverse.length := by
    rw [hlog, List.length_append]
    omega
  rw [eventsSince, hlen, hlog, List.take_left, List.reverse_reverse]

/-- The events seen since are those behind the earlier ones. -/
theorem events_eq_append_eventsSince {r r' : Recorder V} (h : r.Precedes r') :
    r'.events = r.events ++ r'.eventsSince r := by
  obtain ⟨later, hlater⟩ := h
  rw [eventsSince_eq hlater.symm, hlater]

/-- Whatever a run does, what was seen stays. -/
theorem keeps_precedes (query tuple : Text) (r : Recorder V) :
    Keeps connection query tuple fun _ _ r' => r.Precedes r' where
  prepare h := h.trans ((precedes_notify _ _).trans (precedes_prepare _ _))
  execute _ h := h.trans ((precedes_notify _ _).trans (precedes_see _ _ _))
  close h := h.trans ((precedes_see _ _ _).trans (precedes_notify _ _))

/-- What was seen before an insertion is seen first after it. -/
theorem precedes_insertRows (query : Text) (size : Nat) (rows : List (List V))
    (r : Recorder V) : r.Precedes (insertRows connection query size rows r).2 := by
  cases hexamine : examine query size rows with
  | error error =>
      rw [insertRows_of_examine_error hexamine]
      exact .refl r
  | ok tuple =>
      rw [insertRows_of_examine hexamine]
      obtain ⟨-, hpre⟩ := (runs_insertWindows connection query tuple none _ r).keeps
        (keeps_precedes query tuple r) (.refl r)
      exact hpre

/-! ### An insertion gives back what it takes -/

/-- Whatever fails, the statement in hand is the one in the slot: a prepare puts it there, an
execution leaves it, and a close takes it out. -/
theorem keeps_holds (query tuple : Text) :
    Keeps (connection (V := V)) query tuple fun slot _ r =>
      r.Holds (slot.map Cached.handle) where
  prepare {window rest r} h := by
    have hslot (prepared : Option Nat) :
        (prepared.map (Cached.mk window.length)).map Cached.handle = prepared := by
      cases prepared <;> rfl
    rw [hslot]
    exact (h.notify _).prepare _
  execute _ h := (h.notify _).execute _
  close h := h.close.notify _

/-- An insertion that begins with nothing in hand ends so, whether or not its arguments are
accepted. -/
theorem holds_insertRows (query : Text) (size : Nat) (rows : List (List V)) {r : Recorder V}
    (h : r.Holds none) : (insertRows connection query size rows r).2.Holds none := by
  cases hexamine : examine query size rows with
  | error error =>
      rw [insertRows_of_examine_error hexamine]
      exact h
  | ok tuple =>
      rw [insertRows_of_examine hexamine]
      obtain ⟨-, hholds⟩ := (runs_insertWindows connection query tuple none _ r).keeps
        (keeps_holds query tuple) h
      exact hholds

/-- A recorder is **settled** when its counters tell that nothing is open, that as many
statements were closed as prepared, and that never more than one was open. -/
structure Settled (r : Recorder V) : Prop where
  openCount_eq : r.counters.openCount = 0
  closes_eq : r.counters.closes = r.counters.prepared
  prepared_eq : r.counters.prepared = (preparedNames r.events).length
  peak_le : r.counters.peak ≤ 1

/-- A recorder that holds nothing has closed what was prepared. -/
theorem Holds.closedNames_eq {r : Recorder V} (h : r.Holds none) :
    closedNames r.events = preparedNames r.events := by
  rw [← h.closed_eq, Option.toList_none, List.append_nil]

/-- A recorder that holds nothing is settled. -/
theorem Holds.settled {r : Recorder V} (h : r.Holds none) : r.Settled where
  openCount_eq := by
    have hcloses : r.counters.closes = r.counters.prepared := h.closes_add
    rw [Counters.openCount, hcloses, Nat.sub_self]
  closes_eq := h.closes_add
  prepared_eq := by rw [h.names_eq, List.length_range']
  peak_le := h.peak_le

end Recorder

/-! ### Sessions -/

/-- The events that an answer shows. -/
def Answer.events : Answer V → List (Event V)
  | inserted _ events => events
  | size _ | replanned | counted _ => []

/-- What a step keeps: nothing is in hand, the answer shows the new events, and among these
every statement prepared is closed. -/
structure Step.Keeps (e : Executor (Recorder V)) (outcome : Answer V × Executor (Recorder V)) :
    Prop where
  holds : outcome.2.state.Holds none
  events_eq : outcome.2.state.events = e.state.events ++ outcome.1.events
  closed_eq : closedNames outcome.1.events = preparedNames outcome.1.events

/-- A step that touches neither events nor counters keeps what there is. -/
theorem Step.keeps_of_events_nil {e e' : Executor (Recorder V)} {a : Answer V}
    (ha : a.events = []) (h' : e'.state.Holds none) (he : e'.state.events = e.state.events) :
    Step.Keeps e (a, e') where
  holds := h'
  events_eq := by simp only [ha, he, List.append_nil]
  closed_eq := by
    rw [ha]
    rfl

/-- An insertion, whichever batch size it uses, shows its own events, and closes what it
prepares. -/
theorem Step.keeps_insertSized (query : Text) (size : Nat) (rows : List (List V))
    {e : Executor (Recorder V)} (h : e.state.Holds none) :
    Step.Keeps e
      (observe (Executor.insertSized Recorder.connection query size rows) e) := by
  have hholds := Recorder.holds_insertRows query size rows h
  have happend := Recorder.events_eq_append_eventsSince
    (Recorder.precedes_insertRows query size rows e.state)
  refine ⟨hholds, happend, ?_⟩
  have hclosed := hholds.closedNames_eq
  rw [happend, closedNames_append, preparedNames_append, h.closedNames_eq] at hclosed
  exact List.append_cancel_left hclosed

/-- **Every step keeps custody.** -/
theorem Step.keeps_run (step : Step V) {e : Executor (Recorder V)} (h : e.state.Holds none) :
    Step.Keeps e (step.run e) := by
  cases step with
  | insert query rows => exact Step.keeps_insertSized query e.batchSize rows h
  | insertSized query batchSize rows => exact Step.keeps_insertSized query batchSize rows h
  | resize batchSize => exact Step.keeps_of_events_nil rfl h rfl
  | size => exact Step.keeps_of_events_nil rfl h rfl
  | replan plan =>
      exact Step.keeps_of_events_nil rfl
        ⟨h.names_eq, h.closed_eq, h.closes_eq, h.peak_le, h.orderly⟩ rfl
  | count => exact Step.keeps_of_events_nil rfl h rfl
  | rewrap batchSize => exact Step.keeps_of_events_nil rfl h rfl

/-- A session takes its first step and then the others. -/
theorem runSession_cons (step : Step V) (steps : List (Step V)) (e : Executor (Recorder V)) :
    runSession (step :: steps) e =
      ((step.run e).1 :: (runSession steps (step.run e).2).1,
        (runSession steps (step.run e).2).2) := by
  rw [runSession, List.mapM_cons]
  rfl

/-- A session that begins with nothing in hand ends so; its answers show what was seen, and
each shows the close of every statement whose prepare it shows. -/
theorem holds_runSession (steps : List (Step V)) {e : Executor (Recorder V)}
    (h : e.state.Holds none) :
    (runSession steps e).2.state.Holds none ∧
      (runSession steps e).2.state.events =
        e.state.events ++ (runSession steps e).1.flatMap Answer.events ∧
      ∀ a ∈ (runSession steps e).1, closedNames a.events = preparedNames a.events := by
  induction steps generalizing e with
  | nil => exact ⟨h, (List.append_nil _).symm, fun a ha => absurd ha List.not_mem_nil⟩
  | cons step steps ih =>
      have hstep := step.keeps_run h
      obtain ⟨hholds, hevents, hclosed⟩ := ih hstep.holds
      rw [runSession_cons]
      refine ⟨hholds, ?_, ?_⟩
      · rw [hevents, hstep.events_eq, List.flatMap_cons, List.append_assoc]
      · intro a ha
        rcases List.mem_cons.1 ha with rfl | ha
        · exact hstep.closed_eq
        · exact hclosed a ha

/-- **Custody over a session.** Whatever steps a session takes and whatever fails, at every
point at most one statement is open and only that one is used. Each statement prepared is
closed once, by the step that prepared it, so between any two steps the recorder is
settled. -/
theorem runSession_keeps_custody (plan : FailurePlan) (tracing : Bool) (batchSize : Nat)
    (steps : List (Step V)) :
    let start : Executor (Recorder V) := ⟨{ plan, tracing }, batchSize⟩
    let answers := (runSession steps start).1
    let events := (runSession steps start).2.state.events
    Orderly events ∧ (preparedNames events).Nodup ∧
      closedNames events = preparedNames events ∧
      events = answers.flatMap Answer.events ∧
      (∀ a ∈ answers, closedNames a.events = preparedNames a.events) ∧
      ∀ earlier, earlier <+: steps → (runSession earlier start).2.state.Settled := by
  intro start answers events
  have hstart : start.state.Holds none := Recorder.holds_start plan tracing
  obtain ⟨hholds, hevents, hclosed⟩ := holds_runSession steps hstart
  refine ⟨hholds.orderly, hholds.nodup, hholds.closedNames_eq, hevents, hclosed, ?_⟩
  intro earlier _
  exact (holds_runSession earlier hstart).1.settled

end BulkInsert.Recording
