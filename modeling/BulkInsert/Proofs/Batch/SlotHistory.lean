import BulkInsert.Batch.Slot
import Mathlib.Data.List.Infix

/-!
# The history of a slot

An insertion asks its slot for statements of widths that never grow, and stops at the first
failure. A slot keeps its promises to any owner: one that asks for widths in any order, goes
on after failures, and in the end finishes or drops the slot. This module says what happens
over such a use.

## What is observed

`Slot.turn` asks once. It records the calls made for it, which are those that a watched
connection sees from the same state, and what the slot held before and holds afterwards.
`Slot.history` is a whole use of a slot that is empty at first.

## What carries the proof

`Answers` has one rule for each thing a turn can do. `Balanced` relates all calls made so
far to what the slot holds: every statement built is closed but the held one, which was
built by the last call. A turn keeps it, by cases on `Answers`, and so does a whole use, by
induction on the chain of turns.
-/

namespace BulkInsert.Batch

variable {σ S V : Type}

/-- A call made for a slot, with its result. -/
inductive SlotCall (S : Type) where
  | build (width : Nat) (result : Except InsertError S)
  | close (handle : S) (result : Except InsertError Unit)

/-- The connection that keeps the closes made on it, beside its state. -/
def Connection.watched (conn : Connection σ S V) :
    Connection (σ × List (SlotCall S)) S V where
  prepare sql := fun (s, calls) => ((conn.prepare sql s).1, (conn.prepare sql s).2, calls)
  execute handle arguments := fun (s, calls) =>
    let (result, s) := conn.execute handle arguments s
    (result, s, calls)
  close handle := fun (s, calls) =>
    let (result, s) := conn.close handle s
    (result, s, calls ++ [.close handle result])
  notify notice := fun (s, calls) => ((), (conn.notify notice s).2, calls)

/-- Building with every call kept beside the state. -/
def watchedBuild (build : Nat → StateM σ (Except InsertError S)) (width : Nat) :
    StateM (σ × List (SlotCall S)) (Except InsertError S) := fun (s, calls) =>
  let (result, s) := build width s
  (result, s, calls ++ [.build width result])

/-- One request to a slot, as seen from outside. -/
structure Turn (S : Type) where
  /-- What the slot holds before. -/
  held : Slot S
  /-- How many rows a statement is wanted for. -/
  width : Nat
  /-- The calls made, in order. -/
  calls : List (SlotCall S)
  /-- What is handed out. -/
  answer : Except InsertError (Cached S)
  /-- What the slot holds afterwards. -/
  kept : Slot S

/-- Whether a statement is built in a turn, successfully or not. -/
def Turn.Builds (turn : Turn S) : Prop := ∃ width result, .build width result ∈ turn.calls

/-- How the owner of a slot is done with it. -/
inductive Ending where
  | finish
  | drop
  deriving DecidableEq, Repr

/-- A whole use of a slot. -/
structure SlotHistory (S : Type) where
  turns : List (Turn S)
  /-- What the slot holds after the turns. -/
  left : Slot S
  /-- The calls made at the end. -/
  endCalls : List (SlotCall S)
  /-- What finishing returns. -/
  result? : Option (Except InsertError Unit)

/-- All calls of a use, in order. -/
def SlotHistory.calls (history : SlotHistory S) : List (SlotCall S) :=
  history.turns.flatMap Turn.calls ++ history.endCalls

/-- The statements built, in order. -/
def builtIn (calls : List (SlotCall S)) : List S :=
  calls.filterMap fun
    | .build _ result => result.toOption
    | .close .. => none

/-- The statements closed, in order. A failing close counts. -/
def closedIn (calls : List (SlotCall S)) : List S :=
  calls.filterMap fun
    | .build .. => none
    | .close handle _ => some handle

@[simp] theorem builtIn_append (xs ys : List (SlotCall S)) :
    builtIn (xs ++ ys) = builtIn xs ++ builtIn ys := List.filterMap_append

@[simp] theorem closedIn_append (xs ys : List (SlotCall S)) :
    closedIn (xs ++ ys) = closedIn xs ++ closedIn ys := List.filterMap_append

@[simp] theorem builtIn_build (width : Nat) (result : Except InsertError S) :
    builtIn [.build width result] = result.toOption.toList := by
  cases result <;> rfl

@[simp] theorem closedIn_build (width : Nat) (result : Except InsertError S) :
    closedIn [.build width result] = [] := rfl

@[simp] theorem builtIn_close (handle : S) (result : Except InsertError Unit) :
    builtIn [.close handle result] = [] := rfl

@[simp] theorem closedIn_close (handle : S) (result : Except InsertError Unit) :
    closedIn [.close handle result] = [handle] := rfl

namespace Slot

/-- Asks a slot for a statement of some width and records the turn. -/
def turn (conn : Connection σ S V) (build : Nat → StateM σ (Except InsertError S))
    (slot : Slot S) (width : Nat) : StateM σ (Turn S) := fun s =>
  let ((answer, kept), s') := slot.obtain conn build width s
  let (_, _, calls) := slot.obtain conn.watched (watchedBuild build) width (s, [])
  (⟨slot, width, calls, answer, kept⟩, s')

/-- Asks a slot for statements of the given widths one after the other, whatever comes of
it: the turns, and what the slot holds in the end. -/
def turns (conn : Connection σ S V) (build : Nat → StateM σ (Except InsertError S)) :
    Slot S → List Nat → StateM σ (List (Turn S) × Slot S)
  | slot, [] => return ([], slot)
  | slot, width :: widths => do
    let turn ← slot.turn conn build width
    let (turns, left) ← turns conn build turn.kept widths
    return (turn :: turns, left)

/-- Ends the use of a slot. Only finishing has a result. -/
def close (conn : Connection σ S V) (slot : Slot S) :
    Ending → StateM σ (Option (Except InsertError Unit))
  | .finish => some <$> slot.finish conn
  | .drop => do
    slot.discard conn
    return none

/-- The **history** of a slot that is empty at first, asked for statements of the given
widths and then finished or dropped. -/
def history (conn : Connection σ S V) (build : Nat → StateM σ (Except InsertError S))
    (widths : List Nat) (ending : Ending) : StateM σ (SlotHistory S) := do
  let (turns, left) ← turns conn build none widths
  fun s =>
    let (result?, s') := left.close conn ending s
    let (_, _, calls) := left.close conn.watched ending (s, [])
    (⟨turns, left, calls, result?⟩, s')

end Slot

/-! ### One turn -/

/-- `Answers held width calls answer kept`: a slot that holds `held` is asked for a statement
of `width`; these calls are made, this is the answer, and `kept` is what the slot holds
then. -/
inductive Answers :
    Slot S → Nat → List (SlotCall S) → Except InsertError (Cached S) → Slot S → Prop
  | reused {c : Cached S} : Answers (some c) c.width [] (.ok c) (some c)
  | built {width : Nat} {handle : S} :
      Answers none width [.build width (.ok handle)] (.ok ⟨width, handle⟩)
        (some ⟨width, handle⟩)
  | buildFailed {width : Nat} {error : InsertError} :
      Answers none width [.build width (.error error)] (.error error) none
  | replaced {c : Cached S} {width : Nat} {closed : Except InsertError Unit}
      {calls : List (SlotCall S)} {answer : Except InsertError (Cached S)} {kept : Slot S} :
      c.width ≠ width → Answers none width calls answer kept →
      Answers (some c) width (.close c.handle closed :: calls) answer kept

/-- A close over a watched connection is one call. -/
theorem Cached.close_watched (conn : Connection σ S V) (c : Cached S) (s : σ)
    (log : List (SlotCall S)) :
    c.close conn.watched (s, log) =
      ((c.close conn s).1, (c.close conn s).2,
        log ++ [.close c.handle (c.close conn s).1]) := rfl

/-- Building over a watched connection is one call. -/
theorem watchedBuild_apply (build : Nat → StateM σ (Except InsertError S)) (width : Nat)
    (s : σ) (log : List (SlotCall S)) :
    watchedBuild build width (s, log) =
      ((build width s).1, (build width s).2, log ++ [.build width (build width s).1]) := rfl

/-- `Watches slot width out watched`: `out` is an answer of the slot by one of the rules, and
from every log `watched` comes to the same and adds the calls of that rule. -/
def Watches (slot : Slot S) (width : Nat) (out : (Except InsertError (Cached S) × Slot S) × σ)
    (watched : List (SlotCall S) →
      (Except InsertError (Cached S) × Slot S) × σ × List (SlotCall S)) : Prop :=
  ∃ calls, Answers slot width calls out.1.1 out.1.2 ∧
    ∀ log, watched log = (out.1, out.2, log ++ calls)

/-- An empty slot answers by building, and so does the watched one. -/
theorem Slot.watches_obtain_none (conn : Connection σ S V)
    (build : Nat → StateM σ (Except InsertError S)) (width : Nat) (s : σ) :
    Watches none width (Slot.obtain conn build none width s) fun log =>
      Slot.obtain conn.watched (watchedBuild build) none width (s, log) := by
  simp only [Slot.obtain_none, watchedBuild_apply]
  rcases build width s with ⟨error | handle, s'⟩
  · exact ⟨_, .buildFailed, fun log => rfl⟩
  · exact ⟨_, .built, fun log => rfl⟩

/-- A slot answers by one of the rules, and so does the watched one. -/
theorem Slot.watches_obtain (conn : Connection σ S V)
    (build : Nat → StateM σ (Except InsertError S)) (slot : Slot S) (width : Nat) (s : σ) :
    Watches slot width (slot.obtain conn build width s) fun log =>
      slot.obtain conn.watched (watchedBuild build) width (s, log) := by
  rcases slot with - | c
  · exact watches_obtain_none conn build width s
  · by_cases hwidth : c.width = width
    · subst hwidth
      simp only [obtain_of_width_eq]
      exact ⟨[], .reused, fun log => by rw [List.append_nil]⟩
    · obtain ⟨calls, hanswers, hwatched⟩ :=
        watches_obtain_none conn build width (c.close conn s).2
      simp only [obtain_of_width_ne _ _ hwidth, Cached.close_watched]
      refine ⟨.close c.handle (c.close conn s).1 :: calls, .replaced hwidth hanswers,
        fun log => ?_⟩
      rw [hwatched, List.append_assoc, List.singleton_append]

/-- What a turn records is an answer by one of the rules. -/
def Turn.Lawful (turn : Turn S) : Prop :=
  Answers turn.held turn.width turn.calls turn.answer turn.kept

/-- A turn is lawful and begins with the slot that it is asked of. -/
theorem Slot.turn_lawful (conn : Connection σ S V)
    (build : Nat → StateM σ (Except InsertError S)) (slot : Slot S) (width : Nat) (s : σ) :
    (slot.turn conn build width s).1.Lawful ∧ (slot.turn conn build width s).1.held = slot ∧
      (slot.turn conn build width s).1.width = width := by
  obtain ⟨calls, hanswers, hwatched⟩ := watches_obtain conn build slot width s
  simp only [Slot.turn, hwatched, List.nil_append]
  exact ⟨hanswers, rfl, rfl⟩

/-- A statement is handed out again without any call, or the held one is closed and then one
is built. -/
theorem Answers.cases_calls {held kept : Slot S} {width : Nat} {calls : List (SlotCall S)}
    {answer : Except InsertError (Cached S)} (h : Answers held width calls answer kept) :
    (calls = [] ∧ ∃ c ∈ held, c.width = width ∧ answer = .ok c) ∨
      (∀ c ∈ held, c.width ≠ width) ∧ ∃ closed result,
        calls = held.toList.map (fun c => .close c.handle closed) ++ [.build width result] ∧
          answer = result.map (Cached.mk width) := by
  cases h with
  | reused => exact .inl ⟨rfl, _, rfl, rfl, rfl⟩
  | built => exact .inr ⟨by simp, .ok (), _, rfl, rfl⟩
  | buildFailed => exact .inr ⟨by simp, .ok (), _, rfl, rfl⟩
  | @replaced c _ closed _ _ _ hwidth hnone =>
      refine .inr ⟨by simpa using hwidth, closed, ?_⟩
      cases hnone with
      | built => exact ⟨_, rfl, rfl⟩
      | buildFailed => exact ⟨_, rfl, rfl⟩

/-- What the slot holds after a turn is what was handed out. -/
theorem Answers.kept_eq {held kept : Slot S} {width : Nat} {calls : List (SlotCall S)}
    {answer : Except InsertError (Cached S)} (h : Answers held width calls answer kept) :
    kept = answer.toOption := by
  induction h with
  | reused | built | buildFailed => rfl
  | replaced _ _ ih => exact ih

/-- What is handed out has the wanted width. -/
theorem Answers.width_eq {held kept : Slot S} {width : Nat} {calls : List (SlotCall S)}
    {c : Cached S} (h : Answers held width calls (.ok c) kept) : c.width = width := by
  rcases h.cases_calls with ⟨-, c', -, hwidth, heq⟩ | ⟨-, -, result, -, heq⟩
  · obtain rfl := Except.ok.inj heq
    exact hwidth
  · cases result with
    | error error => cases heq
    | ok handle =>
        obtain rfl := Except.ok.inj heq
        rfl

/-- A statement is built exactly when none of the wanted width is held. -/
theorem Turn.Lawful.builds_iff {turn : Turn S} (h : turn.Lawful) :
    turn.Builds ↔ ∀ c ∈ turn.held, c.width ≠ turn.width := by
  rcases h.cases_calls with ⟨hcalls, c, hheld, hwidth, -⟩ | ⟨hne, _, result, hcalls, -⟩
  · refine iff_of_false ?_ fun hne => hne c hheld hwidth
    rintro ⟨_, _, hmem⟩
    simp [hcalls] at hmem
  · refine iff_of_true ⟨turn.width, result, ?_⟩ hne
    simp [hcalls]

/-- When no statement is built, no call is made. -/
theorem Turn.Lawful.calls_eq_nil {turn : Turn S} (h : turn.Lawful) (hbuilds : ¬turn.Builds) :
    turn.calls = [] := by
  rcases h.cases_calls with ⟨hcalls, -⟩ | ⟨hne, -⟩
  · exact hcalls
  · exact absurd (h.builds_iff.2 hne) hbuilds

/-- When a statement is built, the held one is closed first, whether or not that fails. -/
theorem Turn.Lawful.calls_eq {turn : Turn S} (h : turn.Lawful) (hbuilds : turn.Builds) :
    ∃ closed result,
      turn.calls = turn.held.toList.map (fun c => .close c.handle closed) ++
        [.build turn.width result] ∧ turn.answer = result.map (Cached.mk turn.width) := by
  rcases h.cases_calls with ⟨-, c, hheld, hwidth, -⟩ | ⟨-, hcalls⟩
  · exact absurd hwidth (h.builds_iff.1 hbuilds c hheld)
  · exact hcalls

/-- What is handed out has the wanted width, and the slot keeps it. -/
theorem Turn.Lawful.of_ok {turn : Turn S} {c : Cached S} (h : turn.Lawful)
    (hanswer : turn.answer = .ok c) : c.width = turn.width ∧ turn.kept = some c := by
  have hok : Answers turn.held turn.width turn.calls (.ok c) turn.kept := hanswer ▸ h
  exact ⟨hok.width_eq, hok.kept_eq⟩

/-- When nothing is handed out, the slot keeps nothing. -/
theorem Turn.Lawful.of_error {turn : Turn S} {error : InsertError} (h : turn.Lawful)
    (hanswer : turn.answer = .error error) : turn.kept = none := by
  have herror : Answers turn.held turn.width turn.calls (.error error) turn.kept := hanswer ▸ h
  exact herror.kept_eq

/-! ### The calls made so far -/

/-- `Balanced calls slot`: of the calls made so far, in every beginning at most one statement
is built and not closed, statements being closed in the order in which they are built. In
the end what is not closed is what the slot holds, and the last call has built it. -/
structure Balanced (calls : List (SlotCall S)) (slot : Slot S) : Prop where
  prefixes : ∀ earlier, earlier <+: calls →
    closedIn earlier <+: builtIn earlier ∧
      (builtIn earlier).length ≤ (closedIn earlier).length + 1
  built_eq : builtIn calls = closedIn calls ++ slot.toList.map Cached.handle
  last_eq : ∀ c ∈ slot, ∃ earlier, calls = earlier ++ [.build c.width (.ok c.handle)]

/-- At first no call is made and nothing is held. -/
theorem balanced_nil : Balanced ([] : List (SlotCall S)) none where
  prefixes := by
    intro earlier h
    rw [List.prefix_nil.1 h]
    exact ⟨List.prefix_refl _, Nat.zero_le _⟩
  built_eq := rfl
  last_eq := by simp

/-- One more call leaves things balanced when what is not closed then is what the slot holds
then. -/
theorem Balanced.snoc {calls : List (SlotCall S)} {slot slot' : Slot S} {call : SlotCall S}
    (h : Balanced calls slot)
    (hbuilt : builtIn (calls ++ [call]) =
      closedIn (calls ++ [call]) ++ slot'.toList.map Cached.handle)
    (hlast : ∀ c ∈ slot', call = .build c.width (.ok c.handle)) :
    Balanced (calls ++ [call]) slot' where
  prefixes := by
    intro earlier hp
    rcases List.prefix_concat_iff.1 hp with rfl | hp
    · refine ⟨⟨_, hbuilt.symm⟩, ?_⟩
      rw [hbuilt, List.length_append, List.length_map]
      have := Option.length_toList_le (o := slot')
      omega
    · exact h.prefixes earlier hp
  built_eq := hbuilt
  last_eq := fun c hc => ⟨calls, by rw [hlast c hc]⟩

/-- Closing what is held keeps the balance, whatever the result. -/
theorem Balanced.close {calls : List (SlotCall S)} {c : Cached S} (h : Balanced calls (some c))
    (result : Except InsertError Unit) : Balanced (calls ++ [.close c.handle result]) none := by
  refine h.snoc ?_ (by simp)
  simp [h.built_eq]

/-- Building with an empty slot keeps the balance, whether or not it fails. -/
theorem Balanced.build {calls : List (SlotCall S)} (h : Balanced calls none) (width : Nat)
    (result : Except InsertError S) :
    Balanced (calls ++ [.build width result]) (result.toOption.map (Cached.mk width)) := by
  refine h.snoc ?_ ?_
  · cases result <;> simp [h.built_eq, Except.toOption]
  · cases result <;> simp [Except.toOption]

/-- A turn keeps the balance. -/
theorem Balanced.answer {earlier calls : List (SlotCall S)} {held kept : Slot S} {width : Nat}
    {answer : Except InsertError (Cached S)} (h : Balanced earlier held)
    (hanswers : Answers held width calls answer kept) : Balanced (earlier ++ calls) kept := by
  induction hanswers generalizing earlier with
  | reused => simpa using h
  | @built width handle => exact h.build width (.ok handle)
  | @buildFailed width error => exact h.build width (.error error)
  | @replaced c width closed calls answer kept _ _ ih =>
      rw [← List.singleton_append, ← List.append_assoc]
      exact ih (h.close closed)

/-! ### Turn after turn -/

/-- `Follows slot turns left`: turns by the rules, each begun with what the one before has
kept, lead from `slot` to `left`. -/
inductive Follows : Slot S → List (Turn S) → Slot S → Prop
  | done {slot : Slot S} : Follows slot [] slot
  | next {turn : Turn S} {turns : List (Turn S)} {left : Slot S} :
      turn.Lawful → Follows turn.kept turns left → Follows turn.held (turn :: turns) left

/-- The turns of a slot follow one another, for the widths asked for. -/
theorem Slot.follows_turns (conn : Connection σ S V)
    (build : Nat → StateM σ (Except InsertError S)) (slot : Slot S) (widths : List Nat)
    (s : σ) :
    Follows slot (Slot.turns conn build slot widths s).1.1
        (Slot.turns conn build slot widths s).1.2 ∧
      (Slot.turns conn build slot widths s).1.1.map Turn.width = widths := by
  induction widths generalizing slot s with
  | nil => exact ⟨.done, rfl⟩
  | cons width widths ih =>
      obtain ⟨hlawful, hheld, hwidth⟩ := turn_lawful conn build slot width s
      rcases hturn : slot.turn conn build width s with ⟨turn, s'⟩
      rw [hturn] at hlawful hheld hwidth
      obtain ⟨hfollows, hwidths⟩ := ih turn.kept s'
      have hturns : Slot.turns conn build slot (width :: widths) s =
          ((turn :: (Slot.turns conn build turn.kept widths s').1.1,
            (Slot.turns conn build turn.kept widths s').1.2),
            (Slot.turns conn build turn.kept widths s').2) := by
        simp only [Slot.turns, bind, StateT.bind, hturn]
        rfl
      rw [hturns, ← hheld, ← hwidth, List.map_cons, hwidths]
      exact ⟨.next hlawful hfollows, rfl⟩

/-- Turns that follow one another can be cut anywhere. -/
theorem Follows.exists_of_append {slot left : Slot S} {earlier later : List (Turn S)}
    (h : Follows slot (earlier ++ later) left) :
    ∃ mid, Follows slot earlier mid ∧ Follows mid later left := by
  induction earlier generalizing slot with
  | nil => exact ⟨slot, .done, h⟩
  | cons turn earlier ih =>
      rcases h with - | ⟨hlawful, hrest⟩
      obtain ⟨mid, hearlier, hlater⟩ := ih hrest
      exact ⟨mid, .next hlawful hearlier, hlater⟩

/-- What the slot holds in the end is what the last turn has kept. -/
theorem Follows.left_eq {slot left : Slot S} {turns : List (Turn S)}
    (h : Follows slot turns left) : left = (turns.getLast?.map Turn.kept).getD slot := by
  induction h with
  | done => rfl
  | @next turn turns left _ _ ih =>
      rw [ih, List.getLast?_cons]
      cases turns.getLast? <;> rfl

/-- From an empty slot, what it holds in the end is what the last turn, if any, has kept. -/
theorem Follows.left_eq_of_none {left : Slot S} {turns : List (Turn S)}
    (h : Follows none turns left) : left = turns.getLast?.bind Turn.kept := by
  rw [h.left_eq]
  cases turns.getLast? <;> rfl

/-- Where nothing is held, the next turn builds. -/
theorem Follows.builds_of_none {slot left : Slot S} {turn : Turn S} {turns : List (Turn S)}
    (h : Follows slot (turn :: turns) left) (hslot : slot = none) : turn.Builds := by
  rcases h with - | ⟨hlawful, -⟩
  exact hlawful.builds_iff.2 (by simp [hslot])

/-- Turns that follow one another keep the balance. -/
theorem Balanced.follows {calls : List (SlotCall S)} {slot left : Slot S}
    {turns : List (Turn S)} (h : Balanced calls slot) (hfollows : Follows slot turns left) :
    Balanced (calls ++ turns.flatMap Turn.calls) left := by
  induction hfollows generalizing calls with
  | done => simpa using h
  | next hlawful _ ih =>
      rw [List.flatMap_cons, ← List.append_assoc]
      exact ih (h.answer hlawful)

/-- What is handed out was built by the last call made so far. -/
theorem Follows.exists_build {held left : Slot S} {earlier later : List (Turn S)}
    {turn : Turn S} {c : Cached S} (hearlier : Follows none earlier held)
    (hrest : Follows held (turn :: later) left) (hanswer : turn.answer = .ok c) :
    ∃ before, (earlier ++ [turn]).flatMap Turn.calls =
      before ++ [.build turn.width (.ok c.handle)] := by
  rcases hrest with - | ⟨hlawful, -⟩
  obtain ⟨hwidth, hkept⟩ := hlawful.of_ok hanswer
  obtain ⟨before, hbefore⟩ :=
    ((balanced_nil.follows hearlier).answer hlawful).last_eq c hkept
  refine ⟨before, ?_⟩
  rw [← hwidth, ← hbefore]
  simp

/-! ### The end -/

/-- When nothing is held, ending makes no call and finishing succeeds. Otherwise what is
held is closed, and finishing hands on the result of that close. -/
theorem Slot.close_eq (conn : Connection σ S V) (slot : Slot S) (ending : Ending) (s : σ) :
    ∃ result, (slot = none → result = .ok ()) ∧
      (slot.close conn.watched ending (s, [])).2.2 =
          slot.toList.map (fun c => .close c.handle result) ∧
        (slot.close conn ending s).1 = if ending = .finish then some result else none := by
  rcases slot with - | c
  · cases ending <;> exact ⟨.ok (), fun _ => rfl, rfl, rfl⟩
  · cases ending <;> exact ⟨(c.close conn s).1, by simp, rfl, rfl⟩

/-- The end keeps the balance, and then nothing is held. -/
theorem Balanced.ended {calls : List (SlotCall S)} {slot : Slot S} (h : Balanced calls slot)
    (result : Except InsertError Unit) :
    Balanced (calls ++ slot.toList.map fun c => .close c.handle result) none := by
  rcases slot with - | c
  · simpa using h
  · exact h.close result

/-- **The promises of a slot.** A slot that is empty at first is asked for statements of any
widths, whatever becomes of each build and close, and is then finished or dropped. In every
turn a statement is built exactly when the slot holds none of the wanted width; the held
one is closed before, and its failing close does not prevent the build. What is handed out
was built for the wanted width by the last call made so far. After a failed build the slot
holds nothing, and the next turn builds again. At no point are two statements open, and in
the end all that were built have been closed, each once, in the same order. Finishing
returns the result of its own close, or succeeds when nothing is held. -/
theorem Slot.history_rule (conn : Connection σ S V)
    (build : Nat → StateM σ (Except InsertError S)) (widths : List Nat) (ending : Ending)
    (s : σ) :
    let history := (Slot.history conn build widths ending s).1
    history.turns.map Turn.width = widths ∧
      (∀ earlier turn later, history.turns = earlier ++ turn :: later →
        turn.held = earlier.getLast?.bind Turn.kept ∧
        (turn.Builds ↔ ∀ c ∈ turn.held, c.width ≠ turn.width) ∧
        (¬turn.Builds → turn.calls = []) ∧
        (turn.Builds → ∃ closed result,
          turn.calls = turn.held.toList.map (fun c => .close c.handle closed) ++
            [.build turn.width result] ∧ turn.answer = result.map (Cached.mk turn.width)) ∧
        (∀ c, turn.answer = .ok c → c.width = turn.width ∧ turn.kept = some c ∧
          ∃ before, (earlier ++ [turn]).flatMap Turn.calls =
            before ++ [.build turn.width (.ok c.handle)]) ∧
        ∀ error, turn.answer = .error error →
          turn.kept = none ∧ ∀ next ∈ later.head?, next.Builds) ∧
      (∀ calls, calls <+: history.calls → closedIn calls <+: builtIn calls ∧
        (builtIn calls).length ≤ (closedIn calls).length + 1) ∧
      closedIn history.calls = builtIn history.calls ∧
      history.left = history.turns.getLast?.bind Turn.kept ∧
      ∃ result, (history.left = none → result = .ok ()) ∧
        history.endCalls = history.left.toList.map (fun c => .close c.handle result) ∧
        history.result? = if ending = .finish then some result else none := by
  obtain ⟨hfollows, hwidths⟩ := follows_turns conn build none widths s
  rcases hturns : Slot.turns conn build none widths s with ⟨⟨turns, left⟩, s'⟩
  rw [hturns] at hfollows hwidths
  obtain ⟨result, hnone, hend, hresult⟩ := close_eq conn left ending s'
  have hhistory : (Slot.history conn build widths ending s).1 =
      ⟨turns, left, left.toList.map fun c => .close c.handle result,
        if ending = .finish then some result else none⟩ := by
    simp only [Slot.history, bind, StateT.bind, hturns]
    rw [← hend, ← hresult]
    rfl
  have hbalanced : Balanced (turns.flatMap Turn.calls) left := balanced_nil.follows hfollows
  have hended := hbalanced.ended result
  rw [hhistory]
  refine ⟨hwidths, ?_, hended.prefixes, ?_, hfollows.left_eq_of_none, result, hnone, rfl, rfl⟩
  · intro earlier turn later heq
    obtain rfl : turns = earlier ++ turn :: later := heq
    obtain ⟨held, hearlier, hrest⟩ := hfollows.exists_of_append
    have hbuild := fun c => hearlier.exists_build (c := c) hrest
    rcases hrest with - | ⟨hlawful, hlater⟩
    refine ⟨hearlier.left_eq_of_none, hlawful.builds_iff, hlawful.calls_eq_nil,
      hlawful.calls_eq, fun c hanswer => ?_, fun error hanswer => ?_⟩
    · obtain ⟨hwidth, hkept⟩ := hlawful.of_ok hanswer
      exact ⟨hwidth, hkept, hbuild c hanswer⟩
    · have hkept := hlawful.of_error hanswer
      refine ⟨hkept, fun next hnext => ?_⟩
      obtain ⟨after, rfl⟩ := List.head?_eq_some_iff.1 hnext
      exact hlater.builds_of_none hkept
  · simpa [SlotHistory.calls] using hended.built_eq.symm

/-- Every close fails, and so does the second build. Each of the two statements that are
built is closed once. -/
example :
    let refused := InsertError.executionFailed "refused".toList
    let conn : Connection Nat Nat Unit :=
      ⟨fun _ n => (.ok n, n), fun _ _ n => (.ok (), n), fun _ n => (.error refused, n),
        fun _ n => ((), n)⟩
    let build : Nat → StateM Nat (Except InsertError Nat) := fun _ n =>
      (if n = 1 then .error refused else .ok n, n + 1)
    (Slot.history conn build [4, 1, 1, 1] .finish 0).1.calls =
        [.build 4 (.ok 0), .close 0 (.error refused), .build 1 (.error refused),
          .build 1 (.ok 2), .close 2 (.error refused)] ∧
      (Slot.history conn build [4, 1, 1, 1] .finish 0).1.result? =
        some (.error refused) := ⟨rfl, rfl⟩

end BulkInsert.Batch
