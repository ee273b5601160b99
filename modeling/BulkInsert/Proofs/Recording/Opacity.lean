import BulkInsert.Proofs.Batch.Simulation
import BulkInsert.Proofs.Recording.Custody

/-!
# Values are opaque

The values of the rows go into the arguments of the executions, and nowhere else. Two
insertions of equally many rows, begun from recorders in equal states, ask the same of their
recorders in the same order and end with the same result, whatever the values are and however
many each row has: `insertRows_opaque`. With tracing on, a notice tells the number of
arguments, and this is all that differs in the notices.

`Event.Matches` says that two events are the same but for arguments. The comparison is the
simulation `simulation_of_matches`, in which a relation of argument lists is left open: for
any two argument lists it gives the first half of the result, and for lists of which one is
the other with a function applied to its values, the second half.
-/

namespace BulkInsert.Recording

open Batch

variable {V W : Type}

/-- `Event.Matches A e e'`: the events are the same, but the arguments of an execution are
only related by `A`. A notice of an execution tells their numbers. -/
inductive Event.Matches (A : List V → List W → Prop) : Event V → Event W → Prop
  | prepared {name : Nat} {sql : Text} : Matches A (.prepared name sql) (.prepared name sql)
  | prepareFailed {sql : Text} : Matches A (.prepareFailed sql) (.prepareFailed sql)
  | executed {succeeded : Bool} {name : Nat} {arguments : List V} {arguments' : List W} :
      A arguments arguments' →
      Matches A (.executed succeeded name arguments) (.executed succeeded name arguments')
  | closed {succeeded : Bool} {name : Nat} :
      Matches A (.closed succeeded name) (.closed succeeded name)
  | executing {width : Nat} {arguments : List V} {arguments' : List W} :
      A arguments arguments' →
      Matches A (.noticed (.execute width arguments.length))
        (.noticed (.execute width arguments'.length))
  | noticed {notice : Notice} : Matches A (.noticed notice) (.noticed notice)

/-- The event with a function applied to the arguments of an execution. -/
def Event.map (f : V → W) : Event V → Event W
  | prepared name sql => .prepared name sql
  | prepareFailed sql => .prepareFailed sql
  | executed succeeded name arguments => .executed succeeded name (arguments.map f)
  | closed succeeded name => .closed succeeded name
  | noticed notice => .noticed notice

/-- Events that match up to a function are the one with the function applied to its
arguments. -/
theorem Event.Matches.map_eq {f : V → W} {e : Event V} {e' : Event W}
    (h : Event.Matches (fun arguments arguments' => arguments.map f = arguments') e e') :
    e.map f = e' := by
  cases h with
  | executed harguments => rw [← harguments, Event.map]
  | executing harguments => rw [← harguments, List.length_map, Event.map]
  | _ => rfl

/-- A list is another one with a function applied when it is so element by element. -/
theorem forall₂_map_eq_iff {α β : Type} {g : α → β} {xs : List α} {ys : List β} :
    List.Forall₂ (fun x y => g x = y) xs ys ↔ xs.map g = ys := by
  rw [← List.forall₂_eq_eq_eq, List.forall₂_map_left_iff]

namespace Recorder

/-- Two recorders are in **equal states** when they do the same at every call to come. What
they have seen may differ. -/
structure SameState (r : Recorder V) (r' : Recorder W) : Prop where
  plan_eq : r.plan = r'.plan
  tracing_eq : r.tracing = r'.tracing
  counters_eq : r.counters = r'.counters

/-- A recorder in an equal state is the same recorder with another log. -/
theorem SameState.exists_eq {r : Recorder V} {r' : Recorder W} (h : r.SameState r') :
    ∃ log, r' = ⟨r.plan, r.tracing, r.counters, log⟩ := by
  obtain ⟨plan, tracing, counters, log⟩ := r'
  obtain ⟨rfl, rfl, rfl⟩ := h
  exact ⟨log, rfl⟩

/-- Two recorders have come from `start` and `start'` by matching events. -/
def Abreast (A : List V → List W → Prop) (start : Recorder V) (start' : Recorder W)
    (r : Recorder V) (r' : Recorder W) : Prop :=
  r.SameState r' ∧ ∃ seen seen', r.events = start.events ++ seen ∧
    r'.events = start'.events ++ seen' ∧ List.Forall₂ (Event.Matches A) seen seen'

section

variable {A : List V → List W → Prop} {start r : Recorder V} {start' r' : Recorder W}

/-- Matching events keep two recorders abreast. -/
theorem Abreast.see (h : Abreast A start start' r r') (counters : Counters) {e : Event V}
    {e' : Event W} (hmatch : Event.Matches A e e') :
    Abreast A start start' ({ r with counters }.see e) ({ r' with counters }.see e') := by
  obtain ⟨hstate, seen, seen', hseen, hseen', hall⟩ := h
  refine ⟨⟨hstate.plan_eq, hstate.tracing_eq, rfl⟩, seen ++ [e], seen' ++ [e'], ?_, ?_,
    List.rel_append hall (.cons hmatch .nil)⟩
  · rw [events_see, ← List.append_assoc, ← hseen]
    rfl
  · rw [events_see, ← List.append_assoc, ← hseen']
    rfl

/-- Matching notices keep two recorders abreast, whether or not they are recorded. -/
theorem Abreast.notify (h : Abreast A start start' r r') {notice notice' : Notice}
    (hmatch : Event.Matches A (.noticed notice) (.noticed notice')) :
    Abreast A start start' (Recorder.notify notice r).2 (Recorder.notify notice' r').2 := by
  obtain ⟨log, rfl⟩ := h.1.exists_eq
  simp only [Recorder.notify]
  split
  · exact h.see r.counters hmatch
  · exact h

/-- A prepare keeps two recorders abreast. -/
theorem Abreast.prepare (h : Abreast A start start' r r') (sql : Text) :
    SameUpTo (Abreast A start start') (connection.prepare sql r)
      (connection.prepare sql r') := by
  obtain ⟨log, rfl⟩ := h.1.exists_eq
  simp only [connection, Recorder.prepare]
  split
  · exact ⟨rfl, h.see _ .prepareFailed⟩
  · exact ⟨rfl, h.see _ .prepared⟩

/-- An execution keeps two recorders abreast when its arguments are related. -/
theorem Abreast.execute (h : Abreast A start start' r r') (name : Nat) {arguments : List V}
    {arguments' : List W} (harguments : A arguments arguments') :
    SameUpTo (Abreast A start start') (connection.execute name arguments r)
      (connection.execute name arguments' r') := by
  obtain ⟨log, rfl⟩ := h.1.exists_eq
  exact ⟨rfl, h.see _ (.executed harguments)⟩

/-- A close keeps two recorders abreast. -/
theorem Abreast.close (h : Abreast A start start' r r') (name : Nat) :
    SameUpTo (Abreast A start start') (connection.close name r) (connection.close name r') := by
  obtain ⟨log, rfl⟩ := h.1.exists_eq
  exact ⟨rfl, h.see _ .closed⟩

end

/-- Recorders abreast of one another stay so when the rows inserted give related
arguments. -/
theorem simulation_of_matches {A : List V → List W → Prop} {P : List V → List W → Prop}
    (harguments : ∀ window window', List.Forall₂ P window window' →
      A (arguments window) (arguments window'))
    (start : Recorder V) (start' : Recorder W) :
    Simulation connection connection P (Abreast A start start') where
  prepare h query tuple width := (h.notify .noticed).prepare _
  execute {r r' window window'} h hwindow c := by
    have hrelated := harguments window window' hwindow
    have hnotice : Event.Matches A
        (.noticed (.execute window.length (arguments window).length))
        (.noticed (.execute window.length (arguments window').length)) := .executing hrelated
    rw [executeWindow_apply, executeWindow_apply, ← hwindow.length_eq]
    exact (h.notify hnotice).execute c.handle hrelated
  close {r r'} h c := by
    obtain ⟨hresult, hclosed⟩ := h.close c.handle
    rw [Cached.close_apply, Cached.close_apply, ← hresult]
    exact ⟨rfl, hclosed.notify .noticed⟩

/-- Insertions of rows that give related arguments return the same result and cause matching
events. -/
theorem matches_insertRows {A : List V → List W → Prop} {P : List V → List W → Prop}
    (harguments : ∀ window window', List.Forall₂ P window window' →
      A (arguments window) (arguments window'))
    (query : Text) (size : Nat) {rows : List (List V)} {rows' : List (List W)}
    (hrows : List.Forall₂ P rows rows') {r : Recorder V} {r' : Recorder W}
    (hstate : r.SameState r') :
    SameUpTo SameState (insertRows connection query size rows r)
        (insertRows connection query size rows' r') ∧
      List.Forall₂ (Event.Matches A)
        ((insertRows connection query size rows r).2.eventsSince r)
        ((insertRows connection query size rows' r').2.eventsSince r') := by
  have hstart : Abreast A r r' r r' := ⟨hstate, [], [], by simp, by simp, .nil⟩
  obtain ⟨hresult, hstate', seen, seen', hseen, hseen', hall⟩ :=
    (simulation_of_matches harguments r r').insertRows query size hrows hstart
  refine ⟨⟨hresult, hstate'⟩, ?_⟩
  rwa [eventsSince_eq hseen, eventsSince_eq hseen']

end Recorder

/-- **Values are opaque.** Insertions of equally many rows, begun from recorders in equal
states, return the same result and leave equal states. The events they cause are the same one
by one but for the arguments of the executions. When the rows of the one are those of the other
with a function applied to every value, so are these arguments. -/
theorem insertRows_opaque (query : Text) (size : Nat) {rows : List (List V)}
    {rows' : List (List W)} (hrows : rows.length = rows'.length) {r : Recorder V}
    {r' : Recorder W} (hstate : r.SameState r') :
    let out := insertRows Recorder.connection query size rows r
    let out' := insertRows Recorder.connection query size rows' r'
    out.1 = out'.1 ∧ out.2.SameState out'.2 ∧
      List.Forall₂ (Event.Matches fun _ _ => True) (out.2.eventsSince r)
        (out'.2.eventsSince r') ∧
      ∀ f : V → W, rows' = rows.map (List.map f) →
        out'.2.eventsSince r' = (out.2.eventsSince r).map (Event.map f) := by
  intro out out'
  have hany : List.Forall₂ (fun (_ : List V) (_ : List W) => True) rows rows' :=
    List.forall₂_iff_zip.2 ⟨hrows, fun _ => trivial⟩
  obtain ⟨⟨hresult, hstate'⟩, hall⟩ := Recorder.matches_insertRows
    (A := fun _ _ => True) (fun _ _ _ => trivial) query size hany hstate
  refine ⟨hresult, hstate', hall, ?_⟩
  intro f hmap
  have hrelated : List.Forall₂ (fun row row' => List.map f row = row') rows rows' :=
    forall₂_map_eq_iff.2 hmap.symm
  obtain ⟨-, hmapped⟩ := Recorder.matches_insertRows
    (A := fun arguments arguments' => arguments.map f = arguments')
    (fun window window' hwindow => by
      rw [← forall₂_map_eq_iff.1 hwindow, arguments, arguments, List.map_flatten])
    query size hrelated hstate
  exact (forall₂_map_eq_iff.1 (hmapped.imp fun _ _ => Event.Matches.map_eq)).symm

/-- Three rows of other values and other lengths, where the second execute fails and notices
are recorded. -/
theorem insertRows_opaque_of_uneven_rows :
    let query := "INSERT INTO t VALUES (?)".toList
    let rows := [[1, 2], [], [3]]
    let rows' := [[], [true, false], [true, true]]
    let plan : FailurePlan := { execute := [⟨2, .executionFailed "full".toList⟩] }
    let r : Recorder Nat := { plan, tracing := true }
    let r' : Recorder Bool := { plan, tracing := true }
    let out := insertRows Recorder.connection query 2 rows r
    let out' := insertRows Recorder.connection query 2 rows' r'
    rows.length = rows'.length ∧ r.SameState r' ∧
      out.1 = .error (.executionFailed "full".toList) ∧ out.1 = out'.1 ∧
      .executed false 2 [3] ∈ out.2.eventsSince r ∧
      .executed false 2 [true, true] ∈ out'.2.eventsSince r' ∧
      List.Forall₂ (Event.Matches fun _ _ => True) (out.2.eventsSince r)
        (out'.2.eventsSince r') := by
  intro query rows rows' plan r r' out out'
  have hlength : rows.length = rows'.length := rfl
  have hstate : r.SameState r' := ⟨rfl, rfl, rfl⟩
  obtain ⟨hresult, -, hall, -⟩ := insertRows_opaque query 2 hlength hstate
  exact ⟨hlength, hstate, by decide +kernel, hresult, by decide +kernel, by decide +kernel, hall⟩

end BulkInsert.Recording
