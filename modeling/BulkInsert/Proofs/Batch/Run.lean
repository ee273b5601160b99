import BulkInsert.Batch.Insert

/-!
# The run of an insertion

What an insertion does to the state of a connection. The parts have an equation each. The
loop over the windows has a relation, `Runs`, with one rule for each thing that can happen
next. What the loop does is a run, by `runs_insertWindows`, and every run is what the loop
does, by `Runs.eq_insertWindows`. What holds of all runs is proved by induction on `Runs`,
so no later proof opens the loop.
-/

namespace BulkInsert.Batch

variable {σ S V : Type}

/-- Preparing the query for some width is one call. -/
theorem prepareWidth_apply (conn : Connection σ S V) (query tuple : Text) (width : Nat)
    (s : σ) :
    prepareWidth conn query tuple width s =
      conn.prepare (Statement.widen query tuple width)
        (conn.notify (.prepare (Statement.widen query tuple width) width) s).2 := rfl

/-- Executing a statement for a window is one call. -/
theorem executeWindow_apply (conn : Connection σ S V) (c : Cached S)
    (window : List (List V)) (s : σ) :
    executeWindow conn c window s =
      conn.execute c.handle (arguments window)
        (conn.notify (.execute window.length (arguments window).length) s).2 := rfl

/-- Closing a statement is one call, whose result is handed on. -/
theorem Cached.close_apply (conn : Connection σ S V) (c : Cached S) (s : σ) :
    c.close conn s =
      ((conn.close c.handle s).1,
        (conn.notify (.ofClose c.width (conn.close c.handle s).1)
          (conn.close c.handle s).2).2) := rfl

/-! ### The loop, window by window -/

/-- The insertion of a window and all that follow, once a statement for the window is at
hand: when its execution fails the statement is closed, otherwise it stays in the slot. -/
def insertWith (conn : Connection σ S V) (query tuple : Text) (c : Cached S)
    (window : List (List V)) (rest : List (List (List V))) :
    StateM σ (Except InsertError Unit) := fun s =>
  match executeWindow conn c window s with
  | (.error error, s) => (.error error, (c.close conn s).2)
  | (.ok (), s) => insertWindows conn query tuple (some c) rest s

/-- One window: when no statement of its width is obtained, the insertion ends. -/
theorem insertWindows_of_obtain_error (conn : Connection σ S V) (query tuple : Text)
    {slot : Slot S} {window : List (List V)} {s s' : σ} {error : InsertError}
    (h : slot.obtain conn (prepareWidth conn query tuple) window.length s =
      ((.error error, none), s')) (rest : List (List (List V))) :
    insertWindows conn query tuple slot (window :: rest) s = (.error error, s') := by
  simp only [insertWindows, bind, StateT.bind, h]
  rfl

/-- One window: with a statement of its width, which the slot keeps, the insertion goes
on. -/
theorem insertWindows_of_obtain_ok (conn : Connection σ S V) (query tuple : Text)
    {slot : Slot S} {window : List (List V)} {s s' : σ} {c : Cached S}
    (h : slot.obtain conn (prepareWidth conn query tuple) window.length s =
      ((.ok c, some c), s')) (rest : List (List (List V))) :
    insertWindows conn query tuple slot (window :: rest) s =
      insertWith conn query tuple c window rest s' := by
  simp only [insertWindows, insertWith, bind, StateT.bind, h]
  rcases executeWindow conn c window s' with ⟨error | _, s''⟩ <;> rfl

/-- Without windows left and with an empty slot, nothing happens. -/
theorem insertWindows_none_nil (conn : Connection σ S V) (query tuple : Text) (s : σ) :
    insertWindows conn query tuple none [] s = (.ok (), s) := rfl

/-- Without windows left, the statement in the slot is closed. -/
theorem insertWindows_some_nil (conn : Connection σ S V) (query tuple : Text) (c : Cached S)
    (s : σ) : insertWindows conn query tuple (some c) [] s = c.close conn s := rfl

/-- With an empty slot, a statement for the next window is prepared first. -/
theorem insertWindows_none_cons (conn : Connection σ S V) (query tuple : Text)
    (window : List (List V)) (rest : List (List (List V))) (s : σ) :
    insertWindows conn query tuple none (window :: rest) s =
      match prepareWidth conn query tuple window.length s with
      | (.error error, s) => (.error error, s)
      | (.ok handle, s) => insertWith conn query tuple ⟨window.length, handle⟩ window rest s := by
  have hobtain := Slot.obtain_none conn (prepareWidth conn query tuple) window.length s
  rcases hprep : prepareWidth conn query tuple window.length s with ⟨error | handle, s'⟩
  · rw [hprep] at hobtain
    exact insertWindows_of_obtain_error conn query tuple hobtain rest
  · rw [hprep] at hobtain
    exact insertWindows_of_obtain_ok conn query tuple hobtain rest

/-- A statement of the width of the next window is used as it is. -/
theorem insertWindows_of_width_eq (conn : Connection σ S V) (query tuple : Text)
    {c : Cached S} {window : List (List V)} (h : c.width = window.length)
    (rest : List (List (List V))) (s : σ) :
    insertWindows conn query tuple (some c) (window :: rest) s =
      insertWith conn query tuple c window rest s :=
  insertWindows_of_obtain_ok conn query tuple (Slot.obtain_of_width_eq conn _ h s) rest

/-- A statement of another width is closed, and then the slot is empty. -/
theorem insertWindows_of_width_ne (conn : Connection σ S V) (query tuple : Text)
    {c : Cached S} {window : List (List V)} (h : c.width ≠ window.length)
    (rest : List (List (List V))) (s : σ) :
    insertWindows conn query tuple (some c) (window :: rest) s =
      insertWindows conn query tuple none (window :: rest) (c.close conn s).2 := by
  simp only [insertWindows, bind, StateT.bind, Slot.obtain_of_width_ne conn _ h s]

/-! ### The run of the loop -/

/-- `Runs conn query tuple slot cut s out`: the loop over the windows in `cut`, begun in
state `s` with `slot`, ends with `out`, a result and a state. -/
inductive Runs (conn : Connection σ S V) (query tuple : Text) :
    Slot S → List (List (List V)) → σ → Except InsertError Unit × σ → Prop
  | done {s : σ} : Runs conn query tuple none [] s (.ok (), s)
  | finished {c : Cached S} {s : σ} : Runs conn query tuple (some c) [] s (c.close conn s)
  | prepareFailed {window : List (List V)} {rest : List (List (List V))} {s s' : σ}
      {error : InsertError} :
      prepareWidth conn query tuple window.length s = (.error error, s') →
      Runs conn query tuple none (window :: rest) s (.error error, s')
  | prepared {window : List (List V)} {rest : List (List (List V))} {s s' : σ} {handle : S}
      {out : Except InsertError Unit × σ} :
      prepareWidth conn query tuple window.length s = (.ok handle, s') →
      Runs conn query tuple (some ⟨window.length, handle⟩) (window :: rest) s' out →
      Runs conn query tuple none (window :: rest) s out
  | replaced {c : Cached S} {window : List (List V)} {rest : List (List (List V))} {s : σ}
      {out : Except InsertError Unit × σ} :
      c.width ≠ window.length →
      Runs conn query tuple none (window :: rest) (c.close conn s).2 out →
      Runs conn query tuple (some c) (window :: rest) s out
  | executeFailed {c : Cached S} {window : List (List V)} {rest : List (List (List V))}
      {s s' : σ} {error : InsertError} :
      c.width = window.length → executeWindow conn c window s = (.error error, s') →
      Runs conn query tuple (some c) (window :: rest) s (.error error, (c.close conn s').2)
  | executed {c : Cached S} {window : List (List V)} {rest : List (List (List V))} {s s' : σ}
      {out : Except InsertError Unit × σ} :
      c.width = window.length → executeWindow conn c window s = (.ok (), s') →
      Runs conn query tuple (some c) rest s' out →
      Runs conn query tuple (some c) (window :: rest) s out

section

variable {conn : Connection σ S V} {query tuple : Text} {slot : Slot S}
  {window : List (List V)} {rest cut : List (List (List V))} {s : σ}
  {out : Except InsertError Unit × σ}

/-- A window is run with a statement of its width, and so is what follows. -/
theorem Runs.of_insertWith {c : Cached S} (hw : c.width = window.length)
    (hrest : ∀ s, Runs conn query tuple (some c) rest s
      (insertWindows conn query tuple (some c) rest s)) :
    Runs conn query tuple (some c) (window :: rest) s
      (insertWith conn query tuple c window rest s) := by
  rw [insertWith]
  rcases hexec : executeWindow conn c window s with ⟨e | u, s'⟩
  · exact .executeFailed hw hexec
  · exact .executed hw hexec (hrest s')

/-- A window is run with an empty slot, and so is what follows. -/
theorem Runs.of_insertWindows_none
    (hrest : ∀ c s, Runs conn query tuple (some c) rest s
      (insertWindows conn query tuple (some c) rest s)) :
    Runs conn query tuple none (window :: rest) s
      (insertWindows conn query tuple none (window :: rest) s) := by
  rw [insertWindows_none_cons]
  rcases hprep : prepareWidth conn query tuple window.length s with ⟨e | handle, s'⟩
  · exact .prepareFailed hprep
  · exact .prepared hprep (.of_insertWith rfl (hrest _))

/-- What the loop does is a run. -/
theorem runs_insertWindows (conn : Connection σ S V) (query tuple : Text) (slot : Slot S)
    (cut : List (List (List V))) (s : σ) :
    Runs conn query tuple slot cut s (insertWindows conn query tuple slot cut s) := by
  induction cut generalizing slot s with
  | nil =>
      rcases slot with - | c
      · exact .done
      · exact .finished
  | cons window rest ih =>
      rcases slot with - | c
      · exact .of_insertWindows_none fun c s => ih (some c) s
      · by_cases hw : c.width = window.length
        · rw [insertWindows_of_width_eq _ _ _ hw]
          exact .of_insertWith hw fun s => ih (some c) s
        · rw [insertWindows_of_width_ne _ _ _ hw]
          exact .replaced hw (.of_insertWindows_none fun c s => ih (some c) s)

/-- Every run is what the loop does. -/
theorem Runs.eq_insertWindows (h : Runs conn query tuple slot cut s out) :
    out = insertWindows conn query tuple slot cut s := by
  induction h with
  | done => rw [insertWindows_none_nil]
  | finished => rw [insertWindows_some_nil]
  | prepareFailed hprep => rw [insertWindows_none_cons, hprep]
  | prepared hprep _ ih =>
      rw [ih, insertWindows_none_cons, hprep, insertWindows_of_width_eq _ _ _ rfl]
  | replaced hw _ ih => rw [ih, insertWindows_of_width_ne _ _ _ hw]
  | executeFailed hw hexec => rw [insertWindows_of_width_eq _ _ _ hw, insertWith, hexec]
  | executed hw hexec _ ih => rw [ih, insertWindows_of_width_eq _ _ _ hw, insertWith, hexec]

end

/-! ### What every run keeps -/

/-- `Keeps conn query tuple P`: everything that a run can do next keeps `P`, which speaks of
the slot, the windows left and the state. A window is used up when its execution succeeds. -/
structure Keeps (conn : Connection σ S V) (query tuple : Text)
    (P : Slot S → List (List (List V)) → σ → Prop) : Prop where
  prepare {window : List (List V)} {rest : List (List (List V))} {s : σ} :
    P none (window :: rest) s →
    P ((prepareWidth conn query tuple window.length s).1.toOption.map (Cached.mk window.length))
      (window :: rest) (prepareWidth conn query tuple window.length s).2
  execute {c : Cached S} {window : List (List V)} {rest : List (List (List V))} {s : σ} :
    c.width = window.length → P (some c) (window :: rest) s →
    P (some c) (if (executeWindow conn c window s).1.isOk then rest else window :: rest)
      (executeWindow conn c window s).2
  close {c : Cached S} {left : List (List (List V))} {s : σ} :
    P (some c) left s → P none left (c.close conn s).2

/-- What every step of a run keeps, the run keeps. At its end the slot is empty. -/
theorem Runs.keeps {conn : Connection σ S V} {query tuple : Text}
    {P : Slot S → List (List (List V)) → σ → Prop} (hkeeps : Keeps conn query tuple P)
    {slot : Slot S} {cut : List (List (List V))} {s : σ} {out : Except InsertError Unit × σ}
    (h : Runs conn query tuple slot cut s out) (hs : P slot cut s) :
    ∃ left, P none left out.2 := by
  induction h with
  | done => exact ⟨_, hs⟩
  | finished => exact ⟨_, hkeeps.close hs⟩
  | prepareFailed hprep =>
      have hfailed := hkeeps.prepare hs
      rw [hprep] at hfailed
      exact ⟨_, hfailed⟩
  | prepared hprep _ ih =>
      have hprepared := hkeeps.prepare hs
      rw [hprep] at hprepared
      exact ih hprepared
  | replaced _ _ ih => exact ih (hkeeps.close hs)
  | executeFailed hw hexec =>
      have hfailed := hkeeps.execute hw hs
      rw [hexec] at hfailed
      exact ⟨_, hkeeps.close hfailed⟩
  | executed hw hexec _ ih =>
      have hexecuted := hkeeps.execute hw hs
      rw [hexec] at hexecuted
      exact ih hexecuted

/-! ### The whole insertion -/

/-- What has passed the examination is inserted window by window. -/
theorem insertRows_of_examine {conn : Connection σ S V} {query tuple : Text} {size : Nat}
    {rows : List (List V)} (h : examine query size rows = .ok tuple) :
    insertRows conn query size rows =
      insertWindows conn query tuple none (windows size rows) := by
  rw [insertRows, h]

/-- What has not passed the examination leaves the connection alone. -/
theorem insertRows_of_examine_error {conn : Connection σ S V} {query : Text} {size : Nat}
    {rows : List (List V)} {error : InsertError} (h : examine query size rows = .error error)
    (s : σ) : insertRows conn query size rows s = (.error error, s) := by
  rw [insertRows, h]
  rfl

/-- With rows and a positive batch size, the statement is all that is examined. -/
theorem examine_of_pos {query : Text} {size : Nat} {rows : List (List V)} (hrows : rows ≠ [])
    (hsize : 1 ≤ size) :
    examine query size rows =
      match Statement.check query with
      | .error error => .error error
      | .ok () => Statement.extractTuple query := by
  have hempty : rows.isEmpty = false := by simpa using hrows
  have hpos : size ≠ 0 := by omega
  simp only [examine, hempty, hpos, Bool.false_eq_true, if_false]
  cases Statement.check query <;> rfl

/-- Some rows, a positive batch size, and a statement that is recognised and whose tuple is
found pass the examination. -/
theorem examine_eq_ok {query tuple : Text} {size : Nat} {rows : List (List V)}
    (hrows : rows ≠ []) (hsize : 1 ≤ size) (hcheck : Statement.check query = .ok ())
    (htuple : Statement.extractTuple query = .ok tuple) :
    examine query size rows = .ok tuple := by
  rw [examine_of_pos hrows hsize, hcheck]
  exact htuple

/-- What passes the examination has a positive batch size, and its tuple is that of its
statement. -/
theorem of_examine_eq_ok {query tuple : Text} {size : Nat} {rows : List (List V)}
    (h : examine query size rows = .ok tuple) :
    1 ≤ size ∧ Statement.extractTuple query = .ok tuple := by
  rcases rows with - | ⟨row, rows⟩
  · cases h
  · rcases Nat.eq_zero_or_pos size with rfl | hsize
    · cases h
    · rw [examine_of_pos (List.cons_ne_nil row rows) hsize] at h
      split at h
      · cases h
      · exact ⟨hsize, h⟩

end BulkInsert.Batch
