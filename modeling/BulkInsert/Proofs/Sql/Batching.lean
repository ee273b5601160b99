import BulkInsert.Proofs.Batch.Run
import BulkInsert.Proofs.Batch.Windows
import BulkInsert.Proofs.Sql.Execution
import BulkInsert.Proofs.Statement.Widening
import BulkInsert.Sql.Store

/-!
# Batching over the SQL store

An insertion in windows of any size does to the tables what an insertion row by row does:
`insertRows_eq_rowByRow`. It has two steps.

First the loop over the store is followed. A statement from the slot may have been prepared
for an earlier state of the database, but it is what would be prepared now, so the loop
prepares and executes every window anew: `outcome_of_runs`.

Then windows are taken apart into rows. If a row is refused, the windows before its own have
been inserted and its own is lost as a whole: `SingleRow.insertCut_of_first_failure`.
-/

namespace BulkInsert.Sql

open Batch

variable {query tuple : Text}

/-! ### The loop over the store -/

/-- Inserts windows of rows, each by a statement of its own, up to the first that fails:
whether none fails, and the database that is left. -/
def Database.insertCut (query tuple : Text) : Database → List (List Row) → Bool × Database
  | db, [] => (true, db)
  | db, window :: rest =>
    match db.insertWindow query tuple window with
    | .error _ => (false, db)
    | .ok db => insertCut query tuple db rest

/-- Whether a run over the store succeeds, and the database that it leaves. -/
def outcome (run : Except InsertError Unit × Store) : Bool × Database :=
  (run.1.isOk, run.2.database)

namespace Store

/-- A notice changes no table. -/
theorem database_notify (notice : Notice) (s : Store) :
    (Store.connection.notify notice s).2.database = s.database := by
  simp only [connection, notify]
  split <;> rfl

/-- A close succeeds and changes no table. -/
theorem outcome_close (c : Cached Prepared) (s : Store) :
    outcome (c.close Store.connection s) = (true, s.database) := by
  rw [Cached.close_apply, outcome, database_notify]
  rfl

/-- A prepare changes no table and fares as it does on the database. -/
theorem prepare_of_prepareWidth {width : Nat} {s s' : Store}
    {result : Except InsertError Prepared}
    (h : prepareWidth Store.connection query tuple width s = (result, s')) :
    s'.database = s.database ∧
      ((∃ p, s.database.prepare (Statement.widen query tuple width) = .ok p ∧ result = .ok p) ∨
        ∃ fault, s.database.prepare (Statement.widen query tuple width) = .error fault ∧
          result = .error (.storeFault fault)) := by
  have hnotify := database_notify (.prepare (Statement.widen query tuple width) width) s
  rw [prepareWidth_apply] at h
  obtain ⟨rfl, rfl⟩ := Prod.mk.inj h
  refine ⟨hnotify, ?_⟩
  rw [hnotify]
  cases s.database.prepare (Statement.widen query tuple width) with
  | ok p => exact .inl ⟨p, rfl, rfl⟩
  | error fault => exact .inr ⟨fault, rfl, rfl⟩

/-- An execution fares as it does on the database, and changes the tables if it succeeds. -/
theorem execute_of_executeWindow {c : Cached Prepared} {window : List Row} {s s' : Store}
    {result : Except InsertError Unit}
    (h : executeWindow Store.connection c window s = (result, s')) :
    (s.database.execute c.handle (arguments window) = .ok s'.database ∧ result = .ok ()) ∨
      ∃ fault, s.database.execute c.handle (arguments window) = .error fault ∧
        result = .error (.storeFault fault) ∧ s'.database = s.database := by
  have hnotify := database_notify (.execute window.length (arguments window).length) s
  rw [executeWindow_apply] at h
  change Store.execute c.handle (arguments window) _ = _ at h
  rw [Store.execute, hnotify] at h
  cases hexec : s.database.execute c.handle (arguments window) with
  | ok db =>
      rw [hexec] at h
      obtain ⟨rfl, rfl⟩ := Prod.mk.inj h
      exact .inl ⟨rfl, rfl⟩
  | error fault =>
      rw [hexec] at h
      obtain ⟨rfl, rfl⟩ := Prod.mk.inj h
      exact .inr ⟨fault, rfl, rfl, hnotify⟩

end Store

/-- A slot whose statement is what would be prepared now. -/
def Current (query tuple : Text) (slot : Slot Prepared) (db : Database) : Prop :=
  ∀ c ∈ slot, db.prepare (Statement.widen query tuple c.width) = .ok c.handle

namespace Current

variable {slot : Slot Prepared} {db db' : Database}

/-- An empty slot is current. -/
theorem none : Current query tuple none db := fun c hc => absurd hc (Option.not_mem_none c)

/-- A current statement stays current while the schema stays. -/
theorem of_sameSchema (h : Current query tuple slot db) (hschema : db.SameSchema db') :
    Current query tuple slot db' := fun c hc =>
  (Database.prepare_eq_of_sameSchema hschema _).symm.trans (h c hc)

/-- With a current statement of its width, a window is inserted by executing this. -/
theorem insertWindow_eq {c : Cached Prepared} {window : List Row}
    (h : Current query tuple (some c) db) (hw : c.width = window.length) :
    db.insertWindow query tuple window = db.execute c.handle (arguments window) := by
  have hprepare := h c rfl
  rw [hw] at hprepare
  rw [Database.insertWindow, hprepare]
  rfl

end Current

/-- A run over the store prepares and executes every window anew, as far as the tables are
concerned. -/
theorem outcome_of_runs {slot : Slot Prepared} {cut : List (List Row)} {s : Store}
    {out : Except InsertError Unit × Store}
    (hrun : Runs Store.connection query tuple slot cut s out)
    (h : Current query tuple slot s.database) :
    outcome out = s.database.insertCut query tuple cut := by
  induction hrun with
  | done => rfl
  | finished => exact Store.outcome_close _ _
  | @prepareFailed window rest s s' error hprep =>
      obtain ⟨hs', ⟨p, -, hresult⟩ | ⟨fault, hfault, -⟩⟩ := Store.prepare_of_prepareWidth hprep
      · cases hresult
      · rw [Database.insertCut, Database.insertWindow, hfault]
        exact Prod.ext rfl hs'
  | @prepared window rest s s' handle out hprep _ ih =>
      obtain ⟨hs', ⟨p, hok, hresult⟩ | ⟨fault, -, hresult⟩⟩ :=
        Store.prepare_of_prepareWidth hprep
      · obtain rfl := Except.ok.inj hresult
        rw [← hs'] at hok ⊢
        exact ih fun c hc => Option.some.inj hc ▸ hok
      · cases hresult
  | @replaced c window rest s out _ _ ih =>
      have hclose : (c.close Store.connection s).2.database = s.database :=
        congrArg Prod.snd (Store.outcome_close c s)
      rw [← hclose]
      exact ih .none
  | @executeFailed c window rest s s' error hw hexec =>
      have hclose := congrArg Prod.snd (Store.outcome_close c s')
      rw [Database.insertCut, h.insertWindow_eq hw]
      obtain ⟨-, hresult⟩ | ⟨fault, hfault, -, hs'⟩ := Store.execute_of_executeWindow hexec
      · cases hresult
      · rw [hfault]
        exact Prod.ext rfl (hclose.trans hs')
  | @executed c window rest s s' out hw hexec _ ih =>
      rw [Database.insertCut, h.insertWindow_eq hw]
      obtain ⟨hok, -⟩ | ⟨fault, -, hresult, -⟩ := Store.execute_of_executeWindow hexec
      · rw [hok]
        exact ih (h.of_sameSchema (Database.sameSchema_of_execute hok))
      · cases hresult

/-- An insertion over the store inserts the windows of its rows. -/
theorem outcome_insertRows {size : Nat} {rows : List Row}
    (htuple : Statement.extractTuple query = .ok tuple) (hrows : rows ≠ []) (hsize : 1 ≤ size)
    (s : Store) :
    outcome (insertRows Store.connection query size rows s) =
      s.database.insertCut query tuple (windows size rows) := by
  have hexamine := examine_eq_ok hrows hsize (Statement.check_of_extractTuple htuple) htuple
  rw [insertRows_of_examine hexamine]
  exact outcome_of_runs (runs_insertWindows Store.connection query tuple none _ s) .none

/-! ### Windows and rows -/

section Fold

variable {α β : Type} {f : α → β → Option α} {a : α} {bs : List β}

/-- What fails within the first steps fails. -/
theorem foldlM_eq_none_of_take {count : Nat} (h : (bs.take count).foldlM f a = none) :
    bs.foldlM f a = none := by
  rw [← List.take_append_drop count bs, List.foldlM_append, h]
  rfl

/-- Where steps fail, one is the first that does. -/
theorem exists_first_of_foldlM_eq_none (h : bs.foldlM f a = none) :
    ∃ i, i < bs.length ∧ (∃ a', (bs.take i).foldlM f a = some a') ∧
      (bs.take (i + 1)).foldlM f a = none := by
  induction bs generalizing a with
  | nil => cases h
  | cons b bs ih =>
      rw [List.foldlM_cons] at h
      cases hb : f a b with
      | none =>
          refine ⟨0, by simp, ⟨a, rfl⟩, ?_⟩
          rw [List.take_succ_cons, List.foldlM_cons, hb]
          rfl
      | some a' =>
          rw [hb] at h
          obtain ⟨i, hi, ⟨a'', hbefore⟩, hat⟩ := ih h
          refine ⟨i + 1, by simpa using hi, ⟨a'', ?_⟩, ?_⟩
          · rw [List.take_succ_cons, List.foldlM_cons, hb]
            exact hbefore
          · rw [List.take_succ_cons, List.foldlM_cons, hb]
            exact hat

end Fold

namespace SingleRow

variable {i : Insertion} {items : List Item} {size : Nat} {rows : List Row}
  {cut : List (List Row)}

/-- If every row can be inserted after those before it, so can the windows. -/
theorem insertCut_of_foldlM_eq_some (h : SingleRow query tuple i items) (hsize : 1 ≤ size)
    (hcut : IsCut size rows cut) (hrows : ∀ row ∈ rows, row.length = placeholders items)
    {db db' : Database} (hfold : rows.foldlM (Database.insertSingle query tuple) db = some db') :
    db.insertCut query tuple cut = (true, db') := by
  induction hcut generalizing db with
  | nil =>
      obtain rfl := Option.some.inj hfold
      rfl
  | @last window hne hle =>
      rw [← h.insertWindow_eq_foldlM db hne hrows, toOption_eq_some_iff] at hfold
      rw [Database.insertCut, hfold]
      rfl
  | @full window rows cut hlen hcut ih =>
      have hne : window ≠ [] := List.ne_nil_of_length_pos (by omega)
      rw [List.forall_mem_append] at hrows
      rw [List.foldlM_append, Option.bind_eq_bind, Option.bind_eq_some_iff] at hfold
      obtain ⟨db₁, hwindow, hrest⟩ := hfold
      rw [← h.insertWindow_eq_foldlM db hne hrows.1, toOption_eq_some_iff] at hwindow
      rw [Database.insertCut, hwindow]
      exact ih hrows.2 hrest

/-- A window one of whose rows cannot be inserted is lost as a whole, with all that follow. -/
theorem insertCut_of_foldlM_eq_none (h : SingleRow query tuple i items) {db : Database}
    {window : List Row} (hne : window ≠ [])
    (hwindow : ∀ row ∈ window, row.length = placeholders items)
    (hfold : window.foldlM (Database.insertSingle query tuple) db = none)
    (rest : List (List Row)) : db.insertCut query tuple (window :: rest) = (false, db) := by
  rw [← h.insertWindow_eq_foldlM db hne hwindow] at hfold
  rw [Database.insertCut]
  cases hw : db.insertWindow query tuple window with
  | error e => rfl
  | ok db' =>
      rw [hw] at hfold
      cases hfold

/-- If row `n` is the first that cannot be inserted after those before it, the windows
before its own are inserted, and its own fails and is lost as a whole. -/
theorem insertCut_of_first_failure (h : SingleRow query tuple i items) (hsize : 1 ≤ size)
    (hcut : IsCut size rows cut) (hrows : ∀ row ∈ rows, row.length = placeholders items)
    {db : Database} {n : Nat} (hn : n < rows.length)
    (hbefore : ∃ db', (rows.take n).foldlM (Database.insertSingle query tuple) db = some db')
    (hat : (rows.take (n + 1)).foldlM (Database.insertSingle query tuple) db = none) :
    ∃ db', (rows.take (n / size * size)).foldlM (Database.insertSingle query tuple) db =
        some db' ∧ db.insertCut query tuple cut = (false, db') := by
  induction hcut generalizing db n with
  | nil => exact absurd hn (Nat.not_lt_zero n)
  | @last window hne hle =>
      refine ⟨db, ?_, h.insertCut_of_foldlM_eq_none hne hrows (foldlM_eq_none_of_take hat) []⟩
      rw [Nat.div_eq_of_lt (by omega), Nat.zero_mul, List.take_zero]
      rfl
  | @full window rows cut hlen hcut ih =>
      have hne : window ≠ [] := List.ne_nil_of_length_pos (by omega)
      rw [List.forall_mem_append] at hrows
      rcases Nat.lt_or_ge n size with hlt | hge
      · rw [List.take_append_of_le_length (by omega)] at hat
        refine ⟨db, ?_,
          h.insertCut_of_foldlM_eq_none hne hrows.1 (foldlM_eq_none_of_take hat) cut⟩
        rw [Nat.div_eq_of_lt hlt, Nat.zero_mul, List.take_zero]
        rfl
      · -- The window is inserted, and the failure is among the rows behind it.
        obtain ⟨m, rfl⟩ : ∃ m, n = size + m := ⟨n - size, by omega⟩
        have htake : ∀ k, (window ++ rows).take (size + k) = window ++ rows.take k := by
          intro k
          rw [← hlen, List.take_length_add_append]
        have hdiv : (size + m) / size * size = size + m / size * size := by
          rw [Nat.add_div_left _ hsize, Nat.succ_mul, Nat.add_comm]
        obtain ⟨db', hbefore⟩ := hbefore
        rw [htake, List.foldlM_append, Option.bind_eq_bind, Option.bind_eq_some_iff] at hbefore
        obtain ⟨db₁, hwindow, hbefore⟩ := hbefore
        rw [Nat.add_assoc, htake, List.foldlM_append, hwindow] at hat
        rw [List.length_append, hlen] at hn
        obtain ⟨db₂, hfold, hcut₂⟩ := ih hrows.2 (by omega) ⟨db', hbefore⟩ hat
        refine ⟨db₂, ?_, ?_⟩
        · rw [hdiv, htake, List.foldlM_append, hwindow]
          exact hfold
        · rw [← h.insertWindow_eq_foldlM db hne hrows.1, toOption_eq_some_iff] at hwindow
          rw [Database.insertCut, hwindow]
          exact hcut₂

end SingleRow

/-! ### Runs -/

/-- Whether the insertion of rows one by one gets past the first `n` rows and fails at the
next. -/
def FailsFirstAt (query : Text) (s : Store) (rows : List Row) (n : Nat) : Prop :=
  n < rows.length ∧
    (n ≠ 0 → (insertRows Store.connection query 1 (rows.take n) s).1 = .ok ()) ∧
    (insertRows Store.connection query 1 (rows.take (n + 1)) s).1 ≠ .ok ()

/-- A run succeeds when its outcome says so. -/
theorem eq_ok_iff_outcome {run : Except InsertError Unit × Store} :
    run.1 = .ok () ↔ (outcome run).1 = true := by
  obtain ⟨e | u, s⟩ := run
  · exact ⟨(nomatch ·), (nomatch ·)⟩
  · exact ⟨fun _ => rfl, fun _ => rfl⟩

namespace SingleRow

variable {i : Insertion} {items : List Item} {size : Nat} {rows : List Row} {s : Store}

/-- The run over rows that can be inserted one after the other inserts them. -/
theorem outcome_of_foldlM_eq_some (h : SingleRow query tuple i items) (hsize : 1 ≤ size)
    (hne : rows ≠ []) (hrows : ∀ row ∈ rows, row.length = placeholders items) {db : Database}
    (hfold : rows.foldlM (Database.insertSingle query tuple) s.database = some db) :
    outcome (insertRows Store.connection query size rows s) = (true, db) := by
  rw [outcome_insertRows h.extractTuple hne hsize]
  exact h.insertCut_of_foldlM_eq_some hsize (isCut_windows hsize rows) hrows hfold

/-- A run succeeds exactly if its rows can be inserted one after the other. -/
theorem insertRows_eq_ok_iff (h : SingleRow query tuple i items) (hsize : 1 ≤ size)
    (hne : rows ≠ []) (hrows : ∀ row ∈ rows, row.length = placeholders items) :
    (insertRows Store.connection query size rows s).1 = .ok () ↔
      ∃ db, rows.foldlM (Database.insertSingle query tuple) s.database = some db := by
  rw [eq_ok_iff_outcome]
  constructor
  · intro hok
    cases hfold : rows.foldlM (Database.insertSingle query tuple) s.database with
    | some db => exact ⟨db, rfl⟩
    | none =>
        obtain ⟨n, hn, hbefore, hat⟩ := exists_first_of_foldlM_eq_none hfold
        obtain ⟨db, -, hcut⟩ := h.insertCut_of_first_failure hsize (isCut_windows hsize rows)
          hrows hn hbefore hat
        rw [outcome_insertRows h.extractTuple hne hsize, hcut] at hok
        cases hok
  · rintro ⟨db, hfold⟩
    rw [h.outcome_of_foldlM_eq_some hsize hne hrows hfold]

/-- The row at which the insertion one by one first fails is the first that cannot be
inserted after those before it. -/
theorem failsFirstAt_iff (h : SingleRow query tuple i items)
    (hrows : ∀ row ∈ rows, row.length = placeholders items) {n : Nat} :
    FailsFirstAt query s rows n ↔ n < rows.length ∧
      (∃ db, (rows.take n).foldlM (Database.insertSingle query tuple) s.database = some db) ∧
      (rows.take (n + 1)).foldlM (Database.insertSingle query tuple) s.database = none := by
  have htake : ∀ {k}, ∀ row ∈ rows.take k, row.length = placeholders items :=
    fun row hrow => hrows row (List.mem_of_mem_take hrow)
  refine and_congr_right fun hn => and_congr ?_ ?_
  · rcases Nat.eq_zero_or_pos n with rfl | hpos
    · exact ⟨fun _ => ⟨s.database, rfl⟩, fun _ hzero => absurd rfl hzero⟩
    · have hne : rows.take n ≠ [] :=
        List.ne_nil_of_length_pos (by rw [List.length_take]; omega)
      rw [← h.insertRows_eq_ok_iff (Nat.le_refl 1) hne htake]
      exact ⟨fun hok => hok (Nat.ne_of_gt hpos), fun hok _ => hok⟩
  · have hne : rows.take (n + 1) ≠ [] :=
      List.ne_nil_of_length_pos (by rw [List.length_take]; omega)
    rw [Ne, h.insertRows_eq_ok_iff (Nat.le_refl 1) hne htake, not_exists,
      Option.eq_none_iff_forall_ne_some]

end SingleRow

/-- **Batching preserves meaning.** If the insertion of rows one by one succeeds, so does
their insertion in windows of any size, with the same tables. Otherwise some row is the
first to fail, and then the insertion in windows fails too and leaves the tables as the
insertion of the rows in the windows before that row's own does. -/
theorem insertRows_eq_rowByRow {i : Insertion} {items : List Item} {size : Nat}
    {rows : List Row} (h : SingleRow query tuple i items) (hne : rows ≠ [])
    (hrows : ∀ row ∈ rows, row.length = placeholders items) (hsize : 1 ≤ size) (s : Store) :
    ((insertRows Store.connection query 1 rows s).1 = .ok () →
      (insertRows Store.connection query size rows s).1 = .ok () ∧
      (insertRows Store.connection query size rows s).2.database =
        (insertRows Store.connection query 1 rows s).2.database) ∧
    ((insertRows Store.connection query 1 rows s).1 ≠ .ok () →
      ∃ n, FailsFirstAt query s rows n) ∧
    ∀ n, FailsFirstAt query s rows n →
      (insertRows Store.connection query size rows s).1 ≠ .ok () ∧
      (insertRows Store.connection query size rows s).2.database =
        (insertRows Store.connection query 1 (rows.take (n / size * size)) s).2.database := by
  have hone := Nat.le_refl 1
  refine ⟨?_, ?_, ?_⟩
  · intro hok
    obtain ⟨db, hfold⟩ := (h.insertRows_eq_ok_iff hone hne hrows).1 hok
    refine ⟨(h.insertRows_eq_ok_iff hsize hne hrows).2 ⟨db, hfold⟩, ?_⟩
    have hrun := congrArg Prod.snd (h.outcome_of_foldlM_eq_some hsize hne hrows hfold)
    have hsingle := congrArg Prod.snd (h.outcome_of_foldlM_eq_some hone hne hrows hfold)
    exact hrun.trans hsingle.symm
  · intro hnot
    rw [Ne, h.insertRows_eq_ok_iff hone hne hrows, not_exists,
      ← Option.eq_none_iff_forall_ne_some] at hnot
    obtain ⟨n, hn⟩ := exists_first_of_foldlM_eq_none hnot
    exact ⟨n, (h.failsFirstAt_iff hrows).2 hn⟩
  · intro n hfails
    obtain ⟨hn, hbefore, hat⟩ := (h.failsFirstAt_iff hrows).1 hfails
    obtain ⟨db, hfold, hcut⟩ := h.insertCut_of_first_failure hsize (isCut_windows hsize rows)
      hrows hn hbefore hat
    have hrun := outcome_insertRows h.extractTuple hne hsize s
    rw [hcut] at hrun
    refine ⟨?_, (congrArg Prod.snd hrun).trans ?_⟩
    · intro hok
      rw [eq_ok_iff_outcome, hrun] at hok
      cases hok
    · by_cases hnil : rows.take (n / size * size) = []
      · rw [hnil] at hfold ⊢
        exact (Option.some.inj hfold).symm
      · have htake : ∀ row ∈ rows.take (n / size * size), row.length = placeholders items :=
          fun row hrow => hrows row (List.mem_of_mem_take hrow)
        exact (congrArg Prod.snd (h.outcome_of_foldlM_eq_some hone hnil htake hfold)).symm

/-- Five rows go into windows of two, and the fourth repeats a unique value: the insertion
fails and the first window stays. -/
theorem insertRows_eq_rowByRow_repeated :
    let query := "INSERT INTO u VALUES (?)".toList
    let i : Insertion := ⟨['u'], none, [[.placeholder]], false, []⟩
    let rows : List Row :=
      [[.integer 1], [.integer 2], [.integer 3], [.integer 3], [.integer 4]]
    let s : Store := ⟨Database.sample, false, []⟩
    SingleRow query "(?)".toList i [.placeholder] ∧ rows ≠ [] ∧
      (∀ row ∈ rows, row.length = placeholders [.placeholder]) ∧ FailsFirstAt query s rows 3 ∧
      (insertRows Store.connection query 2 rows s).1 ≠ .ok () ∧
      (insertRows Store.connection query 2 rows s).2.database =
        (insertRows Store.connection query 1 (rows.take 2) s).2.database := by
  intro query i rows s
  have hsingle : SingleRow query "(?)".toList i [.placeholder] :=
    ⟨by decide +kernel, rfl, by decide, by decide, by decide⟩
  have hrows : ∀ row ∈ rows, row.length = placeholders [.placeholder] := by decide
  have hfails : FailsFirstAt query s rows 3 :=
    ⟨by decide, fun _ => by decide +kernel, by decide +kernel⟩
  obtain ⟨-, -, hlater⟩ :=
    insertRows_eq_rowByRow hsingle (List.cons_ne_nil _ _) hrows (by decide : 1 ≤ 2) s
  exact ⟨hsingle, List.cons_ne_nil _ _, hrows, hfails, hlater 3 hfails⟩

end BulkInsert.Sql
