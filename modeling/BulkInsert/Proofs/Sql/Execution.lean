import BulkInsert.Proofs.Batch.Windows
import BulkInsert.Proofs.Sql.Repetition
import BulkInsert.Proofs.Sql.Schema
import BulkInsert.Statement.Check

/-!
# Inserting a window at once

One statement for several rows does what single statements for each of them do, one after
the other: `insertWindow_eq_foldlM`. What such a statement does is written down once, in
`Database.insertAll`, without the statement; that it does so is `toOption_insertWindow`, and
that `insertAll` can be taken row by row is `insertAll_eq_foldlM`.

Failures are compared as such, without their causes.
-/

namespace BulkInsert.Sql

/-! ### Binding -/

/-- A row takes as many arguments as it has placeholders and leaves the others. -/
theorem bindRow_append {items : List Item} {args : List Value}
    (h : args.length = placeholders items) (more : List Value) :
    bindRow items (args ++ more) = ((bindRow items args).1, more) := by
  induction items generalizing args with
  | nil =>
      obtain rfl : args = [] := List.length_eq_zero_iff.1 h
      rfl
  | cons item items ih =>
      cases item with
      | constant v =>
          rw [placeholders, List.count_cons_of_ne (by simp)] at h
          rw [bindRow, bindRow, ih h]
      | placeholder =>
          rw [placeholders, List.count_cons_self] at h
          obtain ⟨v, args, rfl⟩ : ∃ v rest, args = v :: rest :=
            List.exists_cons_of_length_pos (by omega)
          have hargs : args.length = placeholders items := Nat.succ.inj h
          rw [List.cons_append, bindRow, bindRow, List.tail_cons, List.tail_cons, ih hargs]
          rfl

/-- Copies of a row take the values of a window row by row. -/
theorem bindRows_replicate {items : List Item} {window : List Row}
    (h : ∀ row ∈ window, row.length = placeholders items) :
    bindRows (List.replicate window.length items) window.flatten =
      window.map fun row => (bindRow items row).1 := by
  induction window with
  | nil => rfl
  | cons row window ih =>
      rw [List.length_cons, List.replicate_succ, List.flatten_cons, bindRows,
        bindRow_append (h row List.mem_cons_self), List.map_cons]
      simp only
      rw [ih fun row' hrow => h row' (List.mem_cons_of_mem _ hrow)]

/-! ### Resolving -/

/-- Names are found when the table has them all. -/
theorem Table.checkNames_eq_ok_iff {t : Table} {s : Source} {mentioned : List (Text × Nat)} :
    t.checkNames s mentioned = .ok () ↔
      ∀ n ∈ mentioned.map Prod.fst, t.hasColumn n = true := by
  rw [checkNames]
  split
  · rename_i n place hfound
    have hmem : n ∈ mentioned.map Prod.fst :=
      List.mem_map_of_mem (List.mem_of_find?_eq_some hfound)
    have hnot := List.find?_some hfound
    simp only [Bool.not_eq_true'] at hnot
    simp only [reduceCtorEq, false_iff, not_forall]
    exact ⟨n, hmem, by simp [hnot]⟩
  · rename_i hnone
    simpa using hnone

/-- Whether a table has all columns that a result column mentions. -/
def Table.Offers (t : Table) (c : ResultColumn) : Prop :=
  ∀ n ∈ c.mentioned, t.hasColumn n = true

instance (t : Table) (c : ResultColumn) : Decidable (t.Offers c) :=
  inferInstanceAs (Decidable (∀ n ∈ c.mentioned, t.hasColumn n = true))

/-- A result column is resolved when the table offers it. -/
theorem Table.exists_resolveResult_iff {t : Table} {s : Source} {c : ResultColumn} :
    (∃ names, t.resolveResult s c = .ok names) ↔ t.Offers c := by
  have hmap : ∀ {mentioned label}, (∃ names : List Text,
      (t.checkNames s mentioned).map (fun _ => [label]) = .ok names) ↔
        ∀ n ∈ mentioned.map Prod.fst, t.hasColumn n = true := by
    intro mentioned label
    rw [← checkNames_eq_ok_iff (s := s)]
    cases t.checkNames s mentioned with
    | error e => simp [Except.map]
    | ok u => simp [Except.map]
  cases c with
  | all => simp [resolveResult, Offers, ResultColumn.mentioned]
  | column n place label => exact hmap
  | expression mentioned count label => exact hmap

/-- A list is gone through when each of its members gives a result. -/
theorem exists_mapM_eq_ok_iff {ε α β : Type} {f : α → Except ε β} {xs : List α} :
    (∃ ys, xs.mapM f = .ok ys) ↔ ∀ x ∈ xs, ∃ y, f x = .ok y := by
  induction xs with
  | nil => simp [pure, Except.pure]
  | cons x xs ih =>
      rw [List.mapM_cons, List.forall_mem_cons, ← ih]
      constructor
      · rintro ⟨ys, h⟩
        obtain ⟨y, hy, h⟩ := bind_eq_ok_iff.1 h
        obtain ⟨ys', hys, -⟩ := bind_eq_ok_iff.1 h
        exact ⟨⟨y, hy⟩, ys', hys⟩
      · rintro ⟨⟨y, hy⟩, ys, hys⟩
        refine ⟨y :: ys, ?_⟩
        rw [hy, hys]
        rfl

/-- Result columns are resolved when the table offers them all. -/
theorem Table.exists_resolveResults_iff {t : Table} {s : Source} {cs : List ResultColumn} :
    (∃ names, t.resolveResults s cs = .ok names) ↔ ∀ c ∈ cs, t.Offers c := by
  have hmap : (∃ names, t.resolveResults s cs = .ok names) ↔
      ∃ names, cs.mapM (t.resolveResult s) = .ok names := by
    rw [resolveResults]
    cases cs.mapM (t.resolveResult s) with
    | error e => simp [Except.map]
    | ok names => simp [Except.map]
  rw [hmap, exists_mapM_eq_ok_iff]
  exact forall₂_congr fun c _ => exists_resolveResult_iff

/-- The columns that the values of an insertion are for, if the table has all that the
insertion names and the result columns hold no placeholders. -/
def Table.targets? (t : Table) (i : Insertion) (width : Nat) : Option (List Text) :=
  if ∀ c ∈ i.returning, t.Offers c ∧ c.placeholders = 0 then (t.targets i width).toOption
  else none

/-- The database with rows of values inserted for the items of an insertion. -/
def Database.insertAll (db : Database) (i : Insertion) (items : List Item)
    (window : List Row) : Option Database := do
  let t ← db.table? i.table
  let targets ← t.targets? i items.length
  let rows := window.map fun row => t.fullRow targets (bindRow items row).1
  let u ← (t.insertRows i.skipConflicts rows).toOption
  return db.replace u

/-- Some result columns hold no placeholder when none of them has any. -/
theorem ResultColumn.placeholdersIn_eq_zero_iff {cs : List ResultColumn} :
    placeholdersIn cs = 0 ↔ ∀ c ∈ cs, c.placeholders = 0 := by
  induction cs with
  | nil => simp [placeholdersIn]
  | cons c cs ih =>
      rw [List.forall_mem_cons, ← ih]
      exact Nat.add_eq_zero_iff

/-- Copies of a row have copies of its placeholders. -/
theorem placeholders_flatten_replicate (count : Nat) (items : List Item) :
    placeholders (List.replicate count items).flatten = count * placeholders items := by
  rw [placeholders, List.count_flatten, List.map_replicate, List.sum_replicate_nat,
    placeholders]

/-- Copies of a row are as long as the row. -/
theorem Insertion.width_of_replicate {j : Insertion} {items : List Item} {count : Nat}
    (hcount : 1 ≤ count) (h : j.rows = List.replicate count items) :
    j.width = .ok items.length := by
  obtain ⟨count, rfl⟩ := Nat.exists_eq_add_of_le' hcount
  rw [width, h, List.replicate_succ, List.head?_cons, Option.map_some, Option.getD_some,
    ← List.replicate_succ, if_pos (by simp)]

namespace Database

/-- Inserting rows into a table is applied by replacing it. -/
theorem apply_insert {db : Database} {name : Text} {t : Table} (ht : db.table? name = some t)
    (args : List Value) (targets : List Text) (rows : List (List Item)) (skip : Bool) :
    db.apply args (.insert name targets rows skip) =
      (t.insertRows skip ((bindRows rows args).map (t.fullRow targets))).map db.replace := by
  have hresolve : db.resolve name = .ok t := by rw [resolve, ht]
  rw [apply, hresolve]
  simp only [bind, Except.bind]
  cases t.insertRows skip ((bindRows rows args).map (t.fullRow targets)) with
  | error e => rfl
  | ok u => rfl

/-- A prepared insertion of copies of a row takes the values of a window if it has no
further parameters. -/
theorem toOption_execute_copies {db : Database} {name : Text} {t : Table}
    (ht : db.table? name = some t) {items : List Item} {window : List Row}
    (hwindow : ∀ row ∈ window, row.length = placeholders items) (targets : List Text)
    (skip : Bool) (further : Nat) (columns : List Text) :
    (db.execute ⟨.insert name targets (List.replicate window.length items) skip,
        window.length * placeholders items + further, columns⟩ window.flatten).toOption =
      if further = 0 then
        (t.insertRows skip
          (window.map fun row => t.fullRow targets (bindRow items row).1)).toOption.map
            db.replace
      else none := by
  have hlength : window.flatten.length = window.length * placeholders items :=
    Batch.length_arguments hwindow
  rw [execute, hlength]
  by_cases hfurther : further = 0
  · rw [if_pos (by simp [hfurther]), if_pos hfurther, apply_insert ht, toOption_map,
      bindRows_replicate hwindow, List.map_map]
    rfl
  · rw [if_neg (by simpa using hfurther), if_neg hfurther]
    rfl

/-- An insertion of copies of a row, resolved and executed with as many arguments as the
copies have placeholders, inserts rows of these values. -/
theorem toOption_resolve_execute {db : Database} {s : Source} {j : Insertion}
    {items : List Item} {window : List Row} (hne : window ≠ [])
    (hj : j.rows = List.replicate window.length items)
    (hwindow : ∀ row ∈ window, row.length = placeholders items) :
    (db.resolveCommand s (.insert j) >>= fun p => db.execute p window.flatten).toOption =
      db.insertAll j items window := by
  have hwidth := Insertion.width_of_replicate (List.length_pos_iff.2 hne) hj
  rw [insertAll, resolveCommand, hwidth, resolve]
  cases ht : db.table? j.table with
  | none => rfl
  | some t =>
      simp only [bind, Except.bind, Option.bind_some]
      rw [Table.targets?]
      cases htargets : t.targets j items.length with
      | error e => simp only [Except.toOption, ite_self, Option.bind_none]
      | ok targets =>
          cases hresults : t.resolveResults s j.returning with
          | error e =>
              have hnot : ¬∀ c ∈ j.returning, t.Offers c ∧ c.placeholders = 0 := by
                intro hall
                obtain ⟨names, hnames⟩ :=
                  Table.exists_resolveResults_iff.2 fun c hc => (hall c hc).1
                cases hresults.symm.trans hnames
              rw [if_neg hnot]
              rfl
          | ok names =>
              have hoffers := Table.exists_resolveResults_iff.1 ⟨names, hresults⟩
              have hall : (∀ c ∈ j.returning, t.Offers c ∧ c.placeholders = 0) ↔
                  ResultColumn.placeholdersIn j.returning = 0 := by
                rw [ResultColumn.placeholdersIn_eq_zero_iff]
                exact forall₂_congr fun c hc => and_iff_right (hoffers c hc)
              simp only [pure, Except.pure, hj, placeholders_flatten_replicate,
                toOption_execute_copies ht hwindow, hall]
              split
              · rw [Option.map_eq_bind]
                rfl
              · rfl

end Database

/-! ### Row by row -/

namespace Database

/-- With the table at hand, rows are inserted into it. -/
theorem insertAll_of_table? {db : Database} {i : Insertion} {t : Table}
    (ht : db.table? i.table = some t) (items : List Item) (window : List Row) :
    db.insertAll i items window =
      (t.targets? i items.length).bind fun targets =>
        (t.insertRows i.skipConflicts
          (window.map fun row => t.fullRow targets (bindRow items row).1)).toOption.map
            db.replace := by
  rw [insertAll, ht]
  simp only [bind, Option.bind_some, Option.map_eq_bind]
  rfl

/-- What an insertion is for depends on the schema of the table only. -/
theorem targets?_eq_of_emptied_eq {t u : Table} (h : u.emptied = t.emptied) (i : Insertion)
    (width : Nat) : u.targets? i width = t.targets? i width := by
  have hself : ∀ t : Table, t.targets? i width = t.emptied.targets? i width := fun _ => rfl
  rw [hself, h, ← hself]

/-- What becomes a full row depends on the schema of the table only. -/
theorem fullRow_eq_of_emptied_eq {t u : Table} (h : u.emptied = t.emptied)
    (targets : List Text) (values : Row) : u.fullRow targets values = t.fullRow targets values := by
  have hself : ∀ t : Table, t.fullRow targets values = t.emptied.fullRow targets values :=
    fun _ => rfl
  rw [hself, h, ← hself]

/-- The first row can be inserted first. -/
theorem insertAll_cons (db : Database) (i : Insertion) (items : List Item) (row : Row)
    (window : List Row) :
    db.insertAll i items (row :: window) =
      (db.insertAll i items [row]).bind fun db => db.insertAll i items window := by
  cases ht : db.table? i.table with
  | none => simp [insertAll, ht]
  | some t =>
      rw [insertAll_of_table? ht, insertAll_of_table? ht]
      cases htargets : t.targets? i items.length with
      | none => rfl
      | some targets =>
          simp only [Option.bind_some, List.map_cons, List.map_nil, Table.insertRows,
            List.foldlM_cons, List.foldlM_nil]
          cases hrow : t.insertRow i.skipConflicts
              (t.fullRow targets (bindRow items row).1) with
          | error e => rfl
          | ok u =>
              have hu := Table.emptied_of_insertRow hrow
              have hname : u.name = i.table :=
                (Table.name_eq_of_emptied_eq hu).trans (name_eq_of_table? ht)
              have hfound : (db.replace u).table? i.table = some u := by
                rw [← hname]
                exact table?_replace_self (hname ▸ ht)
              -- The second insertion finds the table of the first, and its outcome replaces it.
              have hsecond := insertAll_of_table? hfound items window
              rw [targets?_eq_of_emptied_eq hu, htargets] at hsecond
              simp only [fullRow_eq_of_emptied_eq hu, Option.bind_some] at hsecond
              change ((u.insertRows i.skipConflicts _).toOption).map db.replace =
                (db.replace u).insertAll i items window
              rw [hsecond]
              apply Option.map_congr
              intro u' hu'
              have hrows := Table.emptied_of_insertRows (toOption_eq_some_iff.1 hu')
              exact (replace_replace (Table.name_eq_of_emptied_eq hrows)).symm

/-- **Row by row.** A window of rows is inserted as its rows are, one after the other. -/
theorem insertAll_eq_foldlM (db : Database) (i : Insertion) (items : List Item)
    {window : List Row} (hne : window ≠ []) :
    db.insertAll i items window =
      window.foldlM (fun db row => db.insertAll i items [row]) db := by
  induction window generalizing db with
  | nil => exact absurd rfl hne
  | cons row window ih =>
      rw [List.foldlM_cons]
      rcases window with - | ⟨row', window⟩
      · simp
      · rw [insertAll_cons]
        exact Option.bind_congr fun db' _ => ih db' (List.cons_ne_nil _ _)

/-- Insertions that are alike are for the same columns. -/
theorem targets?_eq_of_alike {i j : Insertion} (h : i.Alike j) (t : Table) (width : Nat) :
    t.targets? i width = t.targets? j width := by
  have hoffers : (∀ c ∈ i.returning, t.Offers c ∧ c.placeholders = 0) ↔
      ∀ c ∈ j.returning, t.Offers c ∧ c.placeholders = 0 := by
    have hreturning := h.returning
    generalize i.returning = cs, j.returning = cs' at hreturning ⊢
    induction hreturning with
    | nil => exact Iff.rfl
    | cons hc _ ih =>
        rw [List.forall_mem_cons, List.forall_mem_cons, Table.Offers, Table.Offers, hc.1, hc.2]
        exact and_congr Iff.rfl ih
  have htargets : t.targets i width = t.targets j width := by
    rw [Table.targets, Table.targets, h.columns]
  rw [Table.targets?, Table.targets?, htargets]
  exact if_congr hoffers rfl rfl

/-- Insertions that are alike insert the same rows. -/
theorem insertAll_eq_of_alike {i j : Insertion} (h : i.Alike j) (db : Database)
    (items : List Item) (window : List Row) :
    db.insertAll i items window = db.insertAll j items window := by
  rw [insertAll, insertAll, h.table, h.skipConflicts]
  simp only [targets?_eq_of_alike h]

end Database

/-! ### Windows -/

/-- A query that is an insertion of one row of items, whose row has the text `tuple`: it is
what is extracted, and it stands nowhere else in the query. -/
structure SingleRow (query tuple : Text) (i : Insertion) (items : List Item) : Prop where
  ofText? : Insertion.ofText? query = some i
  rows : i.rows = [items]
  rowText? : rowText? query = some tuple
  occurrences : Statement.occurrences tuple query = 1
  extractTuple : Statement.extractTuple query = .ok tuple

/-- Prepares the query for a window of rows and executes it with their values. -/
def Database.insertWindow (db : Database) (query tuple : Text) (window : List Row) :
    Except Fault Database := do
  let p ← db.prepare (Statement.widen query tuple window.length)
  db.execute p (Batch.arguments window)

/-- Inserts one row by a statement of its own. -/
def Database.insertSingle (query tuple : Text) (db : Database) (row : Row) : Option Database :=
  (db.insertWindow query tuple [row]).toOption

namespace SingleRow

variable {query tuple : Text} {i : Insertion} {items : List Item} {window : List Row}

/-- The query for a window of rows inserts all of them. -/
theorem toOption_insertWindow (h : SingleRow query tuple i items) (db : Database)
    (hne : window ≠ []) (hwindow : ∀ row ∈ window, row.length = placeholders items) :
    (db.insertWindow query tuple window).toOption = db.insertAll i items window := by
  obtain ⟨j, hj, halike⟩ := exists_ofText?_widen h.ofText? h.rows h.rowText? h.occurrences
    (List.length_pos_iff.2 hne)
  obtain ⟨s, hprepare⟩ := exists_prepare_eq_of_ofText? hj
  have hself : db.insertAll i items window =
      db.insertAll { i with rows := List.replicate window.length items } items window := rfl
  rw [Database.insertWindow, hprepare, hself, Database.insertAll_eq_of_alike halike,
    ← Database.toOption_resolve_execute (s := s) hne halike.rows.symm hwindow]
  rfl

/-- **One statement for a window** does what a statement for each of its rows does, one
after the other. -/
theorem insertWindow_eq_foldlM (h : SingleRow query tuple i items) (db : Database)
    (hne : window ≠ []) (hwindow : ∀ row ∈ window, row.length = placeholders items) :
    (db.insertWindow query tuple window).toOption =
      window.foldlM (Database.insertSingle query tuple) db := by
  rw [h.toOption_insertWindow db hne hwindow, db.insertAll_eq_foldlM i items hne]
  clear hne
  induction window generalizing db with
  | nil => rfl
  | cons row window ih =>
      have hrow : ∀ row' ∈ [row], row'.length = placeholders items := fun row' hmem =>
        hwindow row' (List.mem_singleton.1 hmem ▸ List.mem_cons_self)
      rw [List.foldlM_cons, List.foldlM_cons, Database.insertSingle,
        h.toOption_insertWindow db (List.cons_ne_nil _ _) hrow]
      exact Option.bind_congr fun db' _ =>
        ih db' fun row' hmem => hwindow row' (List.mem_cons_of_mem _ hmem)

end SingleRow

end BulkInsert.Sql
