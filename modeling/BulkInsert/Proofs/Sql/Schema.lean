import BulkInsert.Proofs.Sql.Places

/-!
# The schema of a database

The schema of a database is its tables without their rows. Preparing a text looks at nothing
else (`prepare_eq_of_sameSchema`) and executing a prepared command leaves it as it is
(`sameSchema_of_execute`), so a prepared command stays what it would be if it were prepared
again.
-/

namespace BulkInsert.Sql

/-- The table without its rows. -/
def Table.emptied (t : Table) : Table := { t with rows := [] }

/-- Two databases whose tables are the same, rows aside. -/
def Database.SameSchema (db db' : Database) : Prop :=
  ∀ name, (db.table? name).map Table.emptied = (db'.table? name).map Table.emptied

namespace Database

theorem SameSchema.refl (db : Database) : db.SameSchema db := fun _ => rfl

/-! ### Preparing looks at the schema only -/

/-- What is done with a resolved table without regard to its rows is the same for databases
of the same schema. -/
theorem resolve_bind_eq {α : Type} {db db' : Database} (h : db.SameSchema db') (name : Text)
    {f : Table → Except Fault α} (hf : ∀ t, f t = f t.emptied) :
    db.resolve name >>= f = db'.resolve name >>= f := by
  have hname := h name
  rw [resolve, resolve]
  cases ht : db.table? name with
  | none =>
      rw [ht, Option.map_none, eq_comm, Option.map_eq_none_iff] at hname
      rw [hname]
  | some t =>
      rw [ht, Option.map_some, eq_comm, Option.map_eq_some_iff] at hname
      obtain ⟨t', ht', heq⟩ := hname
      rw [ht']
      calc f t = f t.emptied := hf t
        _ = f t' := by rw [← heq, ← hf]

/-- A command is resolved alike by databases of the same schema. -/
theorem resolveCommand_eq_of_sameSchema {db db' : Database} (h : db.SameSchema db')
    (s : Source) (command : Command) :
    db.resolveCommand s command = db'.resolveCommand s command := by
  cases command with
  | insert i =>
      rw [resolveCommand, resolveCommand]
      cases i.width with
      | error e => rfl
      | ok width => exact resolve_bind_eq h i.table fun t => rfl
  | select columns table => exact resolve_bind_eq h table fun t => rfl

/-- **Preparing looks at the schema only.** -/
theorem prepare_eq_of_sameSchema {db db' : Database} (h : db.SameSchema db') (sql : Text) :
    db.prepare sql = db'.prepare sql := by
  have hpiece : db.preparePiece sql = db'.preparePiece sql := by
    funext p
    rw [preparePiece, preparePiece]
    split
    · exact resolveCommand_eq_of_sameSchema h _ _
    · rfl
  rw [prepare, prepare, hpiece]

/-! ### Executing keeps the schema -/

/-- The table of a name has this name. -/
theorem name_eq_of_table? {db : Database} {name : Text} {t : Table}
    (h : db.table? name = some t) : t.name = name := by
  have hfound := List.find?_some h
  exact beq_iff_eq.1 hfound

/-- What is found after a table is replaced. -/
theorem table?_replace (db : Database) (u : Table) (name : Text) :
    (db.replace u).table? name =
      (db.table? name).map fun t => if t.name == u.name then u else t := by
  have hnames : ((fun t : Table => t.name == name) ∘ fun t => if t.name == u.name then u else t) =
      fun t => t.name == name := by
    funext t
    by_cases ht : t.name = u.name
    · simp [ht]
    · simp [ht]
  rw [table?, replace, List.find?_map, hnames, table?]

/-- A table that replaces one is found under its name. -/
theorem table?_replace_self {db : Database} {t u : Table} (h : db.table? u.name = some t) :
    (db.replace u).table? u.name = some u := by
  rw [table?_replace, h, Option.map_some, name_eq_of_table? h, beq_self_eq_true, if_pos rfl]

/-- Of two tables of one name that replace one, only the second is kept. -/
theorem replace_replace {db : Database} {u u' : Table} (h : u'.name = u.name) :
    (db.replace u).replace u' = db.replace u' := by
  rw [replace, replace, replace, List.map_map]
  congr 1
  apply List.map_congr_left
  intro t _
  rw [Function.comp_apply, h]
  by_cases ht : t.name = u.name
  · simp [ht]
  · simp [ht]

/-- A table that replaces one of the same schema keeps the schema of the database. -/
theorem sameSchema_replace {db : Database} {t u : Table} (h : db.table? u.name = some t)
    (hu : u.emptied = t.emptied) : db.SameSchema (db.replace u) := by
  intro name
  rw [table?_replace, Option.map_map]
  apply Option.map_congr
  intro t' ht'
  rw [Function.comp_apply]
  by_cases hname : t'.name = u.name
  · rw [← hname, name_eq_of_table? ht', ht'] at h
    rw [if_pos (beq_iff_eq.2 hname), hu, Option.some.inj h]
  · rw [if_neg (by simpa using hname)]

end Database

/-- Inserting a row changes the rows of a table only. -/
theorem Table.emptied_of_insertRow {t u : Table} {skip : Bool} {row : Row}
    (h : t.insertRow skip row = .ok u) : u.emptied = t.emptied := by
  obtain ⟨hname, hcolumns⟩ := insertRow_columns h
  rw [emptied, emptied, hname, hcolumns]

/-- Inserting rows changes the rows of a table only. -/
theorem Table.emptied_of_insertRows {t u : Table} {skip : Bool} {rows : List Row}
    (h : t.insertRows skip rows = .ok u) : u.emptied = t.emptied := by
  induction rows generalizing t with
  | nil =>
      obtain rfl := Except.ok.inj h
      rfl
  | cons row rows ih =>
      rw [insertRows, List.foldlM_cons] at h
      obtain ⟨t', hrow, hrows⟩ := bind_eq_ok_iff.1 h
      exact (ih hrows).trans (emptied_of_insertRow hrow)

theorem Table.name_eq_of_emptied_eq {t u : Table} (h : u.emptied = t.emptied) :
    u.name = t.name := by
  have hname : u.emptied.name = t.emptied.name := by rw [h]
  exact hname

namespace Database

/-- What the execution of an effect does: nothing, or it inserts rows into a table. -/
theorem apply_eq_ok {db db' : Database} {args : List Value} {effect : Effect}
    (h : db.apply args effect = .ok db') :
    (effect = .nothing ∧ db' = db) ∨
      ∃ table targets rows skip t u, effect = .insert table targets rows skip ∧
        db.table? table = some t ∧
        t.insertRows skip ((bindRows rows args).map (t.fullRow targets)) = .ok u ∧
        db' = db.replace u := by
  cases effect with
  | nothing =>
      obtain rfl := Except.ok.inj h
      exact .inl ⟨rfl, rfl⟩
  | insert table targets rows skip =>
      obtain ⟨t, hresolve, h⟩ := bind_eq_ok_iff.1 h
      obtain ⟨u, hrows, h⟩ := bind_eq_ok_iff.1 h
      obtain rfl := Except.ok.inj h
      rw [resolve] at hresolve
      cases ht : db.table? table with
      | none =>
          rw [ht] at hresolve
          cases hresolve
      | some t' =>
          rw [ht] at hresolve
          obtain rfl := Except.ok.inj hresolve
          exact .inr ⟨table, targets, rows, skip, t', u, rfl, ht, hrows, rfl⟩

/-- **Executing keeps the schema.** -/
theorem sameSchema_of_execute {db db' : Database} {p : Prepared} {args : List Value}
    (h : db.execute p args = .ok db') : db.SameSchema db' := by
  rw [execute] at h
  split at h
  · obtain ⟨-, rfl⟩ | ⟨table, targets, rows, skip, t, u, -, ht, hrows, rfl⟩ := apply_eq_ok h
    · exact .refl _
    · have hu := Table.emptied_of_insertRows hrows
      rw [← name_eq_of_table? ht, ← Table.name_eq_of_emptied_eq hu] at ht
      exact sameSchema_replace ht hu
  · cases h

end Database

end BulkInsert.Sql
