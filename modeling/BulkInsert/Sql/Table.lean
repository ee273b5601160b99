import BulkInsert.Sql.Fault
import BulkInsert.Sql.Value

/-!
# Tables

A table keeps its rows in the order in which they were inserted. A column may refuse nulls,
and it may refuse a value that it already holds; a null never equals anything, so it can
stand in a column of unique values any number of times.
-/

namespace BulkInsert.Sql

/-- A column of a table. -/
structure Column where
  name : Text
  notNull : Bool := false
  unique : Bool := false
  deriving DecidableEq, Repr

/-- A **table** with its rows in the order of their insertion. -/
structure Table where
  name : Text
  columns : List Column
  rows : List Row := []
  deriving DecidableEq, Repr

namespace Table

/-- The names of the columns. -/
def columnNames (t : Table) : List Text := t.columns.map Column.name

/-- Whether the table has a column of this name. -/
def hasColumn (t : Table) (name : Text) : Bool := t.columnNames.contains name

/-- The first column that refuses nulls and would get one. -/
def refusedNull? (t : Table) (row : Row) : Option Column :=
  ((t.columns.zip row).find? fun (c, v) => c.notNull && v == .null).map Prod.fst

/-- Whether a value stands at a place of some row. A null does not count. -/
def holdsAt (t : Table) (place : Nat) (v : Value) : Bool :=
  v != .null && t.rows.any fun row => row[place]? == some v

/-- The first column of unique values that would get a value it already holds. -/
def repeated? (t : Table) (row : Row) : Option Column :=
  ((t.columns.zip row).zipIdx.find? fun ((c, v), place) => c.unique && t.holdsAt place v).map
    fun ((c, _), _) => c

/-- The table with one more row. A row that repeats a unique value is left out if
`skipConflicts` holds. -/
def insertRow (t : Table) (skipConflicts : Bool) (row : Row) : Except Fault Table :=
  match t.refusedNull? row with
  | some c => .error (.notNull t.name c.name)
  | none =>
    match t.repeated? row with
    | some c => if skipConflicts then .ok t else .error (.notUnique t.name c.name)
    | none => .ok { t with rows := t.rows ++ [row] }

/-- The table with more rows, inserted in order; one that is refused refuses them all. -/
def insertRows (t : Table) (skipConflicts : Bool) (rows : List Row) : Except Fault Table :=
  rows.foldlM (fun t row => t.insertRow skipConflicts row) t

/-! ### Basic laws -/

/-- Inserting a row changes neither the name nor the columns. -/
theorem insertRow_columns {t u : Table} {skipConflicts : Bool} {row : Row}
    (h : t.insertRow skipConflicts row = .ok u) : u.name = t.name ∧ u.columns = t.columns := by
  unfold insertRow at h
  split at h
  · simp at h
  · split at h
    · split at h
      · simp only [Except.ok.injEq] at h; simp [← h]
      · simp at h
    · simp only [Except.ok.injEq] at h; simp [← h]

end Table

/-- A **database**: its tables. -/
structure Database where
  tables : List Table
  deriving DecidableEq, Repr

namespace Database

/-- The table of a name. -/
def table? (db : Database) (name : Text) : Option Table :=
  db.tables.find? fun t => t.name == name

/-- The database with a table in place of the one of the same name. -/
def replace (db : Database) (table : Table) : Database :=
  ⟨db.tables.map fun t => if t.name == table.name then table else t⟩

/-- The rows of a table in the order of their insertion; none if there is no such table. -/
def rows (db : Database) (name : Text) : List Row := ((db.table? name).map Table.rows).getD []

/-- The empty database with a table of one column, one of two columns, one of unique values
and one whose first column refuses nulls. -/
def sample : Database where
  tables := [
    { name := ['t'], columns := [{ name := ['v'] }] },
    { name := ['p'], columns := [{ name := ['a'] }, { name := ['b'] }] },
    { name := ['u'], columns := [{ name := ['v'], unique := true }] },
    { name := ['n'], columns := [{ name := ['a'], notNull := true }, { name := ['b'] }] }]

end Database

end BulkInsert.Sql
