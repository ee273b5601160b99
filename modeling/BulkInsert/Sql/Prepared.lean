import BulkInsert.Sql.Command
import BulkInsert.Sql.Table

/-!
# Prepared commands

Preparing a text reads its command, looks up what it names, and fixes which columns its
values are for. A text holds one command; a final semicolon may follow it. Any further
command is prepared as well, so that its own fault is reported, and only then is the text
refused for holding several.

Executing a prepared command binds the arguments to the placeholders in order. It is
atomic: if one row is refused, none stays.
-/

namespace BulkInsert.Sql

/-- What a prepared command does. -/
inductive Effect where
  /-- Nothing that stays. -/
  | nothing
  /-- Insert rows of items for the named columns of a table. -/
  | insert (table : Text) (targets : List Text) (rows : List (List Item)) (skipConflicts : Bool)
  deriving DecidableEq, Repr

/-- A **prepared** command. -/
structure Prepared where
  effect : Effect
  /-- The number of placeholders. -/
  parameters : Nat
  /-- The names of the result columns. -/
  columns : List Text
  deriving DecidableEq, Repr

/-! ### Resolution -/

/-- The text that a command is read from: the whole text, or what follows an earlier
command in it. -/
structure Source where
  whole : Text
  /-- How many characters of the whole come before the command's text. -/
  skipped : Nat

namespace Source

/-- The text that faults quote. -/
def text (s : Source) : Text := s.whole.drop s.skipped

/-- The byte offset in that text of a place in the whole. -/
def offset (s : Source) (place : Nat) : Nat :=
  Text.byteLength (s.text.take (place - s.skipped))

/-- The fault of the first token that the grammar does not allow, or of the end. -/
def refuse (s : Source) : List Token → Fault
  | [] => .incompleteInput
  | t :: _ =>
    let fault := if t.lexeme = .unknown then Fault.unknownToken else .unexpectedToken
    fault (Token.slice s.whole t.start t.stop) s.text (s.offset t.start)

end Source

/-- The table of a name, or the fault that there is none. -/
def Database.resolve (db : Database) (name : Text) : Except Fault Table :=
  match db.table? name with
  | some t => .ok t
  | none => .error (.noSuchTable name)

/-- The fault of the first of some mentioned names that is no column of the table. -/
def Table.checkNames (t : Table) (s : Source) (mentioned : List (Text × Nat)) :
    Except Fault Unit :=
  match mentioned.find? fun (n, _) => !t.hasColumn n with
  | some (n, place) => .error (.noSuchColumn n s.text (s.offset place))
  | none => .ok ()

/-- The names of the result columns that a description stands for. -/
def Table.resolveResult (t : Table) (s : Source) : ResultColumn → Except Fault (List Text)
  | .all => .ok t.columnNames
  | .column n place label => (t.checkNames s [(n, place)]).map fun _ => [label]
  | .expression mentioned _ label => (t.checkNames s mentioned).map fun _ => [label]

/-- The names of all result columns. -/
def Table.resolveResults (t : Table) (s : Source) (columns : List ResultColumn) :
    Except Fault (List Text) :=
  (columns.mapM (t.resolveResult s)).map List.flatten

/-- The number of placeholders in a result column. -/
def ResultColumn.placeholders : ResultColumn → Nat
  | expression _ n _ => n
  | all | column .. => 0

/-- The number of placeholders in some result columns. -/
def ResultColumn.placeholdersIn (columns : List ResultColumn) : Nat :=
  columns.foldr (fun c count => c.placeholders + count) 0

/-- The number of placeholders in a row. -/
def placeholders (row : List Item) : Nat := row.count .placeholder

/-- The length of all rows of an insertion, which must not differ. -/
def Insertion.width (i : Insertion) : Except Fault Nat :=
  let width := (i.rows.head?.map List.length).getD 0
  if i.rows.all fun row => row.length == width then .ok width else .error .unevenRows

/-- The columns that the values of an insertion are for. Rows of length `width` have to be
as long as there are such columns. -/
def Table.targets (t : Table) (i : Insertion) (width : Nat) : Except Fault (List Text) := do
  match i.columns with
  | none =>
    if t.columns.length = width then return t.columnNames
    else throw (.widthMismatch t.name t.columns.length width)
  | some names =>
    match names.find? fun n => !t.hasColumn n with
    | some n => throw (.noSuchListedColumn t.name n)
    | none =>
      if names.length = width then return names else throw (.listMismatch width names.length)

/-- Looks up what a command names. -/
def Database.resolveCommand (db : Database) (s : Source) : Command → Except Fault Prepared
  | .insert i => do
    let width ← i.width
    let t ← db.resolve i.table
    let targets ← t.targets i width
    let columns ← t.resolveResults s i.returning
    let parameters := placeholders i.rows.flatten + ResultColumn.placeholdersIn i.returning
    return ⟨.insert i.table targets i.rows i.skipConflicts, parameters, columns⟩
  | .select columns table => do
    let t ← db.resolve table
    let names ← t.resolveResults s columns
    return ⟨.nothing, ResultColumn.placeholdersIn columns, names⟩

/-! ### Preparation -/

/-- The tokens of one command, the semicolon that ends it, and where its text begins. -/
structure Piece where
  tokens : List Token
  semicolon : Option Token
  skipped : Nat

/-- Cuts tokens into pieces at their semicolons. The tokens of the piece under way are kept
last first; a piece without tokens is none, and its semicolon belongs to the next one. -/
def Piece.cut (skipped : Nat) (gathered : List Token) : List Token → List Piece
  | [] => if gathered.isEmpty then [] else [⟨gathered.reverse, none, skipped⟩]
  | t :: rest =>
    if t.isMark ';' then
      if gathered.isEmpty then cut skipped [] rest
      else ⟨gathered.reverse, some t, skipped⟩ :: cut t.stop [] rest
    else cut skipped (t :: gathered) rest

/-- The part of a text up to the end of a piece. -/
def Piece.textUpTo (p : Piece) (sql : Text) : Text :=
  match p.semicolon with
  | some t => sql.take t.start
  | none => sql

/-- Prepares the command of one piece of a text. -/
def Database.preparePiece (db : Database) (sql : Text) (p : Piece) : Except Fault Prepared :=
  let s : Source := ⟨sql, p.skipped⟩
  match Command.read (p.textUpTo sql) p.tokens with
  | .ok command => db.resolveCommand s command
  | .error refused => .error (s.refuse (refused ++ p.semicolon.toList))

/-- Prepares a text. -/
def Database.prepare (db : Database) (sql : Text) : Except Fault Prepared := do
  match ← (Piece.cut 0 [] (Token.ofText sql)).mapM (db.preparePiece sql) with
  | [] => return ⟨.nothing, 0, []⟩
  | [p] => return p
  | _ :: _ :: _ => throw .multipleStatements

/-! ### Execution -/

/-- The values of a row, its placeholders taking arguments in order, and the arguments
left. -/
def bindRow : List Item → List Value → Row × List Value
  | [], args => ([], args)
  | .constant v :: items, args =>
    let (row, rest) := bindRow items args
    (v :: row, rest)
  | .placeholder :: items, args =>
    let (row, rest) := bindRow items args.tail
    (args.headD .null :: row, rest)

/-- The values of rows, taking arguments in order. -/
def bindRows : List (List Item) → List Value → List Row
  | [], _ => []
  | items :: more, args =>
    let (row, rest) := bindRow items args
    row :: bindRows more rest

/-- The full row of a table for values of some of its columns; the others become null. -/
def Table.fullRow (t : Table) (targets : List Text) (values : Row) : Row :=
  t.columnNames.map fun n => ((targets.idxOf? n).bind (values[·]?)).getD .null

/-- Executes the effect of a command. -/
def Database.apply (db : Database) (args : List Value) : Effect → Except Fault Database
  | .nothing => .ok db
  | .insert table targets rows skipConflicts => do
    let t ← db.resolve table
    let values := (bindRows rows args).map (t.fullRow targets)
    return db.replace (← t.insertRows skipConflicts values)

/-- Executes a prepared command with its arguments. Binding stops at the first argument too
many. -/
def Database.execute (db : Database) (p : Prepared) (args : List Value) :
    Except Fault Database :=
  if args.length = p.parameters then db.apply args p.effect
  else .error (.argumentCount (min args.length (p.parameters + 1)) p.parameters)

end BulkInsert.Sql
