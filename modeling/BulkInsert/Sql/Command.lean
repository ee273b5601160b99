import BulkInsert.Sql.Token
import BulkInsert.Sql.Value

/-!
# SQL commands

The commands that the store understands: insertions of literal rows, and selections of
columns. A reader takes the tokens that are left and answers with what it read and the
tokens behind it; if it fails it answers with the tokens from the first one that the
grammar does not allow, so an empty answer means that the text ended too early.
-/

namespace BulkInsert.Sql

/-- A value of an inserted row, as it is written. -/
inductive Item where
  /-- A placeholder, for the next argument. -/
  | placeholder
  | constant (value : Value)
  deriving DecidableEq, Repr

/-- A column of the result of a command. -/
inductive ResultColumn where
  /-- All columns of the table. -/
  | all
  /-- A column of the table, with the place of its name, under a label. -/
  | column (name : Text) (place : Nat) (label : Text)
  /-- An expression, with the names it mentions and how many placeholders it holds, under a
  label. -/
  | expression (mentioned : List (Text × Nat)) (placeholders : Nat) (label : Text)
  deriving DecidableEq, Repr

/-- An insertion of rows. -/
structure Insertion where
  table : Text
  /-- The columns that the values are for; by default all columns of the table. -/
  columns : Option (List Text)
  rows : List (List Item)
  /-- Whether a row that repeats a unique value is left out instead of failing. -/
  skipConflicts : Bool
  returning : List ResultColumn
  deriving DecidableEq, Repr

/-- A command to the store. -/
inductive Command where
  | insert (insertion : Insertion)
  | select (columns : List ResultColumn) (table : Text)
  deriving DecidableEq, Repr

namespace Command

/-- The answer of a reader, or the tokens from the first one that is not allowed. -/
abbrev Read := Except (List Token)

/-- Words that cannot be names. -/
def reserved : List String :=
  ["AS", "CONFLICT", "DO", "FROM", "INSERT", "INTO", "NOTHING", "NULL", "ON", "RETURNING",
    "SELECT", "VALUES"]

/-- The name that a token is. -/
def name? (t : Token) : Option Text :=
  match t.lexeme with
  | .word spelling => if reserved.any (·.toList == spelling) then none else some spelling
  | _ => none

/-- The value that a whole number stands for. -/
def integerValue : Text → Int
  | '-' :: digits => -(Nat.ofDigitChars 10 digits 0 : Nat)
  | digits => (Nat.ofDigitChars 10 digits 0 : Nat)

/-- The item that a token is. -/
def item? (t : Token) : Option Item :=
  match t.lexeme with
  | .number spelling => some (.constant (.integer (integerValue spelling)))
  | .literal content => some (.constant (.text content))
  | .word _ => if t.isWord "NULL" then some (.constant .null) else none
  | .mark c => if c == '?' then some .placeholder else none
  | .unknown => none

/-- The tokens behind one that has to stand here. -/
def expect (isExpected : Token → Bool) : List Token → Read (List Token)
  | [] => .error []
  | t :: rest => if isExpected t then .ok rest else .error (t :: rest)

/-- The tokens behind a keyword. -/
def expectWord (word : String) (ts : List Token) : Read (List Token) :=
  expect (·.isWord word) ts

/-- The tokens behind a token, if that is the next one. -/
def behind? (isExpected : Token → Bool) : List Token → Option (List Token)
  | [] => none
  | t :: rest => if isExpected t then some rest else none

/-- Reads a name. -/
def readName : List Token → Read (Text × List Token)
  | [] => .error []
  | t :: rest =>
    match name? t with
    | some n => .ok (n, rest)
    | none => .error (t :: rest)

/-- Reads elements of one token each, separated by commas, up to a closing parenthesis. -/
def readListed {α : Type} (element? : Token → Option α) :
    List Token → Read (List α × List Token)
  | [] => .error []
  | [t] => if (element? t).isSome then .error [] else .error [t]
  | t :: separator :: rest =>
    match element? t with
    | none => .error (t :: separator :: rest)
    | some x =>
      if separator.isMark ',' then
        (readListed element? rest).map fun (xs, tail) => (x :: xs, tail)
      else if separator.isMark ')' then .ok ([x], rest)
      else .error (separator :: rest)

theorem length_of_readListed {α : Type} {element? : Token → Option α} {ts rest : List Token}
    {xs : List α} (h : readListed element? ts = .ok (xs, rest)) : rest.length < ts.length := by
  fun_induction readListed element? ts generalizing xs rest with
  | case1 => simp at h
  | case2 => simp at h
  | case3 => simp at h
  | case4 => simp at h
  | case5 t separator ts x hx hc ih =>
    cases hr : readListed element? ts with
    | error e => simp [hr, Except.map] at h
    | ok p =>
      obtain ⟨ys, tail⟩ := p
      have := ih hr
      simp only [hr, Except.map, Except.ok.injEq, Prod.mk.injEq] at h
      simp only [List.length_cons, ← h.2]; omega
  | case6 =>
    simp only [Except.ok.injEq, Prod.mk.injEq] at h
    simp only [List.length_cons, ← h.2]; omega
  | case7 => simp at h

/-! ### Rows -/

/-- Reads parenthesised rows separated by commas. -/
def readRows (ts : List Token) : Read (List (List Item) × List Token) :=
  match ts with
  | [] => .error []
  | t :: inside =>
    if t.isMark '(' then
      match _h : readListed item? inside with
      | .error e => .error e
      | .ok (row, []) => .ok ([row], [])
      | .ok (row, separator :: rest) =>
        if separator.isMark ',' then
          (readRows rest).map fun (rows, tail) => (row :: rows, tail)
        else .ok ([row], separator :: rest)
    else .error (t :: inside)
termination_by ts.length
decreasing_by
  have := length_of_readListed _h
  simp only [List.length_cons] at this ⊢; omega

/-! ### Result columns -/

/-- The tokens behind an expression. Inside `depth` parentheses, an operand is expected
either now or behind the next comma. -/
def skipExpression (depth : Nat) (operand : Bool) : List Token → Read (List Token)
  | [] => if operand || depth > 0 then .error [] else .ok []
  | t :: rest =>
    if operand then
      if t.isMark '(' then skipExpression (depth + 1) true rest
      else if (item? t).isSome then skipExpression depth false rest
      else if (name? t).isSome then
        match rest with
        | o :: inside =>
          if o.isMark '(' then
            match inside with
            | c :: tail =>
              if c.isMark ')' then skipExpression depth false tail
              else skipExpression (depth + 1) true (c :: tail)
            | [] => .error []
          else skipExpression depth false (o :: inside)
        | [] => skipExpression depth false []
      else .error (t :: rest)
    else if depth = 0 then .ok (t :: rest)
    else if t.isMark ',' then skipExpression depth true rest
    else if t.isMark ')' then skipExpression (depth - 1) false rest
    else .error (t :: rest)

/-- The names that an expression mentions: its words that are not the names of functions. -/
def mentionedNames : List Token → List (Text × Nat)
  | [] => []
  | t :: rest =>
    match name? t, rest.head?.any (·.isMark '(') with
    | some n, false => (n, t.start) :: mentionedNames rest
    | _, _ => mentionedNames rest

/-- The way an expression is written, from one place up to the token behind it: comments
there belong to it, space at its end does not. -/
def spelling (sql : Text) (start stop : Nat) : Text :=
  ((Token.slice sql start stop).reverse.dropWhile isSeparator).reverse

/-- The result column that the tokens of an expression describe, under a label of its own,
the name of the column, or the way the expression is written up to `stop`. -/
def resultColumn (sql : Text) (tokens : List Token) (stop : Nat) (label? : Option Text) :
    ResultColumn :=
  let start := (tokens.head?.map Token.start).getD 0
  match tokens.map name? with
  | [some n] => .column n start (label?.getD n)
  | _ =>
    .expression (mentionedNames tokens) (tokens.countP (·.isMark '?'))
      (label?.getD (spelling sql start stop))

/-- Reads one result column. -/
def readResultColumn (sql : Text) (ts : List Token) : Read (ResultColumn × List Token) :=
  match behind? (·.isMark '*') ts with
  | some rest => .ok (.all, rest)
  | none => do
    let rest ← skipExpression 0 true ts
    let tokens := ts.take (ts.length - rest.length)
    let stop := (rest.head?.map Token.start).getD sql.length
    match behind? (·.isWord "AS") rest with
    | none => return (resultColumn sql tokens stop none, rest)
    | some rest =>
      let (label, rest) ← readName rest
      return (resultColumn sql tokens stop (some label), rest)

theorem length_of_behind? {isExpected : Token → Bool} {ts rest : List Token}
    (h : behind? isExpected ts = some rest) : rest.length < ts.length := by
  cases ts with
  | nil => simp [behind?] at h
  | cons t ts =>
    simp only [behind?] at h
    split at h
    · simp only [Option.some.injEq] at h; simp [h]
    · simp at h

theorem length_of_readName {ts rest : List Token} {n : Text}
    (h : readName ts = .ok (n, rest)) : rest.length < ts.length := by
  cases ts with
  | nil => simp [readName] at h
  | cons t ts =>
    simp only [readName] at h
    split at h
    · simp only [Except.ok.injEq, Prod.mk.injEq] at h; simp [h.2]
    · simp at h

theorem length_of_skipExpression {depth : Nat} {operand : Bool} {ts rest : List Token}
    (h : skipExpression depth operand ts = .ok rest) : rest.length ≤ ts.length := by
  fun_induction skipExpression depth operand ts <;> grind

theorem length_of_readResultColumn {sql : Text} {ts rest : List Token} {c : ResultColumn}
    (h : readResultColumn sql ts = .ok (c, rest)) : rest.length ≤ ts.length := by
  unfold readResultColumn at h
  split at h
  · rename_i r hb
    have := length_of_behind? hb
    simp only [Except.ok.injEq, Prod.mk.injEq] at h
    rw [← h.2]; omega
  · cases hs : skipExpression 0 true ts with
    | error e => simp [hs, bind, Except.bind] at h
    | ok r =>
      have h₁ := length_of_skipExpression hs
      simp only [hs, bind, Except.bind] at h
      split at h
      · simp only [pure, Except.pure, Except.ok.injEq, Prod.mk.injEq] at h
        rw [← h.2]; exact h₁
      · rename_i u hb
        have h₂ := length_of_behind? hb
        cases hn : readName u with
        | error e => simp [hn] at h
        | ok q =>
          obtain ⟨label, v⟩ := q
          have h₃ := length_of_readName hn
          simp only [hn, pure, Except.pure, Except.ok.injEq, Prod.mk.injEq] at h
          rw [← h.2]; omega

/-- Reads result columns separated by commas. -/
def readResultColumns (sql : Text) (ts : List Token) :
    Read (List ResultColumn × List Token) :=
  match _hc : readResultColumn sql ts with
  | .error e => .error e
  | .ok (column, rest) =>
    match _hb : behind? (·.isMark ',') rest with
    | none => .ok ([column], rest)
    | some more =>
      (readResultColumns sql more).map fun (columns, tail) => (column :: columns, tail)
termination_by ts.length
decreasing_by
  have h₁ := length_of_readResultColumn _hc
  have h₂ := length_of_behind? _hb
  omega

/-! ### Commands -/

/-- Reads an optional column list. -/
def readColumnList (ts : List Token) : Read (Option (List Text) × List Token) :=
  match behind? (·.isMark '(') ts with
  | none => .ok (none, ts)
  | some inside => (readListed name? inside).map fun (names, rest) => (some names, rest)

/-- Reads an optional `ON CONFLICT DO NOTHING`. -/
def readConflict (ts : List Token) : Read (Bool × List Token) :=
  match behind? (·.isWord "ON") ts with
  | none => .ok (false, ts)
  | some rest => do
    let rest ← expectWord "CONFLICT" rest
    let rest ← expectWord "DO" rest
    return (true, ← expectWord "NOTHING" rest)

/-- Reads an optional `RETURNING` and its columns. -/
def readReturning (sql : Text) (ts : List Token) : Read (List ResultColumn × List Token) :=
  match behind? (·.isWord "RETURNING") ts with
  | none => .ok ([], ts)
  | some rest => readResultColumns sql rest

/-- Reads an insertion behind its first word. -/
def readInsertion (sql : Text) (ts : List Token) : Read (Command × List Token) := do
  let ts ← expectWord "INTO" ts
  let (table, ts) ← readName ts
  let (columns, ts) ← readColumnList ts
  let ts ← expectWord "VALUES" ts
  let (rows, ts) ← readRows ts
  let (skipConflicts, ts) ← readConflict ts
  let (returning, ts) ← readReturning sql ts
  return (.insert { table, columns, rows, skipConflicts, returning }, ts)

/-- Reads a selection behind its first word. -/
def readSelection (sql : Text) (ts : List Token) : Read (Command × List Token) := do
  let (columns, ts) ← readResultColumns sql ts
  let ts ← expectWord "FROM" ts
  let (table, ts) ← readName ts
  return (.select columns table, ts)

/-- Reads a command to the end of its tokens. -/
def read (sql : Text) (ts : List Token) : Read Command := do
  let (command, rest) ←
    match behind? (·.isWord "INSERT") ts with
    | some rest => readInsertion sql rest
    | none => readSelection sql (← expectWord "SELECT" ts)
  if rest.isEmpty then return command else throw rest

end Command

end BulkInsert.Sql
