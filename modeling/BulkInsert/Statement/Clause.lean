import BulkInsert.Text.Blank

/-!
# The trailing clause

A statement may end in a clause that says what happens to a duplicate: the words
`ON DUPLICATE KEY` and everything behind them. The clause may mention `VALUES (...)`
itself, so it is taken off before a statement is looked at.

## When an occurrence counts

The words can also stand inside a quoted literal. An occurrence therefore counts as the
clause only if an even number of quote characters follows it; the three kinds of quote are
counted together. `stripClause` cuts at the leftmost occurrence that counts, together with
the blanks before it, and removes everything from there to the end.

The main law here is `stripClause_append_drop`: what is left is a beginning of the text.
-/

namespace BulkInsert.Statement

open Text

/-- Whether a code point is one of the three quote characters. -/
def isQuote (c : Char) : Bool := c == '\x22' || c == '\x27' || c == '\x60'

/-- Whether the text holds an even number of quote characters. -/
def evenlyQuoted (t : Text) : Bool := t.countP isQuote % 2 == 0

/-- What follows the words `ON DUPLICATE KEY`, when the text begins with them. Any positive
number of blanks separates the words. -/
def afterClauseWords? (t : Text) : Option Text := do
  let t ← "ON".toList.isPrefixOf? t
  let t ← afterBlanks? t
  let t ← "DUPLICATE".toList.isPrefixOf? t
  let t ← afterBlanks? t
  "KEY".toList.isPrefixOf? t

/-- Whether the text, behind its leading blanks, is a trailing clause to its very end. -/
def beginsClause (t : Text) : Bool :=
  match afterClauseWords? (skipBlanks t) with
  | some tail => evenlyQuoted tail
  | none => false

/-- The statement without its trailing clause. -/
def stripClause : Text → Text
  | [] => []
  | c :: rest => if beginsClause (c :: rest) then [] else c :: stripClause rest

/-! ### Basic laws -/

/-- What is left is a beginning of the statement. -/
theorem stripClause_append_drop (q : Text) :
    stripClause q ++ q.drop (stripClause q).length = q := by
  induction q with
  | nil => rfl
  | cons c rest ih =>
    by_cases h : beginsClause (c :: rest) <;> simp [stripClause, h, ih]

end BulkInsert.Statement
