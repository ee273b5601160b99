import BulkInsert.Error
import BulkInsert.Statement.Tuple

/-!
# Recognition

Two functions look at a statement before anything is prepared. `check` says whether it is a
single-row insertion at all, and `extractTuple` cuts out its value tuple. Both look at the
statement without its trailing clause.

## The shape of an insertion

A text has the shape of an insertion when it holds the word `VALUES` anywhere, or the words
`INSERT` and `INTO` with only blanks and comments between them and at least one more
character on the line of `INTO`. A comment is opened by `/*`, closed by `*/`, and holds no
line break; its body may itself hold `*/`, so a gap can be read in several ways and one of
them has to fit. `Gap.ofText` follows all readings at once, from the right, in one pass.
-/

namespace BulkInsert.Statement

open Text

/-- Whether the text begins with `INTO` and one more character on the same line. -/
def beginsInto (t : Text) : Bool :=
  match "INTO".toList.isPrefixOf? t with
  | some (c :: _) => c != '\n'
  | _ => false

/-- How a text may go on to `INTO`, one answer for each place that a reading of the gap
before it can have reached. -/
structure Gap where
  /-- From between two blanks or comments. -/
  between : Bool
  /-- From behind the stroke that may open a comment. -/
  opening : Bool
  /-- From inside a comment. -/
  inside : Bool
  /-- From behind a star inside a comment, where the next stroke may close it. -/
  closing : Bool

/-- How a text may go on to `INTO`. -/
def Gap.ofText : Text → Gap
  | [] => ⟨false, false, false, false⟩
  | c :: rest =>
    let next := ofText rest
    { between := beginsInto (c :: rest) || (isBlank c && next.between) ||
        (c == '/' && next.opening)
      opening := c == '*' && next.inside
      inside := c != '\n' && (next.inside || (c == '*' && next.closing))
      closing := c == '/' && next.between }

/-- Whether the text begins with `INSERT`, a gap of blanks and comments, and `INTO`. -/
def beginsInsertInto (t : Text) : Bool :=
  match "INSERT".toList.isPrefixOf? t with
  | some rest => (Gap.ofText rest).between
  | none => false

/-- Whether `INSERT`, a gap and `INTO` stand somewhere in the text. -/
def holdsInsertInto : Text → Bool
  | [] => false
  | c :: rest => beginsInsertInto (c :: rest) || holdsInsertInto rest

/-- Whether a text has the shape of an insertion. -/
def hasInsertShape (t : Text) : Bool := occursIn "VALUES".toList t || holdsInsertInto t

/-- Checks that a statement is a single-row insertion with a value tuple. A blank tuple
passes; it is refused when it is extracted. -/
def check (query : Text) : Except InsertError Unit :=
  let stripped := stripClause query
  if !hasInsertShape stripped then .error .statementNotRecognized
  else if (capture? stripped).isNone then .error .valuesNotRecognized
  else .ok ()

/-- The value tuple of a statement, verbatim. -/
def extractTuple (query : Text) : Except InsertError Text :=
  match capture? (stripClause query) with
  | none => .error .unparsableValues
  | some k => if holdsBlankParens k.tuple then .error .unparsableValues else .ok k.tuple

end BulkInsert.Statement
