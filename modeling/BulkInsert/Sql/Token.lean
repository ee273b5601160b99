import BulkInsert.Text.Basic

/-!
# Tokens of SQL

A statement text is cut into tokens by one walk over its characters. Between two characters
the walk is in a `Mode`, which says what token it is inside of; each character changes the
mode and may complete tokens. Space and comments separate tokens and leave none.

Because the walk keeps nothing but its mode and its place, cutting a text in two cuts its
tokens in two: `scan_append` is the law.
-/

namespace BulkInsert.Sql

/-- What a token is. -/
inductive Lexeme where
  /-- A keyword or a name. -/
  | word (spelling : Text)
  /-- A whole number as it is written, with its sign. -/
  | number (spelling : Text)
  /-- A text literal, its doubled quotes made single. -/
  | literal (content : Text)
  /-- Any other character that SQL knows. -/
  | mark (c : Char)
  /-- What is no token at all: a character that SQL does not know, or a text literal that is
  not closed. -/
  | unknown
  deriving DecidableEq, Repr

/-- A **token** and its place, counted in characters. -/
structure Token where
  lexeme : Lexeme
  start : Nat
  stop : Nat
  deriving DecidableEq, Repr

/-- What the walk is inside of. Characters gathered so far are kept last first. -/
inductive Mode where
  | between
  /-- Behind space, where a vertical tab is space too. -/
  | space
  | word (start : Nat) (gathered : Text)
  | number (start : Nat) (gathered : Text)
  /-- Behind a minus sign, which may belong to a number. -/
  | minus (start : Nat)
  | literal (start : Nat) (gathered : Text)
  /-- Behind a quote inside a literal, which may be doubled. -/
  | quote (start : Nat) (gathered : Text)
  /-- Behind a stroke, which may open a comment. -/
  | stroke (start : Nat)
  /-- Behind the stroke and star that open a comment, unless the text ends here. -/
  | opened (start : Nat)
  | comment
  /-- Behind a star inside a comment. -/
  | star
  /-- Inside a comment that runs to the end of its line. -/
  | line
  deriving DecidableEq, Repr

/-- Whether a character separates tokens. -/
def isSeparator (c : Char) : Bool :=
  c == ' ' || c == '\t' || c == '\n' || c == '\x0c' || c == '\r'

/-- Whether a character is neither part of a token nor space. -/
def isUnknown (c : Char) : Bool :=
  c.toNat < 0x20 || c == '\x7f' || c == '\\' || c == ']' || c == '^' || c == '\x7b' ||
    c == '\x7d'

/-- Whether a character can begin a name. -/
def startsName (c : Char) : Bool := c.isAlpha || c == '_' || 0x80 ≤ c.toNat

/-- Whether a character can stand inside a name. -/
def continuesName (c : Char) : Bool := startsName c || c.isDigit || c == '$'

namespace Mode

/-- The tokens completed, and the mode, after a character between two tokens. -/
def start (place : Nat) (c : Char) : List Token × Mode :=
  if isSeparator c then ([], space)
  else if c == '\uFEFF' then ([], between)
  else if startsName c then ([], word place [c])
  else if c.isDigit then ([], number place [c])
  else if c == '\x27' then ([], literal place [])
  else if c == '-' then ([], minus place)
  else if c == '/' then ([], stroke place)
  else if isUnknown c then ([⟨.unknown, place, place + 1⟩], between)
  else ([⟨.mark c, place, place + 1⟩], between)

/-- The tokens that the end of the text, or the start of another token, completes. -/
def complete (place : Nat) : Mode → List Token
  | between | space | comment | star | line => []
  | word first gathered => [⟨.word gathered.reverse, first, place⟩]
  | number first gathered => [⟨.number gathered.reverse, first, place⟩]
  | minus first => [⟨.mark '-', first, place⟩]
  | literal first _ => [⟨.unknown, first, place⟩]
  | quote first gathered => [⟨.literal gathered.reverse, first, place⟩]
  | stroke first => [⟨.mark '/', first, place⟩]
  | opened first => [⟨.mark '/', first, first + 1⟩, ⟨.mark '*', first + 1, place⟩]

/-- The tokens completed, and the mode, after a character that starts another token. -/
def restart (mode : Mode) (place : Nat) (c : Char) : List Token × Mode :=
  let (tokens, next) := start place c
  (mode.complete place ++ tokens, next)

/-- The tokens completed, and the mode, after one more character. -/
def step (mode : Mode) (place : Nat) (c : Char) : List Token × Mode :=
  match mode with
  | between => start place c
  | space => if c == '\x0b' then ([], space) else start place c
  | word first gathered =>
    if continuesName c then ([], word first (c :: gathered)) else mode.restart place c
  | number first gathered =>
    if c.isDigit then ([], number first (c :: gathered)) else mode.restart place c
  | minus first =>
    if c.isDigit then ([], number first [c, '-'])
    else if c == '-' then ([], line)
    else mode.restart place c
  | literal first gathered =>
    if c == '\x27' then ([], quote first gathered) else ([], literal first (c :: gathered))
  | quote first gathered =>
    if c == '\x27' then ([], literal first (c :: gathered)) else mode.restart place c
  | stroke first => if c == '*' then ([], opened first) else mode.restart place c
  | opened _ | comment => ([], if c == '*' then star else comment)
  | star => ([], if c == '/' then between else if c == '*' then star else comment)
  | line => ([], if c == '\n' then space else line)

/-- The mode after a text. -/
def after (mode : Mode) (place : Nat) : Text → Mode
  | [] => mode
  | c :: rest => after (mode.step place c).2 (place + 1) rest

end Mode

namespace Token

/-- The tokens completed within a text, from a mode and a place on. -/
def scan (mode : Mode) (place : Nat) : Text → List Token
  | [] => []
  | c :: rest => (mode.step place c).1 ++ scan (mode.step place c).2 (place + 1) rest

/-- The tokens of a text. -/
def ofText (sql : Text) : List Token :=
  scan .between 0 sql ++ (Mode.between.after 0 sql).complete sql.length

/-- The part of a text from one place to another. -/
def slice (sql : Text) (start stop : Nat) : Text := (sql.take stop).drop start

/-- Whether a token is a given keyword. -/
def isWord (t : Token) (word : String) : Bool := t.lexeme == .word word.toList

/-- Whether a token is a given mark. -/
def isMark (t : Token) (c : Char) : Bool := t.lexeme == .mark c

/-! ### Basic laws -/

/-- The tokens completed within two texts are those within the first, then those within
the second. -/
theorem scan_append (mode : Mode) (place : Nat) (s t : Text) :
    scan mode place (s ++ t) =
      scan mode place s ++ scan (mode.after place s) (place + s.length) t := by
  induction s generalizing mode place with
  | nil => simp [scan, Mode.after]
  | cons c s ih =>
    simp only [List.cons_append, scan, Mode.after, ih, List.append_assoc, List.length_cons]
    congr 3
    omega

/-- The mode after two texts is the mode after the second, from the mode after the first. -/
theorem after_append (mode : Mode) (place : Nat) (s t : Text) :
    mode.after place (s ++ t) = (mode.after place s).after (place + s.length) t := by
  induction s generalizing mode place with
  | nil => simp [Mode.after]
  | cons c s ih =>
    simp only [List.cons_append, Mode.after, ih, List.length_cons]
    congr 1
    omega

end Token

end BulkInsert.Sql
