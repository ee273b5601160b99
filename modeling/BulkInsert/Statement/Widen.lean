import BulkInsert.Text.Basic

/-!
# Widening

A single-row statement becomes one for several rows by repeating its value tuple in place,
the copies separated by commas. `widen` does so at the first place where the tuple occurs
and leaves the rest of the statement alone.

`replaceFirst_self` is the law behind the width one: a tuple replaced by itself changes
nothing.
-/

namespace BulkInsert.Statement

open Text

/-- Copies of a tuple, separated by commas. -/
def copies (tuple : Text) (count : Nat) : Text := [','].intercalate (List.replicate count tuple)

/-- The text with the first occurrence of `old` replaced by `new`. The empty text occurs
first at the very beginning. -/
def replaceFirst (old new : Text) : Text → Text
  | [] => if old.isEmpty then new else []
  | c :: rest =>
    match old.isPrefixOf? (c :: rest) with
    | some tail => new ++ tail
    | none => c :: replaceFirst old new rest

/-- The statement with its tuple repeated `count` times in place. -/
def widen (query tuple : Text) (count : Nat) : Text :=
  replaceFirst tuple (copies tuple count) query

/-! ### Basic laws -/

/-- A text replaced by itself changes nothing. -/
theorem replaceFirst_self (old t : Text) : replaceFirst old old t = t := by
  induction t with
  | nil => cases old <;> rfl
  | cons c rest ih =>
    rw [replaceFirst]
    split
    · rename_i tail h
      exact append_of_isPrefixOf? h
    · rw [ih]

/-- One copy is the tuple itself. -/
theorem copies_one (tuple : Text) : copies tuple 1 = tuple := by
  simp [copies, List.intercalate]

end BulkInsert.Statement
