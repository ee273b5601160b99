import BulkInsert.Text.Printable

/-!
# Quoted texts

A text in a report stands between double quotes. A backslash marks what cannot stand for
itself: the quote and the backslash, the controls with a letter of their own, and, by
number, every code point that is not printable.
-/

namespace BulkInsert.Text

/-- How one code point is written between quotes. -/
def quoteChar (c : Char) : Text :=
  if c == '\x00' then ['\\', '0']
  else if c == '\t' then ['\\', 't']
  else if c == '\r' then ['\\', 'r']
  else if c == '\n' then ['\\', 'n']
  else if c == '\x22' || c == '\\' then ['\\', c]
  else if isPrintable c then [c]
  else ['\\', 'u', '\x7b'] ++ Nat.toDigits 16 c.toNat ++ ['\x7d']

/-- A text between double quotes. -/
def quote (t : Text) : Text := ['\x22'] ++ t.flatMap quoteChar ++ ['\x22']

end BulkInsert.Text
