import BulkInsert.Text.Basic

/-!
# Blanks

A blank is a code point with the Unicode property `White_Space`. The recognisers of
statements treat every blank alike, line breaks included.
-/

namespace BulkInsert.Text

/-- Whether a code point has the Unicode property `White_Space`. -/
def isBlank (c : Char) : Bool :=
  let n := c.toNat
  (0x0009 ≤ n && n ≤ 0x000D) || n == 0x0020 || n == 0x0085 || n == 0x00A0 || n == 0x1680 ||
    (0x2000 ≤ n && n ≤ 0x200A) || n == 0x2028 || n == 0x2029 || n == 0x202F || n == 0x205F ||
    n == 0x3000

/-- The text without its leading blanks. -/
def skipBlanks (t : Text) : Text := t.dropWhile isBlank

/-- The text behind its leading blanks, when there is at least one. -/
def afterBlanks? : Text → Option Text
  | [] => none
  | c :: rest => if isBlank c then some (skipBlanks rest) else none

/-! ### Basic laws -/

/-- Leading blanks leave no trace: what is left is the same behind any run of them. -/
theorem skipBlanks_append {s : Text} (hs : ∀ c ∈ s, isBlank c = true) (t : Text) :
    skipBlanks (s ++ t) = skipBlanks t := by
  induction s with
  | nil => rfl
  | cons c s ih =>
    have hc : isBlank c = true := hs c (by simp)
    have ht := ih fun d hd => hs d (by simp [hd])
    simpa [skipBlanks, hc] using ht

end BulkInsert.Text
