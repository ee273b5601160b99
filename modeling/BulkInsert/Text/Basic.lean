/-!
# Texts

A text is the list of its code points. Every pattern of this library is read off such a
list from the left, so a recogniser is a function from a text to what follows the
recognised part, and its laws are equations between lists.

`digitsOf` is the decimal notation of a number, and `occursIn` says whether a word stands
anywhere in a text.
-/

namespace BulkInsert

/-- A **text**: its code points, in order. -/
abbrev Text := List Char

namespace Text

/-- The decimal digits of `n`, most significant first, with no leading zero. -/
def digitsOf (n : Nat) : Text := Nat.toDigits 10 n

/-- The decimal notation of an integer; only a negative one has a sign. -/
def integerDigits : Int → Text
  | .ofNat n => digitsOf n
  | .negSucc n => '-' :: digitsOf (n + 1)

/-- Whether `word` stands somewhere in the text. -/
def occursIn (word : Text) : Text → Bool
  | [] => word.isEmpty
  | c :: rest => word.isPrefixOf (c :: rest) || occursIn word rest

/-- The number of bytes of a text in UTF-8. -/
def byteLength (t : Text) : Nat := t.foldr (fun c bytes => c.utf8Size + bytes) 0

/-! ### Basic laws -/

/-- What follows a recognised beginning, put behind it again, is the whole text. -/
theorem append_of_isPrefixOf? {word t tail : Text} (h : word.isPrefixOf? t = some tail) :
    word ++ tail = t := by
  induction word generalizing t with
  | nil =>
    obtain rfl := Option.some.inj h
    rfl
  | cons w word ih =>
    cases t with
    | nil => cases h
    | cons c t =>
      change (if w == c then word.isPrefixOf? t else none) = some tail at h
      split at h
      · rename_i hc
        rw [List.cons_append, ih h, beq_iff_eq.1 hc]
      · cases h

end Text

end BulkInsert
