import BulkInsert.Statement.Clause

/-!
# The value tuple

The tuple of a single-row statement is the parenthesised group behind its word `VALUES`.
It is found by a pattern, not by a full reading of the statement.

## Which group is taken

An occurrence of `VALUES` is *viable* when only blanks stand between it and an opening
parenthesis that has a closing one on its own line, at least two characters later. Lines
end at U+000A. Of the viable occurrences the first line holding one decides, and on it the
last one. The group runs from its opening parenthesis to the last closing parenthesis on
the line of the opening one, so whatever follows the tuple on that line and is itself
parenthesised widens it.

A group with a blank pair of parentheses anywhere inside is refused by `extractTuple`.

The law `text_of_capture?` says that the three parts of a capture make up the text
they were found in.
-/

namespace BulkInsert.Statement

open Text

/-- A **capture** splits a text at its value tuple. -/
structure Capture where
  /-- Everything before the tuple, the word `VALUES` included. -/
  before : Text
  /-- The tuple, from its opening parenthesis to its last closing one. -/
  tuple : Text
  /-- Everything behind the tuple. -/
  after : Text
  deriving DecidableEq, Repr

/-- The text that a capture splits. -/
def Capture.text (k : Capture) : Text := k.before ++ k.tuple ++ k.after

/-- The same capture in a text with one more character in front. -/
def Capture.push (c : Char) (k : Capture) : Capture := { k with before := c :: k.before }

/-- Splits the first line at its last closing parenthesis: all up to and including it, and
all that follows. -/
def splitLastClose? : Text → Option (Text × Text)
  | [] => none
  | c :: rest =>
    if c = '\n' then none
    else match splitLastClose? rest with
      | some (group, tail) => some (c :: group, tail)
      | none => if c = ')' then some ([c], rest) else none

/-- The group that a text begins with, and what follows it. Between the parentheses stands
at least one character. -/
def groupAt? : Text → Option (Text × Text)
  | o :: c :: rest =>
    if o = '(' ∧ c ≠ '\n' then
      (splitLastClose? rest).map fun (group, tail) => (o :: c :: group, tail)
    else none
  | _ => none

/-- The capture of a text that begins with a viable occurrence of `VALUES`. -/
def valuesAt? (t : Text) : Option Capture :=
  match "VALUES".toList.isPrefixOf? t with
  | none => none
  | some rest =>
    (groupAt? (skipBlanks rest)).map fun (group, tail) =>
      ⟨"VALUES".toList ++ rest.takeWhile isBlank, group, tail⟩

/-- The capture at the last viable occurrence that starts on the first line. -/
def lastOnLine? : Text → Option Capture
  | [] => none
  | c :: rest =>
    if c = '\n' then none
    else match lastOnLine? rest with
      | some k => some (k.push c)
      | none => valuesAt? (c :: rest)

/-- The capture on the first line, behind the current one, that holds a viable
occurrence. -/
def laterLine? : Text → Option Capture
  | [] => none
  | c :: rest =>
    if c = '\n' then
      match lastOnLine? rest with
      | some k => some (k.push c)
      | none => (laterLine? rest).map (Capture.push c)
    else (laterLine? rest).map (Capture.push c)

/-- The capture of a text: on the first line holding a viable occurrence, at the last one. -/
def capture? (t : Text) : Option Capture :=
  match lastOnLine? t with
  | some k => some k
  | none => laterLine? t

/-- Whether the text begins with a pair of parentheses with only blanks, at least one,
between them. -/
def beginsBlankParens : Text → Bool
  | [] => false
  | c :: rest => c == '(' && ((afterBlanks? rest).any fun t => t.head? == some ')')

/-- Whether a blank pair of parentheses stands anywhere in the text. -/
def holdsBlankParens : Text → Bool
  | [] => false
  | c :: rest => beginsBlankParens (c :: rest) || holdsBlankParens rest

/-! ### Basic laws -/

/-- The two parts of a split line make up the text. -/
theorem append_of_splitLastClose? {t group tail : Text}
    (h : splitLastClose? t = some (group, tail)) : group ++ tail = t := by
  induction t generalizing group with
  | nil => simp [splitLastClose?] at h
  | cons c rest ih =>
    rw [splitLastClose?] at h
    by_cases hc : c = '\n'
    · simp [hc] at h
    · rw [if_neg hc] at h
      cases hr : splitLastClose? rest with
      | some p =>
        rw [hr] at h
        simp only [Option.some.injEq, Prod.mk.injEq] at h
        obtain ⟨rfl, rfl⟩ := h
        simp [ih hr]
      | none =>
        rw [hr] at h
        by_cases hp : c = ')'
        · simp only [if_pos hp, Option.some.injEq, Prod.mk.injEq] at h
          obtain ⟨rfl, rfl⟩ := h
          rfl
        · simp [hp] at h

/-- A group and what follows it make up the text. -/
theorem append_of_groupAt? {t group tail : Text} (h : groupAt? t = some (group, tail)) :
    group ++ tail = t := by
  unfold groupAt? at h
  split at h
  · split at h
    · simp only [Option.map_eq_some_iff, Prod.mk.injEq] at h
      obtain ⟨⟨g, u⟩, hs, rfl, rfl⟩ := h
      simp [append_of_splitLastClose? hs]
    · simp at h
  · simp at h

/-- One more character in front of a capture is one more in front of its text. -/
@[simp] theorem Capture.text_push (c : Char) (k : Capture) : (k.push c).text = c :: k.text := rfl

/-- A capture at the front of a text splits that text. -/
theorem text_of_valuesAt? {t : Text} {k : Capture} (h : valuesAt? t = some k) : k.text = t := by
  unfold valuesAt? at h
  split at h
  · simp at h
  · rename_i rest hrest
    simp only [Option.map_eq_some_iff] at h
    obtain ⟨⟨group, tail⟩, hg, rfl⟩ := h
    rw [Capture.text, List.append_assoc, append_of_groupAt? hg, List.append_assoc, skipBlanks,
      List.takeWhile_append_dropWhile, append_of_isPrefixOf? hrest]

/-- A capture on the first line splits the text. -/
theorem text_of_lastOnLine? {t : Text} {k : Capture} (h : lastOnLine? t = some k) :
    k.text = t := by
  induction t generalizing k with
  | nil => simp [lastOnLine?] at h
  | cons c rest ih =>
    rw [lastOnLine?] at h
    split at h
    · simp at h
    · split at h
      · rename_i l hl
        obtain rfl := Option.some.inj h
        rw [Capture.text_push, ih hl]
      · exact text_of_valuesAt? h

/-- A capture on a later line splits the text. -/
theorem text_of_laterLine? {t : Text} {k : Capture} (h : laterLine? t = some k) :
    k.text = t := by
  induction t generalizing k with
  | nil => simp [laterLine?] at h
  | cons c rest ih =>
    have push {l : Capture} (hl : (laterLine? rest).map (Capture.push c) = some l) :
        l.text = c :: rest := by
      simp only [Option.map_eq_some_iff] at hl
      obtain ⟨m, hm, rfl⟩ := hl
      rw [Capture.text_push, ih hm]
    rw [laterLine?] at h
    split at h
    · split at h
      · rename_i l hl
        obtain rfl := Option.some.inj h
        rw [Capture.text_push, text_of_lastOnLine? hl]
      · exact push h
    · exact push h

/-- The parts of a capture make up the text. -/
theorem text_of_capture? {t : Text} {k : Capture} (h : capture? t = some k) : k.text = t := by
  unfold capture? at h
  split at h
  · rename_i l hl
    obtain rfl := Option.some.inj h
    exact text_of_lastOnLine? hl
  · exact text_of_laterLine? h

end BulkInsert.Statement
