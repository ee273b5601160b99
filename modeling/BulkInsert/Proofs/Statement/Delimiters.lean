import BulkInsert.Statement.Check
import Mathlib.Data.List.Infix
import Mathlib.Data.List.TakeWhile

/-!
# Reading up to a delimiter

A pattern that cannot read some character reads only what stands in front of it. So for a
text `front ++ d :: rest` it gives what it gives for `front`, with the rest put behind. There
is one such lemma for each pattern of which longer ones are made.

`NoClauseIn` says that no trailing clause begins in some part of a statement. Whether one
does is a matter of that part and of the quotes behind it: `noClauseIn_congr`.
-/

namespace BulkInsert.Statement

open Text

/-! ### Words and blanks -/

/-- A word is read off a text that begins with it. -/
theorem isPrefixOf?_append (word rest : Text) : word.isPrefixOf? (word ++ rest) = some rest :=
  List.isPrefixOf?_eq_some_iff_append_eq.2 rfl

/-- A word without `d` is read in front of `d`. -/
theorem isPrefixOf?_append_delimiter {word : Text} {d : Char} (hd : d ∉ word)
    (front rest : Text) :
    word.isPrefixOf? (front ++ d :: rest) =
      (word.isPrefixOf? front).map (· ++ d :: rest) := by
  induction word generalizing front with
  | nil => rfl
  | cons w word ih =>
      obtain ⟨hw, hd⟩ := List.ne_and_not_mem_of_not_mem_cons hd
      cases front with
      | nil =>
          change (if w == d then word.isPrefixOf? rest else none) = none
          rw [if_neg (by simpa using hw.symm)]
      | cons c front =>
          change (if w == c then word.isPrefixOf? (front ++ d :: rest) else none) =
            (if w == c then word.isPrefixOf? front else none).map (· ++ d :: rest)
          split
          · exact ih hd front
          · rfl

/-- A word without `d` stands in front of `d` or behind it. -/
theorem occursIn_append_delimiter {word : Text} {d : Char} (hd : d ∉ word) (hne : word ≠ [])
    (front rest : Text) :
    occursIn word (front ++ d :: rest) = (occursIn word front || occursIn word rest) := by
  induction front with
  | nil =>
      have hnil := isPrefixOf?_append_delimiter hd [] rest
      obtain ⟨w, word, rfl⟩ := List.exists_cons_of_ne_nil hne
      rw [List.nil_append] at hnil ⊢
      change ((w :: word).isPrefixOf (d :: rest) || occursIn (w :: word) rest) = _
      rw [← List.isSome_isPrefixOf?_eq_isPrefixOf, hnil]
      rfl
  | cons c front ih =>
      rw [List.cons_append, occursIn, occursIn, ih, ← List.isSome_isPrefixOf?_eq_isPrefixOf,
        ← List.isSome_isPrefixOf?_eq_isPrefixOf, ← List.cons_append,
        isPrefixOf?_append_delimiter hd, Option.isSome_map, Bool.or_assoc]

section

variable {d : Char} (hd : isBlank d = false)

include hd

/-- Leading blanks end before a character that is none. -/
theorem skipBlanks_append_delimiter (front rest : Text) :
    skipBlanks (front ++ d :: rest) = skipBlanks front ++ d :: rest := by
  induction front with
  | nil => simp [skipBlanks, hd]
  | cons c front ih =>
      by_cases hc : isBlank c = true
      · simpa [skipBlanks, hc] using ih
      · simp [skipBlanks, hc]

/-- Leading blanks end before a character that is none. -/
theorem takeWhile_isBlank_append_delimiter (front rest : Text) :
    (front ++ d :: rest).takeWhile isBlank = front.takeWhile isBlank := by
  induction front with
  | nil => simp [hd]
  | cons c front ih =>
      by_cases hc : isBlank c = true
      · simpa [hc] using ih
      · simp [hc]

/-- At least one blank is read in front of a character that is none. -/
theorem afterBlanks?_append_delimiter (front rest : Text) :
    afterBlanks? (front ++ d :: rest) = (afterBlanks? front).map (· ++ d :: rest) := by
  cases front with
  | nil => simp [afterBlanks?, hd]
  | cons c front =>
      rw [List.cons_append, afterBlanks?, afterBlanks?, skipBlanks_append_delimiter hd]
      split <;> rfl

end

/-- Blanks, at least one, are read up to what follows them. -/
theorem afterBlanks?_append {blanks : Text} (hne : blanks ≠ [])
    (hblanks : ∀ b ∈ blanks, isBlank b = true) (t : Text) :
    afterBlanks? (blanks ++ t) = some (skipBlanks t) := by
  obtain ⟨b, blanks, rfl⟩ := List.exists_cons_of_ne_nil hne
  rw [List.cons_append, afterBlanks?, if_pos (hblanks b List.mem_cons_self),
    skipBlanks_append fun d hd => hblanks d (List.mem_cons_of_mem b hd)]

/-- What is read behind blanks stands behind at least one. -/
theorem exists_of_afterBlanks?_eq_some {t u : Text} (h : afterBlanks? t = some u) :
    ∃ blanks, t = blanks ++ u ∧ blanks ≠ [] ∧ ∀ b ∈ blanks, isBlank b = true := by
  cases t with
  | nil => cases h
  | cons c t =>
      rw [afterBlanks?] at h
      split at h
      · rename_i hc
        obtain rfl := Option.some.inj h
        refine ⟨c :: t.takeWhile isBlank, by simp [skipBlanks], List.cons_ne_nil _ _, ?_⟩
        rintro d (- | ⟨-, hd⟩)
        · exact hc
        · exact List.mem_takeWhile_imp hd
      · cases h

/-- A blank pair of parentheses stands in front of a comma or behind it. -/
theorem holdsBlankParens_append_comma (front rest : Text) :
    holdsBlankParens (front ++ ',' :: rest) =
      (holdsBlankParens front || holdsBlankParens rest) := by
  induction front with
  | nil => rfl
  | cons c front ih =>
      have hbegins : beginsBlankParens (c :: (front ++ ',' :: rest)) =
          beginsBlankParens (c :: front) := by
        rw [beginsBlankParens, beginsBlankParens, afterBlanks?_append_delimiter (by decide)]
        rcases afterBlanks? front with - | ⟨- | ⟨d, behind⟩⟩ <;> rfl
      rw [List.cons_append, holdsBlankParens, holdsBlankParens, ih, hbegins, Bool.or_assoc]

/-! ### Clauses -/

/-- Two texts together are evenly quoted when both are, or neither. -/
theorem evenlyQuoted_append (s t : Text) :
    evenlyQuoted (s ++ t) = (evenlyQuoted s == evenlyQuoted t) := by
  rw [evenlyQuoted, evenlyQuoted, evenlyQuoted, List.countP_append]
  generalize s.countP isQuote = m
  generalize t.countP isQuote = n
  rcases Nat.mod_two_eq_zero_or_one m with hm | hm <;>
    rcases Nat.mod_two_eq_zero_or_one n with hn | hn <;>
    simp [Nat.add_mod, hm, hn]

/-- `EndsWords d`: no word of a trailing clause, and no run of blanks, goes on with `d`. -/
structure EndsWords (d : Char) : Prop where
  isBlank_eq : isBlank d = false
  notMem : ∀ word ∈ ["ON".toList, "DUPLICATE".toList, "KEY".toList], d ∉ word

theorem endsWords_openParen : EndsWords '(' := ⟨by decide, by decide⟩

theorem endsWords_closeParen : EndsWords ')' := ⟨by decide, by decide⟩

theorem endsWords_comma : EndsWords ',' := ⟨by decide, by decide⟩

/-- The words of a clause are read in front of a character that ends words. -/
theorem EndsWords.afterClauseWords?_append {d : Char} (hd : EndsWords d) (front rest : Text) :
    afterClauseWords? (front ++ d :: rest) =
      (afterClauseWords? front).map (· ++ d :: rest) := by
  have hon := isPrefixOf?_append_delimiter (hd.notMem _ (by simp) : d ∉ "ON".toList)
  have hduplicate := isPrefixOf?_append_delimiter (hd.notMem _ (by simp) : d ∉ "DUPLICATE".toList)
  have hkey := isPrefixOf?_append_delimiter (hd.notMem _ (by simp) : d ∉ "KEY".toList)
  have hblanks := afterBlanks?_append_delimiter hd.isBlank_eq
  simp only [afterClauseWords?, Option.bind_eq_bind, hon, hduplicate, hkey, hblanks,
    Option.bind_map, Option.map_bind, Function.comp_def]

/-- Whether a clause begins in front of a character that ends words is a matter of what
stands in front and of the quotes behind. -/
theorem EndsWords.beginsClause_congr {d : Char} (hd : EndsWords d) (front : Text)
    {rest rest' : Text} (h : evenlyQuoted (d :: rest) = evenlyQuoted (d :: rest')) :
    beginsClause (front ++ d :: rest) = beginsClause (front ++ d :: rest') := by
  simp only [beginsClause, skipBlanks_append_delimiter hd.isBlank_eq,
    hd.afterClauseWords?_append]
  cases afterClauseWords? (skipBlanks front) with
  | none => rfl
  | some tail => simp only [Option.map_some, evenlyQuoted_append, h]

/-- No clause begins with a character that ends words. -/
theorem EndsWords.beginsClause_cons {d : Char} (hd : EndsWords d) (rest : Text) :
    beginsClause (d :: rest) = false := by
  have hblanks : skipBlanks (d :: rest) = d :: rest := by simp [skipBlanks, hd.isBlank_eq]
  have hwords : afterClauseWords? (d :: rest) = none := hd.afterClauseWords?_append [] rest
  rw [beginsClause, hblanks, hwords]

/-- No trailing clause begins inside `front` when `rest` follows. -/
def NoClauseIn : Text → Text → Prop
  | [], _ => True
  | c :: front, rest => beginsClause (c :: (front ++ rest)) = false ∧ NoClauseIn front rest

/-- Stripping keeps a beginning exactly when no clause begins inside it, and strips what
follows. -/
theorem stripClause_append_eq_iff {front rest kept : Text} :
    stripClause (front ++ rest) = front ++ kept ↔
      NoClauseIn front rest ∧ stripClause rest = kept := by
  induction front with
  | nil => simp [NoClauseIn]
  | cons c front ih =>
      rw [List.cons_append, stripClause, NoClauseIn, and_assoc, ← ih]
      by_cases h : beginsClause (c :: (front ++ rest)) = true
      · simp [h]
      · simp [h]

/-- A clause begins inside two parts when it begins inside one of them. -/
theorem noClauseIn_append {front middle rest : Text} :
    NoClauseIn (front ++ middle) rest ↔
      NoClauseIn front (middle ++ rest) ∧ NoClauseIn middle rest := by
  induction front with
  | nil => simp [NoClauseIn]
  | cons c front ih =>
      rw [List.cons_append, NoClauseIn, NoClauseIn, ih, List.append_assoc, and_assoc]

/-- Whether a clause begins in front of a character that ends words is a matter of what
stands in front and of the quotes behind. -/
theorem noClauseIn_congr {d : Char} (hd : EndsWords d) (front : Text) {rest rest' : Text}
    (h : evenlyQuoted (d :: rest) = evenlyQuoted (d :: rest')) :
    NoClauseIn front (d :: rest) ↔ NoClauseIn front (d :: rest') := by
  induction front with
  | nil => exact Iff.rfl
  | cons c front ih =>
      rw [NoClauseIn, NoClauseIn, ih, ← List.cons_append, hd.beginsClause_congr _ h]
      rfl

end BulkInsert.Statement
