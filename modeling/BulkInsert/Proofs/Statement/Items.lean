import BulkInsert.Proofs.Statement.Patterns

/-!
# Items of a tuple

The items of a tuple on one line, with commas between them: words, such as a placeholder, a number
or a name, quoted literals, and calls, the arguments of which are items again or blank.
`Items.text` is how they are written. In a literal every apostrophe is written twice, `doubled`,
and nothing else is forbidden but the end of the line.

`Items.places` are the contents of the literals and the calls, wherever they stand in the items. A
pattern can be met nowhere else.
-/

namespace BulkInsert.Statement

open Text

/-! ### Items -/

/-- A **word**: at least one character, each of which can stand in a word. -/
structure Word where
  text : Text
  ne_nil : text ≠ []
  isWordChar_eq : ∀ c ∈ text, isWordChar c = true

/-- **Spacing**: blanks, none of which ends the line. -/
structure Spacing where
  text : Text
  isBlank_eq : ∀ b ∈ text, isBlank b = true
  notMem : '\n' ∉ text

/-- The content of a literal: any text without a line break. -/
structure Content where
  text : Text
  notMem : '\n' ∉ text

/-- The **items** of a tuple, at least one. -/
inductive Items
  | word (name : Word)
  | literal (content : Content)
  | call (name : Word) (spacing : Spacing) (arguments : Items)
  | blankCall (name : Word) (spacing blanks : Spacing)
  | spaced (before : Spacing) (items : Items) (behind : Spacing)
  | comma (first rest : Items)

/-- How items are written. -/
def Items.text : Items → Text
  | word name => name.text
  | literal content => ['\x27'] ++ (doubled content.text ++ ['\x27'])
  | call name spacing arguments =>
      (name.text ++ (spacing.text ++ ['('])) ++ (arguments.text ++ [')'])
  | blankCall name spacing blanks =>
      (name.text ++ (spacing.text ++ ['('])) ++ (blanks.text ++ [')'])
  | spaced before items behind => before.text ++ (items.text ++ behind.text)
  | comma first rest => first.text ++ ([','] ++ rest.text)

/-- A **place** where a pattern can be met. -/
inductive Place
  /-- In the content of a literal, behind which the text goes on. -/
  | literal (content behind : Text)
  /-- Where a name is called with arguments. -/
  | call (name arguments : Text)

/-- The places of items behind which the text goes on with `rest`. -/
def Items.places : Items → Text → List Place
  | word _, _ => []
  | literal content, rest => [.literal content.text rest]
  | call name _ arguments, rest =>
      .call name.text arguments.text :: arguments.places (')' :: rest)
  | blankCall name _ blanks, _ => [.call name.text blanks.text]
  | spaced _ items behind, rest => items.places (behind.text ++ rest)
  | comma first others, rest =>
      first.places (',' :: (others.text ++ rest)) ++ others.places rest

/-! ### Words and spacing -/

/-- A quote does not stand in a word. -/
theorem Word.countP_isQuote (name : Word) : name.text.countP isQuote = 0 := by
  rw [List.countP_eq_zero]
  intro c hc hquote
  have hword := name.isWordChar_eq c hc
  simp [isWordChar, hquote] at hword

theorem Word.count_apostrophe (name : Word) : name.text.count '\x27' = 0 :=
  List.count_eq_zero.2 fun hmem => absurd (name.isWordChar_eq _ hmem) (by decide)

theorem Word.lineBreak_not_mem (name : Word) : '\n' ∉ name.text :=
  fun hmem => absurd (name.isWordChar_eq _ hmem) (by decide)

/-- Behind blanks, in spacing there is nothing. -/
theorem Spacing.head?_skipBlanks (spacing : Spacing) :
    (skipBlanks spacing.text).head? ≠ some ')' := by
  have hnil := skipBlanks_append spacing.isBlank_eq []
  rw [List.append_nil] at hnil
  rw [hnil]
  exact nofun

theorem Spacing.count_apostrophe (spacing : Spacing) : spacing.text.count '\x27' = 0 :=
  List.count_eq_zero.2 (apostrophe_not_mem_of_blanks spacing.isBlank_eq)

/-- In a literal there are twice as many apostrophes. -/
theorem count_doubled (t : Text) : (doubled t).count '\x27' = 2 * t.count '\x27' := by
  induction t with
  | nil => rfl
  | cons c t ih =>
      rw [doubled_cons, List.count_append, ih]
      by_cases hc : c = '\x27'
      · rw [if_pos hc, hc]
        simp only [List.count_cons_self, List.count_nil]
        omega
      · rw [if_neg hc, List.count_cons_of_ne hc, List.count_cons_of_ne hc, List.count_nil,
          Nat.zero_add]

/-- A literal has the line breaks of its content. -/
theorem lineBreak_mem_doubled_iff {t : Text} : '\n' ∈ doubled t ↔ '\n' ∈ t := by
  induction t with
  | nil => rfl
  | cons c t ih =>
      rw [doubled_cons, List.mem_append, ih, List.mem_cons]
      refine or_congr_left ?_
      split
      · rename_i hc
        simp [hc]
      · rw [List.mem_singleton]

/-! ### How items are written -/

namespace Items

/-- Behind blanks, items begin with a character that closes nothing. -/
theorem exists_text_eq_append_cons (items : Items) :
    ∃ blanks c rest, items.text = blanks ++ c :: rest ∧ (∀ b ∈ blanks, isBlank b = true) ∧
      isBlank c = false ∧ c ≠ ')' := by
  have hcalled (name : Word) (behind : Text) :
      ∃ blanks c rest, name.text ++ behind = blanks ++ c :: rest ∧
        (∀ b ∈ blanks, isBlank b = true) ∧ isBlank c = false ∧ c ≠ ')' := by
    obtain ⟨name, hne, hname⟩ := name
    obtain ⟨c, name, rfl⟩ := List.exists_cons_of_ne_nil hne
    have hc := hname c List.mem_cons_self
    simp only [isWordChar, Bool.and_eq_true, Bool.not_eq_true', bne_iff_ne] at hc
    exact ⟨[], c, name ++ behind, rfl, List.forall_mem_nil _, hc.1.1.1.1, hc.1.2⟩
  induction items with
  | word name =>
      have hname := hcalled name []
      rwa [List.append_nil] at hname
  | literal content =>
      exact ⟨[], '\x27', _, rfl, List.forall_mem_nil _, by decide, by decide⟩
  | call name spacing arguments =>
      rw [text, List.append_assoc]
      exact hcalled name _
  | blankCall name spacing blanks =>
      rw [text, List.append_assoc]
      exact hcalled name _
  | spaced before items behind ih =>
      obtain ⟨blanks, c, rest, htext, hblanks, hc⟩ := ih
      refine ⟨before.text ++ blanks, c, rest ++ behind.text, by simp [text, htext], ?_, hc⟩
      exact List.forall_mem_append.2 ⟨before.isBlank_eq, hblanks⟩
  | comma first rest ih =>
      obtain ⟨blanks, c, tail, htext, hc⟩ := ih
      exact ⟨blanks, c, tail ++ ([','] ++ rest.text), by simp [text, htext], hc⟩

/-- Behind blanks, items close nothing. -/
theorem head?_skipBlanks_text (items : Items) : (skipBlanks items.text).head? ≠ some ')' := by
  obtain ⟨blanks, c, rest, htext, hblanks, hc, hclose⟩ := items.exists_text_eq_append_cons
  rw [htext, skipBlanks_append hblanks, skipBlanks, List.dropWhile_cons_of_neg (by simp [hc]),
    List.head?_cons]
  exact fun heq => hclose (Option.some.inj heq)

/-- Items do not end in an opening parenthesis. -/
theorem exists_text_eq_concat (items : Items) :
    ∃ front c, items.text = front ++ [c] ∧ c ≠ '(' := by
  induction items with
  | word name =>
      obtain ⟨front, c, hname⟩ := (List.eq_nil_or_concat' name.text).resolve_left name.ne_nil
      refine ⟨front, c, hname, ?_⟩
      rintro rfl
      exact absurd (name.isWordChar_eq '(' (by simp [hname])) (by decide)
  | literal content => exact ⟨['\x27'] ++ doubled content.text, '\x27', rfl, by decide⟩
  | call name spacing arguments =>
      exact ⟨name.text ++ (spacing.text ++ ['(']) ++ arguments.text, ')',
        (List.append_assoc _ _ _).symm, by decide⟩
  | blankCall name spacing blanks =>
      exact ⟨name.text ++ (spacing.text ++ ['(']) ++ blanks.text, ')',
        (List.append_assoc _ _ _).symm, by decide⟩
  | spaced before items behind ih =>
      rcases List.eq_nil_or_concat' behind.text with hnil | ⟨blanks, b, hblanks⟩
      · obtain ⟨front, c, htext, hc⟩ := ih
        exact ⟨before.text ++ front, c, by simp [text, htext, hnil], hc⟩
      · refine ⟨before.text ++ (items.text ++ blanks), b, by simp [text, hblanks], ?_⟩
        rintro rfl
        exact absurd (behind.isBlank_eq '(' (by simp [hblanks])) (by decide)
  | comma first rest _ ih =>
      obtain ⟨front, c, htext, hc⟩ := ih
      exact ⟨first.text ++ ([','] ++ front), c, by simp [text, htext], hc⟩

/-- Items stand on one line. -/
theorem lineBreak_not_mem_text (items : Items) : '\n' ∉ items.text := by
  induction items with
  | word name => exact name.lineBreak_not_mem
  | literal content => simp [text, lineBreak_mem_doubled_iff, content.notMem]
  | call name spacing arguments ih =>
      simp [text, name.lineBreak_not_mem, spacing.notMem, ih]
  | blankCall name spacing blanks =>
      simp [text, name.lineBreak_not_mem, spacing.notMem, blanks.notMem]
  | spaced before items behind ih => simp [text, before.notMem, behind.notMem, ih]
  | comma first rest ih ih' => simp [text, ih, ih']

/-- Items hold apostrophes in pairs. -/
theorem even_count_text (items : Items) : Even (items.text.count '\x27') := by
  induction items with
  | word name => simp [text, name.count_apostrophe]
  | literal content =>
      rw [text, List.count_append, List.count_append, count_doubled, List.count_singleton_self]
      exact ⟨content.text.count '\x27' + 1, by omega⟩
  | call name spacing arguments ih =>
      simpa [text, name.count_apostrophe, spacing.count_apostrophe] using ih
  | blankCall name spacing blanks =>
      simp [text, name.count_apostrophe, spacing.count_apostrophe, blanks.count_apostrophe]
  | spaced before items behind ih =>
      simpa [text, before.count_apostrophe, behind.count_apostrophe] using ih
  | comma first rest ih ih' => simpa [text] using ih.add ih'

/-- Items without places hold no quotes. -/
theorem countP_isQuote_of_places_eq_nil (items : Items) {rest : Text}
    (h : items.places rest = []) : items.text.countP isQuote = 0 := by
  induction items generalizing rest with
  | word name => exact name.countP_isQuote
  | literal content => cases h
  | call name spacing arguments => cases h
  | blankCall name spacing blanks => cases h
  | spaced before items behind ih =>
      rw [text, List.countP_append, List.countP_append, ih h,
        countP_isQuote_of_blanks before.isBlank_eq, countP_isQuote_of_blanks behind.isBlank_eq]
  | comma first others ih ih' =>
      obtain ⟨hfirst, hothers⟩ := List.append_eq_nil_iff.1 h
      rw [text, List.countP_append, List.countP_append, ih hfirst, ih' hothers]
      rfl

end Items

end BulkInsert.Statement
