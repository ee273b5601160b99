import BulkInsert.Proofs.Statement.Captures
import BulkInsert.Proofs.Statement.Stripping

/-!
# Where a pattern is met

Three patterns are looked for all over a statement: `VALUES` with an opening parenthesis behind
it, a blank pair of parentheses, and the words of a clause with so many quotes behind them that
they count. A `Pattern` says what is read and what is asked of the text behind that.
`Pattern.MetIn` says that a pattern is met in a part of a text, and a part may be taken apart:
`metIn_append`.

A statement is made of words, blanks, literals and single characters. `Pattern.Lexical` is what
the three patterns have in common, and it is enough to say where they are met in these. They read
no apostrophe, so what they read in a literal they read in its content: `metIn_doubled_iff`.
Behind the word they begin with, and behind blanks, they read neither a comma nor a closing
parenthesis, so they do not begin with a word in front of one: `not_metIn_word`.
-/

namespace BulkInsert.Statement

open Text

/-! ### Words -/

/-- Whether a code point can stand in a word: it is no blank, no quote, no parenthesis and no
comma. -/
def isWordChar (c : Char) : Bool :=
  !isBlank c && !isQuote c && c != '(' && c != ')' && c != ','

/-- The first character behind the word that the text begins with and behind blanks. -/
def next? (t : Text) : Option Char := (skipBlanks (t.dropWhile isWordChar)).head?

/-- A blank does not stand in a word. -/
theorem isWordChar_eq_false_of_isBlank {b : Char} (h : isBlank b = true) :
    isWordChar b = false := by
  simp [isWordChar, h]

section

variable {word gap : Text} {d : Char}

/-- What follows a word and blanks is behind the word. -/
theorem dropWhile_isWordChar (hword : ∀ c ∈ word, isWordChar c = true)
    (hgap : ∀ b ∈ gap, isBlank b = true) (hd : gap ≠ [] ∨ isWordChar d = false) (rest : Text) :
    (word ++ (gap ++ d :: rest)).dropWhile isWordChar = gap ++ d :: rest := by
  rw [List.dropWhile_append_of_pos hword]
  rcases gap with - | ⟨b, gap⟩
  · have hd := hd.resolve_left (absurd rfl)
    rw [List.nil_append, List.dropWhile_cons_of_neg (by rw [hd]; exact Bool.false_ne_true)]
  · have hb := isWordChar_eq_false_of_isBlank (hgap b List.mem_cons_self)
    rw [List.cons_append, List.dropWhile_cons_of_neg (by rw [hb]; exact Bool.false_ne_true)]

/-- What follows a word and blanks is next. -/
theorem next?_word (hword : ∀ c ∈ word, isWordChar c = true)
    (hgap : ∀ b ∈ gap, isBlank b = true) (hd : gap ≠ [] ∨ isWordChar d = false)
    (hblank : isBlank d = false) (rest : Text) :
    next? (word ++ (gap ++ d :: rest)) = some d := by
  rw [next?, dropWhile_isWordChar hword hgap hd, skipBlanks_append hgap]
  simp [skipBlanks, hblank]

/-- What is next stays next with more behind. -/
theorem next?_append {t : Text} {c : Char} (h : next? t = some c) (rest : Text) :
    next? (t ++ rest) = some c := by
  obtain ⟨tail, htail⟩ := List.head?_eq_some_iff.1 h
  have hword : (t.dropWhile isWordChar).isEmpty = false := by
    cases hnil : t.dropWhile isWordChar with
    | nil => rw [hnil] at htail; cases htail
    | cons d behind => rfl
  have hblanks : (t.dropWhile isWordChar).dropWhile isBlank = c :: tail := htail
  rw [next?, List.dropWhile_append, hword, if_neg Bool.false_ne_true, skipBlanks,
    List.dropWhile_append, hblanks]
  rfl

end

/-! ### Literals -/

/-- The text with every apostrophe doubled, as it is written in a literal. -/
def doubled (t : Text) : Text := t.flatMap fun c => if c = '\x27' then ['\x27', '\x27'] else [c]

section

variable {content front read tail : Text}

theorem doubled_cons (c : Char) (t : Text) :
    doubled (c :: t) = (if c = '\x27' then ['\x27', '\x27'] else [c]) ++ doubled t :=
  List.flatMap_cons

theorem doubled_append (s t : Text) : doubled (s ++ t) = doubled s ++ doubled t :=
  List.flatMap_append

/-- A text without apostrophes is written as it is. -/
theorem doubled_of_notMem (h : '\x27' ∉ read) : doubled read = read := by
  induction read with
  | nil => rfl
  | cons c read ih =>
      obtain ⟨hc, hread⟩ := List.ne_and_not_mem_of_not_mem_cons h
      rw [doubled_cons, if_neg hc.symm, ih hread, List.singleton_append]

/-- A text without apostrophes that a literal begins with is what its content begins with. -/
theorem exists_of_doubled_eq_append (hread : '\x27' ∉ read) (h : doubled content = read ++ tail) :
    ∃ rest, content = read ++ rest ∧ doubled rest = tail := by
  induction read generalizing content with
  | nil => exact ⟨content, rfl, h⟩
  | cons c read ih =>
      obtain ⟨hc, hread'⟩ := List.ne_and_not_mem_of_not_mem_cons hread
      rcases content with - | ⟨d, content⟩
      · cases h
      · rw [doubled_cons] at h
        split at h
        · exact absurd (List.cons.inj h).1 hc
        · obtain ⟨rfl, htail⟩ := List.cons.inj h
          obtain ⟨rest, rfl, hrest⟩ := ih hread' htail
          exact ⟨rest, rfl, hrest⟩

/-- A text without apostrophes that stands in a literal stands in its content. -/
theorem exists_of_doubled_eq (hread : '\x27' ∉ read) (hne : read ≠ [])
    (h : doubled content = front ++ (read ++ tail)) :
    ∃ before rest, content = before ++ (read ++ rest) ∧ doubled rest = tail := by
  induction content generalizing front with
  | nil =>
      obtain ⟨-, h⟩ := List.append_eq_nil_iff.1 h.symm
      exact absurd (List.append_eq_nil_iff.1 h).1 hne
  | cons c content ih =>
      rcases front with - | ⟨d, front⟩
      · obtain ⟨rest, hrest⟩ := exists_of_doubled_eq_append hread h
        exact ⟨[], rest, hrest⟩
      · rw [doubled_cons] at h
        split at h
        · -- The second of two apostrophes does not begin what stands there.
          rcases front with - | ⟨e, front⟩
          · obtain ⟨d, read, rfl⟩ := List.exists_cons_of_ne_nil hne
            obtain ⟨-, h⟩ := List.cons.inj h
            obtain ⟨rfl, -⟩ := List.cons.inj h
            exact absurd List.mem_cons_self hread
          · obtain ⟨before, rest, rfl, hrest⟩ := ih (List.cons.inj (List.cons.inj h).2).2
            exact ⟨c :: before, rest, rfl, hrest⟩
        · obtain ⟨before, rest, rfl, hrest⟩ := ih (List.cons.inj h).2
          exact ⟨c :: before, rest, rfl, hrest⟩

end

/-- What stands in front of a character that it does not hold. -/
theorem exists_of_append_eq_append_cons {read tail front rest : Text} {d : Char} (hd : d ∉ read)
    (h : front ++ d :: rest = read ++ tail) :
    ∃ between, front = read ++ between ∧ tail = between ++ d :: rest := by
  obtain ⟨between, rfl, hbehind⟩ | ⟨between, rfl, rfl⟩ := List.append_eq_append_iff.1 h
  · rcases between with - | ⟨c, between⟩
    · exact ⟨[], by simp, hbehind.symm⟩
    · obtain ⟨rfl, -⟩ := List.cons.inj hbehind
      exact absurd (by simp) hd
  · exact ⟨between, rfl, rfl⟩

/-! ### Patterns -/

/-- A **pattern**: what it reads, and what it asks of the text behind that. -/
structure Pattern where
  /-- What is read. -/
  Reads : Text → Prop
  /-- What is asked of the text behind. -/
  Asks : Text → Prop

namespace Pattern

variable {p : Pattern} {s t part rest : Text}

/-- The text begins with what the pattern reads, and goes on as it asks. -/
def Begins (p : Pattern) (t : Text) : Prop :=
  ∃ read tail, t = read ++ tail ∧ p.Reads read ∧ p.Asks tail

/-- The pattern is **met** in `part` when `rest` follows: what it reads begins there. -/
def MetIn (p : Pattern) (part rest : Text) : Prop :=
  ∃ front behind, part = front ++ behind ∧ behind ≠ [] ∧ p.Begins (behind ++ rest)

/-- A pattern is met in two parts when it is met in one of them. -/
theorem metIn_append : p.MetIn (s ++ t) rest ↔ p.MetIn s (t ++ rest) ∨ p.MetIn t rest := by
  constructor
  · rintro ⟨front, behind, heq, hne, hbegins⟩
    obtain ⟨between, rfl, rfl⟩ | ⟨between, rfl, rfl⟩ := List.append_eq_append_iff.1 heq
    · exact .inr ⟨between, behind, rfl, hne, hbegins⟩
    · rcases between with - | ⟨c, between⟩
      · exact .inr ⟨[], t, rfl, hne, hbegins⟩
      · rw [List.append_assoc] at hbegins
        exact .inl ⟨front, c :: between, rfl, List.cons_ne_nil _ _, hbegins⟩
  · rintro (⟨front, behind, rfl, hne, hbegins⟩ | ⟨front, behind, rfl, hne, hbegins⟩)
    · refine ⟨front, behind ++ t, by rw [List.append_assoc], by simp [hne], ?_⟩
      rwa [List.append_assoc]
    · exact ⟨s ++ front, behind, by rw [List.append_assoc], hne, hbegins⟩

/-- At a single character a pattern is met when the text begins with it there. -/
theorem metIn_singleton {c : Char} : p.MetIn [c] rest ↔ p.Begins (c :: rest) := by
  constructor
  · rintro ⟨- | ⟨d, front⟩, behind, heq, hne, hbegins⟩
    · obtain rfl : [c] = behind := heq
      exact hbegins
    · obtain ⟨-, rfl⟩ := List.append_eq_nil_iff.1 (List.cons.inj heq).2.symm
      exact absurd rfl hne
  · exact fun hbegins => ⟨[], [c], rfl, List.cons_ne_nil _ _, hbegins⟩

/-! ### What the patterns have in common -/

/-- What is known of a pattern without looking at what it reads: how that begins, how it goes on
behind a word and blanks, and that there is no apostrophe in it. -/
structure Lexical (p : Pattern) : Prop where
  begins : ∀ {read}, p.Reads read → ∃ c rest, read = c :: rest ∧ (isWordChar c = true ∨ c = '(')
  next : ∀ {read}, p.Reads read → ∃ c, next? read = some c ∧ c ≠ ',' ∧ c ≠ ')'
  notMem : ∀ {read}, p.Reads read → '\x27' ∉ read

namespace Lexical

variable (h : p.Lexical)

include h

/-- A pattern that is met in a part begins with a character of it. -/
theorem exists_mem (hmet : p.MetIn part rest) : ∃ c ∈ part, ∃ read, p.Reads (c :: read) := by
  obtain ⟨front, behind, rfl, hne, read, tail, heq, hread, -⟩ := hmet
  obtain ⟨c, behind, rfl⟩ := List.exists_cons_of_ne_nil hne
  obtain ⟨d, read, rfl, -⟩ := h.begins hread
  obtain ⟨rfl, -⟩ := List.cons.inj heq
  exact ⟨c, by simp, read, hread⟩

/-- A pattern that always begins with the same character is not met where it does not stand. -/
theorem not_metIn_of_notMem {c : Char} (hc : ∀ read, p.Reads read → read.head? = some c)
    (hpart : c ∉ part) : ¬ p.MetIn part rest := by
  intro hmet
  obtain ⟨d, hd, read, hread⟩ := h.exists_mem hmet
  obtain rfl : d = c := Option.some.inj (hc _ hread)
  exact hpart hd

/-- No pattern is met where only characters stand that begin none. -/
theorem not_metIn_of_separators (hpart : ∀ c ∈ part, isWordChar c = false ∧ c ≠ '(') :
    ¬ p.MetIn part rest := by
  intro hmet
  obtain ⟨c, hc, read, hread⟩ := h.exists_mem hmet
  obtain ⟨d, tail, heq, hd⟩ := h.begins hread
  obtain ⟨rfl, rfl⟩ := List.cons.inj heq
  obtain ⟨hword, hparen⟩ := hpart c hc
  rw [hword] at hd
  exact hd.elim Bool.false_ne_true hparen

/-- No pattern is met at a character that begins none. -/
theorem not_metIn_singleton {c : Char} (hword : isWordChar c = false) (hparen : c ≠ '(') :
    ¬ p.MetIn [c] rest := by
  refine h.not_metIn_of_separators fun d hd => ?_
  obtain rfl := List.mem_singleton.1 hd
  exact ⟨hword, hparen⟩

/-- No pattern is met in blanks. -/
theorem not_metIn_of_blanks (hpart : ∀ b ∈ part, isBlank b = true) : ¬ p.MetIn part rest := by
  refine h.not_metIn_of_separators fun b hb => ⟨isWordChar_eq_false_of_isBlank (hpart b hb), ?_⟩
  rintro rfl
  exact absurd (hpart _ hb) (by decide)

/-- A pattern is met in a whole text when what it reads stands there, and what it asks of the text
behind. -/
theorem metIn_whole_iff : p.MetIn t [] ↔ ∃ front read tail, t = front ++ (read ++ tail) ∧
    p.Reads read ∧ p.Asks tail := by
  constructor
  · rintro ⟨front, behind, rfl, -, read, tail, heq, hpattern⟩
    rw [List.append_nil] at heq
    exact ⟨front, read, tail, by rw [heq], hpattern⟩
  · rintro ⟨front, read, tail, rfl, hread, hasks⟩
    obtain ⟨c, word, rfl, -⟩ := h.begins hread
    exact ⟨front, _, rfl, List.cons_ne_nil _ _, _, tail, List.append_nil _, hread, hasks⟩

/-- No pattern is met in a word that is followed by what none goes on with. -/
theorem not_metIn_word {word gap : Text} {d : Char} (hword : ∀ c ∈ word, isWordChar c = true)
    (hgap : ∀ b ∈ gap, isBlank b = true) (hd : gap ≠ [] ∨ isWordChar d = false)
    (hblank : isBlank d = false) (hnext : ∀ read, p.Reads read → next? read ≠ some d) :
    ¬ p.MetIn word (gap ++ d :: rest) := by
  rintro ⟨front, behind, rfl, -, read, tail, heq, hread, -⟩
  obtain ⟨c, hc, -⟩ := h.next hread
  have hbehind := next?_word (fun c hmem => hword c (List.mem_append_right front hmem)) hgap hd
    hblank rest
  rw [heq, next?_append hc] at hbehind
  exact hnext read hread (hc.trans hbehind)

/-- A pattern is met in a literal where its content has what is read. -/
theorem metIn_doubled_iff {content behind : Text} :
    p.MetIn (doubled content) ('\x27' :: behind) ↔ ∃ front read tail,
      content = front ++ (read ++ tail) ∧ p.Reads read ∧
        p.Asks (doubled tail ++ '\x27' :: behind) := by
  constructor
  · rintro ⟨front, part, heq, -, read, tail, hbegins, hread, hasks⟩
    obtain ⟨c, word, hword, -⟩ := h.begins hread
    obtain ⟨between, rfl, rfl⟩ := exists_of_append_eq_append_cons (h.notMem hread) hbegins
    obtain ⟨before, rest, rfl, rfl⟩ :=
      exists_of_doubled_eq (h.notMem hread) (hword ▸ List.cons_ne_nil c word) heq
    exact ⟨before, read, rest, rfl, hread, hasks⟩
  · rintro ⟨front, read, tail, rfl, hread, hasks⟩
    obtain ⟨c, word, hword, -⟩ := h.begins hread
    refine ⟨doubled front, read ++ doubled tail, ?_, ?_, read, _, List.append_assoc _ _ _, hread,
      hasks⟩
    · rw [doubled_append, doubled_append, doubled_of_notMem (h.notMem hread)]
    · rw [hword, List.cons_append]
      exact List.cons_ne_nil _ _

end Lexical

end Pattern

/-! ### The three patterns -/

/-- `VALUES` and, behind blanks, an opening parenthesis. -/
def valuesPattern : Pattern where
  Reads read := ∃ blanks, read = "VALUES".toList ++ (blanks ++ ['(']) ∧
    ∀ b ∈ blanks, isBlank b = true
  Asks _ := True

/-- A blank pair of parentheses. -/
def blankPairPattern : Pattern where
  Reads read := ∃ blanks, read = '(' :: (blanks ++ [')']) ∧ blanks ≠ [] ∧
    ∀ b ∈ blanks, isBlank b = true
  Asks _ := True

/-- The words of a clause, when the quotes behind them are so many that they count. -/
def clausePattern (Counts : Nat → Prop) : Pattern where
  Reads := ClauseWords
  Asks tail := Counts (tail.countP isQuote)

/-- No blank is an apostrophe. -/
theorem apostrophe_not_mem_of_blanks {blanks : Text} (h : ∀ b ∈ blanks, isBlank b = true) :
    '\x27' ∉ blanks :=
  fun hmem => absurd (h _ hmem) (by decide)

theorem valuesPattern_lexical : valuesPattern.Lexical where
  begins := by
    rintro _ ⟨blanks, rfl, -⟩
    exact ⟨'V', _, rfl, .inl (by decide)⟩
  next := by
    rintro _ ⟨blanks, rfl, hblanks⟩
    have hword : ∀ c ∈ "VALUES".toList, isWordChar c = true := List.all_eq_true.1 (by decide)
    exact ⟨'(', next?_word hword hblanks (.inr (by decide)) (by decide) [], by decide⟩
  notMem := by
    rintro _ ⟨blanks, rfl, hblanks⟩
    simpa using apostrophe_not_mem_of_blanks hblanks

/-- The pattern for `VALUES` begins with a `V`. -/
theorem head?_of_valuesPattern {read : Text} (h : valuesPattern.Reads read) :
    read.head? = some 'V' := by
  obtain ⟨blanks, rfl, -⟩ := h
  rfl

theorem blankPairPattern_lexical : blankPairPattern.Lexical where
  begins := by
    rintro _ ⟨blanks, rfl, -⟩
    exact ⟨'(', _, rfl, .inr rfl⟩
  next := by
    rintro _ ⟨blanks, rfl, -⟩
    exact ⟨'(', @next?_word [] [] '(' (List.forall_mem_nil _) (List.forall_mem_nil _)
      (.inr (by decide)) (by decide) _, by decide⟩
  notMem := by
    rintro _ ⟨blanks, rfl, -, hblanks⟩
    simpa using apostrophe_not_mem_of_blanks hblanks

/-- The pattern for blank pairs begins with an opening parenthesis. -/
theorem head?_of_blankPairPattern {read : Text} (h : blankPairPattern.Reads read) :
    read.head? = some '(' := by
  obtain ⟨blanks, rfl, -⟩ := h
  rfl

/-- A text holds a blank pair when the pattern for it is met there. -/
theorem blankPair_iff_metIn {t : Text} : BlankPair t ↔ blankPairPattern.MetIn t [] := by
  rw [blankPairPattern_lexical.metIn_whole_iff]
  constructor
  · rintro ⟨front, blanks, rest, rfl, hblanks⟩
    exact ⟨front, _, rest, by simp, ⟨blanks, rfl, hblanks⟩, trivial⟩
  · rintro ⟨front, _, rest, rfl, ⟨blanks, rfl, hblanks⟩, -⟩
    exact ⟨front, blanks, rest, by simp, hblanks⟩

/-- The words of a clause begin with an `O`. -/
theorem ClauseWords.head?_eq {words : Text} (h : ClauseWords words) : words.head? = some 'O' := by
  obtain ⟨rest, rfl⟩ := h.exists_cons
  rfl

/-- Behind the first word of a clause and blanks comes a `D`. -/
theorem ClauseWords.next?_eq {words : Text} (h : ClauseWords words) : next? words = some 'D' := by
  obtain ⟨gap, gap', rfl, ⟨hne, hblanks⟩, -⟩ := h
  exact next?_word (List.all_eq_true.1 (by decide)) hblanks (.inl hne) (by decide) _

theorem clausePattern_lexical (Counts : Nat → Prop) : (clausePattern Counts).Lexical where
  begins := by
    intro read hread
    obtain ⟨rest, rfl⟩ := ClauseWords.exists_cons hread
    exact ⟨'O', rest, rfl, .inl (by decide)⟩
  next hread := ⟨'D', ClauseWords.next?_eq hread, by decide⟩
  notMem := by
    intro read hread hmem
    have hquotes := ClauseWords.countP_isQuote hread
    rw [List.countP_eq_zero] at hquotes
    exact hquotes _ hmem (by decide)

/-- The words of a clause are not met where there is no `O`. -/
theorem clausePattern_not_metIn {Counts : Nat → Prop} {part rest : Text} (ho : 'O' ∉ part) :
    ¬ (clausePattern Counts).MetIn part rest :=
  (clausePattern_lexical Counts).not_metIn_of_notMem (fun _ => ClauseWords.head?_eq) ho

/-- A statement is left alone when no words of a clause count in it. -/
theorem stripClause_eq_self_iff {q : Text} :
    stripClause q = q ↔ ¬ (clausePattern Even).MetIn q [] := by
  rw [(clausePattern_lexical Even).metIn_whole_iff]
  constructor
  · rintro hkept ⟨front, words, tail, hcounts⟩
    obtain ⟨front, blanks, ⟨words, tail, heq, hwords, -⟩, -, rfl, -⟩ :=
      (stripClause_rule q).2 ⟨front, words, tail, hcounts⟩
    obtain ⟨rest, rfl⟩ := hwords.exists_cons
    have hlength := congrArg List.length heq
    rw [hkept] at hlength
    simp only [List.length_append, List.length_cons] at hlength
    omega
  · exact fun hnot => (stripClause_rule q).1
      fun front ⟨words, tail, hcounts⟩ => hnot ⟨front, words, tail, hcounts⟩

end BulkInsert.Statement
