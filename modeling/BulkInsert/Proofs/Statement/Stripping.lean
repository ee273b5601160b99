import BulkInsert.Proofs.Statement.TrailingClause

/-!
# Where a statement is stripped

The rule for stripping, said without the search. The words `ON DUPLICATE KEY` count where the
quotes behind them are even in number, `CountsAt`. A statement is cut in front of the leftmost
words that count, and the blanks before them go too: `stripClause_rule`.

`IsClause` is the other way to say it: the end that is taken off consists of blanks, of words and
of a text whose quotes are even in number. Such an end takes an even number of quotes with it, so
in front of it the same words count as before. This is why clauses come off one by one, whatever
stands before them, and why nothing is left to strip: `stripClause_peels`.
-/

namespace BulkInsert.Statement

open Text

/-! ### The words of a clause -/

/-- The words `ON DUPLICATE KEY` with any positive number of blanks between them. -/
def ClauseWords (words : Text) : Prop :=
  ∃ gap gap', words = "ON".toList ++ (gap ++ ("DUPLICATE".toList ++ (gap' ++ "KEY".toList))) ∧
    (gap ≠ [] ∧ ∀ b ∈ gap, isBlank b = true) ∧ gap' ≠ [] ∧ ∀ b ∈ gap', isBlank b = true

/-- What is read behind the words of a clause. -/
theorem afterClauseWords?_eq_some_iff {t tail : Text} :
    afterClauseWords? t = some tail ↔ ∃ words, t = words ++ tail ∧ ClauseWords words := by
  rw [afterClauseWords?_eq]
  constructor
  · intro h
    obtain ⟨u, hon, h⟩ := Option.bind_eq_some_iff.1 h
    obtain ⟨v, hfirst, hsecond⟩ := Option.bind_eq_some_iff.1 h
    obtain ⟨w, hgap, hduplicate⟩ := Option.bind_eq_some_iff.1 hfirst
    obtain ⟨x, hgap', hkey⟩ := Option.bind_eq_some_iff.1 hsecond
    obtain ⟨gap, rfl, hblanks⟩ := exists_of_afterBlanks?_eq_some hgap
    obtain ⟨gap', rfl, hblanks'⟩ := exists_of_afterBlanks?_eq_some hgap'
    rw [← append_of_isPrefixOf? hon, ← append_of_isPrefixOf? hduplicate,
      ← append_of_isPrefixOf? hkey]
    exact ⟨_, by simp, gap, gap', rfl, hblanks, hblanks'⟩
  · rintro ⟨words, rfl, gap, gap', rfl, ⟨hne, hblanks⟩, hne', hblanks'⟩
    have hsolid (rest : Text) : skipBlanks ("DUPLICATE".toList ++ rest) =
        "DUPLICATE".toList ++ rest := by simp [skipBlanks, isBlank]
    have hsolid' (rest : Text) : skipBlanks ("KEY".toList ++ rest) = "KEY".toList ++ rest := by
      simp [skipBlanks, isBlank]
    simp only [List.append_assoc, isPrefixOf?_append, afterBlanks?_append hne hblanks,
      afterBlanks?_append hne' hblanks', hsolid, hsolid', Option.bind_some]

/-- The words of a clause begin with an `O`. -/
theorem ClauseWords.exists_cons {words : Text} (h : ClauseWords words) :
    ∃ rest, words = 'O' :: rest := by
  obtain ⟨gap, gap', rfl, -⟩ := h
  exact ⟨_, rfl⟩

/-- The words of a clause begin with no blank. -/
theorem ClauseWords.skipBlanks_append {words : Text} (h : ClauseWords words) (tail : Text) :
    skipBlanks (words ++ tail) = words ++ tail := by
  obtain ⟨rest, rfl⟩ := h.exists_cons
  simp [skipBlanks, isBlank]

theorem not_clauseWords_nil : ¬ ClauseWords [] := by
  rintro ⟨gap, gap', heq, -⟩
  cases heq

/-- No blank is a quote. -/
theorem isQuote_eq_false_of_isBlank {b : Char} (h : isBlank b = true) : isQuote b = false := by
  rw [← Bool.not_eq_true]
  intro hquote
  simp only [isQuote, Bool.or_eq_true, beq_iff_eq] at hquote
  rcases hquote with (rfl | rfl) | rfl <;> exact absurd h (by decide)

/-- Blanks hold no quotes. -/
theorem countP_isQuote_of_blanks {blanks : Text} (h : ∀ b ∈ blanks, isBlank b = true) :
    blanks.countP isQuote = 0 := by
  rw [List.countP_eq_zero]
  intro b hb
  simp [isQuote_eq_false_of_isBlank (h b hb)]

/-- The words of a clause hold no quotes. -/
theorem ClauseWords.countP_isQuote {words : Text} (h : ClauseWords words) :
    words.countP isQuote = 0 := by
  obtain ⟨gap, gap', rfl, ⟨-, hblanks⟩, -, hblanks'⟩ := h
  simp only [List.countP_append, countP_isQuote_of_blanks hblanks,
    countP_isQuote_of_blanks hblanks']
  decide

/-! ### Clauses -/

/-- A **clause**: blanks, the words of a clause, and a text that holds an even number of quotes. -/
def IsClause (t : Text) : Prop :=
  ∃ blanks words tail, t = blanks ++ (words ++ tail) ∧ (∀ b ∈ blanks, isBlank b = true) ∧
    ClauseWords words ∧ Even (tail.countP isQuote)

/-- A text is evenly quoted when it holds an even number of quotes. -/
theorem evenlyQuoted_eq_true_iff {t : Text} :
    evenlyQuoted t = true ↔ Even (t.countP isQuote) := by
  rw [evenlyQuoted, beq_iff_eq, Nat.even_iff]

/-- What is read behind blanks and the words of a clause. -/
theorem afterClauseWords?_skipBlanks_eq_some_iff {t tail : Text} :
    afterClauseWords? (skipBlanks t) = some tail ↔ ∃ blanks words, t = blanks ++ (words ++ tail) ∧
      (∀ b ∈ blanks, isBlank b = true) ∧ ClauseWords words := by
  rw [afterClauseWords?_eq_some_iff]
  constructor
  · rintro ⟨words, hsplit, hwords⟩
    refine ⟨t.takeWhile isBlank, words, ?_, fun b hb => List.mem_takeWhile_imp hb, hwords⟩
    rw [← hsplit, skipBlanks, List.takeWhile_append_dropWhile]
  · rintro ⟨blanks, words, rfl, hblanks, hwords⟩
    rw [skipBlanks_append hblanks, hwords.skipBlanks_append]
    exact ⟨words, rfl, hwords⟩

/-- A clause is found where one begins. -/
theorem beginsClause_eq_true_iff {t : Text} : beginsClause t = true ↔ IsClause t := by
  rw [beginsClause]
  constructor
  · intro h
    split at h
    · rename_i tail hread
      obtain ⟨blanks, words, hsplit, hblanks, hwords⟩ :=
        afterClauseWords?_skipBlanks_eq_some_iff.1 hread
      exact ⟨blanks, words, tail, hsplit, hblanks, hwords, evenlyQuoted_eq_true_iff.1 h⟩
    · cases h
  · rintro ⟨blanks, words, tail, hsplit, hblanks, hwords, heven⟩
    rw [afterClauseWords?_skipBlanks_eq_some_iff.2 ⟨blanks, words, hsplit, hblanks, hwords⟩]
    exact evenlyQuoted_eq_true_iff.2 heven

namespace IsClause

variable {t clause : Text}

/-- A clause with one more blank in front is a clause. -/
theorem cons {b : Char} (hb : isBlank b = true) (h : IsClause clause) :
    IsClause (b :: clause) := by
  obtain ⟨blanks, words, tail, rfl, hblanks, hclause⟩ := h
  exact ⟨b :: blanks, words, tail, rfl, List.forall_mem_cons.2 ⟨hb, hblanks⟩, hclause⟩

/-- A clause goes on with an `O` behind its blanks. -/
theorem beginsAfresh (h : IsClause clause) : BeginsAfresh clause := by
  obtain ⟨blanks, words, tail, rfl, hblanks, hwords, -⟩ := h
  obtain ⟨rest, rfl⟩ := hwords.exists_cons
  exact ⟨blanks, rest ++ tail, hblanks, rfl⟩

/-- A clause is evenly quoted. -/
theorem evenlyQuoted (h : IsClause clause) : evenlyQuoted clause = true := by
  obtain ⟨blanks, words, tail, rfl, hblanks, hwords, heven⟩ := h
  rw [evenlyQuoted_eq_true_iff, List.countP_append, List.countP_append,
    countP_isQuote_of_blanks hblanks, hwords.countP_isQuote, Nat.zero_add, Nat.zero_add]
  exact heven

/-- A clause behind a text changes nothing in where a clause begins there. -/
theorem beginsClause_append (h : IsClause clause) (hne : t ≠ []) (ht : EndsSolid t) :
    beginsClause (t ++ clause) = beginsClause t := by
  rw [beginsClause_append_of_beginsAfresh h.beginsAfresh hne ht, beginsClause]
  cases afterClauseWords? (skipBlanks t) with
  | none => rfl
  | some tail => simp [evenlyQuoted_append, h.evenlyQuoted]

/-- A text that is a clause is stripped to nothing. -/
theorem stripClause_eq_nil (h : IsClause clause) : stripClause clause = [] := by
  cases clause with
  | nil => rfl
  | cons c rest => rw [stripClause, if_pos (beginsClause_eq_true_iff.2 h)]

/-- A clause comes off, and what stands in front is stripped as it is without it. -/
theorem stripClause_append (h : IsClause clause) (ht : EndsSolid t) :
    stripClause (t ++ clause) = stripClause t := by
  induction t with
  | nil => exact h.stripClause_eq_nil
  | cons c t ih =>
      have hbegins := h.beginsClause_append (List.cons_ne_nil c t) ht
      rw [List.cons_append] at hbegins ⊢
      rw [stripClause, stripClause, hbegins, ih (EndsSolid.of_append (s := [c]) ht)]

end IsClause

/-! ### What is taken off -/

/-- No clause begins at a later place of a part in which none begins. -/
theorem NoClauseIn.not_isClause {front part rest : Text} (h : NoClauseIn (front ++ part) rest)
    (hne : part ≠ []) : ¬ IsClause (part ++ rest) := by
  obtain ⟨c, part, rfl⟩ := List.exists_cons_of_ne_nil hne
  rw [← beginsClause_eq_true_iff, Bool.not_eq_true]
  exact (noClauseIn_append.1 h).2.1

/-- What is left does not end in a blank when a clause was taken off. -/
theorem NoClauseIn.endsSolid {kept clause : Text} (h : NoClauseIn kept clause)
    (hclause : IsClause clause) : EndsSolid kept := by
  intro b hb
  obtain ⟨front, rfl⟩ := List.getLast?_eq_some_iff.1 hb
  by_contra hblank
  exact h.not_isClause (List.cons_ne_nil b []) (hclause.cons (Bool.not_eq_false _ ▸ hblank))

/-- What is taken off a statement is nothing or a clause, and none begins in front of it. -/
theorem exists_stripped (q : Text) :
    ∃ stripped, q = stripClause q ++ stripped ∧ NoClauseIn (stripClause q) stripped ∧
      (stripped = [] ∨ IsClause stripped) := by
  have hsplit := stripClause_append_drop q
  generalize q.drop (stripClause q).length = stripped at hsplit
  have hkept : stripClause (stripClause q ++ stripped) = stripClause q ++ [] := by
    rw [hsplit, List.append_nil]
  obtain ⟨hnone, hnil⟩ := stripClause_append_eq_iff.1 hkept
  refine ⟨stripped, hsplit.symm, hnone, ?_⟩
  cases stripped with
  | nil => exact .inl rfl
  | cons c rest =>
      refine .inr (beginsClause_eq_true_iff.1 ?_)
      by_contra hbegins
      rw [stripClause, if_neg hbegins] at hnil
      cases hnil

/-! ### The rule -/

/-- Behind `front` the text goes on with the words of a clause, and they **count**: the text
behind them holds an even number of quotes. -/
def CountsAt (t front : Text) : Prop :=
  ∃ words tail, t = front ++ (words ++ tail) ∧ ClauseWords words ∧ Even (tail.countP isQuote)

/-- Words that count begin a clause. -/
theorem CountsAt.exists_isClause {t front : Text} (h : CountsAt t front) :
    ∃ rest, t = front ++ 'O' :: rest ∧ IsClause ('O' :: rest) := by
  obtain ⟨words, tail, rfl, hwords, heven⟩ := h
  obtain ⟨rest, rfl⟩ := hwords.exists_cons
  exact ⟨rest ++ tail, rfl, [], 'O' :: rest, tail, rfl, by simp, hwords, heven⟩

/-- No words count in front of a place up to which no clause begins. -/
theorem NoClauseIn.length_le {kept stripped front : Text} (h : NoClauseIn kept stripped)
    (hfront : CountsAt (kept ++ stripped) front) : kept.length ≤ front.length := by
  obtain ⟨rest, heq, hclause⟩ := hfront.exists_isClause
  rcases List.append_eq_append_iff.1 heq with ⟨between, rfl, -⟩ | ⟨between, rfl, hbehind⟩
  · simp
  · rcases between with - | ⟨c, between⟩
    · simp
    · rw [hbehind] at hclause
      exact absurd hclause (h.not_isClause (List.cons_ne_nil c between))

/-- An `O` behind blanks stands behind all of them. -/
theorem length_le_of_blanks {blanks front t rest : Text}
    (hblanks : ∀ b ∈ blanks, isBlank b = true) (h : blanks ++ t = front ++ 'O' :: rest) :
    blanks.length ≤ front.length := by
  induction blanks generalizing front with
  | nil => exact Nat.zero_le _
  | cons b blanks ih =>
      obtain ⟨hb, hblanks⟩ := List.forall_mem_cons.1 hblanks
      cases front with
      | nil =>
          obtain ⟨rfl, -⟩ := List.cons.inj h
          exact absurd hb (by decide)
      | cons c front => exact Nat.succ_le_succ (ih hblanks (List.cons.inj h).2)

/-- **Where a statement is stripped.** A statement in which no words of a clause count is left
alone. Otherwise there are leftmost words that count, and what is left is the text in front of
them without the blanks at its end. -/
theorem stripClause_rule (q : Text) :
    ((∀ front, ¬ CountsAt q front) → stripClause q = q) ∧
      ((∃ front, CountsAt q front) → ∃ front blanks, CountsAt q front ∧
        (∀ other, CountsAt q other → front.length ≤ other.length) ∧
        front = stripClause q ++ blanks ∧ (∀ b ∈ blanks, isBlank b = true) ∧
        EndsSolid (stripClause q)) := by
  obtain ⟨stripped, hq, hnone, hstripped⟩ := exists_stripped q
  generalize stripClause q = kept at hq hnone
  subst hq
  rcases hstripped with rfl | hclause
  · refine ⟨fun _ => (List.append_nil kept).symm, ?_⟩
    rintro ⟨front, hfront⟩
    have hle := hnone.length_le hfront
    obtain ⟨rest, heq, -⟩ := hfront.exists_isClause
    have hlength := congrArg List.length heq
    rw [List.append_nil, List.length_append, List.length_cons] at hlength
    omega
  · have hsolid := hnone.endsSolid hclause
    obtain ⟨blanks, words, tail, rfl, hblanks, hwords, heven⟩ := hclause
    have hcounts : CountsAt (kept ++ (blanks ++ (words ++ tail))) (kept ++ blanks) :=
      ⟨words, tail, by rw [List.append_assoc], hwords, heven⟩
    refine ⟨fun h => absurd hcounts (h _),
      fun _ => ⟨kept ++ blanks, blanks, hcounts, fun other hother => ?_, rfl, hblanks, hsolid⟩⟩
    -- Words that count do not begin in what is left, nor with one of the blanks behind it.
    have hle := hnone.length_le hother
    obtain ⟨rest, heq, -⟩ := hother.exists_isClause
    obtain ⟨between, rfl⟩ : kept <+: other := List.prefix_of_prefix_length_le
      (List.prefix_append _ _) ⟨'O' :: rest, heq.symm⟩ hle
    rw [List.append_assoc] at heq
    have hbetween := length_le_of_blanks hblanks (List.append_cancel_left heq)
    rw [List.length_append, List.length_append]
    omega

/-- The first words stand in a literal, with an odd number of quotes behind them, and do not
count. The next ones do, and the blanks in front of them go too. -/
example : stripClause "INSERT t VALUES ('ON DUPLICATE KEY')\n ON DUPLICATE KEY a = 'b'".toList =
    "INSERT t VALUES ('ON DUPLICATE KEY')".toList := by decide +kernel

/-! ### Clauses one by one -/

/-- **Clauses peel off.** What is left of a statement is not stripped again. A clause behind a
text that does not end in a blank comes off whatever the text is: the two together are stripped
and recognised as the text is by itself. -/
theorem stripClause_peels (query : Text) :
    stripClause (stripClause query) = stripClause query ∧
      ∀ pre clause, EndsSolid pre → IsClause clause →
        stripClause (pre ++ clause) = stripClause pre ∧
          check (pre ++ clause) = check pre ∧
          extractTuple (pre ++ clause) = extractTuple pre := by
  refine ⟨?_, fun pre clause hpre hclause => ?_⟩
  · obtain ⟨stripped, hquery, hnone, rfl | hclause⟩ := exists_stripped query
    · rw [List.append_nil] at hquery
      rw [← hquery, ← hquery]
    · calc stripClause (stripClause query)
          = stripClause (stripClause query ++ stripped) :=
            (hclause.stripClause_append (hnone.endsSolid hclause)).symm
        _ = stripClause query := by rw [← hquery]
  · have hstrip := hclause.stripClause_append hpre
    exact ⟨hstrip, recognition_congr hstrip⟩

/-- A second clause, with a quoted name in it, comes off behind a first one with a quoted literal,
and then the first one does. -/
theorem stripClause_peels_second_clause :
    let pre := "INSERT INTO t VALUES (?) ON DUPLICATE KEY UPDATE a = 'x'".toList
    let clause := "\n\tON DUPLICATE  KEY UPDATE b = \"y\"".toList
    EndsSolid pre ∧ IsClause clause ∧ stripClause (pre ++ clause) = stripClause pre ∧
      check (pre ++ clause) = check pre ∧ extractTuple (pre ++ clause) = extractTuple pre ∧
      stripClause pre = "INSERT INTO t VALUES (?)".toList := by
  intro pre clause
  have hpre : EndsSolid pre := by decide
  have hclause : IsClause clause := beginsClause_eq_true_iff.1 (by decide +kernel)
  obtain ⟨hstrip, hcheck, htuple⟩ := (stripClause_peels pre).2 pre clause hpre hclause
  exact ⟨hpre, hclause, hstrip, hcheck, htuple, by decide +kernel⟩

end BulkInsert.Statement
