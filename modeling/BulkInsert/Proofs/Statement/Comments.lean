import BulkInsert.Proofs.Statement.Shape
import BulkInsert.Proofs.Statement.Stripping

/-!
# Statements behind a comment

A comment on a line of its own is put in front of a statement. Recognition looks for the words of
a clause, for `VALUES` and for groups wherever they stand, so what the comment says can matter.
`recognition_comment` says when: the words of a clause matter when the quotes behind them are even
in number, and `VALUES` matters when a group follows it. Without these the comment changes nothing;
with one of them it can hide the statement: `comment_hides_statement`.

Neither can go across the end of a comment. No word and no run of blanks goes on with a star, and
behind the comment its line is over, so nothing is closed there. What the comment captures it
captures by itself, and otherwise the search goes on in the statement.
-/

namespace BulkInsert.Statement

open Text

/-- A comment on one line. -/
def commentLine (body : Text) : Text := "/*".toList ++ (body ++ "*/".toList)

/-! ### The words of a clause -/

/-- The words of a clause stand in `body`, and the quotes behind them, those of `query` included,
are even in number. -/
def HoldsClause (body query : Text) : Prop :=
  ∃ front words tail, body = front ++ (words ++ tail) ∧ ClauseWords words ∧
    evenlyQuoted (tail ++ query) = true

/-- Whether a clause begins in front of a character that ends words is a matter of the words
there and of all the quotes behind them. -/
theorem EndsWords.beginsClause_append {d : Char} (hd : EndsWords d) (front rest : Text) :
    beginsClause (front ++ d :: rest) =
      (afterClauseWords? (skipBlanks front)).any fun tail => evenlyQuoted (tail ++ d :: rest) := by
  rw [beginsClause, skipBlanks_append_delimiter hd.isBlank_eq, hd.afterClauseWords?_append]
  cases afterClauseWords? (skipBlanks front) <;> rfl

/-- No clause begins in front of a character that ends words exactly when after all words there
the quotes are odd in number. -/
theorem EndsWords.noClauseIn_iff {d : Char} (hd : EndsWords d) {front rest : Text} :
    NoClauseIn front (d :: rest) ↔ ¬ HoldsClause front (d :: rest) := by
  induction front with
  | nil =>
      refine iff_of_true trivial ?_
      rintro ⟨front, words, tail, heq, hwords, -⟩
      obtain ⟨rfl, rfl⟩ := List.append_eq_nil_iff.1 (List.append_eq_nil_iff.1 heq.symm).2
      exact not_clauseWords_nil hwords
  | cons c front ih =>
      rw [NoClauseIn, ih, ← List.cons_append, hd.beginsClause_append, ← Bool.not_eq_true,
        Option.any_eq_true, ← not_or, not_iff_not]
      constructor
      · rintro (⟨tail, hread, heven⟩ | ⟨front, words, tail, rfl, hholds⟩)
        · obtain ⟨blanks, words, hsplit, -, hwords⟩ :=
            afterClauseWords?_skipBlanks_eq_some_iff.1 hread
          exact ⟨blanks, words, tail, hsplit, hwords, heven⟩
        · exact ⟨c :: front, words, tail, rfl, hholds⟩
      · rintro ⟨- | ⟨e, before⟩, words, tail, heq, hwords, heven⟩
        · have hread := afterClauseWords?_skipBlanks_eq_some_iff.2
            ⟨[], words, heq, List.forall_mem_nil _, hwords⟩
          exact .inl ⟨tail, hread, heven⟩
        · exact .inr ⟨before, words, tail, (List.cons.inj heq).2, hwords, heven⟩

theorem endsWords_star : EndsWords '*' := ⟨by decide, by decide⟩

theorem endsWords_stroke : EndsWords '/' := ⟨by decide, by decide⟩

/-- A clause begins in a comment when its words stand in the body and the quotes behind them are
even in number. -/
theorem noClauseIn_commentLine_iff {body query : Text} :
    NoClauseIn (commentLine body) ('\n' :: query) ↔ ¬ HoldsClause body query := by
  have hquotes : evenlyQuoted ("*/".toList ++ '\n' :: query) = evenlyQuoted query := rfl
  have hholds : HoldsClause body ("*/".toList ++ '\n' :: query) ↔ HoldsClause body query := by
    simp only [HoldsClause, evenlyQuoted_append, hquotes]
  have hbody : NoClauseIn body ("*/".toList ++ '\n' :: query) ↔
      ¬ HoldsClause body ("*/".toList ++ '\n' :: query) := endsWords_star.noClauseIn_iff
  rw [commentLine, noClauseIn_append, noClauseIn_append, ← hholds, ← hbody]
  exact ⟨fun h => h.2.1, fun h => ⟨⟨endsWords_stroke.beginsClause_cons _,
    endsWords_star.beginsClause_cons _, trivial⟩, h, endsWords_star.beginsClause_cons _,
    endsWords_stroke.beginsClause_cons _, trivial⟩⟩

/-- When a clause begins in front, a beginning of that part is left. -/
theorem stripClause_isPrefix {front rest : Text} (h : ¬ NoClauseIn front rest) :
    stripClause (front ++ rest) <+: front := by
  induction front with
  | nil => exact absurd trivial h
  | cons c front ih =>
      rw [List.cons_append, stripClause]
      split
      · exact List.nil_prefix
      · rename_i hbegins
        rw [NoClauseIn, not_and] at h
        exact List.cons_prefix_cons.2 ⟨rfl, ih (h (Bool.eq_false_iff.2 hbegins))⟩

/-- A line break in front of a statement is stripped with it or stays in front of what is left. -/
theorem stripClause_lineBreak (query : Text) :
    stripClause ('\n' :: query) = '\n' :: stripClause query ∨
      stripClause ('\n' :: query) = [] ∧ stripClause query = [] := by
  have hbegins : beginsClause ('\n' :: query) = beginsClause query := rfl
  rw [stripClause, hbegins]
  split
  · rename_i hclause
    refine .inr ⟨rfl, ?_⟩
    cases query with
    | nil => rfl
    | cons c query => rw [stripClause, if_pos hclause]
  · exact .inl rfl

/-! ### What a comment captures -/

/-- The same capture in a text with more behind it. -/
def Capture.extend (rest : Text) (k : Capture) : Capture := { k with after := k.after ++ rest }

section

variable {front rest tail : Text}

/-- With nothing closed behind, a line is split where it was. -/
theorem splitLastClose?_append_of_eq_none (hfront : '\n' ∉ front)
    (hrest : splitLastClose? rest = none) :
    splitLastClose? (front ++ rest) =
      (splitLastClose? front).map fun (group, tail) => (group, tail ++ rest) := by
  induction front with
  | nil => exact hrest
  | cons c front ih =>
      obtain ⟨hc, hfront⟩ := List.ne_and_not_mem_of_not_mem_cons hfront
      rw [List.cons_append, splitLastClose?, splitLastClose?, if_neg hc.symm, if_neg hc.symm,
        ih hfront]
      cases splitLastClose? front with
      | some p => rfl
      | none => by_cases hclose : c = ')' <;> simp [hclose]

/-- With nothing closed behind, the group that is taken in front of a star is the one that was. -/
theorem groupAt?_append_star (hfront : '\n' ∉ front) (hrest : splitLastClose? rest = none) :
    groupAt? (front ++ '*' :: rest) =
      (groupAt? front).map fun (group, tail) => (group, tail ++ '*' :: rest) := by
  have hstar : splitLastClose? ('*' :: rest) = none :=
    splitLastClose?_cons_eq_none_iff.2 (.inr ⟨by decide, hrest⟩)
  rcases front with - | ⟨o, - | ⟨c, front⟩⟩
  · cases rest <;> rfl
  · exact groupAt?_cons_cons_eq_none_iff.2 fun _ _ => hrest
  · obtain ⟨-, hfront⟩ := List.ne_and_not_mem_of_not_mem_cons hfront
    obtain ⟨-, hfront⟩ := List.ne_and_not_mem_of_not_mem_cons hfront
    rw [List.cons_append, List.cons_append, groupAt?, groupAt?,
      splitLastClose?_append_of_eq_none hfront hstar]
    split
    · cases splitLastClose? front <;> rfl
    · rfl

/-- With nothing closed behind, the word captures in front of a star what it did. -/
theorem valuesAt?_append_star (hfront : '\n' ∉ front) (hrest : splitLastClose? rest = none) :
    valuesAt? (front ++ '*' :: rest) = (valuesAt? front).map (Capture.extend ('*' :: rest)) := by
  rw [valuesAt?, valuesAt?, isPrefixOf?_append_delimiter (by decide)]
  cases hword : "VALUES".toList.isPrefixOf? front with
  | none => rfl
  | some u =>
      have hu : '\n' ∉ skipBlanks u := by
        intro hmem
        refine hfront ?_
        rw [← append_of_isPrefixOf? hword, List.mem_append]
        exact .inr ((List.dropWhile_sublist isBlank).subset hmem)
      simp only [Option.map_some]
      rw [skipBlanks_append_delimiter (by decide), takeWhile_isBlank_append_delimiter (by decide),
        groupAt?_append_star hu hrest]
      cases groupAt? (skipBlanks u) <;> rfl

/-- On a line that goes on with a star, and on which nothing is closed or captured behind it, what
is captured is what was. -/
theorem lastOnLine?_append_star (hfront : '\n' ∉ front) (hrest : splitLastClose? rest = none)
    (hnone : lastOnLine? rest = none) :
    lastOnLine? (front ++ '*' :: rest) =
      (lastOnLine? front).map (Capture.extend ('*' :: rest)) := by
  induction front with
  | nil => exact lastOnLine?_cons_eq_none_iff.2 (.inr ⟨hnone, rfl⟩)
  | cons c front ih =>
      have hvalues := valuesAt?_append_star hfront hrest
      obtain ⟨hc, hfront⟩ := List.ne_and_not_mem_of_not_mem_cons hfront
      rw [List.cons_append] at hvalues ⊢
      rw [lastOnLine?, lastOnLine?, if_neg hc.symm, if_neg hc.symm, ih hfront, hvalues]
      cases lastOnLine? front <;> rfl

/-- A character that is no line break and begins no `VALUES` changes nothing on its line. -/
theorem lastOnLine?_cons_of_ne {c : Char} (hc : c ≠ '\n') (hword : c ≠ 'V') (t : Text) :
    lastOnLine? (c :: t) = (lastOnLine? t).map (Capture.push c) := by
  have hvalues : valuesAt? (c :: t) = none := by
    rw [valuesAt?_eq_none_iff]
    rintro ⟨blanks, group, rest, heq, -⟩
    exact hword (List.cons.inj heq).1
  rw [lastOnLine?, if_neg hc, hvalues]
  cases lastOnLine? t <;> rfl

variable {body : Text}

/-- What a comment captures is what its body does, when the line is over behind it. -/
theorem lastOnLine?_commentLine (hbody : '\n' ∉ body) (htail : firstLine tail = []) :
    lastOnLine? (commentLine body ++ tail) =
      (lastOnLine? body).map fun k => (k.extend ("*/".toList ++ tail)).prepend "/*".toList := by
  have hnone : lastOnLine? tail = none := by
    cases tail with
    | nil => rfl
    | cons c tail =>
        rw [lastOnLine?_cons_eq_none_iff]
        by_contra hc
        rw [firstLine, List.takeWhile_cons_of_pos (by simpa using fun h => hc (.inl h))] at htail
        cases htail
  have hclosed : splitLastClose? ('/' :: tail) = none := by
    rw [splitLastClose?_cons_eq_none_iff, splitLastClose?_eq_none_iff, htail]
    exact .inr ⟨by decide, List.not_mem_nil⟩
  have hstroke : lastOnLine? ('/' :: tail) = none := by
    rw [lastOnLine?_cons_of_ne (by decide) (by decide), hnone]
    rfl
  have hinside : lastOnLine? (body ++ '*' :: '/' :: tail) =
      (lastOnLine? body).map (Capture.extend ('*' :: '/' :: tail)) :=
    lastOnLine?_append_star hbody hclosed hstroke
  have htext : commentLine body ++ tail = '/' :: '*' :: (body ++ '*' :: '/' :: tail) := by
    simp [commentLine]
  rw [htext, lastOnLine?_cons_of_ne (by decide) (by decide),
    lastOnLine?_cons_of_ne (by decide) (by decide), hinside, Option.map_map, Option.map_map]
  rfl

/-- In a text of one line, what is captured is captured on it. -/
theorem capture?_of_line {line : Text} (hline : '\n' ∉ line) :
    capture? line = lastOnLine? line := by
  rw [capture?, laterLine?_eq_none hline]
  cases lastOnLine? line <;> rfl

theorem lineBreak_not_mem_commentLine (hbody : '\n' ∉ body) : '\n' ∉ commentLine body := by
  simpa [commentLine] using hbody

/-- A statement behind a comment without a clause that counts: the comment captures what its body
does, and when that is nothing, the statement captures what it does without the comment. -/
theorem capture?_comment {query : Text} (hbody : '\n' ∉ body)
    (hclause : ¬ HoldsClause body query) :
    (∀ k, capture? body = some k → ∃ l,
      capture? (stripClause (commentLine body ++ '\n' :: query)) = some l ∧ l.tuple = k.tuple) ∧
    (capture? body = none →
      capture? (stripClause (commentLine body ++ '\n' :: query)) =
        (capture? (stripClause query)).map (Capture.prepend (commentLine body ++ ['\n']))) := by
  have hstrip : stripClause (commentLine body ++ '\n' :: query) =
      commentLine body ++ stripClause ('\n' :: query) :=
    stripClause_append_eq_iff.2 ⟨noClauseIn_commentLine_iff.2 hclause, rfl⟩
  have hline := lineBreak_not_mem_commentLine hbody
  rw [hstrip, capture?_of_line hbody]
  have hover : firstLine (stripClause ('\n' :: query)) = [] := by
    obtain hkept | ⟨hkept, -⟩ := stripClause_lineBreak query <;> rw [hkept] <;> rfl
  have hfirst := lastOnLine?_commentLine hbody hover
  constructor
  · intro k hk
    rw [hk, Option.map_some] at hfirst
    rw [capture?, hfirst]
    exact ⟨_, rfl, rfl⟩
  · intro hnone
    rw [hnone, Option.map_none] at hfirst
    rw [capture?, hfirst]
    obtain hkept | ⟨hkept, hempty⟩ := stripClause_lineBreak query
    · rw [hkept]
      exact laterLine?_append hline (stripClause query)
    · rw [hkept, hempty, List.append_nil]
      exact laterLine?_eq_none hline

end

/-! ### Recognition -/

/-- Statements that capture the same tuple, or nothing, are recognised alike. -/
theorem recognition_congr_of_tuple {query query' : Text}
    (h : (capture? (stripClause query)).map Capture.tuple =
      (capture? (stripClause query')).map Capture.tuple) :
    (check query = .ok () ↔ check query' = .ok ()) ∧ extractTuple query = extractTuple query' := by
  rw [check_eq_ok_iff, check_eq_ok_iff, extractTuple, extractTuple]
  cases hk : capture? (stripClause query) with
  | none =>
      rw [hk] at h
      rw [Option.map_eq_none_iff.1 h.symm]
      exact ⟨Iff.rfl, rfl⟩
  | some k =>
      rw [hk] at h
      obtain ⟨k', hk', htuple⟩ := Option.map_eq_some_iff.1 h.symm
      rw [hk']
      simp only [htuple, Option.isSome_some, and_self]

/-- What is viable stays so with more behind. -/
theorem Viable.append {t front : Text} (h : Viable t front) (more : Text) :
    Viable (t ++ more) front := by
  obtain ⟨blanks, group, rest, rfl, hblanks, hgroup⟩ := h
  exact ⟨blanks, group, rest ++ more, by simp, hblanks, hgroup⟩

/-- **A statement behind a comment.** When no words of a clause count in the comment, and no group
follows `VALUES` in it, the statement is recognised as it is without the comment. When such a
group follows, it is the tuple. When words of a clause count, what is left is a beginning of the
comment, and without such a group in it nothing is recognised. -/
theorem recognition_comment {body : Text} (hbody : '\n' ∉ body) (query : Text) :
    let commented := commentLine body ++ '\n' :: query
    (¬ HoldsClause body query → (∀ front, ¬ Viable body front) →
        (check commented = .ok () ↔ check query = .ok ()) ∧
          extractTuple commented = extractTuple query) ∧
      (¬ HoldsClause body query → ∀ front k, Chosen body front k →
        check commented = .ok () ∧
          (BlankPair k.tuple → extractTuple commented = .error .unparsableValues) ∧
          (¬ BlankPair k.tuple → extractTuple commented = .ok k.tuple)) ∧
      (HoldsClause body query →
        stripClause commented <+: commentLine body ∧
          ((∀ front, ¬ Viable body front) →
            check commented ≠ .ok () ∧ extractTuple commented = .error .unparsableValues)) := by
  intro commented
  refine ⟨fun hclause hnone => ?_, fun hclause front k hchosen => ?_, fun hclause => ?_⟩
  · refine recognition_congr_of_tuple ?_
    rw [(capture?_comment hbody hclause).2 (capture?_eq_none_iff.2 hnone), Option.map_map]
    rfl
  · obtain ⟨l, hl, htuple⟩ :=
      (capture?_comment hbody hclause).1 k (capture?_eq_some_iff.2 ⟨front, hchosen⟩)
    rw [← htuple]
    exact ⟨check_eq_ok_iff.2 (by rw [hl]; rfl), extractTuple_of_capture? hl⟩
  · have hkept : stripClause commented <+: commentLine body :=
      stripClause_isPrefix fun h => noClauseIn_commentLine_iff.1 h hclause
    refine ⟨hkept, fun hnone => ?_⟩
    have hquiet : capture? (stripClause commented) = none := by
      have hcomment : lastOnLine? (commentLine body) = none := by
        have hover : firstLine [] = [] := rfl
        have hline := lastOnLine?_commentLine hbody hover
        rwa [List.append_nil, ← capture?_of_line hbody, capture?_eq_none_iff.2 hnone] at hline
      rw [capture?_eq_none_iff]
      intro front hviable
      obtain ⟨more, hmore⟩ := hkept
      have hviable' : Viable (commentLine body) front := hmore ▸ hviable.append more
      exact lineBreak_not_mem_commentLine hbody
        (hviable'.isPrefix.subset (lastOnLine?_eq_none_iff.1 hcomment front hviable'))
    refine ⟨fun hok => ?_, by rw [extractTuple, hquiet]⟩
    rw [check_eq_ok_iff, hquiet] at hok
    cases hok

/-- One statement behind three comments: one that changes nothing, one whose group is taken for
the tuple, and one whose words are taken for a clause. -/
theorem recognition_comment_of_three :
    let query := "INSERT INTO t VALUES (?)".toList
    let behind (body : Text) := commentLine body ++ '\n' :: query
    let quiet := " load; (all) VALUES ".toList
    let group := " VALUES (x) ".toList
    let clause := " ON DUPLICATE KEY ".toList
    ('\n' ∉ quiet ∧ ¬ HoldsClause quiet query ∧ (∀ front, ¬ Viable quiet front) ∧
      (check (behind quiet) = .ok () ↔ check query = .ok ()) ∧
      extractTuple (behind quiet) = extractTuple query) ∧
    ('\n' ∉ group ∧ ¬ HoldsClause group query ∧ check (behind group) = .ok () ∧
      extractTuple (behind group) = .ok "(x)".toList) ∧
    ('\n' ∉ clause ∧ HoldsClause clause query ∧ check (behind clause) ≠ .ok () ∧
      extractTuple (behind clause) = .error .unparsableValues) := by
  intro query behind quiet group clause
  refine ⟨?_, ?_, ?_⟩
  · have hbody : '\n' ∉ quiet := by decide
    have hclause : ¬ HoldsClause quiet query := noClauseIn_commentLine_iff.1
      (stripClause_append_eq_iff.1
        (by decide +kernel : stripClause (behind quiet) = commentLine quiet ++ '\n' :: query)).1
    have hnone : ∀ front, ¬ Viable quiet front := capture?_eq_none_iff.1 (by decide +kernel)
    exact ⟨hbody, hclause, hnone, (recognition_comment hbody query).1 hclause hnone⟩
  · have hbody : '\n' ∉ group := by decide
    have hclause : ¬ HoldsClause group query := noClauseIn_commentLine_iff.1
      (stripClause_append_eq_iff.1
        (by decide +kernel : stripClause (behind group) = commentLine group ++ '\n' :: query)).1
    obtain ⟨front, hchosen⟩ := capture?_eq_some_iff.1
      (by decide +kernel : capture? group = some ⟨" VALUES ".toList, "(x)".toList, " ".toList⟩)
    obtain ⟨hcheck, -, hextract⟩ :=
      (recognition_comment hbody query).2.1 hclause front _ hchosen
    refine ⟨hbody, hclause, hcheck, hextract ?_⟩
    rw [← holdsBlankParens_eq_true_iff]
    decide +kernel
  · have hbody : '\n' ∉ clause := by decide
    have hblank : ∀ b ∈ " ".toList, isBlank b = true := by simp [isBlank]
    have hclause : HoldsClause clause query :=
      ⟨" ".toList, "ON DUPLICATE KEY".toList, " ".toList, rfl,
        ⟨" ".toList, " ".toList, rfl, ⟨by decide, hblank⟩, by decide, hblank⟩, by decide⟩
    have hnone : ∀ front, ¬ Viable clause front := capture?_eq_none_iff.1 (by decide +kernel)
    exact ⟨hbody, hclause, ((recognition_comment hbody query).2.2 hclause).2 hnone⟩

/-- A comment without a line break or an end in its body can hide the statement behind it: its
own group is extracted, or the statement is taken for no insertion. -/
theorem comment_hides_statement :
    let query := "INSERT INTO t VALUES (?)".toList
    let behind (body : Text) := commentLine body ++ '\n' :: query
    let group := " VALUES (x) ".toList
    let clause := " ON DUPLICATE KEY ".toList
    (∀ body ∈ [group, clause], '\n' ∉ body ∧ ¬ "*/".toList <:+: body) ∧
      check query = .ok () ∧ extractTuple query = .ok "(?)".toList ∧
      extractTuple (behind group) = .ok "(x)".toList ∧
      check (behind clause) = .error .statementNotRecognized ∧
      extractTuple (behind clause) = .error .unparsableValues := by
  decide +kernel

end BulkInsert.Statement
