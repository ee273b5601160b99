import BulkInsert.Proofs.Statement.Delimiters
import Mathlib.Algebra.Group.Nat.Even

/-!
# Statements with a trailing clause

A statement is put together from a text `pre` and a clause, the words `ON DUPLICATE KEY` and
what follows them. When is the clause stripped and `pre` left? Where the clause begins, no
occurrence of its words goes across: one that began in `pre` would have to go on with an `O`,
and no word does. So `pre` stays, and the words in between count exactly when the quote
characters behind them are even in number.

## Well-quoted clauses

`WellQuoted` reads a text as quoted segments and what stands between them. A segment ends with
the quote character it began with; the other two kinds are ordinary characters inside it, and
the relation counts them. The two ends of a segment are even in number, so what decides is the
number of these: `stripClause_append_wellQuoted`. A literal such as `'it"s'` hides the clause
from stripping, and then the clause is read as if it were part of the statement:
`stripClause_odd_literal`.
-/

namespace BulkInsert.Statement

open Text

/-! ### Where a clause begins -/

/-- The text does not end in a blank. -/
def EndsSolid (t : Text) : Prop := ∀ c ∈ t.getLast?, isBlank c = false

instance (t : Text) : Decidable (EndsSolid t) :=
  decidable_of_iff (t.getLast?.all fun c => !isBlank c) (by simp [EndsSolid, Option.all_eq_true])

/-- The words `ON DUPLICATE KEY` stand somewhere in the text. -/
def holdsClauseWords : Text → Bool
  | [] => false
  | c :: rest => (afterClauseWords? (c :: rest)).isSome || holdsClauseWords rest

/-- What is left at the end of a text that does not end in a blank does not either. -/
theorem EndsSolid.of_append {s t : Text} (h : EndsSolid (s ++ t)) : EndsSolid t := by
  intro c hc
  refine h c ?_
  rw [List.getLast?_append, Option.mem_def.1 hc]
  rfl

/-- `BeginsAfresh seam`: behind its leading blanks the text goes on with an `O`, as every
clause does. -/
def BeginsAfresh (seam : Text) : Prop :=
  ∃ blanks rest, (∀ b ∈ blanks, isBlank b = true) ∧ seam = blanks ++ 'O' :: rest

section

variable {t seam word : Text}

/-- Leading blanks end inside a text that does not end in one. -/
theorem skipBlanks_append_of_endsSolid (hne : t ≠ []) (ht : EndsSolid t) (seam : Text) :
    skipBlanks (t ++ seam) = skipBlanks t ++ seam ∧ skipBlanks t ≠ [] ∧
      EndsSolid (skipBlanks t) := by
  obtain ⟨front, c, rfl⟩ := List.eq_nil_or_concat' t |>.resolve_left hne
  have hc : isBlank c = false := ht c (by simp)
  have hskip := skipBlanks_append_delimiter hc front
  rw [List.append_assoc, List.singleton_append, hskip seam, hskip [], List.append_assoc]
  refine ⟨rfl, by simp, ?_⟩
  intro d hd
  obtain rfl : d = c := by simpa using hd.symm
  exact hc

/-- A word without blanks and without an `O` is read in front of a seam. -/
theorem isPrefixOf?_append_of_beginsAfresh (hseam : BeginsAfresh seam)
    (hblank : ∀ b ∈ word, isBlank b = false) (ho : 'O' ∉ word) (t : Text) :
    word.isPrefixOf? (t ++ seam) = (word.isPrefixOf? t).map (· ++ seam) := by
  obtain ⟨- | ⟨b, blanks⟩, rest, hblanks, rfl⟩ := hseam
  · exact isPrefixOf?_append_delimiter ho t rest
  · have hb : isBlank b = true := hblanks b List.mem_cons_self
    refine isPrefixOf?_append_delimiter (fun hmem => ?_) t _
    rw [hblank b hmem] at hb
    cases hb

/-- Blanks and a word without an `O` are read in front of a seam. -/
theorem afterBlanks?_bind_append (hseam : BeginsAfresh seam) (ht : EndsSolid t)
    (hblank : ∀ b ∈ word, isBlank b = false) (ho : 'O' ∉ word) (hword : word ≠ []) :
    (afterBlanks? (t ++ seam)).bind word.isPrefixOf? =
      ((afterBlanks? t).bind word.isPrefixOf?).map (· ++ seam) := by
  cases t with
  | nil =>
      -- All blanks are those of the seam, and the word would have to begin with its `O`.
      obtain ⟨- | ⟨b, blanks⟩, rest, hblanks, rfl⟩ := hseam
      · rfl
      · obtain ⟨w, word, rfl⟩ := List.exists_cons_of_ne_nil hword
        have hb : isBlank b = true := hblanks b List.mem_cons_self
        have hskip : skipBlanks (blanks ++ 'O' :: rest) = 'O' :: rest :=
          skipBlanks_append (fun d hd => hblanks d (List.mem_cons_of_mem _ hd)) _
        have hw : (w == 'O') = false := by
          rw [beq_eq_false_iff_ne]
          rintro rfl
          exact ho List.mem_cons_self
        simp only [List.nil_append, List.cons_append, afterBlanks?, hb, if_true, hskip,
          Option.bind_some, Option.bind_none, Option.map_none]
        change (if w == 'O' then word.isPrefixOf? rest else none) = none
        rw [hw]
        rfl
  | cons x t =>
      rw [List.cons_append, afterBlanks?, afterBlanks?]
      by_cases hx : isBlank x = true
      · have hne : t ≠ [] := by
          rintro rfl
          rw [ht x rfl] at hx
          cases hx
        obtain ⟨hskip, -, -⟩ :=
          skipBlanks_append_of_endsSolid hne (EndsSolid.of_append (s := [x]) ht) seam
        rw [if_pos hx, if_pos hx, hskip, Option.bind_some, Option.bind_some]
        exact isPrefixOf?_append_of_beginsAfresh hseam hblank ho _
      · rw [if_neg hx, if_neg hx]
        rfl

/-- The words of a clause are `ON`, and twice blanks and one more word. -/
theorem afterClauseWords?_eq (t : Text) :
    afterClauseWords? t =
      ("ON".toList.isPrefixOf? t).bind fun u =>
        ((afterBlanks? u).bind "DUPLICATE".toList.isPrefixOf?).bind fun v =>
          (afterBlanks? v).bind "KEY".toList.isPrefixOf? := by
  simp only [afterClauseWords?, Option.bind_eq_bind, Option.bind_assoc]

/-- No occurrence of the words of a clause goes across a seam: those that begin in front of it
are read there. -/
theorem afterClauseWords?_append_of_beginsAfresh (hseam : BeginsAfresh seam) (hne : t ≠ [])
    (ht : EndsSolid t) :
    afterClauseWords? (t ++ seam) = (afterClauseWords? t).map (· ++ seam) := by
  have hon : "ON".toList.isPrefixOf? (t ++ seam) =
      ("ON".toList.isPrefixOf? t).map (· ++ seam) := by
    obtain ⟨x, t, rfl⟩ := List.exists_cons_of_ne_nil hne
    change (if 'O' == x then "N".toList.isPrefixOf? (t ++ seam) else none) =
      (if 'O' == x then "N".toList.isPrefixOf? t else none).map (· ++ seam)
    split
    · exact isPrefixOf?_append_of_beginsAfresh hseam (by simp [isBlank]) (by decide) t
    · rfl
  rw [afterClauseWords?_eq, afterClauseWords?_eq, hon]
  cases hfirst : "ON".toList.isPrefixOf? t with
  | none => rfl
  | some u =>
      have hu : EndsSolid u := by
        rw [← append_of_isPrefixOf? hfirst] at ht
        exact ht.of_append
      simp only [Option.map_some, Option.bind_some]
      rw [afterBlanks?_bind_append hseam hu (by simp [isBlank]) (by decide) (by decide)]
      cases hsecond : (afterBlanks? u).bind "DUPLICATE".toList.isPrefixOf? with
      | none => rfl
      | some v =>
          obtain ⟨w, hblanks, hword⟩ := Option.bind_eq_some_iff.1 hsecond
          obtain ⟨blanks, rfl, -⟩ := exists_of_afterBlanks?_eq_some hblanks
          rw [← append_of_isPrefixOf? hword] at hu
          have hv : EndsSolid v := hu.of_append.of_append
          rw [Option.map_some, Option.bind_some, Option.bind_some]
          exact afterBlanks?_bind_append hseam hv (by simp [isBlank]) (by decide) (by decide)

/-- Whether a clause begins in front of a seam is a matter of the words there and of all the
quotes behind them. -/
theorem beginsClause_append_of_beginsAfresh (hseam : BeginsAfresh seam) (hne : t ≠ [])
    (ht : EndsSolid t) :
    beginsClause (t ++ seam) =
      (afterClauseWords? (skipBlanks t)).any fun tail => evenlyQuoted (tail ++ seam) := by
  obtain ⟨hskip, hskipped, hsolid⟩ := skipBlanks_append_of_endsSolid hne ht seam
  rw [beginsClause, hskip, afterClauseWords?_append_of_beginsAfresh hseam hskipped hsolid]
  cases afterClauseWords? (skipBlanks t) <;> rfl

end

/-- Without the words of a clause in a text, none are behind its leading blanks. -/
theorem afterClauseWords?_skipBlanks_eq_none {t : Text} (h : holdsClauseWords t = false) :
    afterClauseWords? (skipBlanks t) = none := by
  induction t with
  | nil => rfl
  | cons c t ih =>
      rw [holdsClauseWords, Bool.or_eq_false_iff, Option.isSome_eq_false_iff,
        Option.isNone_iff_eq_none] at h
      by_cases hc : isBlank c = true
      · have hskip : skipBlanks (c :: t) = skipBlanks t := by simp [skipBlanks, hc]
        rw [hskip]
        exact ih h.2
      · have hskip : skipBlanks (c :: t) = c :: t := by simp [skipBlanks, hc]
        rw [hskip]
        exact h.1

/-- No clause begins in a text without its words when a seam follows. -/
theorem noClauseIn_of_not_holdsClauseWords {pre seam : Text} (hseam : BeginsAfresh seam)
    (hwords : holdsClauseWords pre = false) (hsolid : EndsSolid pre) : NoClauseIn pre seam := by
  induction pre with
  | nil => trivial
  | cons c pre ih =>
      have hbegins := beginsClause_append_of_beginsAfresh hseam (List.cons_ne_nil c pre) hsolid
      rw [afterClauseWords?_skipBlanks_eq_none hwords, Option.any_none] at hbegins
      rw [holdsClauseWords, Bool.or_eq_false_iff] at hwords
      exact ⟨hbegins, ih hwords.2 (EndsSolid.of_append (s := [c]) hsolid)⟩

/-- A statement without the words of a clause is left alone. -/
theorem stripClause_of_not_holdsClauseWords {pre : Text} (hwords : holdsClauseWords pre = false) :
    stripClause pre = pre := by
  induction pre with
  | nil => rfl
  | cons c pre ih =>
      have hnone := afterClauseWords?_skipBlanks_eq_none hwords
      rw [holdsClauseWords, Bool.or_eq_false_iff] at hwords
      simp [stripClause, beginsClause, hnone, ih hwords.2]

/-- No clause begins in a text without an `O` that does not end in a blank. -/
theorem noClauseIn_of_not_mem {front : Text} (ho : 'O' ∉ front) (hsolid : EndsSolid front)
    (rest : Text) : NoClauseIn front rest := by
  induction front with
  | nil => trivial
  | cons c front ih =>
      refine ⟨?_, ih (fun hmem => ho (List.mem_cons_of_mem _ hmem))
        (EndsSolid.of_append (s := [c]) hsolid)⟩
      obtain ⟨hskip, hne, -⟩ :=
        skipBlanks_append_of_endsSolid (List.cons_ne_nil c front) hsolid rest
      obtain ⟨d, behind, hbehind⟩ := List.exists_cons_of_ne_nil hne
      have hd : ('O' == d) = false := by
        rw [beq_eq_false_iff_ne]
        rintro rfl
        refine ho ((List.dropWhile_sublist isBlank).subset ?_)
        change 'O' ∈ skipBlanks (c :: front)
        rw [hbehind]
        exact List.mem_cons_self
      have hon : "ON".toList.isPrefixOf? (d :: (behind ++ rest)) = none := by
        change (if 'O' == d then "N".toList.isPrefixOf? (behind ++ rest) else none) = none
        rw [hd]
        rfl
      rw [← List.cons_append, beginsClause, hskip, hbehind, List.cons_append,
        afterClauseWords?_eq, hon]
      rfl

/-! ### Statements with a clause -/

/-- The words of a clause, as they are put behind a statement. -/
def clauseWords : Text := " ON DUPLICATE KEY".toList

/-- A clause is stripped when the quotes behind its words are even in number. Otherwise its
words stay, and what follows them is stripped of a clause of its own. -/
theorem stripClause_clauseWords_append (clause : Text) :
    stripClause (clauseWords ++ clause) =
      if evenlyQuoted clause then [] else clauseWords ++ stripClause clause := by
  have hbegins : beginsClause (clauseWords ++ clause) = evenlyQuoted clause := rfl
  have hbegins' : beginsClause (clauseWords.tail ++ clause) = evenlyQuoted clause := rfl
  by_cases hclause : evenlyQuoted clause = true
  · rw [if_pos hclause]
    rw [hclause] at hbegins
    change (if beginsClause (clauseWords ++ clause) then [] else _) = []
    rw [if_pos hbegins]
  · rw [if_neg hclause]
    rw [Bool.eq_false_iff.2 hclause] at hbegins hbegins'
    exact stripClause_append_eq_iff.2
      ⟨⟨hbegins, hbegins', noClauseIn_of_not_mem (by decide) (by decide) clause⟩, rfl⟩

/-- A statement without the words of a clause, and not ending in a blank, is left when a
clause behind it is stripped, and stays when it is not. -/
theorem stripClause_append_clause {pre : Text} (hwords : holdsClauseWords pre = false)
    (hsolid : EndsSolid pre) (clause : Text) :
    stripClause (pre ++ (clauseWords ++ clause)) =
      if evenlyQuoted clause then pre else pre ++ (clauseWords ++ stripClause clause) := by
  have hseam : BeginsAfresh (clauseWords ++ clause) :=
    ⟨" ".toList, "N DUPLICATE KEY".toList ++ clause, by simp [isBlank], rfl⟩
  have hpre : stripClause (pre ++ (clauseWords ++ clause)) =
      pre ++ stripClause (clauseWords ++ clause) :=
    stripClause_append_eq_iff.2 ⟨noClauseIn_of_not_holdsClauseWords hseam hwords hsolid, rfl⟩
  rw [hpre, stripClause_clauseWords_append]
  split
  · exact List.append_nil pre
  · rfl

/-- Recognition looks at a statement without its clause only. -/
theorem recognition_congr {query query' : Text} (h : stripClause query = stripClause query') :
    check query = check query' ∧ extractTuple query = extractTuple query' := by
  rw [check, check, extractTuple, extractTuple, h]
  exact ⟨rfl, rfl⟩

/-! ### Well-quoted clauses -/

/-- `WellQuoted t inner`: the text consists of quoted segments and of text without quotes
between them. A segment goes from a quote character to the next one of the same kind. The
segments hold `inner` quote characters of other kinds. -/
inductive WellQuoted : Text → Nat → Prop
  | nil : WellQuoted [] 0
  | plain {t rest : Text} {inner : Nat} :
      (∀ c ∈ t, isQuote c = false) → WellQuoted rest inner → WellQuoted (t ++ rest) inner
  | segment {q : Char} {body rest : Text} {inner : Nat} :
      isQuote q = true → q ∉ body → WellQuoted rest inner →
      WellQuoted (q :: (body ++ q :: rest)) (body.countP isQuote + inner)

/-- The ends of the segments are even in number, so only the quotes inside them decide. -/
theorem WellQuoted.evenlyQuoted_iff {t : Text} {inner : Nat} (h : WellQuoted t inner) :
    evenlyQuoted t = true ↔ Even inner := by
  have hparity : t.countP isQuote % 2 = inner % 2 := by
    induction h with
    | nil => rfl
    | @plain t rest inner ht _ ih =>
        have hnone : t.countP isQuote = 0 := List.countP_eq_zero.2 (by simpa using ht)
        rw [List.countP_append, hnone, Nat.zero_add, ih]
    | @segment q body rest inner hq _ _ ih =>
        rw [List.countP_cons_of_pos hq, List.countP_append, List.countP_cons_of_pos hq]
        omega
  rw [evenlyQuoted, beq_iff_eq, hparity, Nat.even_iff]

/-- **A trailing clause.** Behind a statement without its words, a well-quoted clause is
stripped exactly when its segments hold an even number of quotes of other kinds. Then the
statement is recognised as it is without the clause. Otherwise the clause stays part of the
statement, up to a clause of its own. -/
theorem stripClause_append_wellQuoted {pre clause : Text} {inner : Nat}
    (hwords : holdsClauseWords pre = false) (hsolid : EndsSolid pre)
    (hclause : WellQuoted clause inner) :
    let query := pre ++ (clauseWords ++ clause)
    (stripClause query = pre ↔ Even inner) ∧
      (Even inner → check query = check pre ∧ extractTuple query = extractTuple pre) ∧
      (¬ Even inner → stripClause query = pre ++ (clauseWords ++ stripClause clause)) := by
  intro query
  have hstrip := stripClause_append_clause hwords hsolid clause
  by_cases heven : Even inner
  · rw [if_pos (hclause.evenlyQuoted_iff.2 heven)] at hstrip
    refine ⟨iff_of_true hstrip heven, fun _ => ?_, fun hodd => absurd heven hodd⟩
    exact recognition_congr (hstrip.trans (stripClause_of_not_holdsClauseWords hwords).symm)
  · rw [if_neg (mt hclause.evenlyQuoted_iff.1 heven)] at hstrip
    refine ⟨iff_of_false (fun hpre => ?_) heven, fun h => absurd h heven, fun _ => hstrip⟩
    rw [hstrip] at hpre
    have hnil := (List.append_eq_nil_iff.1 (List.append_right_eq_self.1 hpre)).1
    exact absurd hnil (List.cons_ne_nil _ _)

/-- Two double quotes inside a literal are even in number, and the clause is stripped with
the `VALUES` in it. -/
theorem stripClause_append_wellQuoted_pair :
    let pre := "INSERT INTO t SELECT a FROM s".toList
    let clause := " UPDATE c = VALUES(c), d = 'say \"hi\"'".toList
    let query := pre ++ (clauseWords ++ clause)
    holdsClauseWords pre = false ∧ EndsSolid pre ∧ WellQuoted clause 2 ∧
      (stripClause query = pre ↔ Even 2) ∧
      (Even 2 → check query = check pre ∧ extractTuple query = extractTuple pre) ∧
      (¬ Even 2 → stripClause query = pre ++ (clauseWords ++ stripClause clause)) := by
  intro pre clause query
  have hclause : WellQuoted clause 2 :=
    .plain (t := " UPDATE c = VALUES(c), d = ".toList) (by simp [isQuote])
      (@WellQuoted.segment '\x27' "say \"hi\"".toList [] 0 (by decide) (by decide) .nil)
  have hwords : holdsClauseWords pre = false := by decide
  have hsolid : EndsSolid pre := by decide
  exact ⟨hwords, hsolid, hclause, stripClause_append_wellQuoted hwords hsolid hclause⟩

/-- A single double quote inside a literal keeps a well-quoted clause from being stripped: the
statement is accepted for the `VALUES` of its clause, and the tuple is taken from there. -/
theorem stripClause_odd_literal :
    let pre := "INSERT INTO t SELECT a FROM s".toList
    let clause := " UPDATE c = VALUES(c), d = 'it\"s'".toList
    let query := pre ++ (clauseWords ++ clause)
    holdsClauseWords pre = false ∧ EndsSolid pre ∧ WellQuoted clause 1 ∧
      stripClause query ≠ pre ∧ check pre = .error .valuesNotRecognized ∧
      check query = .ok () ∧ extractTuple query = .ok "(c)".toList := by
  intro pre clause query
  have hclause : WellQuoted clause 1 :=
    .plain (t := " UPDATE c = VALUES(c), d = ".toList) (by simp [isQuote])
      (@WellQuoted.segment '\x27' "it\"s".toList [] 0 (by decide) (by decide) .nil)
  exact ⟨by decide, by decide, hclause, by decide +kernel, by decide +kernel,
    by decide +kernel, by decide +kernel⟩

end BulkInsert.Statement
