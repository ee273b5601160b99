import BulkInsert.Proofs.Statement.Captures

/-!
# Which statements are recognised

The language of `check`, said without the search. `IsGap` is what may stand between `INSERT` and
`INTO`: blanks and comments. A comment is any text on one line that begins with `/*` and ends in
`*/`, so the body may hold `*/` itself, and a gap may be read in several ways.

`Gap.ofText` follows all these ways at once. Its four answers are what can be said of the rest of
a text from four places in a gap: between two parts of it, behind the stroke that opens a comment,
inside a comment, and behind a star that may close it. `gap_ofText` says what each of them means;
it is one induction for all four, since each is read off the next ones.

`check_rule` is the rule for recognition.
-/

namespace BulkInsert.Statement

open Text

/-! ### Gaps -/

/-- A **gap** consists of blanks and of comments without a line break. -/
inductive IsGap : Text → Prop
  | nil : IsGap []
  | blank {b : Char} {gap : Text} : isBlank b = true → IsGap gap → IsGap (b :: gap)
  | comment {body gap : Text} :
      '\n' ∉ body → IsGap gap → IsGap ("/*".toList ++ (body ++ ("*/".toList ++ gap)))

/-- The text begins with `INTO` and one more character that is no line break. -/
def BeginsInto (t : Text) : Prop := ∃ c rest, t = "INTO".toList ++ c :: rest ∧ c ≠ '\n'

/-- The text goes on with a gap and `INTO`. -/
def GapThenInto (t : Text) : Prop := ∃ gap rest, t = gap ++ rest ∧ IsGap gap ∧ BeginsInto rest

/-- The text goes on with the rest of a comment, a gap and `INTO`. -/
def CommentThenInto (t : Text) : Prop :=
  ∃ body rest, t = body ++ ("*/".toList ++ rest) ∧ '\n' ∉ body ∧ GapThenInto rest

/-- What each answer about a text means. -/
structure Gap.Tells (g : Gap) (t : Text) : Prop where
  between : g.between = true ↔ GapThenInto t
  opening : g.opening = true ↔ ∃ rest, t = '*' :: rest ∧ CommentThenInto rest
  inside : g.inside = true ↔ CommentThenInto t
  closing : g.closing = true ↔ ∃ rest, t = '/' :: rest ∧ GapThenInto rest

/-- `INTO` and one more character are found at the beginning of a text. -/
theorem beginsInto_eq_true_iff {t : Text} : beginsInto t = true ↔ BeginsInto t := by
  constructor
  · intro h
    rw [beginsInto] at h
    split at h
    · rename_i c rest hword
      exact ⟨c, rest, (append_of_isPrefixOf? hword).symm, by simpa using h⟩
    · cases h
  · rintro ⟨c, rest, rfl, hc⟩
    rw [beginsInto, isPrefixOf?_append]
    simpa using hc

/-- A text goes on with a gap and `INTO` in one of three ways: the gap is empty, or begins with a
blank, or with a comment. -/
theorem gapThenInto_cons_iff {c : Char} {t : Text} :
    GapThenInto (c :: t) ↔ BeginsInto (c :: t) ∨ (isBlank c = true ∧ GapThenInto t) ∨
      (c = '/' ∧ ∃ rest, t = '*' :: rest ∧ CommentThenInto rest) := by
  constructor
  · rintro ⟨gap, rest, heq, hgap, hinto⟩
    cases hgap with
    | nil =>
        rw [List.nil_append] at heq
        exact .inl (heq ▸ hinto)
    | @blank b gap hb hgap =>
        obtain ⟨rfl, rfl⟩ := List.cons.inj heq
        exact .inr (.inl ⟨hb, gap, rest, rfl, hgap, hinto⟩)
    | @comment body gap hbody hgap =>
        obtain ⟨rfl, rfl⟩ := List.cons.inj heq
        have hinside : CommentThenInto (body ++ ("*/".toList ++ gap) ++ rest) :=
          ⟨body, gap ++ rest, by simp, hbody, gap, rest, rfl, hgap, hinto⟩
        exact .inr (.inr ⟨rfl, _, rfl, hinside⟩)
  · rintro (hinto | ⟨hc, gap, rest, rfl, hgap, hinto⟩ | ⟨rfl, u, rfl, hinside⟩)
    · exact ⟨[], c :: t, rfl, .nil, hinto⟩
    · exact ⟨c :: gap, rest, rfl, .blank hc hgap, hinto⟩
    · obtain ⟨body, v, rfl, hbody, gap, rest, rfl, hgap, hinto⟩ := hinside
      exact ⟨_, rest, by simp, .comment hbody hgap, hinto⟩

/-- Inside a comment a text goes on to `INTO` in one of two ways: the comment goes on, or ends. -/
theorem commentThenInto_cons_iff {c : Char} {t : Text} :
    CommentThenInto (c :: t) ↔ c ≠ '\n' ∧
      (CommentThenInto t ∨ (c = '*' ∧ ∃ rest, t = '/' :: rest ∧ GapThenInto rest)) := by
  constructor
  · rintro ⟨- | ⟨d, body⟩, rest, heq, hbody, hrest⟩
    · obtain ⟨rfl, rfl⟩ := List.cons.inj heq
      exact ⟨by decide, .inr ⟨rfl, rest, rfl, hrest⟩⟩
    · obtain ⟨rfl, rfl⟩ := List.cons.inj heq
      obtain ⟨hc, hbody⟩ := List.ne_and_not_mem_of_not_mem_cons hbody
      exact ⟨hc.symm, .inl ⟨body, rest, rfl, hbody, hrest⟩⟩
  · rintro ⟨hc, ⟨body, rest, rfl, hbody, hrest⟩ | ⟨rfl, rest, rfl, hrest⟩⟩
    · refine ⟨c :: body, rest, rfl, ?_, hrest⟩
      rw [List.mem_cons, not_or]
      exact ⟨hc.symm, hbody⟩
    · exact ⟨[], rest, rfl, List.not_mem_nil, hrest⟩

/-- What the answers about a text mean. -/
theorem gap_ofText (t : Text) : (Gap.ofText t).Tells t := by
  induction t with
  | nil =>
      have hgap : ¬ GapThenInto [] := by
        rintro ⟨gap, rest, heq, -, c, tail, rfl, -⟩
        simp at heq
      have hcomment : ¬ CommentThenInto [] := by
        rintro ⟨body, rest, heq, -⟩
        simp at heq
      exact ⟨iff_of_false Bool.false_ne_true hgap,
        iff_of_false Bool.false_ne_true (by rintro ⟨rest, heq, -⟩; cases heq),
        iff_of_false Bool.false_ne_true hcomment,
        iff_of_false Bool.false_ne_true (by rintro ⟨rest, heq, -⟩; cases heq)⟩
  | cons c t ih =>
      constructor
      · rw [gapThenInto_cons_iff, ← ih.between, ← ih.opening, ← beginsInto_eq_true_iff]
        simp [Gap.ofText, or_assoc]
      · simp [Gap.ofText, ← ih.inside]
      · rw [commentThenInto_cons_iff, ← ih.inside, ← ih.closing]
        simp [Gap.ofText]
      · simp [Gap.ofText, ← ih.between]

/-! ### The shape of an insertion -/

/-- `INSERT`, a gap, `INTO` and one more character on its line stand somewhere in the text. -/
def HoldsInsertInto (t : Text) : Prop :=
  ∃ front gap rest, t = front ++ ("INSERT".toList ++ (gap ++ rest)) ∧ IsGap gap ∧ BeginsInto rest

/-- A word is found wherever it stands. -/
theorem occursIn_eq_true_iff {word t : Text} : occursIn word t = true ↔ word <:+: t := by
  induction t with
  | nil => simp [occursIn]
  | cons c t ih =>
      rw [occursIn, Bool.or_eq_true, ih, List.isPrefixOf_iff_prefix, List.infix_cons_iff]

/-- `INSERT`, a gap and `INTO` are found at the beginning of a text. -/
theorem beginsInsertInto_eq_true_iff {t : Text} :
    beginsInsertInto t = true ↔ ∃ rest, t = "INSERT".toList ++ rest ∧ GapThenInto rest := by
  rw [beginsInsertInto]
  constructor
  · intro h
    split at h
    · rename_i rest hword
      exact ⟨rest, (append_of_isPrefixOf? hword).symm, (gap_ofText rest).between.1 h⟩
    · cases h
  · rintro ⟨rest, rfl, hrest⟩
    rw [isPrefixOf?_append]
    exact (gap_ofText rest).between.2 hrest

/-- `INSERT`, a gap and `INTO` are found wherever they stand. -/
theorem holdsInsertInto_eq_true_iff {t : Text} :
    holdsInsertInto t = true ↔ HoldsInsertInto t := by
  induction t with
  | nil =>
      refine iff_of_false Bool.false_ne_true ?_
      rintro ⟨front, gap, rest, heq, -⟩
      simp at heq
  | cons c t ih =>
      rw [holdsInsertInto, Bool.or_eq_true, ih, beginsInsertInto_eq_true_iff]
      constructor
      · rintro (⟨u, heq, gap, rest, rfl, h⟩ | ⟨front, gap, rest, rfl, h⟩)
        · exact ⟨[], gap, rest, heq, h⟩
        · exact ⟨c :: front, gap, rest, rfl, h⟩
      · rintro ⟨- | ⟨d, front⟩, gap, rest, heq, h⟩
        · exact .inl ⟨gap ++ rest, heq, gap, rest, rfl, h⟩
        · exact .inr ⟨front, gap, rest, (List.cons.inj heq).2, h⟩

/-- A text has the shape of an insertion when it holds `VALUES`, or `INSERT` and `INTO`. -/
theorem hasInsertShape_eq_true_iff {t : Text} :
    hasInsertShape t = true ↔ "VALUES".toList <:+: t ∨ HoldsInsertInto t := by
  rw [hasInsertShape, Bool.or_eq_true, occursIn_eq_true_iff, holdsInsertInto_eq_true_iff]

/-! ### Recognition -/

/-- A text with a viable occurrence of `VALUES` holds the word. -/
theorem Viable.isInfix {t front : Text} (h : Viable t front) : "VALUES".toList <:+: t := by
  obtain ⟨blanks, group, rest, rfl, -⟩ := h
  exact ⟨front, blanks ++ (group ++ rest), by simp⟩

/-- **Which statements are recognised.** What counts is the statement without its clause. It is
recognised when it has a viable occurrence of `VALUES`. When it has none, the group is missing if
it has the shape of an insertion, which is the word `VALUES` anywhere, or `INSERT`, a gap, `INTO`
and one more character on the line. If it has not, it is no insertion. -/
theorem check_rule (query : Text) :
    let kept := stripClause query
    (check query = .ok () ↔ ∃ front, Viable kept front) ∧
      (check query = .error .valuesNotRecognized ↔
        (∀ front, ¬ Viable kept front) ∧ ("VALUES".toList <:+: kept ∨ HoldsInsertInto kept)) ∧
      (check query = .error .statementNotRecognized ↔
        (∀ front, ¬ Viable kept front) ∧ ¬ "VALUES".toList <:+: kept ∧ ¬ HoldsInsertInto kept) := by
  intro kept
  have hshape : hasInsertShape kept = true ↔ "VALUES".toList <:+: kept ∨ HoldsInsertInto kept :=
    hasInsertShape_eq_true_iff
  have hcheck : check query = if !hasInsertShape kept then .error .statementNotRecognized
      else if (capture? kept).isNone then .error .valuesNotRecognized else .ok () := rfl
  by_cases hviable : ∃ front, Viable kept front
  · have hword : hasInsertShape kept = true := hshape.2 (.inl hviable.choose_spec.isInfix)
    have hfound : (capture? kept).isNone = false := by
      rw [← Bool.not_eq_true, Option.isNone_iff_eq_none, capture?_eq_none_iff, not_forall_not]
      exact hviable
    rw [hcheck, hword, hfound]
    have hnot : ¬ ∀ front, ¬ Viable kept front := not_forall_not.2 hviable
    exact ⟨iff_of_true rfl hviable, iff_of_false nofun fun h => hnot h.1,
      iff_of_false nofun fun h => hnot h.1⟩
  · have hnone : (capture? kept).isNone = true := by
      rw [Option.isNone_iff_eq_none, capture?_eq_none_iff]
      exact not_exists.1 hviable
    rw [hcheck, hnone, ← not_or, ← hshape]
    by_cases hinsert : hasInsertShape kept = true
    · rw [hinsert]
      exact ⟨iff_of_false nofun hviable, iff_of_true rfl ⟨not_exists.1 hviable, rfl⟩,
        iff_of_false nofun fun h => h.2 rfl⟩
    · rw [Bool.eq_false_iff.2 hinsert]
      exact ⟨iff_of_false nofun hviable, iff_of_false nofun fun h => Bool.false_ne_true h.2,
        iff_of_true rfl ⟨not_exists.1 hviable, Bool.false_ne_true⟩⟩

/-- A gap may be read past the first `*/` in it. -/
example : check "INSERT /* a */ b */ INTO t".toList = .error .valuesNotRecognized := by
  decide +kernel

/-! ### Recognition and extraction -/

/-- A statement that is not recognised has no tuple. -/
theorem extractTuple_of_check_error {query : Text} {error : InsertError}
    (h : check query = .error error) : extractTuple query = .error .unparsableValues := by
  have hnone : capture? (stripClause query) = none := by
    rw [← Option.not_isSome_iff_eq_none, ← check_eq_ok_iff, h]
    exact nofun
  rw [extractTuple, hnone]

/-- A recognised statement has a chosen tuple, and only a blank pair in it keeps it from being
extracted. -/
theorem exists_chosen_of_check {query : Text} (h : check query = .ok ()) :
    ∃ front k, Chosen (stripClause query) front k ∧
      (BlankPair k.tuple → extractTuple query = .error .unparsableValues) ∧
      (¬ BlankPair k.tuple → extractTuple query = .ok k.tuple) := by
  obtain ⟨k, hk⟩ := Option.isSome_iff_exists.1 (check_eq_ok_iff.1 h)
  obtain ⟨front, hchosen⟩ := capture?_eq_some_iff.1 hk
  exact ⟨front, k, hchosen, extractTuple_of_capture? hk⟩

end BulkInsert.Statement
