import BulkInsert.Proofs.Statement.Places

/-!
# Statements on one line

`INSERT INTO`, a table with or without a list of columns, `VALUES` and a tuple of items, all on one
line with nothing behind: `LineStatement`. Such a statement is supported, but recognition does not
read its items, it looks for patterns in them. `recognised_whole_iff` says when that is harmless:
the statement is recognised and its whole tuple extracted exactly when every place in the tuple is
`Place.Harmless`. What is not is rare but can be written, `recognised_whole_fails`.

In front of the tuple there are no quotes, and the words of a clause are not met there. So nothing
is stripped when no words count in the tuple, and then the last `VALUES` with a parenthesis behind
it is the one in front of the tuple. The other way round there is something to see only where a
clause is stripped. What is left could still hold the text of the tuple, further in front; but then
it holds all the quotes of the statement, and behind the words of a clause in a literal there is one
more.
-/

namespace BulkInsert.Statement

open Text

/-! ### Statements -/

/-- Spacing that is not empty. -/
structure Blanks extends Spacing where
  ne_nil : text ≠ []

/-- A column of a list, with what stands around its name. -/
structure Column where
  before : Spacing
  name : Word
  behind : Spacing

/-- A list of columns, as items. -/
def columnItems : Column → List Column → Items
  | column, [] => .spaced column.before (.word column.name) column.behind
  | column, next :: rest =>
      .comma (.spaced column.before (.word column.name) column.behind) (columnItems next rest)

/-- What is inserted into. -/
inductive Target
  | table (name : Word) (blanks : Blanks)
  | columns (name : Word) (spacing : Spacing) (first : Column) (rest : List Column)
      (behind : Spacing)

/-- How it is written, up to the word `VALUES`. -/
def Target.text : Target → Text
  | table name blanks => name.text ++ blanks.text
  | columns name spacing first rest behind =>
      (name.text ++ (spacing.text ++ ['('])) ++
        ((columnItems first rest).text ++ ([')'] ++ behind.text))

/-- A **statement on one line**. -/
structure LineStatement where
  afterInsert : Blanks
  afterInto : Blanks
  target : Target
  afterValues : Spacing
  items : Items

namespace LineStatement

/-- What stands in front of `VALUES`. -/
def front (s : LineStatement) : Text :=
  "INSERT".toList ++ (s.afterInsert.text ++ ("INTO".toList ++ (s.afterInto.text ++ s.target.text)))

/-- The tuple. -/
def tuple (s : LineStatement) : Text := ['('] ++ (s.items.text ++ [')'])

/-- How the statement is written. -/
def text (s : LineStatement) : Text :=
  s.front ++ ("VALUES".toList ++ (s.afterValues.text ++ s.tuple))

/-- The places in the tuple. -/
def places (s : LineStatement) : List Place := s.items.places [')']

end LineStatement

/-- A place is **harmless** when none of the three patterns is met there. -/
structure Place.Harmless (place : Place) : Prop where
  not_opens : ¬ place.Opens
  not_holdsPair : ¬ place.HoldsPair
  not_counts : ¬ place.Counts

/-! ### In front of the tuple -/

/-- In a list of columns there are no places. -/
theorem places_columnItems (column : Column) (rest : List Column) (tail : Text) :
    (columnItems column rest).places tail = [] := by
  induction rest generalizing column with
  | nil => rfl
  | cons next rest ih =>
      rw [columnItems, Items.places, ih next]
      rfl

/-- In front of `VALUES` the line does not end. -/
theorem Target.lineBreak_not_mem_text (target : Target) : '\n' ∉ target.text := by
  cases target with
  | table name blanks => simp [text, name.lineBreak_not_mem, blanks.notMem]
  | columns name spacing first others behind =>
      simp [text, name.lineBreak_not_mem, spacing.notMem, behind.notMem,
        (columnItems first others).lineBreak_not_mem_text]

/-- In front of `VALUES` there are no quotes. -/
theorem Target.countP_isQuote_text (target : Target) : target.text.countP isQuote = 0 := by
  cases target with
  | table name blanks =>
      rw [text, List.countP_append, name.countP_isQuote, countP_isQuote_of_blanks blanks.isBlank_eq]
  | columns name spacing first others behind =>
      have hcolumns := (columnItems first others).countP_isQuote_of_places_eq_nil
        (places_columnItems first others [])
      simp only [text, List.countP_append, name.countP_isQuote, hcolumns,
        countP_isQuote_of_blanks spacing.isBlank_eq, countP_isQuote_of_blanks behind.isBlank_eq]
      decide

section

variable {Counts : Nat → Prop} {At : Place → Prop}

/-- The words of a clause are not met in `INTO`, with blanks behind it. -/
theorem clausePattern_not_metIn_into (blanks : Blanks) (rest : Text) :
    ¬ (clausePattern Counts).MetIn "INTO".toList (blanks.text ++ rest) := by
  change ¬ (clausePattern Counts).MetIn ("INT".toList ++ ['O']) (blanks.text ++ rest)
  rw [Pattern.metIn_append, Pattern.metIn_singleton, not_or]
  refine ⟨clausePattern_not_metIn (by decide), ?_⟩
  rintro ⟨_, tail, heq, ⟨gap, gap', rfl, -⟩, -⟩
  obtain ⟨b, behind, hblanks⟩ := List.exists_cons_of_ne_nil blanks.ne_nil
  have hb : isBlank b = true := blanks.isBlank_eq b (by simp [hblanks])
  rw [hblanks] at heq
  obtain rfl : b = 'N' := (List.cons.inj (List.cons.inj heq).2).1
  exact absurd hb (by decide)

/-- The words of a clause are not met in the name of a table, nor in its columns. -/
theorem Target.clausePattern_not_metIn_text (h : (clausePattern Counts).Located At)
    (target : Target) {rest : Text} (hrest : Even (rest.count '\x27')) :
    ¬ (clausePattern Counts).MetIn target.text ("VALUES".toList ++ rest) := by
  cases target with
  | table name blanks =>
      rw [text, Pattern.metIn_append, not_or]
      refine ⟨h.not_metIn_word name.isWordChar_eq blanks.isBlank_eq (.inl blanks.ne_nil)
        (by decide) fun read hread => ?_, h.not_metIn_of_blanks blanks.isBlank_eq⟩
      rw [ClauseWords.next?_eq hread]
      decide
  | columns name spacing first others behind =>
      have hends : Ends (')' :: (behind.text ++ ("VALUES".toList ++ rest))) := by
        refine ⟨⟨[], ')', _, rfl, List.forall_mem_nil _, .inr rfl⟩, ?_⟩
        simpa [behind.count_apostrophe] using hrest
      have hcolumns := h.metIn_text_iff (columnItems first others) hends
      rw [places_columnItems] at hcolumns
      have hlist : ¬ (clausePattern Counts).MetIn
          ((columnItems first others).text ++ ([')'] ++ behind.text))
          ("VALUES".toList ++ rest) := by
        rw [Pattern.metIn_append, List.append_assoc, List.singleton_append, hcolumns,
          Pattern.metIn_append, not_or, not_or]
        exact ⟨by simp, clausePattern_not_metIn (by decide),
          h.not_metIn_of_blanks behind.isBlank_eq⟩
      rw [text, Pattern.metIn_append, not_or]
      exact ⟨clausePattern_not_metIn_call Counts name.isWordChar_eq spacing.isBlank_eq _, hlist⟩

end

/-- Where an occurrence of `VALUES` is viable, the pattern for it is met. -/
theorem Viable.metIn {t front : Text} (h : Viable t front) : valuesPattern.MetIn t [] := by
  obtain ⟨blanks, group, rest, rfl, hblanks, hgroup⟩ := h
  obtain ⟨inside, rfl⟩ := hgroup.exists_cons
  exact valuesPattern_lexical.metIn_whole_iff.2
    ⟨front, _, inside ++ rest, by simp, ⟨blanks, rfl, hblanks⟩, trivial⟩

namespace LineStatement

variable (s : LineStatement)

/-- The parts of a statement. -/
theorem text_eq : s.text =
    ("INSERT".toList ++ (s.afterInsert.text ++ ("INTO".toList ++ (s.afterInto.text ++
      s.target.text)))) ++ ("VALUES".toList ++ (s.afterValues.text ++ s.tuple)) := rfl

theorem lineBreak_not_mem_text : '\n' ∉ s.text := by
  simp only [text_eq, tuple, List.mem_append, not_or]
  exact ⟨⟨by decide, s.afterInsert.notMem, by decide, s.afterInto.notMem,
    s.target.lineBreak_not_mem_text⟩, by decide, s.afterValues.notMem, by decide,
    s.items.lineBreak_not_mem_text, by decide⟩

/-- All quotes of a statement stand in its tuple. -/
theorem countP_isQuote_text : s.text.countP isQuote = s.tuple.countP isQuote := by
  have hinsert : "INSERT".toList.countP isQuote = 0 := by decide
  have hinto : "INTO".toList.countP isQuote = 0 := by decide
  have hvalues : "VALUES".toList.countP isQuote = 0 := by decide
  simp only [text_eq, List.countP_append, hinsert, hinto, hvalues,
    countP_isQuote_of_blanks s.afterInsert.isBlank_eq,
    countP_isQuote_of_blanks s.afterInto.isBlank_eq, s.target.countP_isQuote_text,
    countP_isQuote_of_blanks s.afterValues.isBlank_eq, Nat.zero_add]

/-- The tuple is a group. -/
theorem isGroup_tuple : IsGroup s.tuple := by
  obtain ⟨front, c, htext, -⟩ := s.items.exists_text_eq_concat
  exact ⟨s.items.text, rfl, by simp [htext], s.items.lineBreak_not_mem_text⟩

/-! ### Where patterns are met -/

section

variable {p : Pattern} {At : Place → Prop}

/-- In the tuple a pattern is met at the places there, or at the tuple itself, as at a call without
a name. -/
theorem metIn_tuple_iff (h : p.Located At) : p.MetIn s.tuple [] ↔
    At (.call [] s.items.text) ∨ ∃ place ∈ s.places, At place := by
  rw [places, ← h.metIn_text_iff s.items ends_closeParen]
  exact @Pattern.Located.metIn_call_iff p At h [] [] _ (List.forall_mem_nil _)
    (List.forall_mem_nil _) s.items.head?_skipBlanks_text []

/-- In front of the tuple the words of a clause are not met. -/
theorem clausePattern_metIn_text_iff {Counts : Nat → Prop}
    (h : (clausePattern Counts).Located At) :
    (clausePattern Counts).MetIn s.text [] ↔ (clausePattern Counts).MetIn s.tuple [] := by
  have heven : Even ((s.afterValues.text ++ s.tuple).count '\x27') := by
    simpa [s.afterValues.count_apostrophe, tuple] using s.items.even_count_text
  have hinsert (rest : Text) : ¬ (clausePattern Counts).MetIn "INSERT".toList rest :=
    clausePattern_not_metIn (by decide)
  have hvalues (rest : Text) : ¬ (clausePattern Counts).MetIn "VALUES".toList rest :=
    clausePattern_not_metIn (by decide)
  have htarget := s.target.clausePattern_not_metIn_text h heven
  rw [text_eq]
  simp only [Pattern.metIn_append, hinsert, hvalues, clausePattern_not_metIn_into, htarget,
    h.not_metIn_of_blanks s.afterInsert.isBlank_eq, h.not_metIn_of_blanks s.afterInto.isBlank_eq,
    h.not_metIn_of_blanks s.afterValues.isBlank_eq, List.append_nil, List.append_assoc,
    false_or]

end

/-! ### Recognition -/

/-- A viable occurrence behind the word of the statement is one in the tuple. -/
theorem metIn_tuple_of_viable {other : Text} (hviable : Viable s.text other)
    (hlength : s.front.length < other.length) : valuesPattern.MetIn s.tuple [] := by
  obtain ⟨between, rfl⟩ : s.front <+: other := List.prefix_of_prefix_length_le
    (List.prefix_append _ _) hviable.isPrefix hlength.le
  have hbetween : Viable ('V' :: ("ALUES".toList ++ (s.afterValues.text ++ s.tuple))) between :=
    (viable_append_iff s.front).1 hviable
  rcases between with - | ⟨c, between⟩
  · simp at hlength
  · have hmet := hbetween.of_cons.2.metIn
    have hvalues : ¬ valuesPattern.MetIn "ALUES".toList (s.afterValues.text ++ s.tuple ++ []) :=
      valuesPattern_lexical.not_metIn_of_notMem (fun _ => head?_of_valuesPattern) (by decide)
    have hblanks : ¬ valuesPattern.MetIn s.afterValues.text (s.tuple ++ []) :=
      valuesPattern_lexical.not_metIn_of_blanks s.afterValues.isBlank_eq
    rwa [Pattern.metIn_append, or_iff_right hvalues, Pattern.metIn_append,
      or_iff_right hblanks] at hmet

/-- Where `VALUES` opens no other group in the tuple, the tuple is what is chosen. -/
theorem chosen_of_not_metIn (hvalues : ¬ valuesPattern.MetIn s.tuple []) :
    Chosen s.text s.front ⟨s.front ++ ("VALUES".toList ++ s.afterValues.text), s.tuple, []⟩ where
  text_eq := by simp [Capture.text, text]
  before_eq := ⟨s.afterValues.text, s.afterValues.isBlank_eq, rfl⟩
  isGroup := s.isGroup_tuple
  last_close := List.not_mem_nil
  preferred other hviable := by
    have hline := s.lineBreak_not_mem_text
    have hfront : '\n' ∉ s.front := fun hmem => hline (List.mem_append_left _ hmem)
    have hother : '\n' ∉ other := fun hmem => hline (hviable.isPrefix.subset hmem)
    refine .inr ⟨?_, ?_⟩
    · rw [List.count_eq_zero_of_not_mem hfront, List.count_eq_zero_of_not_mem hother]
    · by_contra hlength
      exact hvalues (s.metIn_tuple_of_viable hviable (Nat.lt_of_not_le hlength))

/-- When the tuple is extracted, the statement was not stripped. -/
theorem stripClause_of_extractTuple (h : extractTuple s.text = .ok s.tuple) :
    stripClause s.text = s.text := by
  obtain ⟨stripped, htext, -, rfl | ⟨blanks, words, tail, rfl, hblanks, hwords, -⟩⟩ :=
    exists_stripped s.text
  · rw [List.append_nil] at htext
    exact htext.symm
  · exfalso
    obtain ⟨k, hk, htuple, -⟩ := extractTuple_eq_ok_iff.1 h
    -- What is left holds the text of the tuple, so it holds all the quotes.
    have hquotes : s.tuple.countP isQuote ≤ (stripClause s.text).countP isQuote := by
      rw [← text_of_capture? hk, Capture.text, htuple, List.countP_append, List.countP_append]
      omega
    have hzero : tail.countP isQuote = 0 := by
      have hcount := congrArg (List.countP isQuote) htext
      rw [s.countP_isQuote_text, List.countP_append, List.countP_append, List.countP_append]
        at hcount
      omega
    have hmet : (clausePattern (· = 0)).MetIn s.text [] :=
      (clausePattern_lexical _).metIn_whole_iff.2 ⟨stripClause s.text ++ blanks, words, tail,
        by rw [List.append_assoc, ← htext], hwords, hzero⟩
    rw [s.clausePattern_metIn_text_iff clausePattern_located_zero,
      s.metIn_tuple_iff clausePattern_located_zero] at hmet
    simp at hmet

/-- From every parenthesis that is opened in the tuple a group goes to its end. -/
theorem isGroup_of_tuple_eq {before tail : Text} (h : s.tuple = before ++ '(' :: tail) :
    IsGroup ('(' :: tail) := by
  obtain ⟨front, c, htext, hc⟩ := s.items.exists_text_eq_concat
  have hwhole : ('(' :: s.items.text) ++ [')'] = before ++ '(' :: tail := h
  rcases List.eq_nil_or_concat' tail with rfl | ⟨body, d, rfl⟩
  · obtain ⟨-, hclose⟩ := List.append_inj' hwhole rfl
    exact absurd hclose (by decide)
  · rw [← List.cons_append, ← List.append_assoc] at hwhole
    obtain ⟨hinside, hclose⟩ := List.append_inj' hwhole rfl
    obtain rfl := List.singleton_inj.1 hclose
    refine ⟨body, rfl, ?_, fun hmem => s.lineBreak_not_mem_text (by simp [text, h, hmem])⟩
    -- Without a body the items would end in the parenthesis that is opened.
    rintro rfl
    have hlast : ('(' :: front) ++ [c] = before ++ ['('] := by
      rw [← hinside, htext, List.cons_append]
    exact hc (List.singleton_inj.1 (List.append_inj' hlast rfl).2)

/-- When the whole tuple is chosen, `VALUES` opens no other group there. -/
theorem not_metIn_of_chosen {front : Text} {k : Capture} (h : Chosen s.text front k)
    (htuple : k.tuple = s.tuple) : ¬ valuesPattern.MetIn s.tuple [] := by
  rw [valuesPattern_lexical.metIn_whole_iff]
  rintro ⟨before, _, tail, heq, ⟨blanks, rfl, hblanks⟩, -⟩
  have hopened : s.tuple = before ++ ("VALUES".toList ++ blanks) ++ '(' :: tail := by simp [heq]
  have hgroup : IsGroup ('(' :: tail) := s.isGroup_of_tuple_eq hopened
  have hviable : Viable s.text (s.front ++ ("VALUES".toList ++ (s.afterValues.text ++ before))) :=
    ⟨blanks, _, [], by simp [text, heq], hblanks, hgroup⟩
  -- The occurrence stands too far behind for what is chosen to be the tuple.
  have hlength : front.length ≤ s.front.length + s.afterValues.text.length := by
    obtain ⟨gap, -, hbefore⟩ := h.before_eq
    have hcount := congrArg List.length h.text_eq
    rw [Capture.text, htuple, hbefore, text] at hcount
    simp only [List.length_append] at hcount
    omega
  rcases h.preferred _ hviable with hlines | ⟨-, hbehind⟩
  · rw [List.count_eq_zero_of_not_mem fun hmem =>
      s.lineBreak_not_mem_text (hviable.isPrefix.subset hmem)] at hlines
    exact absurd hlines (Nat.not_lt_zero _)
  · simp only [List.length_append] at hbehind
    have hword : "VALUES".toList.length = 6 := rfl
    omega

/-- **Which statements on one line are recognised whole.** A statement on one line is accepted and
its whole tuple extracted exactly when every literal and every call in the tuple is harmless. In a
literal three things are not: `VALUES` with a parenthesis opened behind it, a blank pair of
parentheses, and the words of a clause with an odd number of quotes of the two other kinds behind
them in the tuple. In a call two are not: a name that ends in `VALUES`, and arguments that consist
of blanks, at least one. -/
theorem recognised_whole_iff :
    (check s.text = .ok () ∧ extractTuple s.text = .ok s.tuple) ↔
      ∀ place ∈ s.places, place.Harmless := by
  constructor
  · rintro ⟨-, htuple⟩
    have hkept := s.stripClause_of_extractTuple htuple
    obtain ⟨k, hk, hwhole, hpair⟩ := extractTuple_eq_ok_iff.1 htuple
    rw [hkept] at hk
    obtain ⟨front, hchosen⟩ := capture?_eq_some_iff.1 hk
    have hvalues := s.not_metIn_of_chosen hchosen hwhole
    have hclause := stripClause_eq_self_iff.1 hkept
    rw [← Bool.not_eq_true, holdsBlankParens_eq_true_iff, blankPair_iff_metIn] at hpair
    rw [s.clausePattern_metIn_text_iff clausePattern_located,
      s.metIn_tuple_iff clausePattern_located] at hclause
    rw [s.metIn_tuple_iff valuesPattern_located] at hvalues
    rw [s.metIn_tuple_iff blankPairPattern_located] at hpair
    exact fun place hplace => ⟨fun h => hvalues (.inr ⟨place, hplace, h⟩),
      fun h => hpair (.inr ⟨place, hplace, h⟩), fun h => hclause (.inr ⟨place, hplace, h⟩)⟩
  · intro hall
    have hvalues : ¬ valuesPattern.MetIn s.tuple [] := by
      rw [s.metIn_tuple_iff valuesPattern_located]
      rintro (hcall | ⟨place, hplace, hopens⟩)
      · exact absurd (List.suffix_nil.1 hcall) (by decide)
      · exact (hall place hplace).not_opens hopens
    have hpair : ¬ blankPairPattern.MetIn s.tuple [] := by
      rw [s.metIn_tuple_iff blankPairPattern_located]
      rintro (⟨-, hblank⟩ | ⟨place, hplace, hholds⟩)
      · obtain ⟨blanks, c, rest, htext, -, hc, -⟩ := s.items.exists_text_eq_append_cons
        exact Bool.false_ne_true (hc.symm.trans (hblank c (by simp [htext])))
      · exact (hall place hplace).not_holdsPair hholds
    have hclause : ¬ (clausePattern Even).MetIn s.text [] := by
      rw [s.clausePattern_metIn_text_iff clausePattern_located,
        s.metIn_tuple_iff clausePattern_located]
      rintro (hcall | ⟨place, hplace, hcounts⟩)
      · exact hcall
      · exact (hall place hplace).not_counts hcounts
    have hcapture := capture?_eq_some_iff.2 ⟨_, s.chosen_of_not_metIn hvalues⟩
    rw [← stripClause_eq_self_iff.2 hclause] at hcapture
    have htuple := (extractTuple_of_capture? hcapture).2 (mt blankPair_iff_metIn.1 hpair)
    exact ⟨check_of_extractTuple htuple, htuple⟩

/-- Quoted commas, parentheses and apostrophes are harmless, and so are calls without arguments and
words that count nowhere. -/
example : extractTuple
    "INSERT INTO t (a, b) VALUES (?, -1, NULL, 'it''s (ON DUPLICATE KEY), VALUES', now())".toList =
      .ok "(?, -1, NULL, 'it''s (ON DUPLICATE KEY), VALUES', now())".toList := by decide +kernel

end LineStatement

/-- Three statements on one line that are not recognised whole. From the first the group in its
literal is extracted, with what follows it. The second is stripped in the middle of its literal,
because behind the words there are two quotes, one of each kind. The third has a tuple of one call
without arguments, which is refused as a blank tuple. -/
theorem recognised_whole_fails :
    let space : Blanks := ⟨⟨" ".toList, by simp [isBlank], by decide⟩, by decide⟩
    let tight : Spacing := ⟨[], by simp, by simp⟩
    let table : Target := .table ⟨"t".toList, by decide, List.all_eq_true.1 (by decide)⟩ space
    let statement (items : Items) : LineStatement :=
      ⟨space, space, table, space.toSpacing, items⟩
    let group := statement (.literal ⟨"VALUES (x)".toList, by decide⟩)
    let clause := statement (.literal ⟨"a ON DUPLICATE KEY \"b".toList, by decide⟩)
    let now : Word := ⟨"NOW".toList, by decide, List.all_eq_true.1 (by decide)⟩
    let pair := statement (.blankCall now tight space.toSpacing)
    (group.text = "INSERT INTO t VALUES ('VALUES (x)')".toList ∧
      group.tuple = "('VALUES (x)')".toList ∧
      check group.text = .ok () ∧ extractTuple group.text = .ok "(x)')".toList) ∧
    (clause.text = "INSERT INTO t VALUES ('a ON DUPLICATE KEY \"b')".toList ∧
      clause.tuple = "('a ON DUPLICATE KEY \"b')".toList ∧
      check clause.text = .error .valuesNotRecognized ∧
      extractTuple clause.text = .error .unparsableValues) ∧
    (pair.text = "INSERT INTO t VALUES (NOW( ))".toList ∧ pair.tuple = "(NOW( ))".toList ∧
      check pair.text = .ok () ∧ extractTuple pair.text = .error .unparsableValues) := by
  decide +kernel

end BulkInsert.Statement
