import BulkInsert.Proofs.Statement.Items
import Mathlib.Algebra.Ring.Parity

/-!
# Patterns in items

In the items of a tuple a pattern can be met at their places only, which are the contents of
literals and the calls. `Pattern.Located` says what it means for a pattern to be met at one place,
and then it is met in the items when it is met at one of their places: `metIn_text_iff`. The proof
goes by the items. What stands behind an item is not arbitrary, `Ends`: behind blanks there is a
comma or a closing parenthesis, and the apostrophes there are even in number.

`Place.Opens`, `Place.HoldsPair` and `Place.Counts` are what the three patterns are located by. In
a literal `VALUES` and blank pairs are met as they stand there. The words of a clause count in it
when the quotes of the two other kinds behind them are odd in number: the apostrophes behind them
always are, with the one that ends the literal.
-/

namespace BulkInsert.Statement

open Text

/-! ### What stands behind items -/

/-- `Ends rest`: what may stand behind an item. Behind blanks comes a comma or a closing
parenthesis, and there are evenly many apostrophes. -/
structure Ends (rest : Text) : Prop where
  exists_delimiter : ∃ blanks d tail, rest = blanks ++ d :: tail ∧
    (∀ b ∈ blanks, isBlank b = true) ∧ (d = ',' ∨ d = ')')
  even : Even (rest.count '\x27')

theorem ends_closeParen : Ends [')'] :=
  ⟨⟨[], ')', [], rfl, List.forall_mem_nil _, .inr rfl⟩, by decide⟩

namespace Ends

variable {rest : Text} (h : Ends rest)

include h

theorem closeParen_cons : Ends (')' :: rest) :=
  ⟨⟨[], ')', rest, rfl, List.forall_mem_nil _, .inr rfl⟩, h.even⟩

theorem spacing_append (spacing : Spacing) : Ends (spacing.text ++ rest) where
  exists_delimiter := by
    obtain ⟨blanks, d, tail, rfl, hblanks, hd⟩ := h.exists_delimiter
    exact ⟨spacing.text ++ blanks, d, tail, by rw [List.append_assoc],
      List.forall_mem_append.2 ⟨spacing.isBlank_eq, hblanks⟩, hd⟩
  even := by
    rw [List.count_append, spacing.count_apostrophe, Nat.zero_add]
    exact h.even

theorem comma_cons (items : Items) : Ends (',' :: (items.text ++ rest)) where
  exists_delimiter := ⟨[], ',', _, rfl, List.forall_mem_nil _, .inl rfl⟩
  even := by
    rw [List.count_cons_of_ne (by decide), List.count_append]
    exact items.even_count_text.add h.even

end Ends

/-! ### Where patterns are met -/

/-- The pattern is **located** by a property of places: it is met in a literal when the literal has
that property, and where a name is called when the call has it. -/
structure Pattern.Located (p : Pattern) (At : Place → Prop) : Prop extends p.Lexical where
  literal : ∀ {content rest}, Ends rest →
    (p.MetIn (doubled content) ('\x27' :: rest) ↔ At (.literal content rest))
  call : ∀ {name blanks arguments : Text}, (∀ c ∈ name, isWordChar c = true) →
    (∀ b ∈ blanks, isBlank b = true) → (skipBlanks arguments).head? ≠ some ')' → ∀ rest,
      (p.MetIn (name ++ (blanks ++ ['('])) (arguments ++ ')' :: rest) ↔ At (.call name arguments))

namespace Pattern.Located

variable {p : Pattern} {At : Place → Prop} (h : p.Located At)

include h

/-- No pattern is met in a word with an item's end behind it. -/
theorem not_metIn_word_of_ends (name : Word) {rest : Text} (hrest : Ends rest) :
    ¬ p.MetIn name.text rest := by
  obtain ⟨blanks, d, tail, rfl, hblanks, hd⟩ := hrest.exists_delimiter
  have hdelimiter : isWordChar d = false ∧ isBlank d = false := by
    rcases hd with rfl | rfl <;> decide
  refine h.not_metIn_word name.isWordChar_eq hblanks (.inr hdelimiter.1) hdelimiter.2 ?_
  intro read hread heq
  obtain ⟨c, hc, hcomma, hclose⟩ := h.next hread
  obtain rfl : c = d := Option.some.inj (hc.symm.trans heq)
  exact hd.elim hcomma hclose

/-- Where a name is called, a pattern is met at the call or in the arguments. -/
theorem metIn_call_iff {name blanks arguments : Text} (hname : ∀ c ∈ name, isWordChar c = true)
    (hblanks : ∀ b ∈ blanks, isBlank b = true)
    (harguments : (skipBlanks arguments).head? ≠ some ')') (rest : Text) :
    p.MetIn ((name ++ (blanks ++ ['('])) ++ (arguments ++ [')'])) rest ↔
      At (.call name arguments) ∨ p.MetIn arguments (')' :: rest) := by
  have hclose : ¬ p.MetIn [')'] rest := h.not_metIn_singleton (by decide) (by decide)
  have hbehind : p.MetIn (arguments ++ [')']) rest ↔ p.MetIn arguments (')' :: rest) := by
    rw [metIn_append, or_iff_left hclose, List.singleton_append]
  rw [metIn_append, hbehind, List.append_assoc, List.singleton_append,
    h.call hname hblanks harguments rest]

/-- **Where a pattern is met.** In items a pattern is met at their places and nowhere else. -/
theorem metIn_text_iff (items : Items) {rest : Text} (hrest : Ends rest) :
    p.MetIn items.text rest ↔ ∃ place ∈ items.places rest, At place := by
  induction items generalizing rest with
  | word name =>
      exact iff_of_false (h.not_metIn_word_of_ends name hrest) (by simp [Items.places])
  | literal content =>
      have hquote (tail : Text) : ¬ p.MetIn ['\x27'] tail :=
        h.not_metIn_singleton (by decide) (by decide)
      rw [Items.text, metIn_append, metIn_append, or_iff_right (hquote _), or_iff_left (hquote _),
        List.singleton_append, h.literal hrest]
      simp [Items.places]
  | call name spacing arguments ih =>
      rw [Items.text, h.metIn_call_iff name.isWordChar_eq spacing.isBlank_eq
        arguments.head?_skipBlanks_text, ih hrest.closeParen_cons]
      simp [Items.places]
  | blankCall name spacing blanks =>
      rw [Items.text, h.metIn_call_iff name.isWordChar_eq spacing.isBlank_eq
        blanks.head?_skipBlanks, or_iff_left (h.not_metIn_of_blanks blanks.isBlank_eq)]
      simp [Items.places]
  | spaced before items behind ih =>
      rw [Items.text, metIn_append, metIn_append, or_iff_right
        (h.not_metIn_of_blanks before.isBlank_eq), or_iff_left
        (h.not_metIn_of_blanks behind.isBlank_eq), ih (hrest.spacing_append behind)]
      rfl
  | comma first others ih ih' =>
      have hcomma : ¬ p.MetIn [','] (others.text ++ rest) :=
        h.not_metIn_singleton (by decide) (by decide)
      rw [Items.text, metIn_append, metIn_append, or_iff_right hcomma, List.append_assoc,
        List.singleton_append, ih (hrest.comma_cons others), ih' hrest]
      simp [Items.places, or_and_right, exists_or]

end Pattern.Located

/-! ### The places of the three patterns -/

/-- The number of quotes other than apostrophes. -/
def foreignQuotes (t : Text) : Nat := t.countP fun c => c == '\x22' || c == '\x60'

namespace Place

/-- `VALUES` stands in front of an opening parenthesis. In a literal that is so when it stands
there with its parenthesis, and a call opens one behind its name. -/
def Opens : Place → Prop
  | literal content _ => ∃ front blanks tail,
      content = front ++ ("VALUES".toList ++ (blanks ++ '(' :: tail)) ∧
        ∀ b ∈ blanks, isBlank b = true
  | call name _ => "VALUES".toList <:+ name

/-- A blank pair of parentheses stands there. -/
def HoldsPair : Place → Prop
  | literal content _ => BlankPair content
  | call _ arguments => arguments ≠ [] ∧ ∀ b ∈ arguments, isBlank b = true

/-- The words of a clause stand there, and they count. -/
def Counts : Place → Prop
  | literal content behind => ∃ front words tail, content = front ++ (words ++ tail) ∧
      ClauseWords words ∧ Odd (foreignQuotes (tail ++ behind))
  | call _ _ => False

end Place

/-- Between a name and its arguments there is nothing but blanks and a parenthesis. -/
theorem not_mem_blanks_concat {blanks : Text} (hblanks : ∀ b ∈ blanks, isBlank b = true) {c : Char}
    (hc : isBlank c = false) (hparen : c ≠ '(') : c ∉ blanks ++ ['('] := by
  rw [List.mem_append, List.mem_singleton, not_or]
  exact ⟨fun hmem => Bool.false_ne_true (hc.symm.trans (hblanks c hmem)), hparen⟩

theorem valuesPattern_located : valuesPattern.Located Place.Opens where
  toLexical := valuesPattern_lexical
  literal := by
    intro content rest _
    rw [valuesPattern_lexical.metIn_doubled_iff]
    constructor
    · rintro ⟨front, _, tail, rfl, ⟨blanks, rfl, hblanks⟩, -⟩
      exact ⟨front, blanks, tail, by simp, hblanks⟩
    · rintro ⟨front, blanks, tail, rfl, hblanks⟩
      exact ⟨front, _, tail, by simp, ⟨blanks, rfl, hblanks⟩, trivial⟩
  call := by
    intro name blanks arguments hname hblanks _ rest
    have hbehind : ¬ valuesPattern.MetIn (blanks ++ ['(']) (arguments ++ ')' :: rest) := by
      refine valuesPattern_lexical.not_metIn_of_notMem (fun _ => head?_of_valuesPattern) ?_
      exact not_mem_blanks_concat hblanks (by decide) (by decide)
    rw [Pattern.metIn_append, or_iff_left hbehind, List.append_assoc, List.singleton_append]
    constructor
    · rintro ⟨front, word, rfl, -, _, tail, heq, ⟨gap, rfl, hgap⟩, -⟩
      have hword : ∀ c ∈ word, isWordChar c = true :=
        fun c hc => hname c (List.mem_append_right front hc)
      rw [List.append_assoc, List.append_assoc, List.singleton_append] at heq
      have hparen : isWordChar '(' = false := by decide
      have hdrop := dropWhile_isWordChar hword hblanks (.inr hparen) (arguments ++ ')' :: rest)
      rw [heq, dropWhile_isWordChar (List.all_eq_true.1 (by decide)) hgap (.inr hparen)] at hdrop
      rw [hdrop] at heq
      rw [List.append_cancel_right heq]
      exact List.suffix_append front _
    · rintro ⟨front, rfl⟩
      exact ⟨front, "VALUES".toList, rfl, by decide, _, arguments ++ ')' :: rest, by simp,
        ⟨blanks, rfl, hblanks⟩, trivial⟩

theorem blankPairPattern_located : blankPairPattern.Located Place.HoldsPair where
  toLexical := blankPairPattern_lexical
  literal := by
    intro content rest _
    rw [Place.HoldsPair, blankPair_iff_metIn, blankPairPattern_lexical.metIn_doubled_iff,
      blankPairPattern_lexical.metIn_whole_iff]
    rfl
  call := by
    intro name blanks arguments hname hblanks harguments rest
    have hfront (tail : Text) : ¬ blankPairPattern.MetIn (name ++ blanks) tail := by
      refine blankPairPattern_lexical.not_metIn_of_notMem (fun _ => head?_of_blankPairPattern) ?_
      rw [List.mem_append, not_or]
      exact ⟨fun hmem => absurd (hname _ hmem) (by decide),
        fun hmem => absurd (hblanks _ hmem) (by decide)⟩
    rw [← List.append_assoc, Pattern.metIn_append, or_iff_right (hfront _),
      Pattern.metIn_singleton]
    constructor
    · rintro ⟨_, tail, heq, ⟨gap, rfl, hne, hgap⟩, -⟩
      have heq : arguments ++ ')' :: rest = gap ++ ')' :: tail := by simpa using heq
      have hskip := skipBlanks_append_delimiter (d := ')') (by decide) arguments rest
      rw [heq, skipBlanks_append hgap, skipBlanks, List.dropWhile_cons_of_neg (by decide)] at hskip
      cases hread : skipBlanks arguments with
      | nil =>
          rw [hread] at hskip
          obtain ⟨-, rfl⟩ := List.cons.inj hskip
          obtain rfl := List.append_cancel_right heq
          exact ⟨hne, hgap⟩
      | cons c behind =>
          rw [hread] at hskip harguments
          obtain ⟨rfl, -⟩ := List.cons.inj hskip
          exact absurd rfl harguments
    · rintro ⟨hne, hblank⟩
      exact ⟨'(' :: (arguments ++ [')']), rest, by simp, ⟨arguments, rfl, hne, hblank⟩, trivial⟩

/-- A quote is an apostrophe or one of the two other kinds. -/
theorem countP_isQuote_eq (t : Text) : t.countP isQuote = foreignQuotes t + t.count '\x27' := by
  induction t with
  | nil => rfl
  | cons c t ih =>
      rw [foreignQuotes] at ih ⊢
      rw [List.countP_cons, List.countP_cons, List.count_cons, ih, isQuote]
      by_cases hc : c = '\x27'
      · rw [hc]
        rfl
      · have hquote : (c == '\x27') = false := beq_eq_false_iff_ne.2 hc
        simp only [hquote, Bool.or_false]
        exact Nat.add_right_comm _ _ _

theorem foreignQuotes_append (s t : Text) :
    foreignQuotes (s ++ t) = foreignQuotes s + foreignQuotes t :=
  List.countP_append

/-- In a literal the quotes of the two other kinds are written once. -/
theorem foreignQuotes_doubled (t : Text) : foreignQuotes (doubled t) = foreignQuotes t := by
  induction t with
  | nil => rfl
  | cons c t ih =>
      have hcons : foreignQuotes (c :: t) = foreignQuotes [c] + foreignQuotes t :=
        foreignQuotes_append [c] t
      rw [doubled_cons, foreignQuotes_append, ih, hcons]
      split
      · rename_i hc
        rw [hc]
        rfl
      · rfl

/-- The quotes behind a place in a literal, with the apostrophe that ends the literal. -/
theorem countP_isQuote_doubled_append (tail rest : Text) :
    (doubled tail ++ '\x27' :: rest).countP isQuote =
      foreignQuotes (tail ++ rest) + 2 * tail.count '\x27' + rest.count '\x27' + 1 := by
  have hforeign :
      foreignQuotes (doubled tail ++ '\x27' :: rest) = foreignQuotes (tail ++ rest) := by
    rw [foreignQuotes_append, foreignQuotes_append, foreignQuotes_doubled]
    rfl
  rw [countP_isQuote_eq, hforeign, List.count_append, count_doubled, List.count_cons_self]
  omega

/-- The words of a clause are met at no call. -/
theorem clausePattern_not_metIn_call (Counts : Nat → Prop) {name blanks : Text}
    (hname : ∀ c ∈ name, isWordChar c = true) (hblanks : ∀ b ∈ blanks, isBlank b = true)
    (rest : Text) : ¬ (clausePattern Counts).MetIn (name ++ (blanks ++ ['('])) rest := by
  rw [Pattern.metIn_append, not_or]
  constructor
  · rw [List.append_assoc, List.singleton_append]
    refine (clausePattern_lexical Counts).not_metIn_word hname hblanks (.inr (by decide))
      (by decide) fun read hread => ?_
    rw [ClauseWords.next?_eq hread]
    decide
  · exact clausePattern_not_metIn (not_mem_blanks_concat hblanks (by decide) (by decide))

theorem clausePattern_located : (clausePattern Even).Located Place.Counts where
  toLexical := clausePattern_lexical Even
  literal := by
    intro content rest hrest
    have hparity (tail : Text) : Even ((doubled tail ++ '\x27' :: rest).countP isQuote) ↔
        Odd (foreignQuotes (tail ++ rest)) := by
      have heven := hrest.even
      rw [countP_isQuote_doubled_append]
      rw [Nat.even_iff] at heven ⊢
      rw [Nat.odd_iff]
      omega
    rw [(clausePattern_lexical Even).metIn_doubled_iff]
    simp only [clausePattern, hparity]
    rfl
  call hname hblanks _ rest :=
    iff_of_false (clausePattern_not_metIn_call Even hname hblanks _) id

/-- Behind words in a literal there is a quote, the one that ends it. -/
theorem clausePattern_located_zero : (clausePattern (· = 0)).Located fun _ => False where
  toLexical := clausePattern_lexical _
  literal := by
    intro content rest _
    refine iff_of_false ?_ id
    rw [(clausePattern_lexical _).metIn_doubled_iff]
    rintro ⟨front, read, tail, rfl, -, hzero⟩
    have hquotes : (doubled tail ++ '\x27' :: rest).countP isQuote = 0 := hzero
    rw [countP_isQuote_doubled_append] at hquotes
    omega
  call hname hblanks _ rest := iff_of_false (clausePattern_not_metIn_call _ hname hblanks _) id

end BulkInsert.Statement
