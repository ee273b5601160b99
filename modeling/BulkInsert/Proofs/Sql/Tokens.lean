import BulkInsert.Sql.Token
import Mathlib.Data.List.Basic
import Mathlib.Tactic.SplitIfs

/-!
# Tokens of the parts of a text

`scan_append` cuts the walk over a text anywhere; this module says where the tokens
themselves can be cut. Parentheses and commas are the places: such a character is a token
of its own wherever a token may end, and behind it the walk is between tokens again. So the
tokens of `u ++ c :: w` are those of `u`, the mark `c`, and those of `w`
(`tokensFrom_append_delimiter`), and a mark `c` among the tokens of a text comes from such
a place (`exists_of_tokensFrom_eq`).

Tokens carry their places. `Token.unplaced` forgets them, and then it does not matter
where in a text the walk began (`unplaced_tokensFrom`).
-/

namespace BulkInsert.Sql

/-- Whether a character is a parenthesis or a comma. -/
def isDelimiter (c : Char) : Bool := c == '(' || c == ')' || c == ','

namespace Mode

/-! ### Where a token may end -/

/-- Whether a token may end here: everywhere but inside a literal or a comment. -/
def endsToken : Mode → Bool
  | literal .. | opened _ | comment | star | line => false
  | between | space | word .. | number .. | minus _ | quote .. | stroke _ => true

/-- Where a token may end, a delimiter is the next one. -/
theorem step_delimiter {mode : Mode} {c : Char} (h : mode.endsToken = true)
    (hc : isDelimiter c = true) (place : Nat) :
    mode.step place c = (mode.complete place ++ [⟨.mark c, place, place + 1⟩], between) := by
  obtain rfl | rfl | rfl : c = '(' ∨ c = ')' ∨ c = ',' := by
    simpa [isDelimiter, or_assoc] using hc
  all_goals cases mode <;> first | rfl | cases h

/-- A character between tokens completes at most itself: as what is no token, or as a mark
behind which the walk is between tokens again. -/
theorem start_eq (place : Nat) (c : Char) :
    (start place c).1 = [] ∨ (start place c).1 = [⟨.unknown, place, place + 1⟩] ∨
      start place c = ([⟨.mark c, place, place + 1⟩], between) := by
  unfold start
  split_ifs <;> simp

/-- A character completes nothing, or it ends the token before it and starts another. -/
theorem step_eq (mode : Mode) (place : Nat) (c : Char) :
    (mode.step place c).1 = [] ∨
      mode.endsToken = true ∧ mode.step place c =
        (mode.complete place ++ (start place c).1, (start place c).2) := by
  cases mode <;> simp only [step, restart, complete, endsToken, List.nil_append, and_self,
    or_true, true_and, true_or] <;> split_ifs <;> simp

/-- What the end of a token completes is no delimiter. -/
theorem lexeme_ne_of_mem_complete {mode : Mode} {place : Nat} {t : Token}
    (h : t ∈ mode.complete place) {c : Char} (hc : isDelimiter c = true) :
    t.lexeme ≠ .mark c := by
  intro ht
  obtain ⟨lexeme, first, last⟩ := t
  obtain rfl : lexeme = .mark c := ht
  cases mode <;> simp only [complete, List.not_mem_nil, List.mem_cons, Token.mk.injEq,
    Lexeme.mark.injEq, reduceCtorEq, false_and, or_false] at h
  · obtain ⟨rfl, -⟩ := h
    exact absurd hc (by decide)
  · obtain ⟨rfl, -⟩ := h
    exact absurd hc (by decide)
  · obtain ⟨rfl, -⟩ | ⟨rfl, -⟩ := h <;> exact absurd hc (by decide)

/-- A delimiter among the tokens that a character completes is the last of them: it is that
character, and a token ended before it. -/
theorem eq_of_step_eq {mode : Mode} {place : Nat} {c d : Char} {front back : List Token}
    {t : Token} (h : (mode.step place d).1 = front ++ t :: back)
    (hc : isDelimiter c = true) (ht : t.lexeme = .mark c) :
    d = c ∧ mode.endsToken = true ∧ front = mode.complete place ∧
      t = ⟨.mark c, place, place + 1⟩ ∧ back = [] := by
  obtain hnil | ⟨hends, hstep⟩ := step_eq mode place d
  · simp [hnil] at h
  rw [hstep] at h
  simp only at h
  have hnot : t ∉ mode.complete place := fun hmem => lexeme_ne_of_mem_complete hmem hc ht
  obtain hnil | hunknown | hmark := start_eq place d
  · rw [hnil, List.append_nil] at h
    exact absurd (h ▸ List.mem_append_right _ List.mem_cons_self) hnot
  · rw [hunknown, List.append_cons_inj_of_notMem hnot List.not_mem_nil] at h
    obtain ⟨-, rfl, -⟩ := h
    cases ht
  · rw [hmark, List.append_cons_inj_of_notMem hnot List.not_mem_nil] at h
    obtain ⟨hfront, rfl, hback⟩ := h
    obtain rfl := Lexeme.mark.inj ht
    exact ⟨rfl, hends, hfront.symm, rfl, hback.symm⟩

end Mode

namespace Token

/-! ### Cutting a text at a delimiter -/

/-- The tokens of a text, from a mode and a place on to its end. -/
def tokensFrom (mode : Mode) (place : Nat) (t : Text) : List Token :=
  scan mode place t ++ (mode.after place t).complete (place + t.length)

/-- The tokens of a text are those from its beginning on. -/
theorem tokensFrom_between_zero (t : Text) : tokensFrom .between 0 t = ofText t := by
  rw [tokensFrom, ofText, Nat.zero_add]

/-- The tokens that the first character completes come before those of the rest. -/
theorem tokensFrom_cons (mode : Mode) (place : Nat) (c : Char) (t : Text) :
    tokensFrom mode place (c :: t) =
      (mode.step place c).1 ++ tokensFrom (mode.step place c).2 (place + 1) t := by
  rw [tokensFrom, tokensFrom, scan, Mode.after, List.append_assoc, List.length_cons,
    Nat.add_assoc place 1, Nat.add_comm 1]

/-- The tokens of two texts are those completed within the first, and those of the second from
where the first has led. -/
theorem tokensFrom_append (mode : Mode) (place : Nat) (s t : Text) :
    tokensFrom mode place (s ++ t) =
      scan mode place s ++ tokensFrom (mode.after place s) (place + s.length) t := by
  rw [tokensFrom, tokensFrom, scan_append, after_append, List.length_append, List.append_assoc,
    Nat.add_assoc]

/-- At a delimiter that stands where a token may end, the tokens of a text are cut. -/
theorem tokensFrom_append_delimiter {mode : Mode} {place : Nat} {u : Text} {c : Char}
    (h : (mode.after place u).endsToken = true) (hc : isDelimiter c = true) (w : Text) :
    tokensFrom mode place (u ++ c :: w) =
      tokensFrom mode place u ++
        ⟨.mark c, place + u.length, place + u.length + 1⟩ ::
          tokensFrom .between (place + u.length + 1) w := by
  have hu : tokensFrom mode place u =
      scan mode place u ++ (mode.after place u).complete (place + u.length) := rfl
  rw [tokensFrom_append, tokensFrom_cons, Mode.step_delimiter h hc, hu]
  simp only [List.append_assoc, List.singleton_append]

/-- A delimiter among the tokens of a text is such a cut. -/
theorem exists_of_tokensFrom_eq {mode : Mode} {place : Nat} {t : Text} {c : Char}
    {front back : List Token} {mark : Token}
    (h : tokensFrom mode place t = front ++ mark :: back) (hc : isDelimiter c = true)
    (hmark : mark.lexeme = .mark c) :
    ∃ u w, t = u ++ c :: w ∧ (mode.after place u).endsToken = true ∧
      mark = ⟨.mark c, place + u.length, place + u.length + 1⟩ ∧
      front = tokensFrom mode place u ∧
      back = tokensFrom .between (place + u.length + 1) w := by
  induction t generalizing mode place front with
  | nil =>
      have hmem : mark ∈ (mode.after place []).complete (place + 0) := by
        have hall : (mode.after place []).complete (place + 0) = front ++ mark :: back := h
        exact hall ▸ List.mem_append_right _ List.mem_cons_self
      exact absurd hmark (Mode.lexeme_ne_of_mem_complete hmem hc)
  | cons d t ih =>
      rw [tokensFrom_cons] at h
      -- The mark is completed behind the first character, or by it.
      have hcases : (∃ middle, front = (mode.step place d).1 ++ middle ∧
            tokensFrom (mode.step place d).2 (place + 1) t = middle ++ mark :: back) ∨
          ∃ middle, (mode.step place d).1 = front ++ mark :: middle ∧
            back = middle ++ tokensFrom (mode.step place d).2 (place + 1) t := by
        rcases List.append_eq_append_iff.1 h with ⟨m, hm, hrest⟩ | ⟨- | ⟨b, m⟩, hm, hrest⟩
        · exact .inl ⟨m, hm, hrest⟩
        · exact .inl ⟨[], by rw [hm, List.append_nil, List.append_nil], hrest.symm⟩
        · obtain ⟨rfl, rfl⟩ := List.cons.inj hrest
          exact .inr ⟨m, hm, rfl⟩
      obtain ⟨middle, rfl, hrest⟩ | ⟨middle, hstep, rfl⟩ := hcases
      · obtain ⟨u, w, rfl, hends, hplace, rfl, hback⟩ := ih hrest
        have hlen : place + 1 + u.length = place + (d :: u).length := by
          rw [List.length_cons, Nat.add_right_comm, Nat.add_assoc]
        rw [hlen] at hplace hback
        exact ⟨d :: u, w, rfl, hends, hplace, (tokensFrom_cons ..).symm, hback⟩
      · obtain ⟨rfl, hends, rfl, rfl, rfl⟩ := Mode.eq_of_step_eq hstep hc hmark
        refine ⟨[], t, rfl, hends, rfl, ?_, ?_⟩
        · simp [tokensFrom, scan, Mode.after]
        · rw [Mode.step_delimiter hends hc place]
          rfl

end Token

/-! ### Forgetting places -/

/-- The token without its place. -/
def Token.unplaced (t : Token) : Token := ⟨t.lexeme, 0, 0⟩

@[simp] theorem Token.unplaced_mk (lexeme : Lexeme) (start stop : Nat) :
    Token.unplaced ⟨lexeme, start, stop⟩ = ⟨lexeme, 0, 0⟩ := rfl

@[simp] theorem Token.lexeme_unplaced (t : Token) : t.unplaced.lexeme = t.lexeme := rfl

namespace Mode

/-- The mode without the place where its token began. -/
def unplaced : Mode → Mode
  | between => between
  | space => space
  | word _ gathered => word 0 gathered
  | number _ gathered => number 0 gathered
  | minus _ => minus 0
  | literal _ gathered => literal 0 gathered
  | quote _ gathered => quote 0 gathered
  | stroke _ => stroke 0
  | opened _ => opened 0
  | comment => comment
  | star => star
  | line => line

/-- What the end of a token completes is the same wherever it began and ends. -/
theorem complete_unplaced (mode : Mode) (place : Nat) :
    (mode.unplaced.complete 0).map Token.unplaced =
      (mode.complete place).map Token.unplaced := by
  cases mode <;> rfl

/-- Two outcomes of a step that differ in places only. -/
def SameStep (a b : List Token × Mode) : Prop :=
  a.1.map Token.unplaced = b.1.map Token.unplaced ∧ a.2.unplaced = b.2.unplaced

/-- A character between tokens does the same everywhere. -/
theorem sameStep_start (place : Nat) (c : Char) : SameStep (start 0 c) (start place c) := by
  unfold start
  split_ifs <;> exact ⟨rfl, rfl⟩

/-- A character that ends a token and starts another does the same everywhere. -/
theorem sameStep_restart (mode : Mode) (place : Nat) (c : Char) :
    SameStep (mode.unplaced.restart 0 c) (mode.restart place c) := by
  obtain ⟨htokens, hmode⟩ := sameStep_start place c
  refine ⟨?_, hmode⟩
  rw [restart, restart, List.map_append, List.map_append, complete_unplaced mode place, htokens]

/-- A character does the same everywhere. -/
theorem sameStep_step (mode : Mode) (place : Nat) (c : Char) :
    SameStep (mode.unplaced.step 0 c) (mode.step place c) := by
  have hstart := sameStep_start place c
  have hrestart := sameStep_restart mode place c
  cases mode <;> simp only [unplaced, step] <;> (try split_ifs) <;>
    first
    | exact ⟨rfl, rfl⟩
    | exact hstart
    | exact hrestart

/-- Steps from modes that differ in their places only differ in their places only. -/
theorem sameStep_of_unplaced_eq {m m' : Mode} (h : m.unplaced = m'.unplaced) (p p' : Nat)
    (c : Char) : SameStep (m.step p c) (m'.step p' c) := by
  obtain ⟨htokens, hmode⟩ := sameStep_step m p c
  obtain ⟨htokens', hmode'⟩ := sameStep_step m' p' c
  rw [h] at htokens hmode
  exact ⟨htokens.symm.trans htokens', hmode.symm.trans hmode'⟩

end Mode

namespace Token

/-- Without their places, the tokens of a text are the same from anywhere on. -/
theorem unplaced_tokensFrom {m m' : Mode} (h : m.unplaced = m'.unplaced) (p p' : Nat)
    (t : Text) :
    (tokensFrom m p t).map unplaced = (tokensFrom m' p' t).map unplaced := by
  induction t generalizing m m' p p' with
  | nil =>
      rw [tokensFrom, tokensFrom, scan, scan, Mode.after, Mode.after, List.nil_append,
        List.nil_append, ← Mode.complete_unplaced m, ← Mode.complete_unplaced m', h]
  | cons c t ih =>
      obtain ⟨htokens, hmode⟩ := Mode.sameStep_of_unplaced_eq h p p' c
      rw [tokensFrom_cons, tokensFrom_cons, List.map_append, List.map_append, htokens,
        ih hmode (p + 1) (p' + 1)]

/-- The tokens of a text without their places. -/
def unplacedOf (t : Text) : List Token := (ofText t).map unplaced

/-- Without their places, the tokens of a text between two tokens are its own. -/
theorem unplaced_tokensFrom_between (place : Nat) (t : Text) :
    (tokensFrom .between place t).map unplaced = unplacedOf t := by
  rw [unplacedOf, ← tokensFrom_between_zero]
  exact unplaced_tokensFrom rfl place 0 t

/-- The law of cutting at a delimiter, without places. -/
theorem unplacedOf_append_delimiter {u : Text} {c : Char} {place : Nat}
    (h : (Mode.between.after place u).endsToken = true) (hc : isDelimiter c = true)
    (w : Text) :
    unplacedOf (u ++ c :: w) = unplacedOf u ++ ⟨.mark c, 0, 0⟩ :: unplacedOf w := by
  rw [← unplaced_tokensFrom_between place, tokensFrom_append_delimiter h hc, List.map_append,
    List.map_cons, unplaced_tokensFrom_between, unplaced_tokensFrom_between, unplaced_mk]

end Token

end BulkInsert.Sql
