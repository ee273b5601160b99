import BulkInsert.Statement.Widen
import Mathlib.Data.List.Infix

/-!
# First occurrences

`replaceFirst` and `widen` work at the first place where a text occurs. `OccursFirst` says
what that place is, `exists_occursFirst` finds it, and `replaceFirst_of_occursFirst` and
`widen_of_occursFirst` say what is done there. What is proved about widening starts from
these.
-/

namespace BulkInsert.Statement

open Text

/-- In the text `before ++ word ++ after`, the **first occurrence** of `word` is the one
behind `before`. -/
def OccursFirst (word before after : Text) : Prop :=
  ∀ before' after', before' ++ word ++ after' = before ++ word ++ after →
    before.length ≤ before'.length

/-- Of all occurrences of a word one is the first. -/
theorem exists_occursFirst {word t before after : Text} (h : before ++ word ++ after = t) :
    ∃ before₀ after₀, before₀ ++ word ++ after₀ = t ∧ OccursFirst word before₀ after₀ ∧
      before₀.length ≤ before.length := by
  induction hn : before.length using Nat.strong_induction_on generalizing before after with
  | _ n ih =>
      by_cases hfirst : OccursFirst word before after
      · exact ⟨before, after, h, hfirst, by omega⟩
      · rw [OccursFirst] at hfirst
        push Not at hfirst
        obtain ⟨before', after', h', hlt⟩ := hfirst
        obtain ⟨before₀, after₀, h₀, hfirst₀, hle⟩ :=
          ih before'.length (by omega) (h'.trans h) rfl
        exact ⟨before₀, after₀, h₀, hfirst₀, by omega⟩

/-- The number of places in a text where a word stands. -/
def occurrences (word t : Text) : Nat := t.tails.countP word.isPrefixOf

/-- A word stands at the beginning of a text and where it stands behind that. -/
theorem occurrences_cons (word : Text) (c : Char) (t : Text) :
    occurrences word (c :: t) =
      occurrences word t + if word.isPrefixOf (c :: t) then 1 else 0 := by
  rw [occurrences, List.tails_cons, List.countP_cons, occurrences]

/-- A word stands somewhere in a text that begins with it. -/
theorem occurrences_append_pos (word after : Text) : 0 < occurrences word (word ++ after) :=
  List.countP_pos_iff.2 ⟨word ++ after, (List.mem_tails _ _).2 List.suffix_rfl, by simp⟩

/-- In a part behind, a word stands no more often than in the whole. -/
theorem occurrences_le_append (word front t : Text) :
    occurrences word t ≤ occurrences word (front ++ t) := by
  induction front with
  | nil => exact Nat.le_refl _
  | cons c front ih =>
      rw [List.cons_append, occurrences_cons]
      exact Nat.le_add_right_of_le ih

/-- A word that stands at one place only first occurs there. -/
theorem occursFirst_of_occurrences_eq_one {word t before after : Text}
    (h : occurrences word t = 1) (hsplit : before ++ word ++ after = t) :
    OccursFirst word before after := by
  intro before' after' hsplit'
  by_contra hlt
  rw [List.append_assoc, List.append_assoc] at hsplit'
  obtain ⟨between, rfl, hword⟩ | ⟨between, rfl, -⟩ := List.append_eq_append_iff.1 hsplit'
  · rcases between with - | ⟨c, between⟩
    · simp at hlt
    · have hprefix : word.isPrefixOf (c :: (between ++ (word ++ after))) = true := by
        rw [List.isPrefixOf_iff_prefix, ← List.cons_append, ← hword]
        exact List.prefix_append _ _
      have hbehind := occurrences_le_append word between (word ++ after)
      have hfirst := occurrences_append_pos word after
      have hwhole := occurrences_le_append word before' (c :: (between ++ (word ++ after)))
      rw [occurrences_cons, if_pos hprefix] at hwhole
      simp only [← hsplit, List.append_assoc, List.cons_append] at h
      omega
  · simp at hlt

/-- Behind a character that begins no occurrence, the first occurrence stays the first. -/
theorem OccursFirst.tail {word before after : Text} {c : Char}
    (h : OccursFirst word (c :: before) after) : OccursFirst word before after := by
  intro before' after' heq
  have hle := h (c :: before') after' (by rw [List.cons_append, List.cons_append, heq]; rfl)
  simpa using hle

/-- Where the first occurrence does not stand in front, no occurrence does. -/
theorem OccursFirst.isPrefixOf?_eq_none {word before after : Text} {c : Char}
    (h : OccursFirst word (c :: before) after) :
    word.isPrefixOf? (c :: (before ++ word ++ after)) = none := by
  cases ht : word.isPrefixOf? (c :: (before ++ word ++ after)) with
  | none => rfl
  | some tail =>
      have hle := h [] tail (append_of_isPrefixOf? ht)
      simp at hle

/-- The first occurrence in a statement is the first in any beginning that holds it. -/
theorem OccursFirst.of_append {word before after rest : Text}
    (h : OccursFirst word before (after ++ rest)) : OccursFirst word before after := by
  intro before' after' heq
  refine h before' (after' ++ rest) ?_
  rw [← List.append_assoc, heq, List.append_assoc]

/-- The first occurrence is what is replaced. -/
theorem replaceFirst_of_occursFirst {old before after : Text}
    (h : OccursFirst old before after) (new : Text) :
    replaceFirst old new (before ++ old ++ after) = before ++ new ++ after := by
  induction before with
  | nil =>
      rw [List.nil_append, List.nil_append]
      cases ht : old ++ after with
      | nil =>
          obtain ⟨rfl, rfl⟩ := List.append_eq_nil_iff.1 ht
          simp [replaceFirst]
      | cons c rest =>
          rw [replaceFirst, ← ht, List.isPrefixOf?_eq_some_iff_append_eq.2 rfl]
  | cons c before ih =>
      rw [List.cons_append, List.cons_append, replaceFirst, h.isPrefixOf?_eq_none]
      simp only
      rw [ih h.tail]
      rfl

/-- A statement is widened where its tuple first occurs. -/
theorem widen_of_occursFirst {tuple before after : Text} (h : OccursFirst tuple before after)
    (count : Nat) :
    widen (before ++ tuple ++ after) tuple count =
      before ++ copies tuple count ++ after :=
  replaceFirst_of_occursFirst h _

/-- Copies of a tuple are the tuple and then, for each further copy, a comma and the tuple
again. -/
theorem copies_succ (tuple : Text) (count : Nat) :
    copies tuple (count + 1) = tuple ++ (List.replicate count (',' :: tuple)).flatten := by
  induction count with
  | zero => simp [copies_one]
  | succ count ih =>
      rw [copies, List.replicate_succ, List.replicate_succ, List.intercalate_cons_cons,
        ← List.replicate_succ, ← copies, ih, List.replicate_succ, List.flatten_cons]
      simp

/-- Of several copies of a tuple the first is followed by a comma and the others. -/
theorem copies_succ_succ (tuple : Text) (count : Nat) :
    copies tuple (count + 2) = tuple ++ ',' :: copies tuple (count + 1) := by
  rw [copies_succ, copies_succ, List.replicate_succ, List.flatten_cons, List.cons_append]

/-- What holds of a tuple, and of a tuple and a comma in front of what it holds of, holds of
copies of the tuple. -/
theorem copies_induction {P : Text → Prop} {tuple : Text} (hone : P tuple)
    (hmore : ∀ t, P t → P (tuple ++ ',' :: t)) {count : Nat} (hcount : 1 ≤ count) :
    P (copies tuple count) := by
  induction count, hcount using Nat.le_induction with
  | base => rwa [copies_one]
  | succ count hcount ih =>
      obtain ⟨count, rfl⟩ : ∃ n, count = n + 1 := ⟨count - 1, by omega⟩
      rw [copies_succ_succ]
      exact hmore _ ih

/-- Copies of a tuple hold any character but the comma as often as so many tuples do. -/
theorem count_copies {c : Char} (hc : c ≠ ',') (tuple : Text) (count : Nat) :
    (copies tuple count).count c = count * tuple.count c := by
  induction count with
  | zero => simp [copies]
  | succ count ih =>
      cases count with
      | zero => rw [copies_one, Nat.zero_add, Nat.one_mul]
      | succ count =>
          rw [copies_succ_succ, List.count_append, List.count_cons_of_ne hc.symm, ih,
            Nat.succ_mul (count + 1), Nat.add_comm]

end BulkInsert.Statement
