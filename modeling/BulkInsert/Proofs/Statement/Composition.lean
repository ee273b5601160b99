import BulkInsert.Proofs.Statement.Groups

/-!
# Widening once and again

The laws of widening for any two texts. `widen_rule` says which text comes out, and how often
the tuple of a statement stands in it. `widen_widen` says that widening a widened statement is
one widening by the product.

Both rest on where a word first occurs. That is a matter of the text up to the end of the word
only, `OccursFirst.congr`, so it stays the first occurrence whatever is put behind it: more
copies of the word, or the rest of a longer word that begins with it, `OccursFirst.extend`. No
property of the word is used for this. It may be empty, and it may overlap itself.

## How often a word stands in a text

`disjointOccurrences` counts from the left and goes on behind each occurrence. Copies of a tuple
count once each, because no occurrence begins at the comma between two of them.
-/

namespace BulkInsert.Statement

open Text

/-! ### First occurrences -/

/-- Whether an occurrence is the first is a matter of the text up to its end. -/
theorem OccursFirst.congr {word before after : Text} (h : OccursFirst word before after)
    (after' : Text) : OccursFirst word before after' := by
  intro before₁ after₁ heq
  by_contra hlt
  -- An occurrence further left would end inside the text that both have in common.
  obtain ⟨more, hmore⟩ : before₁ ++ word <+: before ++ word := by
    refine List.prefix_of_prefix_length_le (List.prefix_append _ after₁) ?_ ?_
    · rw [heq]
      exact List.prefix_append _ _
    · simp only [List.length_append]
      omega
  exact hlt (h before₁ (more ++ after) (by rw [← List.append_assoc, hmore]))

/-- A longer word first occurs where its beginning does. -/
theorem OccursFirst.extend {word before after : Text} (h : OccursFirst word before after)
    (more after' : Text) : OccursFirst (word ++ more) before after' := by
  intro before₁ after₁ heq
  refine h.congr (more ++ after') before₁ (more ++ after₁) ?_
  simpa only [List.append_assoc] using heq

/-- A text in which a word does not occur is left alone. -/
theorem replaceFirst_of_not_occurs {old t : Text}
    (h : ∀ before after, before ++ old ++ after ≠ t) (new : Text) :
    replaceFirst old new t = t := by
  induction t with
  | nil =>
      have hne : old ≠ [] := fun hnil => h [] [] (by rw [hnil]; rfl)
      rw [replaceFirst, if_neg (by simpa using hne)]
  | cons c rest ih =>
      have hrest := ih fun before after heq => h (c :: before) after (by simpa using heq)
      cases htail : old.isPrefixOf? (c :: rest) with
      | none => rw [replaceFirst, htail, hrest]
      | some tail => exact absurd (append_of_isPrefixOf? htail) (h [] tail)

/-! ### Copies of copies -/

/-- Copies and more copies, with a comma between them, are so many copies. -/
theorem copies_add (tuple : Text) {m n : Nat} (hm : 1 ≤ m) (hn : 1 ≤ n) :
    copies tuple (m + n) = copies tuple m ++ ',' :: copies tuple n := by
  obtain ⟨n, rfl⟩ : ∃ k, n = k + 1 := ⟨n - 1, by omega⟩
  induction m, hm using Nat.le_induction with
  | base => rw [Nat.add_comm, copies_succ_succ, copies_one]
  | succ m hm ih =>
      obtain ⟨m, rfl⟩ : ∃ k, m = k + 1 := ⟨m - 1, by omega⟩
      have hcount : m + 1 + 1 + (n + 1) = (m + 1 + n) + 2 := by omega
      have hcount' : m + 1 + (n + 1) = (m + 1 + n) + 1 := by omega
      rw [hcount, copies_succ_succ, ← hcount', ih, copies_succ_succ, List.append_assoc,
        List.cons_append]

/-- Copies of copies are as many copies as the product says. -/
theorem copies_copies (tuple : Text) {n : Nat} (hn : 1 ≤ n) (m : Nat) :
    copies (copies tuple n) m = copies tuple (n * m) := by
  induction m with
  | zero => rfl
  | succ m ih =>
      cases m with
      | zero => rw [copies_one, Nat.zero_add, Nat.mul_one]
      | succ m =>
          have hpos : 1 ≤ n * (m + 1) := Nat.mul_pos hn (Nat.succ_pos m)
          rw [copies_succ_succ, ih, ← copies_add tuple hn hpos, Nat.mul_succ n (m + 1),
            Nat.add_comm]

/-- Copies begin with the tuple. -/
theorem exists_copies_eq_append (tuple : Text) {n : Nat} (hn : 1 ≤ n) :
    ∃ more, copies tuple n = tuple ++ more := by
  obtain ⟨n, rfl⟩ : ∃ k, n = k + 1 := ⟨n - 1, by omega⟩
  exact ⟨_, copies_succ tuple n⟩

/-! ### Counting occurrences -/

/-- How often a word stands in a text, counted from the left without overlaps: behind an
occurrence the count goes on at its end. -/
def disjointOccurrences (word : Text) : Text → Nat
  | [] => if word.isEmpty then 1 else 0
  | c :: rest =>
    if word.isPrefixOf (c :: rest) then
      disjointOccurrences word (rest.drop (word.length - 1)) + 1
    else disjointOccurrences word rest
termination_by t => t.length
decreasing_by all_goals simp only [List.length_cons, List.length_drop]; omega

section

variable {word : Text}

/-- A word at the beginning of a text is one occurrence, and the count goes on behind it. -/
theorem disjointOccurrences_append (hword : word ≠ []) (t : Text) :
    disjointOccurrences word (word ++ t) = disjointOccurrences word t + 1 := by
  obtain ⟨w, tail, rfl⟩ := List.exists_cons_of_ne_nil hword
  have hprefix : (w :: tail).isPrefixOf (w :: (tail ++ t)) = true :=
    List.isPrefixOf_iff_prefix.2 ⟨t, rfl⟩
  rw [List.cons_append, disjointOccurrences, if_pos hprefix, List.length_cons,
    Nat.add_sub_cancel, List.drop_left]

/-- Where a word does not stand at the beginning, the count goes on behind one character. -/
theorem disjointOccurrences_cons_of_not_prefix {c : Char} {t : Text}
    (h : word.isPrefixOf (c :: t) = false) :
    disjointOccurrences word (c :: t) = disjointOccurrences word t := by
  rw [disjointOccurrences, if_neg (by simp [h])]

/-- The count begins with the first occurrence. -/
theorem disjointOccurrences_of_occursFirst {before after : Text} (hword : word ≠ [])
    (h : OccursFirst word before after) :
    disjointOccurrences word (before ++ word ++ after) = disjointOccurrences word after + 1 := by
  induction before with
  | nil => exact disjointOccurrences_append hword after
  | cons c before ih =>
      have hnone : word.isPrefixOf (c :: (before ++ word ++ after)) = false := by
        rw [← List.isSome_isPrefixOf?_eq_isPrefixOf, h.isPrefixOf?_eq_none]
        rfl
      rw [List.cons_append, List.cons_append, disjointOccurrences_cons_of_not_prefix hnone,
        ih h.tail]

/-- Further copies of a word count once each when no occurrence begins at a comma. -/
theorem disjointOccurrences_flatten_replicate (hword : word ≠ [])
    (hcomma : ∀ t, word.isPrefixOf (',' :: t) = false) (count : Nat) (after : Text) :
    disjointOccurrences word ((List.replicate count (',' :: word)).flatten ++ after) =
      disjointOccurrences word after + count := by
  induction count with
  | zero => rfl
  | succ count ih =>
      rw [List.replicate_succ, List.flatten_cons, List.append_assoc, List.cons_append,
        disjointOccurrences_cons_of_not_prefix (hcomma _), disjointOccurrences_append hword, ih]
      rfl

end

/-- A group does not begin with a comma. -/
theorem IsGroup.isPrefixOf_comma {group : Text} (h : IsGroup group) (t : Text) :
    group.isPrefixOf (',' :: t) = false := by
  obtain ⟨rest, rfl⟩ := h.exists_cons
  rfl

/-! ### The laws -/

/-- **What widening makes.** The copies stand where the tuple first occurs, with the text around
it left as it is; when it does not occur nothing is changed, and one copy changes nothing. In a
widened statement its tuple stands once more for each further copy. -/
theorem widen_rule (query tuple : Text) (count : Nat) :
    ((∃ before after, before ++ tuple ++ after = query) →
        ∃ before after, before ++ tuple ++ after = query ∧ OccursFirst tuple before after ∧
          widen query tuple count = before ++ copies tuple count ++ after) ∧
      ((∀ before after, before ++ tuple ++ after ≠ query) → widen query tuple count = query) ∧
      widen query tuple 1 = query ∧
      (extractTuple query = .ok tuple → 1 ≤ count →
        disjointOccurrences tuple (widen query tuple count) =
          disjointOccurrences tuple query + (count - 1)) := by
  have hoccurs : (∃ before after, before ++ tuple ++ after = query) →
      ∃ before after, before ++ tuple ++ after = query ∧ OccursFirst tuple before after ∧
        widen query tuple count = before ++ copies tuple count ++ after := by
    rintro ⟨before, after, h⟩
    obtain ⟨before₀, after₀, rfl, hfirst, -⟩ := exists_occursFirst h
    exact ⟨before₀, after₀, rfl, hfirst, widen_of_occursFirst hfirst count⟩
  refine ⟨hoccurs, fun hnot => replaceFirst_of_not_occurs hnot _, ?_, ?_⟩
  · rw [widen, copies_one, replaceFirst_self]
  · intro htuple hcount
    obtain ⟨k, hk, -⟩ := extractTuple_eq_ok_iff.1 htuple
    obtain ⟨rfl, hquery⟩ := eq_of_extractTuple htuple hk
    have hgroup := Capture.isGroup hk
    have hne : k.tuple ≠ [] := by
      obtain ⟨rest, hrest⟩ := hgroup.exists_cons
      exact hrest ▸ List.cons_ne_nil _ _
    obtain ⟨before, after, rfl, hfirst, hwiden⟩ := hoccurs ⟨_, _, hquery.symm⟩
    obtain ⟨count, rfl⟩ : ∃ extra, count = extra + 1 := ⟨count - 1, by omega⟩
    -- The first copy is the first occurrence, and the count goes on with the comma behind it.
    rw [hwiden, copies_succ, ← List.append_assoc before, List.append_assoc (before ++ k.tuple),
      disjointOccurrences_of_occursFirst hne (hfirst.congr _),
      disjointOccurrences_of_occursFirst hne hfirst,
      disjointOccurrences_flatten_replicate hne hgroup.isPrefixOf_comma]
    omega

/-- Two equal groups are captured as one tuple, which overlaps itself in the comment behind the
statement. There it counts once, so three copies of it make four in all. -/
theorem widen_rule_of_overlapping_tuple :
    let query := "INSERT INTO t VALUES (?),(?)\n/* (?),(?),(?) */".toList
    let tuple := "(?),(?)".toList
    extractTuple query = .ok tuple ∧ disjointOccurrences tuple query = 2 ∧
      disjointOccurrences tuple (widen query tuple 3) = 4 := by
  intro query tuple
  have htuple : extractTuple query = .ok tuple := by decide +kernel
  have htwice : disjointOccurrences tuple query = 2 := by
    simp [query, tuple, disjointOccurrences]
  obtain ⟨-, -, -, hcount⟩ := widen_rule query tuple 3
  exact ⟨htuple, htwice, by rw [hcount htuple (by decide), htwice]⟩

/-- **Widening a widened statement.** When the copies made by a widening are themselves repeated,
the outcome is one widening by the product, whatever the two texts are. -/
theorem widen_widen (query tuple : Text) {n : Nat} (hn : 1 ≤ n) (m : Nat) :
    widen (widen query tuple n) (copies tuple n) m = widen query tuple (n * m) := by
  obtain ⟨more, hmore⟩ := exists_copies_eq_append tuple hn
  by_cases hoccurs : ∃ before after, before ++ tuple ++ after = query
  · obtain ⟨before, after, h⟩ := hoccurs
    obtain ⟨before, after, rfl, hfirst, -⟩ := exists_occursFirst h
    have hfirst' : OccursFirst (copies tuple n) before after := hmore ▸ hfirst.extend more after
    rw [widen_of_occursFirst hfirst, widen_of_occursFirst hfirst', widen_of_occursFirst hfirst,
      copies_copies tuple hn]
  · push Not at hoccurs
    -- The copies begin with the tuple, so they do not occur either.
    have hcopies : ∀ before after, before ++ copies tuple n ++ after ≠ query := by
      intro before after heq
      refine hoccurs before (more ++ after) ?_
      rw [← heq, hmore]
      simp
    have hkept (count : Nat) : widen query tuple count = query :=
      replaceFirst_of_not_occurs hoccurs _
    rw [hkept, hkept, widen, replaceFirst_of_not_occurs hcopies]

/-- The empty tuple first occurs at the very beginning, and so do the two commas that are three
copies of it: eleven commas stand there in the end. And a tuple of two groups that overlaps
itself, as it does among three groups, is widened by its first occurrence, so that six copies of
it leave the third group behind them. -/
theorem widen_widen_of_empty_and_overlapping_tuples :
    let query := "INSERT INTO t VALUES (?),(?),(?)".toList
    let tuple := "(?),(?)".toList
    (widen (widen "SELECT".toList [] 3) (copies [] 3) 4 = widen "SELECT".toList [] 12 ∧
        widen "SELECT".toList [] 12 = ",,,,,,,,,,,SELECT".toList) ∧
      widen (widen query tuple 2) (copies tuple 2) 3 = widen query tuple 6 ∧
        widen query tuple 6 = "INSERT INTO t VALUES ".toList ++ copies "(?)".toList 13 := by
  intro query tuple
  exact ⟨⟨widen_widen "SELECT".toList [] (by decide) 4, by decide⟩,
    widen_widen query tuple (by decide) 3, by decide +kernel⟩

end BulkInsert.Statement
