import BulkInsert.Proofs.Statement.Occurrence
import BulkInsert.Statement.Check
import Mathlib.Data.List.TakeWhile

/-!
# Where a statement is widened

Extraction finds the tuple of a statement at a place; widening is handed only its text, and
repeats it where that text first occurs. `widen_extractTuple` says how the two places are
related: the first occurrence is never behind the extracted tuple, and for more than one
copy the outcome is the extracted tuple repeated in place exactly when its text does not
occur earlier.

The argument for the second half is about texts that commute. If the copies could stand at
either place with the same outcome, the copies added and the text between the two places
could be exchanged, and then a comma would stand right before the extracted tuple. But
there stands the word `VALUES` or a blank.
-/

namespace BulkInsert.Statement

open Text

/-! ### What stands before a captured tuple -/

/-- A property of captures holds of the one found when it holds of those that begin with
`VALUES` and one more character in front does not change it. -/
theorem Capture.property_of_capture? {P : Capture → Prop}
    (hvalues : ∀ {t : Text} {k : Capture}, valuesAt? t = some k → P k)
    (hpush : ∀ {c : Char} {k : Capture}, P k → P (k.push c)) {t : Text} {k : Capture}
    (h : capture? t = some k) : P k := by
  have hline : ∀ {t : Text} {k : Capture}, lastOnLine? t = some k → P k := by
    intro t
    induction t with
    | nil => simp [lastOnLine?]
    | cons c rest ih =>
        intro k h
        rw [lastOnLine?] at h
        split at h
        · simp at h
        · split at h
          · rename_i l hl
            obtain rfl := Option.some.inj h
            exact hpush (ih hl)
          · exact hvalues h
  have hlater : ∀ {t : Text} {k : Capture}, laterLine? t = some k → P k := by
    intro t
    induction t with
    | nil => simp [laterLine?]
    | cons c rest ih =>
        intro k h
        have push {l : Capture} (hl : (laterLine? rest).map (Capture.push c) = some l) :
            P l := by
          obtain ⟨m, hm, rfl⟩ := Option.map_eq_some_iff.1 hl
          exact hpush (ih hm)
        rw [laterLine?] at h
        split at h
        · split at h
          · rename_i l hl
            obtain rfl := Option.some.inj h
            exact hpush (hline hl)
          · exact push h
        · exact push h
  rw [capture?] at h
  split at h
  · rename_i l hl
    obtain rfl := Option.some.inj h
    exact hline hl
  · exact hlater h

/-- Before a captured tuple stand the word `VALUES` and blanks. -/
theorem Capture.before_eq {t : Text} {k : Capture} (h : capture? t = some k) :
    ∃ front blanks, k.before = front ++ "VALUES".toList ++ blanks ∧
      ∀ c ∈ blanks, isBlank c = true := by
  refine Capture.property_of_capture?
    (P := fun k => ∃ front blanks, k.before = front ++ "VALUES".toList ++ blanks ∧
      ∀ c ∈ blanks, isBlank c = true) ?_ ?_ h
  · intro t k h
    rw [valuesAt?] at h
    split at h
    · simp at h
    · rename_i rest _
      obtain ⟨⟨group, tail⟩, -, rfl⟩ := Option.map_eq_some_iff.1 h
      exact ⟨[], rest.takeWhile isBlank, rfl, fun c hc => List.mem_takeWhile_imp hc⟩
  · rintro c k ⟨front, blanks, heq, hblanks⟩
    exact ⟨c :: front, blanks, by rw [Capture.push, heq]; rfl, hblanks⟩

/-- No comma stands right before a captured tuple. -/
theorem Capture.getLast?_before_ne_comma {t : Text} {k : Capture} (h : capture? t = some k) :
    ∃ front c, k.before = front ++ [c] ∧ c ≠ ',' := by
  obtain ⟨front, blanks, heq, hblanks⟩ := Capture.before_eq h
  rcases List.eq_nil_or_concat blanks with rfl | ⟨blanks, c, rfl⟩
  · exact ⟨front ++ "VALUE".toList, 'S', by rw [heq]; simp, by decide⟩
  · refine ⟨front ++ "VALUES".toList ++ blanks, c, by rw [heq]; simp, ?_⟩
    rintro rfl
    exact absurd (hblanks ',' (by simp)) (by decide)

/-- The tuple of a statement is the captured one, and its capture splits the statement. -/
theorem eq_of_extractTuple {query tuple : Text} {k : Capture}
    (htuple : extractTuple query = .ok tuple) (hk : capture? (stripClause query) = some k) :
    k.tuple = tuple ∧
      query = k.before ++ tuple ++ (k.after ++ query.drop (stripClause query).length) := by
  rw [extractTuple, hk] at htuple
  simp only at htuple
  split at htuple
  · simp at htuple
  · obtain rfl := Except.ok.inj htuple
    refine ⟨rfl, ?_⟩
    have htext := text_of_capture? hk
    rw [Capture.text] at htext
    conv_lhs => rw [← stripClause_append_drop query, ← htext]
    rw [← htext]
    simp

/-- Which tuple a statement has. -/
theorem extractTuple_eq_ok_iff {query tuple : Text} :
    extractTuple query = .ok tuple ↔
      ∃ k, capture? (stripClause query) = some k ∧ k.tuple = tuple ∧
        holdsBlankParens tuple = false := by
  rw [extractTuple]
  cases capture? (stripClause query) with
  | none => simp
  | some k =>
      simp only [Option.some.injEq, exists_eq_left']
      by_cases hblank : holdsBlankParens k.tuple = true
      · rw [if_pos hblank]
        constructor
        · rintro ⟨⟩
        · rintro ⟨rfl, hnone⟩
          rw [hblank] at hnone
          cases hnone
      · rw [if_neg hblank, Except.ok.injEq]
        constructor
        · rintro rfl
          exact ⟨rfl, Bool.eq_false_iff.2 hblank⟩
        · rintro ⟨rfl, -⟩
          rfl

/-- A word stands in a text that goes on with it. -/
theorem occursIn_append (front : Text) {word : Text} (rest : Text) :
    occursIn word (front ++ (word ++ rest)) = true := by
  induction front with
  | nil =>
      cases ht : word ++ rest with
      | nil =>
          obtain ⟨rfl, -⟩ := List.append_eq_nil_iff.1 ht
          rfl
      | cons c t =>
          rw [List.nil_append, occursIn, ← ht, Bool.or_eq_true]
          exact .inl (List.isPrefixOf_iff_prefix.2 (List.prefix_append _ _))
  | cons c front ih => rw [List.cons_append, occursIn, ih, Bool.or_true]

/-- A statement with a captured tuple is recognised. -/
theorem check_of_capture? {query : Text} {k : Capture}
    (hk : capture? (stripClause query) = some k) : check query = .ok () := by
  obtain ⟨front, blanks, hbefore, -⟩ := Capture.before_eq hk
  have hshape : hasInsertShape (stripClause query) = true := by
    have hword : occursIn "VALUES".toList
        (front ++ ("VALUES".toList ++ (blanks ++ k.tuple ++ k.after))) = true :=
      occursIn_append front _
    rw [hasInsertShape, ← text_of_capture? hk, Capture.text, hbefore]
    simp only [List.append_assoc] at hword ⊢
    rw [hword, Bool.true_or]
  simp [check, hshape, hk]

/-- A statement whose tuple is extracted is recognised. -/
theorem check_of_extractTuple {query tuple : Text} (h : extractTuple query = .ok tuple) :
    check query = .ok () := by
  obtain ⟨k, hk, -⟩ := extractTuple_eq_ok_iff.1 h
  exact check_of_capture? hk

/-- A statement is recognised when it captures something. -/
theorem check_eq_ok_iff {query : Text} :
    check query = .ok () ↔ (capture? (stripClause query)).isSome = true := by
  constructor
  · intro h
    simp only [check] at h
    split at h
    · cases h
    · split at h
      · cases h
      · rename_i hsome
        rw [Option.isNone_iff_eq_none] at hsome
        exact Option.isSome_iff_ne_none.2 hsome
  · intro h
    obtain ⟨k, hk⟩ := Option.isSome_iff_exists.1 h
    exact check_of_capture? hk

/-- A statement is widened where its tuple first occurs, wherever that is. -/
theorem exists_widen_eq {query tuple : Text} (h : extractTuple query = .ok tuple) :
    ∃ before after, before ++ tuple ++ after = query ∧
      ∀ count, widen query tuple count = before ++ copies tuple count ++ after := by
  obtain ⟨k, hk, -⟩ := extractTuple_eq_ok_iff.1 h
  obtain ⟨-, hquery⟩ := eq_of_extractTuple h hk
  obtain ⟨before, after, hsplit, hfirst, -⟩ := exists_occursFirst hquery.symm
  refine ⟨before, after, hsplit, fun count => ?_⟩
  rw [← hsplit]
  exact widen_of_occursFirst hfirst count

/-! ### Two places -/

/-- Of two splits of a text at the same word, the one behind continues the one in front. -/
theorem exists_between {word before₀ after₀ before after : Text}
    (h : before₀ ++ word ++ after₀ = before ++ word ++ after)
    (hlt : before₀.length < before.length) :
    ∃ between, between ≠ [] ∧ before ++ word = before₀ ++ word ++ between ∧
      after₀ = between ++ after := by
  rcases List.append_eq_append_iff.1 h with ⟨between, hbefore, hafter⟩ | ⟨between, hbefore, -⟩
  · refine ⟨between, ?_, hbefore, hafter⟩
    rintro rfl
    have hlen := congrArg List.length hbefore
    simp only [List.length_append, List.length_nil] at hlen
    omega
  · have hlen := congrArg List.length hbefore
    simp only [List.length_append] at hlen
    omega

/-- If a comma and a word, once or more, can be exchanged with the text between two places of
the word, a comma stands right before the word behind. -/
theorem eq_comma_of_exchange {word before₀ between front : Text} {c : Char} {count : Nat}
    (hne : between ≠ []) (hplace : front ++ [c] ++ word = before₀ ++ word ++ between)
    (hexchange : (List.replicate (count + 1) (',' :: word)).flatten ++ between =
      between ++ (List.replicate (count + 1) (',' :: word)).flatten) : c = ',' := by
  obtain ⟨middle, hmiddle⟩ : ∃ middle, word ++ between = middle ++ c :: word := by
    have hpos : 0 < between.length := List.length_pos_iff.2 hne
    rw [List.append_assoc, List.append_assoc, List.singleton_append] at hplace
    rcases List.append_eq_append_iff.1 hplace with ⟨middle, -, hword⟩ | ⟨middle, -, hword⟩
    · have hlen := congrArg List.length hword
      simp only [List.length_append, List.length_cons] at hlen
      obtain rfl : middle = [] := List.length_eq_zero_iff.1 (by omega)
      exact ⟨[], hword.symm⟩
    · exact ⟨middle, hword⟩
  rw [List.replicate_succ', List.flatten_append, List.flatten_singleton] at hexchange
  have hlast : ((List.replicate count (',' :: word)).flatten ++ [','] ++ middle) ++ c :: word =
      (between ++ (List.replicate count (',' :: word)).flatten) ++ ',' :: word := by
    calc _ = (List.replicate count (',' :: word)).flatten ++ [','] ++ (word ++ between) := by
            rw [hmiddle, List.append_assoc _ middle]
      _ = (List.replicate count (',' :: word)).flatten ++ (',' :: word) ++ between := by simp
      _ = _ := by rw [hexchange, List.append_assoc]
  exact (List.cons.inj (List.append_inj' hlast rfl).2).1

/-- Copies put at two places of a word make the same text only if the copies added can be
exchanged with the text between the places. -/
theorem exchange_of_eq {word before₀ between before after : Text} {count : Nat}
    (hplace : before ++ word = before₀ ++ word ++ between)
    (h : before₀ ++ copies word (count + 1) ++ (between ++ after) =
      before ++ copies word (count + 1) ++ after) :
    (List.replicate count (',' :: word)).flatten ++ between =
      between ++ (List.replicate count (',' :: word)).flatten := by
  generalize hadded : (List.replicate count (',' :: word)).flatten = added
  have hsum : (before₀ ++ word) ++ (added ++ between) ++ after =
      (before₀ ++ word) ++ (between ++ added) ++ after := by
    calc _ = before₀ ++ copies word (count + 1) ++ (between ++ after) := by
            rw [copies_succ, hadded]
            simp
      _ = before ++ word ++ added ++ after := by
            rw [h, copies_succ, hadded]
            simp
      _ = _ := by
            rw [hplace]
            simp
  exact List.append_cancel_left (List.append_cancel_right hsum)

/-- **Where a statement is widened.** An extracted tuple first occurs at its own place or
before it, and there the copies are put. This is the extracted tuple repeated in place
exactly when one copy is asked for or the tuple does not occur before its own place. -/
theorem widen_extractTuple {query tuple : Text} {k : Capture} {count : Nat}
    (htuple : extractTuple query = .ok tuple) (hk : capture? (stripClause query) = some k)
    (hcount : 1 ≤ count) :
    (∃ before after, before ++ tuple ++ after = query ∧ OccursFirst tuple before after ∧
      before.length ≤ k.before.length ∧
      widen query tuple count = before ++ copies tuple count ++ after) ∧
    (widen query tuple count =
        query.take k.before.length ++ copies tuple count ++
          query.drop (k.before.length + k.tuple.length) ↔
      count = 1 ∨ ∀ before after, before ++ tuple ++ after = query →
        k.before.length ≤ before.length) := by
  obtain ⟨rfl, hquery⟩ := eq_of_extractTuple htuple hk
  generalize k.after ++ query.drop (stripClause query).length = after at hquery
  obtain ⟨before₀, after₀, h₀, hfirst, hle⟩ := exists_occursFirst hquery.symm
  have hwiden : widen query k.tuple count = before₀ ++ copies k.tuple count ++ after₀ := by
    rw [← h₀]
    exact widen_of_occursFirst hfirst count
  refine ⟨⟨before₀, after₀, h₀, hfirst, hle, hwiden⟩, ?_⟩
  have htake : query.take k.before.length = k.before := by
    rw [hquery, List.append_assoc, List.take_left]
  have hdrop : query.drop (k.before.length + k.tuple.length) = after := by
    rw [hquery, ← List.length_append, List.drop_left]
  rw [htake, hdrop, hwiden]
  constructor
  · intro heq
    by_contra hnot
    push Not at hnot
    obtain ⟨hne, before, after', hocc, hlt⟩ := hnot
    -- The first occurrence is in front of the tuple, so there is some text between the two.
    have hlt₀ : before₀.length < k.before.length :=
      Nat.lt_of_le_of_lt (hfirst before after' (hocc.trans h₀.symm)) hlt
    obtain ⟨between, hbetween, hplace, rfl⟩ := exists_between (h₀.trans hquery) hlt₀
    obtain ⟨extra, rfl⟩ : ∃ extra, count = extra + 1 + 1 := ⟨count - 2, by omega⟩
    have hexchange := exchange_of_eq hplace heq
    obtain ⟨front, c, hbefore, hc⟩ := Capture.getLast?_before_ne_comma hk
    rw [hbefore] at hplace
    exact hc (eq_comma_of_exchange hbetween hplace hexchange)
  · rintro (rfl | hown)
    · rw [copies_one, h₀, ← hquery]
    · have hlen : before₀.length = k.before.length :=
        Nat.le_antisymm hle (hown before₀ after₀ h₀)
      have hsplit := h₀.trans hquery
      rw [List.append_assoc, List.append_assoc] at hsplit
      obtain ⟨rfl, hrest⟩ := List.append_inj hsplit hlen
      rw [List.append_cancel_left hrest]

/-- A comment that holds the text of the tuple is widened in its place: the two copies stand
in the comment, and the tuple itself stays single. -/
theorem widen_comment_before_tuple :
    ¬ ∀ (query tuple : Text) (k : Capture) (count : Nat), extractTuple query = .ok tuple →
      capture? (stripClause query) = some k → 1 ≤ count →
      widen query tuple count =
        query.take k.before.length ++ copies tuple count ++
          query.drop (k.before.length + k.tuple.length) := by
  intro h
  have hwrong := h "/* (?) */ INSERT INTO t VALUES (?)".toList "(?)".toList
    ⟨"/* (?) */ INSERT INTO t VALUES ".toList, "(?)".toList, []⟩ 2 (by decide) (by decide)
    (by decide)
  exact absurd hwrong (by decide)

/-- The tuple of a plain statement does not occur before its place, so three copies of it
stand there. -/
theorem widen_extractTuple_plain :
    let query := "INSERT INTO t VALUES (?)".toList
    let k : Capture := ⟨"INSERT INTO t VALUES ".toList, "(?)".toList, []⟩
    extractTuple query = .ok "(?)".toList ∧ capture? (stripClause query) = some k ∧
      ((∃ before after, before ++ "(?)".toList ++ after = query ∧
          OccursFirst "(?)".toList before after ∧ before.length ≤ k.before.length ∧
          widen query "(?)".toList 3 = before ++ copies "(?)".toList 3 ++ after) ∧
        (widen query "(?)".toList 3 =
            query.take k.before.length ++ copies "(?)".toList 3 ++
              query.drop (k.before.length + k.tuple.length) ↔
          3 = 1 ∨ ∀ before after, before ++ "(?)".toList ++ after = query →
            k.before.length ≤ before.length)) := by
  refine ⟨by decide, by decide, ?_⟩
  exact widen_extractTuple (by decide) (by decide) (by decide)

end BulkInsert.Statement
