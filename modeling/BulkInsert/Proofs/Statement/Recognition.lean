import BulkInsert.Proofs.Statement.Groups

/-!
# Widened statements

A widened statement is recognised like the one it was made from, and its tuple is the copies:
`extractTuple_widen`. Three things have to be seen. No trailing clause begins that did not
begin before, because evenly quoted text was added and no clause goes across a parenthesis or
a comma. The copies are a group again, so they may be exchanged for the tuple. And no blank
pair of parentheses arises where two copies meet.
-/

namespace BulkInsert.Statement

open Text

section

variable {tuple : Text} {count : Nat}

/-- Copies of a group are a group. -/
theorem IsGroup.copies (h : IsGroup tuple) (hcount : 1 ≤ count) :
    IsGroup (copies tuple count) :=
  copies_induction h (fun _ => h.append_comma) hcount

/-- A word without a comma that does not stand in a tuple does not stand in its copies. -/
theorem occursIn_copies {word : Text} (hcomma : ',' ∉ word) (hne : word ≠ [])
    (h : occursIn word tuple = false) (hcount : 1 ≤ count) :
    occursIn word (copies tuple count) = false := by
  refine copies_induction (P := fun t => occursIn word t = false) h (fun t ht => ?_) hcount
  rw [occursIn_append_delimiter hcomma hne, h, ht, Bool.or_false]

/-- No blank pair of parentheses arises where two copies meet. -/
theorem holdsBlankParens_copies (h : holdsBlankParens tuple = false) (hcount : 1 ≤ count) :
    holdsBlankParens (copies tuple count) = false := by
  refine copies_induction (P := fun t => holdsBlankParens t = false) h (fun t ht => ?_) hcount
  rw [holdsBlankParens_append_comma, h, ht, Bool.or_false]

/-- No clause begins in evenly quoted copies of a group when none begins in the group. -/
theorem noClauseIn_copies {rest : Text} (hgroup : IsGroup tuple)
    (heven : evenlyQuoted tuple = true) (h : NoClauseIn tuple rest) (hcount : 1 ≤ count) :
    evenlyQuoted (copies tuple count) = true ∧ NoClauseIn (copies tuple count) rest := by
  refine copies_induction (P := fun t => evenlyQuoted t = true ∧ NoClauseIn t rest)
    ⟨heven, h⟩ ?_ hcount
  rintro t ⟨hquoted, hnone⟩
  have hadded : evenlyQuoted (',' :: t) = true := hquoted
  refine ⟨by rw [evenlyQuoted_append, heven, hadded]; rfl, noClauseIn_append.2 ⟨?_, ?_⟩⟩
  · -- What is added stands behind the closing parenthesis of the group.
    obtain ⟨front, rfl, -⟩ := hgroup.exists_concat
    obtain ⟨hfront, -⟩ := noClauseIn_append.1 h
    refine noClauseIn_append.2 ⟨?_, endsWords_closeParen.beginsClause_cons _, trivial⟩
    have hparity : evenlyQuoted ([')'] ++ rest) =
        evenlyQuoted ([')'] ++ (',' :: t ++ rest)) := by
      rw [evenlyQuoted_append, evenlyQuoted_append [')'], evenlyQuoted_append (',' :: t), hadded]
      cases evenlyQuoted rest <;> rfl
    exact (noClauseIn_congr endsWords_closeParen front hparity).1 hfront
  · exact ⟨endsWords_comma.beginsClause_cons _, hnone⟩

/-- Copies of an evenly quoted group are stripped of the clause that the group is stripped
of. -/
theorem stripClause_copies {before after rest : Text} (hgroup : IsGroup tuple)
    (heven : evenlyQuoted tuple = true)
    (h : stripClause (before ++ tuple ++ rest) = before ++ tuple ++ after)
    (hcount : 1 ≤ count) :
    stripClause (before ++ copies tuple count ++ rest) =
      before ++ copies tuple count ++ after := by
  rw [stripClause_append_eq_iff, noClauseIn_append] at h ⊢
  obtain ⟨⟨hbefore, htuple⟩, hrest⟩ := h
  obtain ⟨hquoted, hnone⟩ := noClauseIn_copies hgroup heven htuple hcount
  refine ⟨⟨?_, hnone⟩, hrest⟩
  have hparity : evenlyQuoted (tuple ++ rest) = evenlyQuoted (copies tuple count ++ rest) := by
    rw [evenlyQuoted_append, evenlyQuoted_append (copies tuple count), heven, hquoted]
  obtain ⟨added, hadded⟩ := (hgroup.copies hcount).exists_cons
  obtain ⟨body, rfl⟩ := hgroup.exists_cons
  rw [hadded, List.cons_append] at hparity ⊢
  exact (noClauseIn_congr endsWords_openParen before hparity).1 hbefore

end

/-- **A widened statement is recognised, and its tuple is the copies.** This needs that the
tuple stands in the statement once, is evenly quoted and does not hold the word `VALUES`. A
trailing clause stays behind the copies as it is. -/
theorem extractTuple_widen {query tuple : Text} {count : Nat}
    (htuple : extractTuple query = .ok tuple) (honce : occurrences tuple query = 1)
    (heven : evenlyQuoted tuple = true) (hword : occursIn "VALUES".toList tuple = false)
    (hcount : 1 ≤ count) :
    check (widen query tuple count) = .ok () ∧
      extractTuple (widen query tuple count) = .ok (copies tuple count) ∧
      stripClause (widen query tuple count) = widen (stripClause query) tuple count ∧
      widen query tuple count =
        widen (stripClause query) tuple count ++ query.drop (stripClause query).length := by
  obtain ⟨k, hk, rfl, hblank⟩ := extractTuple_eq_ok_iff.1 htuple
  have hgroup := Capture.isGroup hk
  have htext : stripClause query = k.before ++ k.tuple ++ k.after := (text_of_capture? hk).symm
  obtain ⟨-, hquery⟩ := eq_of_extractTuple htuple hk
  generalize query.drop (stripClause query).length = clause at hquery ⊢
  have hfirst := occursFirst_of_occurrences_eq_one honce hquery.symm
  -- The statement and its stripped beginning are widened in the same place.
  have hwiden : widen query k.tuple count =
      k.before ++ copies k.tuple count ++ (k.after ++ clause) := by
    conv_lhs => rw [hquery]
    exact widen_of_occursFirst hfirst count
  have hwiden' : widen (stripClause query) k.tuple count =
      k.before ++ copies k.tuple count ++ k.after := by
    rw [htext]
    exact widen_of_occursFirst hfirst.of_append count
  have hstrip : stripClause (widen query k.tuple count) =
      k.before ++ copies k.tuple count ++ k.after := by
    rw [hquery] at htext
    rw [hwiden]
    exact stripClause_copies hgroup heven htext hcount
  have hcapture : capture? (stripClause (widen query k.tuple count)) =
      some ⟨k.before, copies k.tuple count, k.after⟩ := by
    rw [htext, List.append_assoc] at hk
    rw [hstrip, List.append_assoc]
    exact capture?_exchange hgroup (hgroup.copies hcount)
      (occursIn_copies (by decide) (by decide) hword hcount) hk
  have hextract : extractTuple (widen query k.tuple count) = .ok (copies k.tuple count) :=
    extractTuple_eq_ok_iff.2 ⟨_, hcapture, rfl, holdsBlankParens_copies hblank hcount⟩
  refine ⟨check_of_extractTuple hextract, hextract, hstrip.trans hwiden'.symm, ?_⟩
  rw [hwiden, hwiden', List.append_assoc _ k.after]

/-- Two copies of a tuple with a quoted literal, in front of a clause with a literal of its
own and the word `VALUES`. -/
theorem extractTuple_widen_before_clause :
    let query :=
      "INSERT INTO t VALUES ('a', ?) ON DUPLICATE KEY UPDATE v = VALUES(v), w = 'b'".toList
    let tuple := "('a', ?)".toList
    extractTuple query = .ok tuple ∧ occurrences tuple query = 1 ∧
      evenlyQuoted tuple = true ∧ occursIn "VALUES".toList tuple = false ∧
      check (widen query tuple 2) = .ok () ∧
      extractTuple (widen query tuple 2) = .ok (copies tuple 2) ∧
      stripClause (widen query tuple 2) = widen (stripClause query) tuple 2 ∧
      widen query tuple 2 =
        widen (stripClause query) tuple 2 ++ query.drop (stripClause query).length := by
  intro query tuple
  have htuple : extractTuple query = .ok tuple := by decide +kernel
  have honce : occurrences tuple query = 1 := by decide +kernel
  exact ⟨htuple, honce, by decide, by decide,
    extractTuple_widen htuple honce (by decide) (by decide) (by decide)⟩

end BulkInsert.Statement
