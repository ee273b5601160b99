import BulkInsert.Proofs.Statement.Groups

/-!
# Which tuple is captured

The rule for the captured tuple, said without the search that finds it. `Viable` says when an
occurrence of `VALUES` may be taken, `Preferred` which of two is: the one on an earlier line,
and on the same line the later one. `Captures` says what is taken behind an occurrence, and
`Chosen` puts these together. There is at most one choice, `Chosen.unique`, and the search makes
it when there is one: `capture?_eq_some_iff`, `capture?_eq_none_iff`.

The search goes from line to line, so the proofs go by the lines of a text, `lines_induction`.
An occurrence may stand on one line and its group on a later one. The line of an occurrence is
the one where its word stands, so it is found in the text in front of it: the number of line
breaks there tells the line.

`extractTuple_rule` is the rule for extraction.
-/

namespace BulkInsert.Statement

open Text

/-! ### Occurrences and captures -/

/-- The text up to the end of its first line. -/
def firstLine (t : Text) : Text := t.takeWhile (· != '\n')

/-- The text has an occurrence of `VALUES` behind `front`, and it is **viable**: behind it stand
only blanks and then a group. -/
def Viable (t front : Text) : Prop :=
  ∃ blanks group rest, t = front ++ ("VALUES".toList ++ (blanks ++ (group ++ rest))) ∧
    (∀ b ∈ blanks, isBlank b = true) ∧ IsGroup group

/-- `Captures t front k`: the capture `k` splits `t` at the group of the occurrence of `VALUES`
behind `front`. The group ends at the last closing parenthesis of its line. -/
structure Captures (t front : Text) (k : Capture) : Prop where
  text_eq : k.text = t
  before_eq : ∃ blanks, (∀ b ∈ blanks, isBlank b = true) ∧
    k.before = front ++ ("VALUES".toList ++ blanks)
  isGroup : IsGroup k.tuple
  last_close : ')' ∉ firstLine k.after

/-- An occurrence behind `front` is **preferred** to one behind `other` when it stands on an
earlier line, or on the same line and not in front of it. -/
def Preferred (front other : Text) : Prop :=
  front.count '\n' < other.count '\n' ∨
    front.count '\n' = other.count '\n' ∧ other.length ≤ front.length

/-- The capture at the viable occurrence that is preferred to every other. -/
structure Chosen (t front : Text) (k : Capture) : Prop extends Captures t front k where
  preferred : ∀ other, Viable t other → Preferred front other

/-- The capture in a text with more in front. -/
def Capture.prepend (front : Text) (k : Capture) : Capture :=
  { k with before := front ++ k.before }

theorem Capture.text_prepend (front : Text) (k : Capture) :
    (k.prepend front).text = front ++ k.text := by
  simp [Capture.text, Capture.prepend]

/-- Nothing is closed on a line without a closing parenthesis. -/
theorem splitLastClose?_eq_none_iff {t : Text} :
    splitLastClose? t = none ↔ ')' ∉ firstLine t := by
  induction t with
  | nil => simp [splitLastClose?, firstLine]
  | cons c t ih =>
      rw [splitLastClose?_cons_eq_none_iff, ih, firstLine, firstLine]
      by_cases hc : c = '\n'
      · simp [hc]
      · rw [List.takeWhile_cons_of_pos (by simpa using hc), List.mem_cons, not_or,
          or_iff_right hc]
        exact and_congr_left' ne_comm

/-- A group can be taken from a text that begins with one. -/
theorem IsGroup.groupAt?_append_ne_none {group : Text} (h : IsGroup group) (rest : Text) :
    groupAt? (group ++ rest) ≠ none := by
  obtain ⟨body, rfl, hne, hbody⟩ := h
  obtain ⟨c, body, rfl⟩ := List.exists_cons_of_ne_nil hne
  obtain ⟨hc, hbody⟩ := List.ne_and_not_mem_of_not_mem_cons hbody
  simp only [List.cons_append, List.append_assoc]
  rw [Ne, groupAt?_cons_cons_eq_none_iff]
  exact fun hnone => splitLastClose?_append_ne_none hbody rest (hnone rfl hc.symm)

/-- Blanks in front of a group are read up to the group. -/
theorem skipBlanks_append_group {blanks group : Text}
    (hblanks : ∀ b ∈ blanks, isBlank b = true) (hgroup : IsGroup group) (rest : Text) :
    skipBlanks (blanks ++ (group ++ rest)) = group ++ rest ∧
      (blanks ++ (group ++ rest)).takeWhile isBlank = blanks := by
  obtain ⟨inside, rfl⟩ := hgroup.exists_cons
  have hparen : isBlank '(' = false := by decide
  rw [skipBlanks_append hblanks, List.takeWhile_append_of_pos hblanks]
  simp [skipBlanks, hparen]

/-- What the word at the beginning of a text captures. -/
theorem valuesAt?_eq_some_iff {t : Text} {k : Capture} :
    valuesAt? t = some k ↔ Captures t [] k := by
  constructor
  · intro h
    have htext := text_of_valuesAt? h
    rw [valuesAt?] at h
    split at h
    · cases h
    · rename_i rest hrest
      obtain ⟨⟨group, tail⟩, hgroup, rfl⟩ := Option.map_eq_some_iff.1 h
      obtain ⟨hgroup, htail, -⟩ := groupAt?_eq_some_iff.1 hgroup
      exact ⟨htext, ⟨_, fun b hb => List.mem_takeWhile_imp hb, rfl⟩, hgroup,
        splitLastClose?_eq_none_iff.1 htail⟩
  · rintro ⟨rfl, ⟨blanks, hblanks, hbefore⟩, hgroup, hclose⟩
    obtain ⟨before, group, after⟩ := k
    obtain rfl : before = "VALUES".toList ++ blanks := hbefore
    obtain ⟨hskip, htake⟩ := skipBlanks_append_group hblanks hgroup after
    have htaken : groupAt? (group ++ after) = some (group, after) :=
      groupAt?_eq_some_iff.2 ⟨hgroup, splitLastClose?_eq_none_iff.2 hclose, rfl⟩
    simp only [Capture.text, List.append_assoc, valuesAt?, isPrefixOf?_append, hskip, htake,
      htaken, Option.map_some]

/-- The word at the beginning of a text captures nothing when it is not viable. -/
theorem valuesAt?_eq_none_iff {t : Text} : valuesAt? t = none ↔ ¬ Viable t [] := by
  constructor
  · rintro hnone ⟨blanks, group, rest, rfl, hblanks, hgroup⟩
    rw [List.nil_append, valuesAt?, isPrefixOf?_append] at hnone
    simp only at hnone
    rw [(skipBlanks_append_group hblanks hgroup rest).1, Option.map_eq_none_iff] at hnone
    exact hgroup.groupAt?_append_ne_none rest hnone
  · intro hnot
    rw [Option.eq_none_iff_forall_not_mem]
    intro k hk
    obtain ⟨rfl, ⟨blanks, hblanks, hbefore⟩, hgroup, -⟩ := valuesAt?_eq_some_iff.1 hk
    exact hnot ⟨blanks, k.tuple, k.after, by simp [Capture.text, hbefore], hblanks, hgroup⟩

section

variable {t front other : Text} {k : Capture}

/-- A captured occurrence is viable. -/
theorem Captures.viable (h : Captures t front k) : Viable t front := by
  obtain ⟨rfl, ⟨blanks, hblanks, hbefore⟩, hgroup, -⟩ := h
  exact ⟨blanks, k.tuple, k.after, by simp [Capture.text, hbefore], hblanks, hgroup⟩

/-- What is captured stays captured with more in front. -/
theorem Captures.prepend (h : Captures t front k) (s : Text) :
    Captures (s ++ t) (s ++ front) (k.prepend s) where
  text_eq := by rw [Capture.text_prepend, h.text_eq]
  before_eq := by
    obtain ⟨blanks, hblanks, hbefore⟩ := h.before_eq
    exact ⟨blanks, hblanks, by simp [Capture.prepend, hbefore]⟩
  isGroup := h.isGroup
  last_close := h.last_close

/-- What is captured behind some text is captured without it. -/
theorem Captures.exists_prepend (h : Captures t front k) :
    ∃ u l, t = front ++ u ∧ Captures u [] l ∧ k = l.prepend front := by
  obtain ⟨rfl, ⟨blanks, hblanks, hbefore⟩, hgroup, hclose⟩ := h
  obtain ⟨before, group, after⟩ := k
  obtain rfl : before = front ++ ("VALUES".toList ++ blanks) := hbefore
  exact ⟨"VALUES".toList ++ blanks ++ group ++ after, ⟨"VALUES".toList ++ blanks, group, after⟩,
    by simp [Capture.text], ⟨rfl, ⟨blanks, hblanks, rfl⟩, hgroup, hclose⟩, rfl⟩

/-- At one place only one group is captured. -/
theorem Captures.unique {k' : Capture} (h : Captures t front k) (h' : Captures t front k') :
    k = k' := by
  obtain ⟨u, l, rfl, hl, rfl⟩ := h.exists_prepend
  obtain ⟨u', l', hu, hl', rfl⟩ := h'.exists_prepend
  obtain rfl := List.append_cancel_left hu
  have hsame := (valuesAt?_eq_some_iff.2 hl).symm.trans (valuesAt?_eq_some_iff.2 hl')
  rw [Option.some.inj hsame]

/-- A viable occurrence is one with more in front, and the other way round. -/
theorem viable_append_iff (s : Text) : Viable (s ++ t) (s ++ front) ↔ Viable t front := by
  simp only [Viable, List.append_assoc, List.append_cancel_left_eq]

/-- Of two places in a text, each preferred to the other, both are the same. -/
theorem Preferred.antisymm (h : Preferred front other) (h' : Preferred other front)
    (hfront : front <+: t) (hother : other <+: t) : front = other := by
  have hlength : front.length = other.length := by
    rw [Preferred] at h h'
    omega
  exact (List.prefix_of_prefix_length_le hfront hother hlength.le).eq_of_length hlength

/-- A preferred place stays preferred with more in front. -/
theorem Preferred.prepend (h : Preferred front other) (s : Text) :
    Preferred (s ++ front) (s ++ other) := by
  rw [Preferred] at h ⊢
  simp only [List.count_append, List.length_append]
  omega

/-- An occurrence stands behind a beginning of the text. -/
theorem Viable.isPrefix (h : Viable t front) : front <+: t := by
  obtain ⟨blanks, group, rest, rfl, -⟩ := h
  exact List.prefix_append _ _

/-- There is at most one choice. -/
theorem Chosen.unique {front' : Text} {k' : Capture} (h : Chosen t front k)
    (h' : Chosen t front' k') : front' = front ∧ k' = k := by
  obtain rfl := (h.preferred _ h'.viable).antisymm (h'.preferred _ h.viable)
    h.viable.isPrefix h'.viable.isPrefix
  exact ⟨rfl, h'.toCaptures.unique h.toCaptures⟩

end

/-! ### The search -/

/-- What holds of texts of one line, and of a line and a text of which it holds, holds of all
texts. -/
theorem lines_induction {P : Text → Prop} (last : ∀ line, '\n' ∉ line → P line)
    (more : ∀ line rest, '\n' ∉ line → P rest → P (line ++ '\n' :: rest)) (t : Text) : P t := by
  induction hn : t.length using Nat.strong_induction_on generalizing t with
  | _ n ih =>
      by_cases hbreak : '\n' ∈ t
      · obtain ⟨line, rest, rfl, hline⟩ := List.eq_append_cons_of_mem hbreak
        refine more line rest hline (ih rest.length ?_ rest rfl)
        simp only [List.length_append, List.length_cons] at hn
        omega
      · exact last t hbreak

section

variable {t line rest other : Text} {c d : Char} {k : Capture}

/-- An occurrence with a character in front of it stands behind that character. -/
theorem Viable.of_cons (h : Viable (c :: t) (d :: other)) : d = c ∧ Viable t other := by
  obtain ⟨rfl, -⟩ := List.cons_prefix_cons.1 h.isPrefix
  exact ⟨rfl, (viable_append_iff [d]).1 h⟩

/-- No occurrence stands at a line break. -/
theorem not_viable_lineBreak : ¬ Viable ('\n' :: t) [] := by
  rintro ⟨blanks, group, rest, heq, -⟩
  cases heq

/-- Nothing is found on the first line exactly when every viable occurrence stands on a later
one. -/
theorem lastOnLine?_eq_none_iff :
    lastOnLine? t = none ↔ ∀ other, Viable t other → '\n' ∈ other := by
  induction t with
  | nil =>
      refine iff_of_true rfl fun other h => ?_
      obtain ⟨blanks, group, rest, heq, -⟩ := h
      simp at heq
  | cons c t ih =>
      rw [lastOnLine?_cons_eq_none_iff, ih, valuesAt?_eq_none_iff]
      constructor
      · rintro (rfl | ⟨hrest, hnot⟩) (- | ⟨d, other⟩) h
        · exact absurd h not_viable_lineBreak
        · rw [h.of_cons.1]
          exact List.mem_cons_self
        · exact absurd h hnot
        · exact List.mem_cons_of_mem d (hrest other h.of_cons.2)
      · intro h
        by_cases hc : c = '\n'
        · exact .inl hc
        · refine .inr ⟨fun other hother => ?_, fun hviable => ?_⟩
          · have hmem := h (c :: other) ((viable_append_iff [c]).2 hother)
            exact (List.mem_cons.1 hmem).resolve_left (Ne.symm hc)
          · exact List.not_mem_nil (h [] hviable)

/-- What is found on the first line is captured at the last viable occurrence there. -/
theorem exists_captures_of_lastOnLine? (h : lastOnLine? t = some k) :
    ∃ front, Captures t front k ∧ '\n' ∉ front ∧
      ∀ other, Viable t other → '\n' ∉ other → other.length ≤ front.length := by
  induction t generalizing k with
  | nil => cases h
  | cons c t ih =>
      rw [lastOnLine?] at h
      split at h
      · cases h
      · rename_i hc
        cases hrest : lastOnLine? t with
        | some l =>
            rw [hrest] at h
            obtain rfl := Option.some.inj h
            obtain ⟨front, hcaptures, hline, hlast⟩ := ih hrest
            refine ⟨c :: front, hcaptures.prepend [c], ?_, ?_⟩
            · rw [List.mem_cons, not_or]
              exact ⟨Ne.symm hc, hline⟩
            · rintro (- | ⟨d, other⟩) hviable hother
              · exact Nat.zero_le _
              · have hle := hlast other hviable.of_cons.2
                  fun hmem => hother (List.mem_cons_of_mem d hmem)
                simpa using hle
        | none =>
            rw [hrest] at h
            refine ⟨[], valuesAt?_eq_some_iff.1 h, List.not_mem_nil, ?_⟩
            rintro (- | ⟨d, other⟩) hviable hother
            · exact Nat.le_refl _
            · have hmem := lastOnLine?_eq_none_iff.1 hrest other hviable.of_cons.2
              exact absurd (List.mem_cons_of_mem d hmem) hother

/-- What is found on the first line is chosen. -/
theorem exists_chosen_of_lastOnLine? (h : lastOnLine? t = some k) :
    ∃ front, Chosen t front k := by
  obtain ⟨front, hcaptures, hline, hlast⟩ := exists_captures_of_lastOnLine? h
  refine ⟨front, hcaptures, fun other hviable => ?_⟩
  rw [Preferred, List.count_eq_zero_of_not_mem hline]
  by_cases hother : '\n' ∈ other
  · exact .inl (List.count_pos_iff.2 hother)
  · exact .inr ⟨(List.count_eq_zero_of_not_mem hother).symm, hlast other hviable hother⟩

/-- A text of one line has no later line. -/
theorem laterLine?_eq_none (hline : '\n' ∉ line) : laterLine? line = none := by
  induction line with
  | nil => rfl
  | cons c line ih =>
      obtain ⟨hc, hline⟩ := List.ne_and_not_mem_of_not_mem_cons hline
      rw [laterLine?_cons, if_neg hc.symm, ih hline]
      rfl

/-- What is found behind the first line is found in the text behind it. -/
theorem laterLine?_append (hline : '\n' ∉ line) (rest : Text) :
    laterLine? (line ++ '\n' :: rest) =
      (capture? rest).map (Capture.prepend (line ++ ['\n'])) := by
  induction line with
  | nil =>
      rw [List.nil_append, laterLine?_cons, if_pos rfl]
      rfl
  | cons c line ih =>
      obtain ⟨hc, hline⟩ := List.ne_and_not_mem_of_not_mem_cons hline
      rw [List.cons_append, laterLine?_cons, if_neg hc.symm, ih hline, Option.map_map]
      rfl

/-- An occurrence on a later line is one in the text behind the first line. -/
theorem Viable.exists_of_mem (h : Viable (line ++ '\n' :: rest) other) (hline : '\n' ∉ line)
    (hother : '\n' ∈ other) : ∃ other', other = line ++ '\n' :: other' ∧ Viable rest other' := by
  induction line generalizing other with
  | nil =>
      obtain ⟨d, other, rfl⟩ := List.exists_cons_of_ne_nil (List.ne_nil_of_mem hother)
      obtain ⟨rfl, hviable⟩ := h.of_cons
      exact ⟨other, rfl, hviable⟩
  | cons c line ih =>
      obtain ⟨hc, hline'⟩ := List.ne_and_not_mem_of_not_mem_cons hline
      obtain ⟨d, other, rfl⟩ := List.exists_cons_of_ne_nil (List.ne_nil_of_mem hother)
      obtain ⟨rfl, hviable⟩ := h.of_cons
      obtain ⟨other', rfl, hrest⟩ :=
        ih hviable hline' ((List.mem_cons.1 hother).resolve_left hc)
      exact ⟨other', rfl, hrest⟩

/-- What is chosen behind the first line is chosen in the whole text when no viable occurrence
stands on the first line. -/
theorem Chosen.append {front : Text} (h : Chosen rest front k) (hline : '\n' ∉ line)
    (hnone : lastOnLine? (line ++ '\n' :: rest) = none) :
    Chosen (line ++ '\n' :: rest) (line ++ '\n' :: front) (k.prepend (line ++ ['\n'])) := by
  have hcaptures := h.toCaptures.prepend (line ++ ['\n'])
  simp only [List.append_assoc, List.singleton_append] at hcaptures
  refine ⟨hcaptures, fun other hviable => ?_⟩
  obtain ⟨other', rfl, hrest⟩ :=
    hviable.exists_of_mem hline (lastOnLine?_eq_none_iff.1 hnone other hviable)
  have hpreferred := (h.preferred other' hrest).prepend (line ++ ['\n'])
  simpa only [List.append_assoc, List.singleton_append] using hpreferred

end

/-- The search captures what is chosen, and finds nothing only when no occurrence is viable. -/
theorem capture?_rule (t : Text) :
    (∀ k, capture? t = some k → ∃ front, Chosen t front k) ∧
      (capture? t = none → ∀ front, ¬ Viable t front) := by
  induction t using lines_induction with
  | last line hline =>
      rw [capture?, laterLine?_eq_none hline]
      cases hfirst : lastOnLine? line with
      | some k =>
          refine ⟨fun k' hk => ?_, fun h => by cases h⟩
          obtain rfl := Option.some.inj hk
          exact exists_chosen_of_lastOnLine? hfirst
      | none =>
          refine ⟨fun k hk => (by cases hk), fun _ front hviable => hline ?_⟩
          exact hviable.isPrefix.subset (lastOnLine?_eq_none_iff.1 hfirst front hviable)
  | more line rest hline ih =>
      rw [capture?, laterLine?_append hline]
      cases hfirst : lastOnLine? (line ++ '\n' :: rest) with
      | some k =>
          refine ⟨fun k' hk => ?_, fun h => by cases h⟩
          obtain rfl := Option.some.inj hk
          exact exists_chosen_of_lastOnLine? hfirst
      | none =>
          refine ⟨fun k hk => ?_, fun hnone front hviable => ?_⟩
          · obtain ⟨l, hl, rfl⟩ := Option.map_eq_some_iff.1 hk
            obtain ⟨front, hchosen⟩ := ih.1 l hl
            exact ⟨_, hchosen.append hline hfirst⟩
          · obtain ⟨front', -, hrest⟩ := hviable.exists_of_mem hline
              (lastOnLine?_eq_none_iff.1 hfirst front hviable)
            exact ih.2 (Option.map_eq_none_iff.1 hnone) front' hrest

/-- The search captures what is chosen. -/
theorem capture?_eq_some_iff {t : Text} {k : Capture} :
    capture? t = some k ↔ ∃ front, Chosen t front k := by
  refine ⟨(capture?_rule t).1 k, fun ⟨front, hchosen⟩ => ?_⟩
  cases hcapture : capture? t with
  | none => exact absurd hchosen.viable ((capture?_rule t).2 hcapture front)
  | some l =>
      obtain ⟨front', hchosen'⟩ := (capture?_rule t).1 l hcapture
      rw [(hchosen.unique hchosen').2]

/-- The search finds nothing exactly when no occurrence is viable. -/
theorem capture?_eq_none_iff {t : Text} : capture? t = none ↔ ∀ front, ¬ Viable t front := by
  refine ⟨(capture?_rule t).2, fun hnot => ?_⟩
  rw [Option.eq_none_iff_forall_not_mem]
  intro k hk
  obtain ⟨front, hchosen⟩ := capture?_eq_some_iff.1 hk
  exact hnot front hchosen.viable

/-! ### Blank pairs of parentheses -/

/-- The text holds an opening parenthesis, blanks, at least one, and a closing parenthesis in a
row. -/
def BlankPair (t : Text) : Prop :=
  ∃ front blanks rest, t = front ++ '(' :: (blanks ++ ')' :: rest) ∧ blanks ≠ [] ∧
    ∀ b ∈ blanks, isBlank b = true

/-- A text begins with a blank pair when a pair stands at its beginning. -/
theorem beginsBlankParens_eq_true_iff {t : Text} :
    beginsBlankParens t = true ↔
      ∃ blanks rest, t = '(' :: (blanks ++ ')' :: rest) ∧ blanks ≠ [] ∧
        ∀ b ∈ blanks, isBlank b = true := by
  constructor
  · intro h
    rcases t with - | ⟨c, t⟩
    · cases h
    · rw [beginsBlankParens, Bool.and_eq_true, beq_iff_eq, Option.any_eq_true] at h
      obtain ⟨rfl, u, hu, hclose⟩ := h
      obtain ⟨blanks, rfl, hblanks⟩ := exists_of_afterBlanks?_eq_some hu
      obtain ⟨rest, rfl⟩ := List.head?_eq_some_iff.1 (beq_iff_eq.1 hclose)
      exact ⟨blanks, rest, rfl, hblanks⟩
  · rintro ⟨blanks, rest, rfl, hne, hblanks⟩
    rw [beginsBlankParens, afterBlanks?_append hne hblanks]
    rfl

/-- A blank pair is found wherever it stands. -/
theorem holdsBlankParens_eq_true_iff {t : Text} : holdsBlankParens t = true ↔ BlankPair t := by
  induction t with
  | nil =>
      refine iff_of_false Bool.false_ne_true ?_
      rintro ⟨front, blanks, rest, heq, -⟩
      simp at heq
  | cons c t ih =>
      rw [holdsBlankParens, Bool.or_eq_true, ih, beginsBlankParens_eq_true_iff]
      constructor
      · rintro (⟨blanks, rest, heq, hpair⟩ | ⟨front, blanks, rest, rfl, hpair⟩)
        · exact ⟨[], blanks, rest, heq, hpair⟩
        · exact ⟨c :: front, blanks, rest, rfl, hpair⟩
      · rintro ⟨- | ⟨d, front⟩, blanks, rest, heq, hpair⟩
        · exact .inl ⟨blanks, rest, heq, hpair⟩
        · exact .inr ⟨front, blanks, rest, (List.cons.inj heq).2, hpair⟩

/-! ### Extraction -/

/-- A captured tuple is extracted unless it holds a blank pair. -/
theorem extractTuple_of_capture? {query : Text} {k : Capture}
    (h : capture? (stripClause query) = some k) :
    (BlankPair k.tuple → extractTuple query = .error .unparsableValues) ∧
      (¬ BlankPair k.tuple → extractTuple query = .ok k.tuple) := by
  have hextract : extractTuple query =
      if holdsBlankParens k.tuple then .error .unparsableValues else .ok k.tuple := by
    rw [extractTuple, h]
  rw [hextract, ← holdsBlankParens_eq_true_iff]
  exact ⟨fun hpair => if_pos hpair, fun hpair => if_neg hpair⟩

/-- **Which tuple is extracted.** When the statement without its clause has no viable occurrence
of `VALUES`, none. Otherwise there is exactly one choice: on the first line with a viable
occurrence the last one, and there the group up to the last closing parenthesis of its line. It
is extracted verbatim, unless a blank pair of parentheses stands in it. -/
theorem extractTuple_rule (query : Text) :
    let kept := stripClause query
    ((∀ front, ¬ Viable kept front) → extractTuple query = .error .unparsableValues) ∧
      ((∃ front, Viable kept front) → ∃ front k, Chosen kept front k ∧
        (∀ front' k', Chosen kept front' k' → front' = front ∧ k' = k) ∧
        (BlankPair k.tuple → extractTuple query = .error .unparsableValues) ∧
        (¬ BlankPair k.tuple → extractTuple query = .ok k.tuple)) := by
  intro kept
  refine ⟨fun hnone => ?_, fun hviable => ?_⟩
  · rw [extractTuple, capture?_eq_none_iff.2 hnone]
  · cases hcapture : capture? kept with
    | none =>
        obtain ⟨front, hfront⟩ := hviable
        exact absurd hfront (capture?_eq_none_iff.1 hcapture front)
    | some k =>
        obtain ⟨front, hchosen⟩ := capture?_eq_some_iff.1 hcapture
        exact ⟨front, k, hchosen, fun _ _ h => hchosen.unique h,
          extractTuple_of_capture? hcapture⟩

/-- The second word on the first line is taken though its group stands on the next, and the group
goes on to the last closing parenthesis there. -/
example : extractTuple "INSERT INTO t VALUES (a) VALUES\n (b), c) d\nVALUES (e)".toList =
    .ok "(b), c)".toList := by decide +kernel

end BulkInsert.Statement
