import BulkInsert.Proofs.Statement.Delimiters
import BulkInsert.Proofs.Statement.Widening

/-!
# Groups

`IsGroup` says what a captured tuple looks like, and `groupAt?_eq_some_iff` when a group is
taken: it has no closing parenthesis behind it on its line.

Which group a statement's tuple is depends on the text around it and hardly on the group
itself. `capture?_exchange` says so: a captured tuple may be exchanged for any other group
without the word `VALUES`, and then that one is captured. The argument goes along the text in
front of the tuple. What is viable there stays viable and what is not stays so, because the
parenthesis that closes a group in front is on its line or is the last one of the tuple.
-/

namespace BulkInsert.Statement

open Text

/-- A **group**: on one line, an opening and a closing parenthesis with at least one
character between them. -/
def IsGroup (group : Text) : Prop :=
  ∃ body, group = '(' :: (body ++ [')']) ∧ body ≠ [] ∧ '\n' ∉ body

/-! ### The last closing parenthesis of a line -/

/-- A line without a closing parenthesis is empty, or begins with another character and has
none behind it. -/
theorem splitLastClose?_cons_eq_none_iff {c : Char} {rest : Text} :
    splitLastClose? (c :: rest) = none ↔
      c = '\n' ∨ c ≠ ')' ∧ splitLastClose? rest = none := by
  rw [splitLastClose?]
  by_cases hc : c = '\n'
  · simp [hc]
  · rw [if_neg hc]
    cases hrest : splitLastClose? rest with
    | none => by_cases hclose : c = ')' <;> simp [hc, hclose]
    | some p => simp [hc]

/-- A line is split at a closing parenthesis when there is none behind it. -/
theorem splitLastClose?_append {body tail : Text} (hbody : '\n' ∉ body)
    (htail : splitLastClose? tail = none) :
    splitLastClose? (body ++ ')' :: tail) = some (body ++ [')'], tail) := by
  induction body with
  | nil => simp [splitLastClose?, htail]
  | cons c body ih =>
      obtain ⟨hc, hbody⟩ := List.ne_and_not_mem_of_not_mem_cons hbody
      rw [List.cons_append, splitLastClose?, if_neg hc.symm, ih hbody]
      rfl

/-- Where a line is split. -/
theorem splitLastClose?_eq_some_iff {t group tail : Text} :
    splitLastClose? t = some (group, tail) ↔
      (∃ body, group = body ++ [')'] ∧ '\n' ∉ body) ∧ splitLastClose? tail = none ∧
        group ++ tail = t := by
  constructor
  · intro h
    induction t generalizing group with
    | nil => simp [splitLastClose?] at h
    | cons c rest ih =>
        rw [splitLastClose?] at h
        by_cases hc : c = '\n'
        · simp [hc] at h
        · rw [if_neg hc] at h
          cases hrest : splitLastClose? rest with
          | some p =>
              obtain ⟨group', tail'⟩ := p
              rw [hrest] at h
              obtain ⟨rfl, rfl⟩ := Prod.mk.inj (Option.some.inj h)
              obtain ⟨⟨body, rfl, hbody⟩, htail, rfl⟩ := ih hrest
              exact ⟨⟨c :: body, rfl, by simpa [Ne.symm hc] using hbody⟩, htail, rfl⟩
          | none =>
              rw [hrest] at h
              by_cases hclose : c = ')'
              · simp only [if_pos hclose, Option.some.injEq, Prod.mk.injEq] at h
                obtain ⟨rfl, rfl⟩ := h
                exact ⟨⟨[], by rw [hclose]; rfl, by simp⟩, hrest, rfl⟩
              · simp [hclose] at h
  · rintro ⟨⟨body, rfl, hbody⟩, htail, rfl⟩
    rw [List.append_assoc, List.singleton_append]
    exact splitLastClose?_append hbody htail

/-- A line with a closing parenthesis can be split. -/
theorem splitLastClose?_append_ne_none {body : Text} (hbody : '\n' ∉ body) (tail : Text) :
    splitLastClose? (body ++ ')' :: tail) ≠ none := by
  induction body with
  | nil => simp [splitLastClose?_cons_eq_none_iff]
  | cons c body ih =>
      obtain ⟨hc, hbody⟩ := List.ne_and_not_mem_of_not_mem_cons hbody
      rw [List.cons_append, Ne, splitLastClose?_cons_eq_none_iff, not_or, not_and]
      exact ⟨hc.symm, fun _ => ih hbody⟩

/-- When a group is taken. -/
theorem groupAt?_eq_some_iff {t group tail : Text} :
    groupAt? t = some (group, tail) ↔
      IsGroup group ∧ splitLastClose? tail = none ∧ group ++ tail = t := by
  constructor
  · intro h
    unfold groupAt? at h
    split at h
    · rename_i o c rest
      split at h
      · rename_i ho
        obtain ⟨⟨group', tail'⟩, hsplit, heq⟩ := Option.map_eq_some_iff.1 h
        obtain ⟨rfl, rfl⟩ := Prod.mk.inj heq
        obtain ⟨⟨body, rfl, hbody⟩, htail, rfl⟩ := splitLastClose?_eq_some_iff.1 hsplit
        refine ⟨⟨c :: body, ?_, List.cons_ne_nil _ _, ?_⟩, htail, rfl⟩
        · rw [ho.1, List.cons_append]
        · simpa [Ne.symm ho.2] using hbody
      · cases h
    · cases h
  · rintro ⟨⟨body, rfl, hne, hbody⟩, htail, rfl⟩
    obtain ⟨c, body, rfl⟩ := List.exists_cons_of_ne_nil hne
    obtain ⟨hc, hbody⟩ := List.ne_and_not_mem_of_not_mem_cons hbody
    have hsplit := splitLastClose?_append hbody htail
    rw [List.cons_append, List.cons_append, List.cons_append, List.append_assoc,
      List.singleton_append, groupAt?, if_pos ⟨rfl, hc.symm⟩, hsplit]
    rfl

/-- When no group is taken. -/
theorem groupAt?_cons_cons_eq_none_iff {o c : Char} {rest : Text} :
    groupAt? (o :: c :: rest) = none ↔
      (o = '(' → c ≠ '\n' → splitLastClose? rest = none) := by
  rw [groupAt?]
  by_cases h : o = '(' ∧ c ≠ '\n'
  · rw [if_pos h, Option.map_eq_none_iff]
    exact ⟨fun hrest _ _ => hrest, fun hrest => hrest h.1 h.2⟩
  · rw [if_neg h]
    exact ⟨fun _ ho hc => absurd ⟨ho, hc⟩ h, fun _ => rfl⟩

/-! ### Groups and places -/

namespace IsGroup

variable {group : Text}

/-- A group begins with an opening parenthesis. -/
theorem exists_cons (h : IsGroup group) : ∃ rest, group = '(' :: rest := by
  obtain ⟨body, rfl, -⟩ := h
  exact ⟨_, rfl⟩

/-- A group ends in a closing parenthesis and holds no line break. -/
theorem exists_concat (h : IsGroup group) : ∃ front, group = front ++ [')'] ∧ '\n' ∉ front := by
  obtain ⟨body, rfl, -, hbody⟩ := h
  refine ⟨'(' :: body, rfl, ?_⟩
  rw [List.mem_cons, not_or]
  exact ⟨by decide, hbody⟩

/-- A group stands on one line. -/
theorem lineBreak_not_mem (h : IsGroup group) : '\n' ∉ group := by
  obtain ⟨front, rfl, hfront⟩ := h.exists_concat
  simpa using hfront

/-- Two groups with a comma between them are a group. -/
theorem append_comma {group' : Text} (h : IsGroup group) (h' : IsGroup group') :
    IsGroup (group ++ ',' :: group') := by
  obtain ⟨body, rfl, -, hbody⟩ := h
  obtain ⟨body', rfl, -, hbody'⟩ := h'
  refine ⟨body ++ [')', ',', '('] ++ body', by simp, by simp, ?_⟩
  simp [hbody, hbody']

/-- When nothing is closed on a line that goes on with a group, then not with another group
either: the line is over before. -/
theorem splitLastClose?_exchange {group' : Text} (h : IsGroup group) (front after : Text)
    (hnone : splitLastClose? (front ++ (group ++ after)) = none) :
    splitLastClose? (front ++ (group' ++ after)) = none := by
  induction front with
  | nil =>
      obtain ⟨body, rfl, hbody⟩ := h.exists_concat
      rw [List.nil_append, List.append_assoc, List.singleton_append] at hnone
      exact absurd hnone (splitLastClose?_append_ne_none hbody after)
  | cons c front ih =>
      rw [List.cons_append, splitLastClose?_cons_eq_none_iff] at hnone ⊢
      exact hnone.imp_right (And.imp_right ih)

/-- When no group can be taken in front of a group, then neither in front of another. -/
theorem groupAt?_exchange {group' : Text} (h : IsGroup group) (h' : IsGroup group')
    (front after : Text) (hnone : groupAt? (front ++ (group ++ after)) = none) :
    groupAt? (front ++ (group' ++ after)) = none := by
  rcases front with - | ⟨o, - | ⟨c, front⟩⟩
  · obtain ⟨body, rfl, hne, hbody⟩ := h
    obtain ⟨c, body, rfl⟩ := List.exists_cons_of_ne_nil hne
    obtain ⟨hc, hbody⟩ := List.ne_and_not_mem_of_not_mem_cons hbody
    simp only [List.nil_append, List.cons_append, List.append_assoc,
      groupAt?_cons_cons_eq_none_iff] at hnone
    exact absurd (hnone trivial hc.symm) (splitLastClose?_append_ne_none hbody after)
  · obtain ⟨body, rfl, -, hbody⟩ := h
    obtain ⟨rest, rfl⟩ := h'.exists_cons
    simp only [List.nil_append, List.cons_append, List.append_assoc,
      groupAt?_cons_cons_eq_none_iff] at hnone ⊢
    intro ho hc
    exact absurd (hnone ho hc) (splitLastClose?_append_ne_none hbody after)
  · rw [List.cons_append, List.cons_append, groupAt?_cons_cons_eq_none_iff] at hnone ⊢
    exact fun ho hc => h.splitLastClose?_exchange front after (hnone ho hc)

/-- What an occurrence of `VALUES` in front of a group captures. -/
theorem valuesAt?_append (h : IsGroup group) (front after : Text) :
    valuesAt? (front ++ (group ++ after)) =
      ("VALUES".toList.isPrefixOf? front).bind fun rest =>
        (groupAt? (skipBlanks rest ++ (group ++ after))).map fun (g, tail) =>
          ⟨"VALUES".toList ++ rest.takeWhile isBlank, g, tail⟩ := by
  obtain ⟨tail, rfl⟩ := h.exists_cons
  rw [valuesAt?, List.cons_append, isPrefixOf?_append_delimiter (by decide)]
  cases "VALUES".toList.isPrefixOf? front with
  | none => rfl
  | some rest =>
      simp only [Option.map_some, Option.bind_some]
      rw [skipBlanks_append_delimiter (by decide), takeWhile_isBlank_append_delimiter (by decide)]

section

variable {group' : Text} (h : IsGroup group) (h' : IsGroup group')

include h h'

/-- An occurrence that is not viable in front of a group is not viable in front of
another. -/
theorem valuesAt?_exchange (front after : Text)
    (hnone : valuesAt? (front ++ (group ++ after)) = none) :
    valuesAt? (front ++ (group' ++ after)) = none := by
  rw [h.valuesAt?_append] at hnone
  rw [h'.valuesAt?_append]
  cases hword : "VALUES".toList.isPrefixOf? front with
  | none => rfl
  | some rest =>
      rw [hword, Option.bind_some, Option.map_eq_none_iff] at hnone
      rw [Option.bind_some, Option.map_eq_none_iff]
      exact h.groupAt?_exchange h' _ after hnone

/-- An occurrence that captures a group captures the one put in its place. -/
theorem valuesAt?_exchange_of_eq_some (front after : Text)
    (hcapture : valuesAt? (front ++ (group ++ after)) = some ⟨front, group, after⟩) :
    valuesAt? (front ++ (group' ++ after)) = some ⟨front, group', after⟩ := by
  rw [h.valuesAt?_append] at hcapture
  rw [h'.valuesAt?_append]
  obtain ⟨rest, hword, hgroup⟩ := Option.bind_eq_some_iff.1 hcapture
  obtain ⟨⟨g, tail⟩, hgroup, heq⟩ := Option.map_eq_some_iff.1 hgroup
  obtain ⟨hfront, rfl, rfl⟩ := Capture.mk.inj heq
  obtain ⟨-, htail, hsplit⟩ := groupAt?_eq_some_iff.1 hgroup
  have hblanks : skipBlanks rest = [] := List.self_eq_append_left.1 hsplit
  have hgroup' : groupAt? (group' ++ tail) = some (group', tail) :=
    groupAt?_eq_some_iff.2 ⟨h', htail, rfl⟩
  rw [hword, Option.bind_some, hblanks, List.nil_append, hgroup', Option.map_some, hfront]

end

end IsGroup

/-- A captured tuple is a group. -/
theorem Capture.isGroup {t : Text} {k : Capture} (h : capture? t = some k) :
    IsGroup k.tuple := by
  refine Capture.property_of_capture? (P := fun k => IsGroup k.tuple) ?_ id h
  intro t k h
  rw [valuesAt?] at h
  split at h
  · cases h
  · obtain ⟨⟨group, tail⟩, hgroup, rfl⟩ := Option.map_eq_some_iff.1 h
    exact (groupAt?_eq_some_iff.1 hgroup).1

/-! ### Lines and captures -/

/-- Something stands in front of a captured tuple. -/
theorem Capture.before_ne_nil {t : Text} {k : Capture} (h : capture? t = some k) :
    k.before ≠ [] := by
  obtain ⟨front, blanks, heq, -⟩ := Capture.before_eq h
  simp [heq]

/-- On later lines the line behind a break is the first, and it may be the only one. -/
theorem laterLine?_cons (c : Char) (rest : Text) :
    laterLine? (c :: rest) =
      (if c = '\n' then capture? rest else laterLine? rest).map (Capture.push c) := by
  rw [laterLine?, capture?]
  split
  · cases lastOnLine? rest <;> rfl
  · rfl

/-- A capture with one more character in front is one that has it in front. -/
theorem Capture.map_push_eq_some_iff {o : Option Capture} {c : Char}
    {before tuple after : Text} :
    o.map (Capture.push c) = some ⟨c :: before, tuple, after⟩ ↔
      o = some ⟨before, tuple, after⟩ := by
  rw [Option.map_eq_some_iff]
  constructor
  · rintro ⟨k, rfl, hpush⟩
    obtain ⟨hbefore, rfl, rfl⟩ := Capture.mk.inj hpush
    rw [← (List.cons.inj hbefore).2]
  · rintro rfl
    exact ⟨_, rfl, rfl⟩

/-- On a line nothing is captured when it is over, or when its first character captures
nothing and what follows does not either. -/
theorem lastOnLine?_cons_eq_none_iff {c : Char} {rest : Text} :
    lastOnLine? (c :: rest) = none ↔
      c = '\n' ∨ lastOnLine? rest = none ∧ valuesAt? (c :: rest) = none := by
  rw [lastOnLine?]
  by_cases hc : c = '\n'
  · simp [hc]
  · rw [if_neg hc]
    cases hrest : lastOnLine? rest with
    | none => simp [hc]
    | some k => simp [hc]

/-- When nothing is captured on a line, nothing is behind some part of the line. -/
theorem lastOnLine?_eq_none_of_append {front rest : Text} (hfront : '\n' ∉ front)
    (h : lastOnLine? (front ++ rest) = none) : lastOnLine? rest = none := by
  induction front with
  | nil => exact h
  | cons c front ih =>
      obtain ⟨hc, hfront⟩ := List.ne_and_not_mem_of_not_mem_cons hfront
      rw [List.cons_append, lastOnLine?_cons_eq_none_iff] at h
      exact ih hfront (h.resolve_left hc.symm).1

/-- Without the word `VALUES` in front of a closing parenthesis, nothing is captured there. -/
theorem lastOnLine?_append_eq_none {front rest : Text}
    (hword : occursIn "VALUES".toList front = false) (h : lastOnLine? rest = none) :
    lastOnLine? (front ++ ')' :: rest) = none := by
  have hnone (front : Text) (hword : "VALUES".toList.isPrefixOf front = false) :
      valuesAt? (front ++ ')' :: rest) = none := by
    rw [← List.isSome_isPrefixOf?_eq_isPrefixOf, Option.isSome_eq_false_iff,
      Option.isNone_iff_eq_none] at hword
    rw [valuesAt?, isPrefixOf?_append_delimiter (by decide), hword]
    rfl
  induction front with
  | nil => exact lastOnLine?_cons_eq_none_iff.2 (.inr ⟨h, hnone [] (by decide)⟩)
  | cons c front ih =>
      rw [occursIn, Bool.or_eq_false_iff] at hword
      exact lastOnLine?_cons_eq_none_iff.2 (.inr ⟨ih hword.2, hnone (c :: front) hword.1⟩)

section

variable {group group' : Text} (h : IsGroup group) (h' : IsGroup group')
  (hword : occursIn "VALUES".toList group' = false)

include h h' hword

/-- A line on which nothing is captured stays one when a group on it is exchanged. -/
theorem lastOnLine?_exchange (front after : Text)
    (hnone : lastOnLine? (front ++ (group ++ after)) = none) :
    lastOnLine? (front ++ (group' ++ after)) = none := by
  induction front with
  | nil =>
      obtain ⟨body, rfl, hbody⟩ := h.exists_concat
      obtain ⟨body', rfl, -⟩ := h'.exists_concat
      rw [occursIn_append_delimiter (by decide) (by decide), Bool.or_eq_false_iff] at hword
      rw [List.nil_append] at hnone ⊢
      rw [List.append_assoc, List.singleton_append]
      refine lastOnLine?_append_eq_none hword.1 (lastOnLine?_eq_none_of_append ?_ hnone)
      simp [hbody]
  | cons c front ih =>
      rw [List.cons_append, lastOnLine?_cons_eq_none_iff] at hnone ⊢
      refine hnone.imp_right fun hrest => ⟨ih hrest.1, ?_⟩
      exact h.valuesAt?_exchange h' (c :: front) after hrest.2

/-- A group captured on the first line may be exchanged. -/
theorem lastOnLine?_exchange_of_eq_some (front after : Text)
    (hcapture : lastOnLine? (front ++ (group ++ after)) = some ⟨front, group, after⟩) :
    lastOnLine? (front ++ (group' ++ after)) = some ⟨front, group', after⟩ := by
  induction front with
  | nil => exact absurd rfl (Capture.before_ne_nil (by rw [capture?, hcapture]))
  | cons c front ih =>
      rw [List.cons_append, lastOnLine?] at hcapture ⊢
      by_cases hc : c = '\n'
      · simp [hc] at hcapture
      · rw [if_neg hc] at hcapture ⊢
        cases hrest : lastOnLine? (front ++ (group ++ after)) with
        | some k =>
            rw [hrest] at hcapture
            have hk : some k = some ⟨front, group, after⟩ :=
              Capture.map_push_eq_some_iff.1 hcapture
            rw [ih (hrest.trans hk)]
            rfl
        | none =>
            rw [hrest] at hcapture
            rw [lastOnLine?_exchange h h' hword front after hrest]
            exact h.valuesAt?_exchange_of_eq_some h' (c :: front) after hcapture

/-- A captured group may be exchanged when one on a later line may. -/
theorem capture?_exchange_of_laterLine? (front after : Text)
    (hlater : laterLine? (front ++ (group ++ after)) = some ⟨front, group, after⟩ →
      laterLine? (front ++ (group' ++ after)) = some ⟨front, group', after⟩)
    (hcapture : capture? (front ++ (group ++ after)) = some ⟨front, group, after⟩) :
    capture? (front ++ (group' ++ after)) = some ⟨front, group', after⟩ := by
  rw [capture?] at hcapture ⊢
  cases hline : lastOnLine? (front ++ (group ++ after)) with
  | some k =>
      rw [hline] at hcapture
      rw [lastOnLine?_exchange_of_eq_some h h' hword front after (hline.trans hcapture)]
  | none =>
      rw [hline] at hcapture
      rw [lastOnLine?_exchange h h' hword front after hline]
      exact hlater hcapture

/-- A group captured on a later line may be exchanged. -/
theorem laterLine?_exchange_of_eq_some (front after : Text)
    (hcapture : laterLine? (front ++ (group ++ after)) = some ⟨front, group, after⟩) :
    laterLine? (front ++ (group' ++ after)) = some ⟨front, group', after⟩ := by
  induction front with
  | nil =>
      obtain ⟨rest, rfl⟩ := h.exists_cons
      rw [List.nil_append, List.cons_append, laterLine?_cons] at hcapture
      obtain ⟨k, -, hk⟩ := Option.map_eq_some_iff.1 hcapture
      cases (Capture.mk.inj hk).1
  | cons c front ih =>
      rw [List.cons_append, laterLine?_cons, Capture.map_push_eq_some_iff] at hcapture ⊢
      split at hcapture
      · rename_i hc
        rw [if_pos hc]
        exact capture?_exchange_of_laterLine? h h' hword front after ih hcapture
      · rename_i hc
        rw [if_neg hc]
        exact ih hcapture

/-- **A captured group may be exchanged** for any other without the word `VALUES`: in the
same place, that one is captured. -/
theorem capture?_exchange {front after : Text}
    (hcapture : capture? (front ++ (group ++ after)) = some ⟨front, group, after⟩) :
    capture? (front ++ (group' ++ after)) = some ⟨front, group', after⟩ :=
  capture?_exchange_of_laterLine? h h' hword front after
    (laterLine?_exchange_of_eq_some h h' hword front after) hcapture

end

end BulkInsert.Statement
