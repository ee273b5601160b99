import BulkInsert.Proofs.Statement.Captures

/-!
# Whole and torn tuples

A tuple goes from the parenthesis behind `VALUES` to the last closing one of its line, whatever
that one closes. So it can be torn though the parentheses of the statement are balanced: something
opened in front of it may be closed on its line, and something opened in it may be closed on a
later line. `extractTuple_torn` shows both.

`balanced_tuple_iff` says that nothing else tears a tuple, and `balanced_extractTuple_iff` takes
the two apart. However the lines are laid out, the tuple closes more than it opens only where it
closes what was opened in front of it, `ClosesOver`. And what is opened in it and closed on the
same line, `ClosedOnLine`, is closed in it, because nothing is closed on the line behind the tuple.

The proofs count. A text that somewhere closes more than it opens has a first parenthesis that
closes what was not opened, and the text in front of that one is balanced: `exists_unopened`.
Likewise a last parenthesis opens what is not closed: `exists_unclosed`. Two of them, one in front
of the tuple and one in it, make up a pair.
-/

namespace BulkInsert.Statement

open Text

/-! ### Balanced texts -/

/-- The parentheses of a text are **balanced**: no beginning of it closes more than it opens, and
all in all as many are opened as closed. -/
structure Balanced (t : Text) : Prop where
  prefix_le : ∀ s, s <+: t → s.count ')' ≤ s.count '('
  count_eq : t.count '(' = t.count ')'

instance (t : Text) : Decidable (Balanced t) :=
  decidable_of_iff ((∀ s ∈ t.inits, s.count ')' ≤ s.count '(') ∧ t.count '(' = t.count ')')
    ⟨fun h => ⟨fun s hs => h.1 s ((List.mem_inits s t).2 hs), h.2⟩,
      fun h => ⟨fun s hs => h.prefix_le s ((List.mem_inits s t).1 hs), h.count_eq⟩⟩

/-- A closing parenthesis at the end is one more that closes. -/
theorem count_concat_close (t : Text) :
    (t ++ [')']).count '(' = t.count '(' ∧ (t ++ [')']).count ')' = t.count ')' + 1 := by
  simp

/-- An opening parenthesis in the middle is one more that opens. -/
theorem count_append_open (s t : Text) :
    (s ++ '(' :: t).count '(' = s.count '(' + t.count '(' + 1 ∧
      (s ++ '(' :: t).count ')' = s.count ')' + t.count ')' := by
  rw [List.count_append, List.count_append, List.count_cons_self,
    List.count_cons_of_ne (by decide)]
  exact ⟨rfl, rfl⟩

/-- One balanced text behind another is balanced. -/
theorem Balanced.append {s t : Text} (hs : Balanced s) (ht : Balanced t) :
    Balanced (s ++ t) where
  prefix_le u hu := by
    rcases List.prefix_or_prefix_of_prefix hu (List.prefix_append s t) with hfront | ⟨v, rfl⟩
    · exact hs.prefix_le u hfront
    · have hv := ht.prefix_le v ((List.prefix_append_right_inj s).1 hu)
      have heq := hs.count_eq
      rw [List.count_append, List.count_append]
      omega
  count_eq := by rw [List.count_append, List.count_append, hs.count_eq, ht.count_eq]

/-- Where some beginning closes more than it opens, there is a first parenthesis that closes what
was not opened. The text in front of it is balanced. -/
theorem exists_unopened {t s : Text} (hs : s <+: t) (h : s.count '(' < s.count ')') :
    ∃ inside rest, t = inside ++ ')' :: rest ∧ Balanced inside := by
  induction t using List.reverseRecOn generalizing s with
  | nil =>
      rw [List.prefix_nil.1 hs] at h
      exact absurd h (Nat.lt_irrefl _)
  | append_singleton t c ih =>
      by_cases hearlier : ∃ u, u <+: t ∧ u.count '(' < u.count ')'
      · obtain ⟨u, hu, hlt⟩ := hearlier
        obtain ⟨inside, rest, rfl, hinside⟩ := ih hu hlt
        exact ⟨inside, rest ++ [c], by simp, hinside⟩
      · push Not at hearlier
        -- Only with its last character does the text close more than it opens.
        obtain rfl : s = t ++ [c] := (List.prefix_concat_iff.1 hs).resolve_right fun hst =>
          absurd h (Nat.not_lt.2 (hearlier s hst))
        have hle := hearlier t List.prefix_rfl
        obtain rfl : c = ')' := by
          by_contra hne
          have hzero : [c].count ')' = 0 :=
            List.count_eq_zero_of_not_mem (by simpa using Ne.symm hne)
          rw [List.count_append, List.count_append] at h
          omega
        obtain ⟨hopened, hclosed⟩ := count_concat_close t
        exact ⟨t, [], rfl, hearlier, by omega⟩

/-- Where some end opens more than it closes, there is a last parenthesis that opens what is not
closed. The text behind it is balanced. -/
theorem exists_unclosed {t s : Text} (hs : s <:+ t) (h : s.count ')' < s.count '(') :
    ∃ front inside, t = front ++ '(' :: inside ∧ Balanced inside := by
  induction t generalizing s with
  | nil =>
      rw [List.suffix_nil.1 hs] at h
      exact absurd h (Nat.lt_irrefl _)
  | cons c t ih =>
      by_cases hlater : ∃ u, u <:+ t ∧ u.count ')' < u.count '('
      · obtain ⟨u, hu, hlt⟩ := hlater
        obtain ⟨front, inside, rfl, hinside⟩ := ih hu hlt
        exact ⟨c :: front, inside, rfl, hinside⟩
      · push Not at hlater
        -- Only with its first character does the text open more than it closes.
        obtain rfl : s = c :: t := (List.suffix_cons_iff.1 hs).resolve_right fun hst =>
          absurd h (Nat.not_lt.2 (hlater s hst))
        have hle := hlater t List.suffix_rfl
        obtain rfl : c = '(' := by
          by_contra hne
          rw [List.count_cons_of_ne hne] at h
          have hmore := List.count_le_count_cons (a := ')') (b := c) (l := t)
          omega
        have heq : t.count '(' = t.count ')' := by
          rw [List.count_cons_self, List.count_cons_of_ne (by decide)] at h
          omega
        refine ⟨[], t, rfl, ?_, heq⟩
        rintro u ⟨v, rfl⟩
        have hv := hlater v (List.suffix_append u v)
        rw [List.count_append, List.count_append] at heq
        omega

/-! ### Pairs that go over an end -/

/-- A parenthesis opened in `front` is closed in `behind`. -/
def ClosesOver (front behind : Text) : Prop :=
  ∃ before inside inside' after, front = before ++ '(' :: inside ∧
    behind = inside' ++ ')' :: after ∧ Balanced (inside ++ inside')

/-- Each parenthesis opened in the tuple is closed on its line, in the tuple or in what follows
it. -/
def ClosedOnLine (tuple after : Text) : Prop :=
  ∀ before rest, tuple = before ++ '(' :: rest → ∃ inside behind,
    rest ++ after = inside ++ ')' :: behind ∧ Balanced inside ∧ '\n' ∉ inside

/-- Nothing is closed later of what is balanced. -/
theorem Balanced.not_closesOver {front behind : Text} (h : Balanced front) :
    ¬ ClosesOver front behind := by
  rintro ⟨before, inside, inside', after, rfl, rfl, hinside⟩
  have hbefore := h.prefix_le before (List.prefix_append _ _)
  have hopened := hinside.prefix_le inside (List.prefix_append _ _)
  have heq := h.count_eq
  obtain ⟨hcount, hcount'⟩ := count_append_open before inside
  omega

/-- In a balanced text, a part closes no more than it opens exactly when it closes nothing that is
opened in front of it. -/
theorem prefix_le_iff_not_closesOver {front part rest : Text}
    (h : Balanced (front ++ part ++ rest)) :
    (∀ s, s <+: part → s.count ')' ≤ s.count '(') ↔ ¬ ClosesOver front part := by
  constructor
  · rintro hle ⟨before, inside, inside', after, rfl, rfl, hinside⟩
    have hclosed := hle (inside' ++ [')']) ⟨after, by simp⟩
    have hopened := hinside.prefix_le inside (List.prefix_append _ _)
    have heq := hinside.count_eq
    rw [List.count_append, List.count_append] at heq
    obtain ⟨hcount, hcount'⟩ := count_concat_close inside'
    omega
  · intro hnot
    by_contra hmore
    push Not at hmore
    obtain ⟨s, hs, hlt⟩ := hmore
    obtain ⟨inside', after, rfl, hinside'⟩ := exists_unopened hs hlt
    have hunclosed : front.count ')' < front.count '(' := by
      have hle := h.prefix_le (front ++ inside' ++ [')']) ⟨after ++ rest, by simp⟩
      have heq := hinside'.count_eq
      obtain ⟨hcount, hcount'⟩ := count_concat_close (front ++ inside')
      rw [hcount, hcount', List.count_append, List.count_append] at hle
      omega
    obtain ⟨before, inside, rfl, hinside⟩ := exists_unclosed List.suffix_rfl hunclosed
    exact hnot ⟨before, inside, inside', after, rfl, rfl, hinside.append hinside'⟩

/-- What is opened in a balanced text of one line is closed on it. -/
theorem Balanced.closedOnLine {tuple : Text} (h : Balanced tuple) (hline : '\n' ∉ tuple)
    (after : Text) : ClosedOnLine tuple after := by
  rintro before rest rfl
  have hunopened : rest.count '(' < rest.count ')' := by
    have hbefore := h.prefix_le before (List.prefix_append _ _)
    have heq := h.count_eq
    obtain ⟨hcount, hcount'⟩ := count_append_open before rest
    omega
  obtain ⟨inside, behind, rfl, hinside⟩ := exists_unopened List.prefix_rfl hunopened
  refine ⟨inside, behind ++ after, by simp, hinside, fun hmem => hline ?_⟩
  simp [hmem]

/-- A part that goes to the last closing parenthesis of its line opens no more than it closes when
everything opened in it is closed on that line. -/
theorem ClosedOnLine.count_le {tuple after : Text} (h : ClosedOnLine tuple after)
    (hlast : splitLastClose? after = none) : tuple.count '(' ≤ tuple.count ')' := by
  by_contra hmore
  obtain ⟨before, inside, rfl, hinside⟩ :=
    exists_unclosed List.suffix_rfl (Nat.not_le.1 hmore)
  obtain ⟨inside', behind, heq, hinside', hline⟩ := h before inside rfl
  rcases List.append_eq_append_iff.1 heq with ⟨between, rfl, rfl⟩ | ⟨between, rfl, hbetween⟩
  · -- The parenthesis is closed behind the tuple, where nothing is closed on the line.
    refine splitLastClose?_append_ne_none (fun hmem => hline ?_) behind hlast
    simp [hmem]
  · rcases between with - | ⟨c, between⟩
    · rw [List.nil_append] at hbetween
      exact splitLastClose?_append_ne_none List.not_mem_nil behind (hbetween ▸ hlast)
    · -- It is closed in the tuple, so what stands behind it there is not balanced.
      obtain ⟨rfl, -⟩ := List.cons.inj hbetween
      have hclosed := hinside.prefix_le (inside' ++ [')']) ⟨between, by simp⟩
      have heq' := hinside'.count_eq
      obtain ⟨hcount, hcount'⟩ := count_concat_close inside'
      omega

/-- A part of one line of a balanced text, behind which nothing is closed on that line, is
balanced exactly when everything opened in it is closed on the line and it closes nothing that is
opened in front of it. -/
theorem Balanced.part_iff {front part after rest : Text} (h : Balanced (front ++ part ++ rest))
    (hline : '\n' ∉ part) (hlast : splitLastClose? after = none) :
    Balanced part ↔ ClosedOnLine part after ∧ ¬ ClosesOver front part := by
  have hopens := prefix_le_iff_not_closesOver h
  constructor
  · intro hpart
    exact ⟨hpart.closedOnLine hline after, hopens.1 hpart.prefix_le⟩
  · rintro ⟨hclosed, hover⟩
    have hle := hopens.2 hover
    exact ⟨hle, Nat.le_antisymm (hclosed.count_le hlast) (hle part List.prefix_rfl)⟩

/-! ### Tuples -/

/-- The tuple of a balanced statement is balanced exactly when everything opened in it is closed
on its line and it closes nothing that is opened in front of it. -/
theorem balanced_tuple_iff {query tuple : Text} {k : Capture} (hbalanced : Balanced query)
    (htuple : extractTuple query = .ok tuple) (hk : capture? (stripClause query) = some k) :
    Balanced tuple ↔ ClosedOnLine tuple k.after ∧ ¬ ClosesOver k.before tuple := by
  obtain ⟨rfl, hquery⟩ := eq_of_extractTuple htuple hk
  obtain ⟨front, hchosen⟩ := capture?_eq_some_iff.1 hk
  rw [hquery] at hbalanced
  exact hbalanced.part_iff (Capture.isGroup hk).lineBreak_not_mem
    (splitLastClose?_eq_none_iff.2 hchosen.last_close)

/-- **When a tuple is whole.** Let the parentheses of a statement be balanced. However its lines
are laid out, the tuple closes no more than it opens exactly when nothing opened in front of it is
closed in it. With everything opened in it closed on its line, it is balanced under the same
condition, which holds when the text in front of it is balanced. -/
theorem balanced_extractTuple_iff {query tuple : Text} {k : Capture}
    (hbalanced : Balanced query) (htuple : extractTuple query = .ok tuple)
    (hk : capture? (stripClause query) = some k) :
    ((∀ s, s <+: tuple → s.count ')' ≤ s.count '(') ↔ ¬ ClosesOver k.before tuple) ∧
      (ClosedOnLine tuple k.after → (Balanced tuple ↔ ¬ ClosesOver k.before tuple)) ∧
      (Balanced k.before → ¬ ClosesOver k.before tuple) := by
  have hwhole := balanced_tuple_iff hbalanced htuple hk
  obtain ⟨rfl, hquery⟩ := eq_of_extractTuple htuple hk
  rw [hquery] at hbalanced
  refine ⟨prefix_le_iff_not_closesOver hbalanced, fun hclosed => ?_, Balanced.not_closesOver⟩
  rw [hwhole, and_iff_right hclosed]

/-- A tuple with nested calls, on a line of its own between a column list and returned
expressions. -/
theorem balanced_extractTuple_iff_of_calls :
    let query := "INSERT INTO t (a, b)\nVALUES\n  (f(?), g(?, h(1)))\nRETURNING (a)".toList
    let tuple := "(f(?), g(?, h(1)))".toList
    let k : Capture :=
      ⟨"INSERT INTO t (a, b)\nVALUES\n  ".toList, tuple, "\nRETURNING (a)".toList⟩
    Balanced query ∧ extractTuple query = .ok tuple ∧ capture? (stripClause query) = some k ∧
      ClosedOnLine tuple k.after ∧ Balanced k.before ∧
      ((∀ s, s <+: tuple → s.count ')' ≤ s.count '(') ↔ ¬ ClosesOver k.before tuple) ∧
      (Balanced tuple ↔ ¬ ClosesOver k.before tuple) ∧ ¬ ClosesOver k.before tuple := by
  intro query tuple k
  have hbalanced : Balanced query := by decide +kernel
  have htuple : extractTuple query = .ok tuple := by decide +kernel
  have hk : capture? (stripClause query) = some k := by decide +kernel
  have hwhole : Balanced tuple := by decide +kernel
  have hclosed : ClosedOnLine tuple k.after := hwhole.closedOnLine (by decide) k.after
  have hbefore : Balanced k.before := by decide +kernel
  obtain ⟨hopens, htotal, hfront⟩ := balanced_extractTuple_iff hbalanced htuple hk
  exact ⟨hbalanced, htuple, hk, hclosed, hbefore, hopens, htotal hclosed, hfront hbefore⟩

/-- Two balanced statements without quotes whose tuples are torn. The first one stands in
parentheses, and they are closed on the line of the tuple. In the second one the line is broken
inside the tuple. -/
theorem extractTuple_torn :
    let enclosed := "WITH x AS (INSERT INTO t VALUES (?) RETURNING id) SELECT id FROM x".toList
    let broken := "INSERT INTO t VALUES (f(?),\n ?)".toList
    (∀ query ∈ [enclosed, broken], query.countP isQuote = 0 ∧ Balanced query) ∧
      extractTuple enclosed = .ok "(?) RETURNING id)".toList ∧
      ¬ Balanced "(?) RETURNING id)".toList ∧
      extractTuple broken = .ok "(f(?)".toList ∧ ¬ Balanced "(f(?)".toList := by
  decide +kernel

end BulkInsert.Statement
