import BulkInsert.Proofs.Sql.Rows
import BulkInsert.Proofs.Statement.Occurrence

/-!
# Widening the text of an insertion

Widening repeats the text of a tuple. Where that text is the row of an insertion, and stands
nowhere else, the widened text holds the same insertion with as many copies of the row:
this is `exists_ofText?_widen`.

The text is cut where the row begins and where it ends. Both places are parentheses among
its tokens, so the tokens of the widened text are put together from those of the parts.
-/

namespace BulkInsert.Sql

open Token

/-- The insertion that a text holds, if it holds one and no other command. -/
def Insertion.ofText? (sql : Text) : Option Insertion :=
  match Piece.cut 0 [] (ofText sql) with
  | [p] =>
    match Command.read (p.textUpTo sql) p.tokens with
    | .ok (.insert i) => some i
    | _ => none
  | _ => none

/-- The text of the first row behind the word `VALUES`, from its opening parenthesis to its
closing one. -/
def rowText? (sql : Text) : Option Text :=
  match (ofText sql).dropWhile fun t => !t.isWord "VALUES" with
  | _ :: opening :: rest =>
    (rest.find? (·.isMark ')')).map fun closing => slice sql opening.start closing.stop
  | _ => none

/-! ### One command in a text -/

namespace Piece

/-- Semicolons in front of a text are no piece. -/
theorem cut_append_of_semicolons {front : List Token}
    (h : ∀ t ∈ front, t.isMark ';' = true) (skipped : Nat) (ts : List Token) :
    cut skipped [] (front ++ ts) = cut skipped [] ts := by
  induction front with
  | nil => rfl
  | cons t front ih =>
      rw [List.cons_append, cut, if_pos (h t List.mem_cons_self),
        if_pos List.isEmpty_nil, ih fun u hu => h u (List.mem_cons_of_mem _ hu)]

/-- Tokens up to a semicolon are gathered. -/
theorem cut_append_of_no_semicolon {middle : List Token}
    (h : ∀ t ∈ middle, t.isMark ';' = false) (skipped : Nat) (gathered ts : List Token) :
    cut skipped gathered (middle ++ ts) = cut skipped (middle.reverse ++ gathered) ts := by
  induction middle generalizing gathered with
  | nil => rfl
  | cons t middle ih =>
      have ht : ¬t.isMark ';' = true := by rw [h t List.mem_cons_self]; exact Bool.false_ne_true
      rw [List.cons_append, cut, if_neg ht, ih fun u hu => h u (List.mem_cons_of_mem _ hu)]
      simp

/-- Semicolons behind gathered tokens end their piece. -/
theorem cut_of_semicolons {back gathered : List Token} (hne : gathered ≠ [])
    (h : ∀ t ∈ back, t.isMark ';' = true) (skipped : Nat) :
    cut skipped gathered back = [⟨gathered.reverse, back.head?, skipped⟩] := by
  have hempty : ¬gathered.isEmpty = true := by simpa using hne
  rcases back with - | ⟨t, back⟩
  · rw [cut, if_neg hempty]
    rfl
  · have hback := cut_append_of_semicolons
      (fun u hu => h u (List.mem_cons_of_mem _ hu)) t.stop []
    rw [List.append_nil] at hback
    rw [cut, if_pos (h t List.mem_cons_self), if_neg hempty, hback]
    rfl

/-- Gathered tokens come out in some piece. -/
theorem cut_ne_nil {gathered : List Token} (hne : gathered ≠ []) (skipped : Nat)
    (ts : List Token) : cut skipped gathered ts ≠ [] := by
  have hempty : ¬gathered.isEmpty = true := by simpa using hne
  induction ts generalizing gathered with
  | nil =>
      rw [cut, if_neg hempty]
      exact List.cons_ne_nil _ _
  | cons t ts ih =>
      rw [cut]
      split
      · exact List.cons_ne_nil _ _
      · exact ih (List.cons_ne_nil _ _) (by simp)

/-- Where no piece is cut off, there are semicolons only. -/
theorem semicolons_of_cut_eq_nil {skipped : Nat} {ts : List Token}
    (h : cut skipped [] ts = []) : ∀ t ∈ ts, t.isMark ';' = true := by
  induction ts with
  | nil => simp
  | cons t ts ih =>
      rw [cut] at h
      split at h
      · rename_i ht
        exact List.forall_mem_cons.2 ⟨ht, ih h⟩
      · exact absurd h (cut_ne_nil (List.cons_ne_nil _ _) _ _)

/-- If gathered tokens come out in the only piece, semicolons stand behind it. -/
theorem exists_of_cut_gathered {skipped : Nat} {gathered ts : List Token} {p : Piece}
    (hne : gathered ≠ []) (h : cut skipped gathered ts = [p]) :
    ∃ middle back, ts = middle ++ back ∧ p.tokens = gathered.reverse ++ middle ∧
      (∀ t ∈ middle, t.isMark ';' = false) ∧ ∀ t ∈ back, t.isMark ';' = true := by
  have hempty : ¬gathered.isEmpty = true := by simpa using hne
  induction ts generalizing gathered with
  | nil =>
      rw [cut, if_neg hempty] at h
      obtain rfl := (List.cons.inj h).1
      exact ⟨[], [], rfl, by simp, by simp, by simp⟩
  | cons t ts ih =>
      rw [cut] at h
      split at h
      · rename_i ht
        obtain ⟨rfl, hnil⟩ := List.cons.inj h
        have hback : ∀ u ∈ t :: ts, u.isMark ';' = true :=
          List.forall_mem_cons.2 ⟨ht, semicolons_of_cut_eq_nil hnil⟩
        exact ⟨[], t :: ts, rfl, by simp, by simp, hback⟩
      · rename_i ht
        obtain ⟨middle, back, rfl, hp, hmiddle, hback⟩ :=
          ih (List.cons_ne_nil _ _) h (by simp)
        have htokens : ∀ u ∈ t :: middle, u.isMark ';' = false :=
          List.forall_mem_cons.2 ⟨Bool.eq_false_iff.2 ht, hmiddle⟩
        exact ⟨t :: middle, back, rfl, by simp [hp], htokens, hback⟩

/-- A single piece is all of a text but the semicolons around it. -/
theorem exists_of_cut_eq_singleton {skipped : Nat} {ts : List Token} {p : Piece}
    (h : cut skipped [] ts = [p]) :
    ∃ front back, ts = front ++ (p.tokens ++ back) ∧ p.tokens ≠ [] ∧
      (∀ t ∈ front, t.isMark ';' = true) ∧ (∀ t ∈ p.tokens, t.isMark ';' = false) ∧
      ∀ t ∈ back, t.isMark ';' = true := by
  induction ts with
  | nil => cases h
  | cons t ts ih =>
      rw [cut] at h
      split at h
      · rename_i ht
        obtain ⟨front, back, rfl, hne, hfront, htokens, hback⟩ := ih h
        exact ⟨t :: front, back, rfl, hne, List.forall_mem_cons.2 ⟨ht, hfront⟩, htokens, hback⟩
      · rename_i ht
        obtain ⟨middle, back, rfl, hp, hmiddle, hback⟩ :=
          exists_of_cut_gathered (List.cons_ne_nil _ _) h
        rw [List.reverse_singleton, List.singleton_append] at hp
        have htokens : ∀ u ∈ t :: middle, u.isMark ';' = false :=
          List.forall_mem_cons.2 ⟨Bool.eq_false_iff.2 ht, hmiddle⟩
        exact ⟨[], back, by simp [hp], by simp [hp], by simp, hp ▸ htokens, hback⟩

/-- Tokens with semicolons around them are a single piece. -/
theorem exists_cut_eq_singleton {front middle back : List Token} (hne : middle ≠ [])
    (hfront : ∀ t ∈ front, t.isMark ';' = true)
    (hmiddle : ∀ t ∈ middle, t.isMark ';' = false)
    (hback : ∀ t ∈ back, t.isMark ';' = true) (skipped : Nat) :
    ∃ p, cut skipped [] (front ++ (middle ++ back)) = [p] ∧ p.tokens = middle := by
  refine ⟨⟨middle, back.head?, skipped⟩, ?_, rfl⟩
  rw [cut_append_of_semicolons hfront, cut_append_of_no_semicolon hmiddle,
    List.append_nil, cut_of_semicolons (by simpa using hne) hback, List.reverse_reverse]

end Piece

/-- A text holds an insertion when it is a single piece that is read as one. -/
theorem Insertion.ofText?_eq_some_iff {sql : Text} {i : Insertion} :
    Insertion.ofText? sql = some i ↔
      ∃ p, Piece.cut 0 [] (ofText sql) = [p] ∧
        Command.read (p.textUpTo sql) p.tokens = .ok (.insert i) := by
  rw [Insertion.ofText?]
  rcases Piece.cut 0 [] (ofText sql) with - | ⟨p, - | ⟨q, ps⟩⟩
  · simp
  · simp only [List.cons.injEq, and_true, exists_eq_left']
    split <;> simp_all
  · simp

/-- A text that holds an insertion is prepared as this insertion. -/
theorem exists_prepare_eq_of_ofText? {sql : Text} {i : Insertion}
    (h : Insertion.ofText? sql = some i) :
    ∃ s, ∀ db : Database, db.prepare sql = db.resolveCommand s (.insert i) := by
  obtain ⟨p, hcut, hread⟩ := Insertion.ofText?_eq_some_iff.1 h
  refine ⟨⟨sql, p.skipped⟩, ?_⟩
  intro db
  have hpiece : db.preparePiece sql p = db.resolveCommand ⟨sql, p.skipped⟩ (.insert i) := by
    rw [Database.preparePiece, hread]
  rw [Database.prepare, hcut, List.mapM_cons, List.mapM_nil, hpiece]
  cases db.resolveCommand ⟨sql, p.skipped⟩ (.insert i) with
  | error e => rfl
  | ok command => rfl

/-! ### The row in a text -/

/-- The tokens of a text with a parenthesised part in it are those in front of the part,
those of the part and those behind it. -/
theorem unplacedOf_append_row {before inner : Text} {place place' : Nat}
    (hbefore : (Mode.between.after place before).endsToken = true)
    (hinner : (Mode.between.after place' inner).endsToken = true) (more : Text) :
    unplacedOf (before ++ '(' :: (inner ++ ')' :: more)) =
      unplacedOf before ++ ⟨.mark '(', 0, 0⟩ ::
        (unplacedOf inner ++ ⟨.mark ')', 0, 0⟩ :: unplacedOf more) := by
  rw [unplacedOf_append_delimiter hbefore (by decide),
    unplacedOf_append_delimiter hinner (by decide)]

/-- Copies of a parenthesised part, each behind a comma, have copies of its tokens. -/
theorem unplacedOf_replicate_row {inner : Text} {place : Nat}
    (hinner : (Mode.between.after place inner).endsToken = true) (count : Nat)
    (after : Text) :
    unplacedOf ((List.replicate count (',' :: '(' :: (inner ++ [')']))).flatten ++ after) =
      (List.replicate count (⟨.mark ',', 0, 0⟩ :: ⟨.mark '(', 0, 0⟩ ::
        (unplacedOf inner ++ [⟨.mark ')', 0, 0⟩]))).flatten ++ unplacedOf after := by
  induction count with
  | zero => rfl
  | succ count ih =>
      have hcomma : (Mode.between.after 0 [',']).endsToken = true := rfl
      have hrow := unplacedOf_append_row hcomma hinner
        ((List.replicate count (',' :: '(' :: (inner ++ [')']))).flatten ++ after)
      have hself : unplacedOf [','] = [⟨.mark ',', 0, 0⟩] := rfl
      rw [ih, hself] at hrow
      simpa [List.replicate_succ] using hrow

/-- Where the tokens of a text hold a row, the text is split at the row, and with copies of
the row in its place its tokens are the same with copies of the row. -/
theorem RowSplit.exists_text {sql : Text} {front back : List Token} (r : RowSplit)
    (h : ofText sql = front ++ (r.tokens 0 ++ back)) :
    ∃ before inner after, before ++ ('(' :: (inner ++ [')'])) ++ after = sql ∧
      slice sql r.opening.start r.closing.stop = '(' :: (inner ++ [')']) ∧
      ∀ count,
        unplacedOf (before ++ Statement.copies ('(' :: (inner ++ [')'])) (count + 1) ++ after) =
          (front ++ (r.tokens count ++ back)).map unplaced := by
  have hsplit : tokensFrom .between 0 sql =
      (front ++ (r.front ++ [r.values])) ++
        r.opening :: (r.inside ++ r.closing :: (r.rest ++ back)) := by
    rw [tokensFrom_between_zero, h, RowSplit.tokens, RowSplit.copies_zero_append]
    simp
  obtain ⟨before, w, rfl, hbefore, hopening, hfront, hw⟩ :=
    exists_of_tokensFrom_eq hsplit (by decide) (beq_iff_eq.1 r.isMark_opening)
  obtain ⟨inner, after, rfl, hinner, hclosing, hinside, hback⟩ :=
    exists_of_tokensFrom_eq hw.symm (by decide) (beq_iff_eq.1 r.isMark_closing)
  refine ⟨before, inner, after, by simp, ?_, ?_⟩
  · have hlen : 0 + before.length + 1 + inner.length + 1 =
        (before ++ '(' :: (inner ++ [')'])).length := by
      simp only [List.length_append, List.length_cons, List.length_nil]
      omega
    have hsql : before ++ '(' :: (inner ++ ')' :: after) =
        (before ++ '(' :: (inner ++ [')'])) ++ after := by simp
    rw [slice, hopening, hclosing, hsql, hlen, List.take_left, Nat.zero_add]
    exact List.drop_left
  · intro count
    have hrow := unplacedOf_append_row hbefore hinner
      ((List.replicate count (',' :: '(' :: (inner ++ [')']))).flatten ++ after)
    rw [unplacedOf_replicate_row hinner] at hrow
    have hunplaced : ∀ place t, unplacedOf t = (tokensFrom .between place t).map unplaced :=
      fun place t => (unplaced_tokensFrom_between place t).symm
    have ho : r.opening.unplaced = ⟨.mark '(', 0, 0⟩ := by rw [hopening]; rfl
    have hc : r.closing.unplaced = ⟨.mark ')', 0, 0⟩ := by rw [hclosing]; rfl
    rw [hunplaced 0 before, hunplaced _ inner, hunplaced _ after, ← hfront, ← hinside,
      ← hback] at hrow
    rw [Statement.copies_succ, RowSplit.tokens, RowSplit.copies]
    simpa [ho, hc] using hrow

/-- The row of a text whose tokens are split at it is the text between its parentheses,
these included. -/
theorem rowText?_of_ofText_eq {sql : Text} {front back : List Token} {r : RowSplit}
    (h : ofText sql = front ++ (r.tokens 0 ++ back))
    (hfront : ∀ t ∈ front, t.isWord "VALUES" = false) :
    rowText? sql = some (slice sql r.opening.start r.closing.stop) := by
  have hdrop : (ofText sql).dropWhile (fun t => !t.isWord "VALUES") =
      r.values :: r.opening :: (r.inside ++ r.closing :: (r.rest ++ back)) := by
    rw [h, RowSplit.tokens, List.append_assoc, ← List.append_assoc front,
      List.dropWhile_append_of_pos, List.cons_append, List.dropWhile_cons_of_neg]
    · rw [List.append_assoc, RowSplit.copies_zero_append]
    · simp [r.isWord_values]
    · intro t ht
      rcases List.mem_append.1 ht with ht | ht
      · simp [hfront t ht]
      · simp [r.isWord_front t ht]
  have hfind : (r.inside ++ r.closing :: (r.rest ++ back)).find? (·.isMark ')') =
      some r.closing := by
    rw [List.find?_append, List.find?_eq_none.2, Option.none_or, List.find?_cons_of_pos]
    · exact r.isMark_closing
    · intro t ht
      simp [r.isMark_inside t ht]
  rw [rowText?, hdrop]
  simp only [hfind, Option.map_some]

/-- What holds of the marks of tokens does not depend on their places. -/
theorem isMark_of_map_unplaced_eq {ts ts' : List Token} {c : Char} {b : Bool}
    (h : ts.map unplaced = ts'.map unplaced) (hall : ∀ t ∈ ts', t.isMark c = b) :
    ∀ t ∈ ts, t.isMark c = b := by
  intro t ht
  have hmem : t.unplaced ∈ ts'.map unplaced := h ▸ List.mem_map_of_mem ht
  obtain ⟨t', ht', heq⟩ := List.mem_map.1 hmem
  rw [← isMark_eq heq]
  exact hall t' ht'

/-- Copies of a row hold no semicolon if the row holds none. -/
theorem RowSplit.isMark_tokens {r : RowSplit} (h : ∀ t ∈ r.tokens 0, t.isMark ';' = false)
    (count : Nat) : ∀ t ∈ r.tokens count, t.isMark ';' = false := by
  have hcomma : Token.isMark ⟨.mark ',', 0, 0⟩ ';' = false := by decide
  simp only [RowSplit.tokens, RowSplit.copies, List.mem_append, List.mem_cons,
    List.mem_flatten, List.mem_replicate] at h ⊢
  intro t ht
  grind

/-- **Widening an insertion.** Where a text holds an insertion of one row, and the text of
the row stands nowhere else in it, widening the text widens the insertion. -/
theorem exists_ofText?_widen {query tuple : Text} {i : Insertion} {items : List Item}
    (hi : Insertion.ofText? query = some i) (hrows : i.rows = [items])
    (hrow : rowText? query = some tuple) (honce : Statement.occurrences tuple query = 1)
    {count : Nat} (hcount : 1 ≤ count) :
    ∃ j, Insertion.ofText? (Statement.widen query tuple count) = some j ∧
      Insertion.Alike { i with rows := List.replicate count items } j := by
  obtain ⟨count, rfl⟩ := Nat.exists_eq_add_of_le' hcount
  obtain ⟨p, hcut, hread⟩ := Insertion.ofText?_eq_some_iff.1 hi
  obtain ⟨front, back, hquery, -, hfront, htokens, hback⟩ :=
    Piece.exists_of_cut_eq_singleton hcut
  obtain ⟨r, hr, hrepeated⟩ := Command.exists_read_tokens hread hrows
  rw [hr] at hquery htokens
  obtain ⟨before, inner, after, hsql, hslice, hunplaced⟩ := r.exists_text hquery
  have htuple : tuple = '(' :: (inner ++ [')']) := by
    rw [rowText?_of_ofText_eq hquery fun t ht => Command.isWord_of_isMark (hfront t ht) _,
      hslice] at hrow
    exact (Option.some.inj hrow).symm
  subst htuple
  have hfirst := Statement.occursFirst_of_occurrences_eq_one honce hsql
  rw [← hsql, Statement.widen_of_occursFirst hfirst]
  have hwide := hunplaced count
  rw [unplacedOf, List.map_append, List.map_append, List.map_eq_append_iff] at hwide
  obtain ⟨front', more, hwide, hfront', hmore⟩ := hwide
  obtain ⟨middle, back', rfl, hmiddle, hback'⟩ := List.map_eq_append_iff.1 hmore
  have hne : middle ≠ [] := by
    rintro rfl
    have hnil := congrArg List.length hmiddle
    simp [RowSplit.tokens] at hnil
  obtain ⟨p', hcut', rfl⟩ := Piece.exists_cut_eq_singleton hne
    (isMark_of_map_unplaced_eq hfront' hfront)
    (isMark_of_map_unplaced_eq hmiddle (RowSplit.isMark_tokens htokens count))
    (isMark_of_map_unplaced_eq hback' hback) 0
  obtain ⟨j, hj, halike⟩ := Command.exists_read_eq_insert (hrepeated count) hmiddle.symm
    (p'.textUpTo (before ++ Statement.copies ('(' :: (inner ++ [')'])) (count + 1) ++ after))
  refine ⟨j, Insertion.ofText?_eq_some_iff.2 ⟨p', ?_, hj⟩, halike⟩
  rw [hwide]
  exact hcut'

end BulkInsert.Sql
