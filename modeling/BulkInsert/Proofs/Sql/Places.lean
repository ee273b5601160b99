import BulkInsert.Proofs.Sql.Tokens
import BulkInsert.Sql.Prepared

/-!
# Reading without places

What a reader makes of tokens does not depend on their places, with one exception: a result
column remembers where its names stand and how it is written. `ResultColumn.Alike` compares
result columns without these, and `Insertion.Alike` insertions.

Two outcomes `Agree` when both are failures, or both are results that are related. The
lemmas go through the grammar from its parts to `agree_read`: from tokens that differ in
their places only, and from any text, the same insertion is read.
-/

namespace BulkInsert.Sql

namespace Token

/-- Two lists of tokens that differ in places only. -/
def Same (ts ts' : List Token) : Prop := ts.map unplaced = ts'.map unplaced

@[simp] theorem isWord_unplaced (t : Token) (word : String) :
    t.unplaced.isWord word = t.isWord word := by
  simp only [isWord, lexeme_unplaced]

@[simp] theorem isMark_unplaced (t : Token) (c : Char) :
    t.unplaced.isMark c = t.isMark c := by
  simp only [isMark, lexeme_unplaced]

/-- What is the same as tokens that begin with one begins with one that is the same. -/
theorem Same.exists_cons {t : Token} {ts ts' : List Token} (h : Same (t :: ts) ts') :
    ∃ t' rest, ts' = t' :: rest ∧ t.unplaced = t'.unplaced ∧ Same ts rest := by
  obtain ⟨t', rest, rfl, ht, hrest⟩ := List.map_eq_cons_iff.1 h.symm
  exact ⟨t', rest, rfl, ht.symm, hrest.symm⟩

theorem Same.eq_nil {ts : List Token} (h : Same [] ts) : ts = [] :=
  List.map_eq_nil_iff.1 h.symm

theorem isMark_eq {t t' : Token} (h : t.unplaced = t'.unplaced) (c : Char) :
    t.isMark c = t'.isMark c := by
  rw [← isMark_unplaced, h, isMark_unplaced]

theorem Same.length_eq {ts ts' : List Token} (h : Same ts ts') : ts.length = ts'.length := by
  simpa using congrArg List.length h

theorem Same.take {ts ts' : List Token} (h : Same ts ts') (n : Nat) :
    Same (ts.take n) (ts'.take n) := by
  rw [Same, List.map_take, List.map_take, h]

end Token

open Token

/-- Two outcomes agree when both are failures or both are results that `R` relates. -/
inductive Agree {ε α β : Type} (R : α → β → Prop) : Except ε α → Except ε β → Prop
  | ok {a : α} {b : β} : R a b → Agree R (.ok a) (.ok b)
  | error (e e' : ε) : Agree R (.error e) (.error e')

/-- Forgetting the failure of an outcome and mapping its result can be exchanged. -/
theorem toOption_map {ε α β : Type} (f : α → β) (a : Except ε α) :
    (a.map f).toOption = a.toOption.map f := by
  cases a <;> rfl

/-- An outcome that is a result is this result. -/
theorem toOption_eq_some_iff {ε α : Type} {a : Except ε α} {x : α} :
    a.toOption = some x ↔ a = .ok x := by
  cases a <;> simp [Except.toOption]

/-- Steps give a result when each of them does. -/
theorem bind_eq_ok_iff {ε α β : Type} {a : Except ε α} {f : α → Except ε β} {y : β} :
    a >>= f = .ok y ↔ ∃ x, a = .ok x ∧ f x = .ok y := by
  cases a with
  | error e => simp [bind, Except.bind]
  | ok x => simp [bind, Except.bind]

namespace Agree

variable {ε α β γ δ : Type} {R : α → β → Prop} {S : γ → δ → Prop}

/-- Steps that agree, taken after outcomes that agree, agree. -/
theorem bind {a : Except ε α} {b : Except ε β} {f : α → Except ε γ} {g : β → Except ε δ}
    (h : Agree R a b) (hfg : ∀ x y, a = .ok x → R x y → Agree S (f x) (g y)) :
    Agree S (a >>= f) (b >>= g) := by
  cases h with
  | ok hxy => exact hfg _ _ rfl hxy
  | error e e' => exact .error e e'

/-- Outcomes that agree still do when their results are mapped. -/
theorem map {a : Except ε α} {b : Except ε β} {f : α → γ} {g : β → δ} (h : Agree R a b)
    (hfg : ∀ x y, R x y → S (f x) (g y)) : Agree S (a.map f) (b.map g) := by
  cases h with
  | ok hxy => exact .ok (hfg _ _ hxy)
  | error e e' => exact .error e e'

/-- A weaker relation holds as well. -/
theorem imp {R' : α → β → Prop} {a : Except ε α} {b : Except ε β} (h : Agree R a b)
    (hR : ∀ x y, R x y → R' x y) : Agree R' a b := by
  cases h with
  | ok hxy => exact .ok (hR _ _ hxy)
  | error e e' => exact .error e e'

/-- Two outcomes that become equal, failures aside, agree. -/
theorem of_toOption {a b : Except ε α} {f : α → γ}
    (h : a.toOption.map f = b.toOption.map f) : Agree (fun x y => f x = f y) a b := by
  cases a <;> cases b <;> simp only [Except.toOption, Option.map_some, Option.map_none,
    reduceCtorEq, Option.some.injEq] at h
  · exact .error _ _
  · exact .ok h

/-- Where the one outcome is a result, so is the other. -/
theorem exists_of_ok {a : α} {b : Except ε β} (h : Agree R (.ok a) b) :
    ∃ y, b = .ok y ∧ R a y := by
  cases h with
  | ok hab => exact ⟨_, rfl, hab⟩

end Agree

namespace Command

@[simp] theorem name?_unplaced (t : Token) : name? t.unplaced = name? t := by
  simp only [name?, lexeme_unplaced]

@[simp] theorem item?_unplaced (t : Token) : item? t.unplaced = item? t := by
  simp only [item?, lexeme_unplaced, isWord_unplaced]

/-- Results with the tokens behind them that are the same but for places. -/
def SameRead {α : Type} (p q : α × List Token) : Prop := p.1 = q.1 ∧ Same p.2 q.2

/-! ### Single tokens and lists -/

/-- A test that does not look at places finds the same tokens behind. -/
theorem agree_expect {isExpected : Token → Bool}
    (hexpected : ∀ t, isExpected t.unplaced = isExpected t) {ts ts' : List Token}
    (h : Same ts ts') : Agree Same (expect isExpected ts) (expect isExpected ts') := by
  have hfree : ∀ ts, (expect isExpected (ts.map unplaced)).toOption =
      (expect isExpected ts).toOption.map (List.map unplaced) := by
    rintro (- | ⟨t, ts⟩)
    · rfl
    · rw [List.map_cons, expect, expect, hexpected]
      split <;> rfl
  exact .of_toOption (by rw [← hfree, ← hfree, h])

theorem agree_expectWord (word : String) {ts ts' : List Token} (h : Same ts ts') :
    Agree Same (expectWord word ts) (expectWord word ts') :=
  agree_expect (fun t => t.isWord_unplaced word) h

/-- A test that does not look at places finds nothing for both, or the same tokens behind. -/
theorem behind?_cases {isExpected : Token → Bool}
    (hexpected : ∀ t, isExpected t.unplaced = isExpected t) {ts ts' : List Token}
    (h : Same ts ts') :
    (behind? isExpected ts = none ∧ behind? isExpected ts' = none) ∨
      ∃ rest rest', behind? isExpected ts = some rest ∧ behind? isExpected ts' = some rest' ∧
        Same rest rest' := by
  have hfree : ∀ ts, behind? isExpected (ts.map unplaced) =
      (behind? isExpected ts).map (List.map unplaced) := by
    rintro (- | ⟨t, ts⟩)
    · rfl
    · rw [List.map_cons, behind?, behind?, hexpected]
      split <;> rfl
  have heq : (behind? isExpected ts).map (List.map unplaced) =
      (behind? isExpected ts').map (List.map unplaced) := by
    rw [← hfree, ← hfree, h]
  rcases hts : behind? isExpected ts with - | rest <;>
    rcases hts' : behind? isExpected ts' with - | rest' <;>
      simp only [hts, hts', Option.map_none, Option.map_some, reduceCtorEq,
        Option.some.injEq] at heq
  · exact .inl ⟨rfl, rfl⟩
  · exact .inr ⟨rest, rest', rfl, rfl, heq⟩

/-- A mark is found for both, or for neither. -/
theorem behind?_isMark_cases (c : Char) {ts ts' : List Token} (h : Same ts ts') :
    (behind? (·.isMark c) ts = none ∧ behind? (·.isMark c) ts' = none) ∨
      ∃ rest rest', behind? (·.isMark c) ts = some rest ∧
        behind? (·.isMark c) ts' = some rest' ∧ Same rest rest' :=
  behind?_cases (fun t => t.isMark_unplaced c) h

/-- A word is found for both, or for neither. -/
theorem behind?_isWord_cases (word : String) {ts ts' : List Token} (h : Same ts ts') :
    (behind? (·.isWord word) ts = none ∧ behind? (·.isWord word) ts' = none) ∨
      ∃ rest rest', behind? (·.isWord word) ts = some rest ∧
        behind? (·.isWord word) ts' = some rest' ∧ Same rest rest' :=
  behind?_cases (fun t => t.isWord_unplaced word) h

/-- A reader whose outcome on tokens without places is its outcome without places agrees
with itself on tokens that differ in places only. -/
theorem agree_of_free {α : Type} {reader : List Token → Read (α × List Token)}
    (hfree : ∀ ts, (reader (ts.map unplaced)).toOption =
      (reader ts).toOption.map fun (x, rest) => (x, rest.map unplaced))
    {ts ts' : List Token} (h : Same ts ts') : Agree SameRead (reader ts) (reader ts') := by
  have heq := (hfree ts).symm.trans ((congrArg _ (congrArg reader h)).trans (hfree ts'))
  exact (Agree.of_toOption heq).imp fun _ _ hxy => Prod.mk.inj hxy

/-- Names are read without regard to places. -/
theorem agree_readName {ts ts' : List Token} (h : Same ts ts') :
    Agree SameRead (readName ts) (readName ts') := by
  refine agree_of_free ?_ h
  rintro (- | ⟨t, ts⟩)
  · rfl
  · rw [List.map_cons, readName, readName, name?_unplaced]
    split <;> rfl

/-- Lists are read without regard to places. -/
theorem agree_readListed {α : Type} {element? : Token → Option α}
    (helement : ∀ t, element? t.unplaced = element? t) {ts ts' : List Token}
    (h : Same ts ts') : Agree SameRead (readListed element? ts) (readListed element? ts') := by
  refine agree_of_free (fun ts => ?_) h
  fun_induction readListed element? ts with
  | case1 => rfl
  | case2 | case3 | case4 | case6 | case7 => simp [readListed, *, Except.toOption]
  | case5 t separator ts x hx hc ih =>
      rw [List.map_cons, List.map_cons, readListed, helement, hx]
      simp only [isMark_unplaced, if_pos hc, toOption_map, ih, Option.map_map]
      rfl

/-! ### Rows -/

/-- Rows begin with a parenthesis, a list and, behind a comma, more rows. -/
theorem readRows_cons (t : Token) (inside : List Token) :
    readRows (t :: inside) =
      if t.isMark '(' then do
        let (row, rest) ← readListed item? inside
        match behind? (·.isMark ',') rest with
        | none => .ok ([row], rest)
        | some more => (readRows more).map fun (rows, tail) => (row :: rows, tail)
      else .error (t :: inside) := by
  rw [readRows]
  split
  · rcases readListed item? inside with e | ⟨row, - | ⟨separator, rest⟩⟩
    · rfl
    · rfl
    · simp only [bind, Except.bind, behind?]
      split <;> rfl
  · rfl

/-- Rows are read without regard to places. -/
theorem agree_readRows {ts ts' : List Token} (h : Same ts ts') :
    Agree SameRead (readRows ts) (readRows ts') := by
  induction hn : ts.length using Nat.strongRecOn generalizing ts ts' with
  | ind n ih =>
      rcases ts with - | ⟨t, inside⟩
      · rw [h.eq_nil, readRows]
        exact .error _ _
      · obtain ⟨t', inside', rfl, ht, hinside⟩ := h.exists_cons
        rw [readRows_cons, readRows_cons, isMark_eq ht]
        split
        · refine (agree_readListed item?_unplaced hinside).bind fun p q hp hpq => ?_
          obtain ⟨hb, hb'⟩ | ⟨more, more', hb, hb', hmore⟩ := behind?_isMark_cases ',' hpq.2
          · simp only [hb, hb', hpq.1]
            exact .ok ⟨rfl, hpq.2⟩
          · have hlt : more.length < n := by
              have hrest := length_of_readListed hp
              have hbehind := length_of_behind? hb
              rw [List.length_cons] at hn
              omega
            simp only [hb, hb', hpq.1]
            exact (ih _ hlt hmore rfl).map fun x y hxy => ⟨congrArg (q.1 :: ·) hxy.1, hxy.2⟩
        · exact .error _ _

/-! ### Result columns -/

/-- Expressions are skipped without regard to places. -/
theorem agree_skipExpression (depth : Nat) (operand : Bool) {ts ts' : List Token}
    (h : Same ts ts') :
    Agree Same (skipExpression depth operand ts) (skipExpression depth operand ts') := by
  have hfree : ∀ ts, (skipExpression depth operand (ts.map unplaced)).toOption =
      (skipExpression depth operand ts).toOption.map (List.map unplaced) := by
    intro ts
    fun_induction skipExpression depth operand ts
    all_goals
      conv_lhs => unfold skipExpression
      simp only [List.map_cons, List.map_nil, isMark_unplaced, item?_unplaced, name?_unplaced,
        Bool.false_eq_true, if_true, if_false, *]
    all_goals first | rfl | assumption
  exact .of_toOption (by rw [← hfree, ← hfree, h])

/-- The names that an expression mentions do not depend on places. -/
theorem map_fst_mentionedNames (ts : List Token) :
    (mentionedNames (ts.map unplaced)).map Prod.fst = (mentionedNames ts).map Prod.fst := by
  induction ts with
  | nil => rfl
  | cons t ts ih =>
      have hhead : (ts.map unplaced).head?.any (·.isMark '(') = ts.head?.any (·.isMark '(') := by
        cases ts <;> simp
      rw [List.map_cons, mentionedNames, mentionedNames, hhead, name?_unplaced]
      split <;> simp_all

end Command

/-- The names that a result column mentions. -/
def ResultColumn.mentioned : ResultColumn → List Text
  | all => []
  | column name _ _ => [name]
  | expression mentioned _ _ => mentioned.map Prod.fst

/-- Two result columns that mention the same names and hold as many placeholders. -/
def ResultColumn.Alike (c c' : ResultColumn) : Prop :=
  c.mentioned = c'.mentioned ∧ c.placeholders = c'.placeholders

namespace Command

/-- The same tokens describe result columns that are alike. -/
theorem alike_resultColumn (sql sql' : Text) {ts ts' : List Token} (h : Same ts ts')
    (stop stop' : Nat) (label? label?' : Option Text) :
    (resultColumn sql ts stop label?).Alike (resultColumn sql' ts' stop' label?') := by
  have hnames : ts.map name? = ts'.map name? := by
    have hmap : ∀ ts : List Token, (ts.map unplaced).map name? = ts.map name? := by simp
    rw [← hmap, ← hmap ts', h]
  have hmentioned : (mentionedNames ts).map Prod.fst = (mentionedNames ts').map Prod.fst := by
    rw [← map_fst_mentionedNames, ← map_fst_mentionedNames ts', h]
  have hcount : ts.countP (·.isMark '?') = ts'.countP (·.isMark '?') := by
    have hmap : ∀ ts : List Token,
        (ts.map unplaced).countP (·.isMark '?') = ts.countP (·.isMark '?') := by
      intro ts
      rw [List.countP_map]
      exact congrArg (List.countP · ts) (funext fun t => t.isMark_unplaced '?')
    rw [← hmap, ← hmap ts', h]
  rw [resultColumn, resultColumn, hnames]
  split
  · exact ⟨rfl, rfl⟩
  · exact ⟨hmentioned, hcount⟩

/-- A result column is read without regard to places, but for its label and places. -/
theorem agree_readResultColumn (sql sql' : Text) {ts ts' : List Token} (h : Same ts ts') :
    Agree (fun p q => p.1.Alike q.1 ∧ Same p.2 q.2) (readResultColumn sql ts)
      (readResultColumn sql' ts') := by
  rw [readResultColumn, readResultColumn]
  obtain ⟨hb, hb'⟩ | ⟨rest, rest', hb, hb', hrest⟩ := behind?_isMark_cases '*' h
  · rw [hb, hb']
    refine (agree_skipExpression 0 true h).bind fun rest rest' _ hrest => ?_
    have htokens := h.take (ts.length - rest.length)
    conv at htokens =>
      rhs
      rw [h.length_eq, hrest.length_eq]
    obtain ⟨hw, hw'⟩ | ⟨more, more', hw, hw', hmore⟩ := behind?_isWord_cases "AS" hrest
    · simp only [hw, hw']
      exact .ok ⟨alike_resultColumn _ _ htokens _ _ _ _, hrest⟩
    · simp only [hw, hw']
      exact (agree_readName hmore).bind fun p q _ hpq =>
        .ok ⟨alike_resultColumn _ _ htokens _ _ _ _, hpq.2⟩
  · rw [hb, hb']
    exact .ok ⟨⟨rfl, rfl⟩, hrest⟩

/-- Result columns are one and, behind a comma, more. -/
theorem readResultColumns_eq (sql : Text) (ts : List Token) :
    readResultColumns sql ts = (do
      let (column, rest) ← readResultColumn sql ts
      match behind? (·.isMark ',') rest with
      | none => .ok ([column], rest)
      | some more =>
        (readResultColumns sql more).map fun (columns, tail) => (column :: columns, tail)) := by
  rw [readResultColumns]
  rcases readResultColumn sql ts with e | ⟨column, rest⟩
  · rfl
  · simp only [bind, Except.bind]
    split <;> simp_all

/-- Result columns are read without regard to places, but for their labels and places. -/
theorem agree_readResultColumns (sql sql' : Text) {ts ts' : List Token} (h : Same ts ts') :
    Agree (fun p q => List.Forall₂ ResultColumn.Alike p.1 q.1 ∧ Same p.2 q.2)
      (readResultColumns sql ts) (readResultColumns sql' ts') := by
  induction hn : ts.length using Nat.strongRecOn generalizing ts ts' with
  | ind n ih =>
      rw [readResultColumns_eq, readResultColumns_eq sql']
      refine (agree_readResultColumn sql sql' h).bind fun p q hp hpq => ?_
      obtain ⟨hb, hb'⟩ | ⟨more, more', hb, hb', hmore⟩ := behind?_isMark_cases ',' hpq.2
      · simp only [hb, hb']
        exact .ok ⟨.cons hpq.1 .nil, hpq.2⟩
      · have hlt : more.length < n := by
          have hrest := length_of_readResultColumn hp
          have hbehind := length_of_behind? hb
          omega
        simp only [hb, hb']
        exact (ih _ hlt hmore rfl).map fun x y hxy => ⟨.cons hpq.1 hxy.1, hxy.2⟩

/-! ### Insertions -/

/-- A column list is read without regard to places. -/
theorem agree_readColumnList {ts ts' : List Token} (h : Same ts ts') :
    Agree SameRead (readColumnList ts) (readColumnList ts') := by
  rw [readColumnList, readColumnList]
  obtain ⟨hb, hb'⟩ | ⟨rest, rest', hb, hb', hrest⟩ := behind?_isMark_cases '(' h
  · rw [hb, hb']
    exact .ok ⟨rfl, h⟩
  · rw [hb, hb']
    exact (agree_readListed name?_unplaced hrest).map fun p q hpq =>
      ⟨congrArg some hpq.1, hpq.2⟩

/-- The clause for conflicts is read without regard to places. -/
theorem agree_readConflict {ts ts' : List Token} (h : Same ts ts') :
    Agree SameRead (readConflict ts) (readConflict ts') := by
  rw [readConflict, readConflict]
  obtain ⟨hb, hb'⟩ | ⟨rest, rest', hb, hb', hrest⟩ := behind?_isWord_cases "ON" h
  · rw [hb, hb']
    exact .ok ⟨rfl, h⟩
  · rw [hb, hb']
    refine (agree_expectWord "CONFLICT" hrest).bind fun x y _ hxy => ?_
    refine (agree_expectWord "DO" hxy).bind fun x y _ hxy => ?_
    exact (agree_expectWord "NOTHING" hxy).bind fun x y _ hxy => .ok ⟨rfl, hxy⟩

/-- The result columns of an insertion are read without regard to places, but for their
labels and places. -/
theorem agree_readReturning (sql sql' : Text) {ts ts' : List Token} (h : Same ts ts') :
    Agree (fun p q => List.Forall₂ ResultColumn.Alike p.1 q.1 ∧ Same p.2 q.2)
      (readReturning sql ts) (readReturning sql' ts') := by
  rw [readReturning, readReturning]
  obtain ⟨hb, hb'⟩ | ⟨rest, rest', hb, hb', hrest⟩ := behind?_isWord_cases "RETURNING" h
  · rw [hb, hb']
    exact .ok ⟨.nil, h⟩
  · rw [hb, hb']
    exact agree_readResultColumns sql sql' hrest

end Command

/-- Two insertions that are equal but for the labels and places of their result columns. -/
structure Insertion.Alike (i j : Insertion) : Prop where
  table : i.table = j.table
  columns : i.columns = j.columns
  rows : i.rows = j.rows
  skipConflicts : i.skipConflicts = j.skipConflicts
  returning : List.Forall₂ ResultColumn.Alike i.returning j.returning

namespace Command

/-- An insertion is read without regard to places, but for the labels and places of its
result columns. -/
theorem agree_readInsertion (sql sql' : Text) {ts ts' : List Token} (h : Same ts ts') :
    Agree (fun p q => ∃ i j, p.1 = .insert i ∧ q.1 = .insert j ∧ i.Alike j ∧ Same p.2 q.2)
      (readInsertion sql ts) (readInsertion sql' ts') := by
  rw [readInsertion, readInsertion]
  refine (agree_expectWord "INTO" h).bind fun x y _ hinto => ?_
  refine (agree_readName hinto).bind fun x y _ htable => ?_
  refine (agree_readColumnList htable.2).bind fun x y _ hcolumns => ?_
  refine (agree_expectWord "VALUES" hcolumns.2).bind fun x y _ hvalues => ?_
  refine (agree_readRows hvalues).bind fun x y _ hrows => ?_
  refine (agree_readConflict hrows.2).bind fun x y _ hconflict => ?_
  refine (agree_readReturning sql sql' hconflict.2).bind fun x y _ hreturning => ?_
  exact .ok ⟨_, _, rfl, rfl,
    ⟨htable.1, hcolumns.1, hrows.1, hconflict.1, hreturning.1⟩, hreturning.2⟩

/-- What is read as an insertion begins with `INSERT` and is an insertion to the end. -/
theorem read_eq_insert_iff {sql : Text} {ts : List Token} {i : Insertion} :
    read sql ts = .ok (.insert i) ↔
      ∃ rest, behind? (·.isWord "INSERT") ts = some rest ∧
        readInsertion sql rest = .ok (.insert i, []) := by
  have hend : ∀ {command : Command} {rest : List Token},
      (if rest.isEmpty then pure command else throw rest : Read Command) = .ok (.insert i) ↔
        command = .insert i ∧ rest = [] := by
    rintro command (- | ⟨t, rest⟩)
    · simp [pure, Except.pure]
    · simp [throw, throwThe, MonadExceptOf.throw]
  rw [read]
  rcases behind? (·.isWord "INSERT") ts with - | rest
  · constructor
    · intro h
      obtain ⟨rest, -, h⟩ := bind_eq_ok_iff.1 h
      obtain ⟨⟨command, rest⟩, hselect, hlast⟩ := bind_eq_ok_iff.1 h
      obtain ⟨rfl, rfl⟩ := hend.1 hlast
      obtain ⟨p, -, hselect⟩ := bind_eq_ok_iff.1 hselect
      obtain ⟨rest, -, hselect⟩ := bind_eq_ok_iff.1 hselect
      obtain ⟨q, -, hselect⟩ := bind_eq_ok_iff.1 hselect
      cases hselect
    · rintro ⟨rest, hnone, -⟩
      cases hnone
  · constructor
    · intro h
      obtain ⟨⟨command, tail⟩, hinsert, hlast⟩ := bind_eq_ok_iff.1 h
      obtain ⟨rfl, rfl⟩ := hend.1 hlast
      exact ⟨rest, rfl, hinsert⟩
    · rintro ⟨rest', hrest, hinsert⟩
      obtain rfl := Option.some.inj hrest
      exact bind_eq_ok_iff.2 ⟨_, hinsert, hend.2 ⟨rfl, rfl⟩⟩

/-- From tokens that differ in places only, insertions are read that are alike, whatever
the texts. -/
theorem exists_read_eq_insert {sql : Text} {ts ts' : List Token} {i : Insertion}
    (h : read sql ts = .ok (.insert i)) (hts : Same ts ts') (sql' : Text) :
    ∃ j, read sql' ts' = .ok (.insert j) ∧ i.Alike j := by
  obtain ⟨rest, hb, hr⟩ := read_eq_insert_iff.1 h
  obtain ⟨hn, -⟩ | ⟨rest₀, rest', hs, hb', hrest⟩ := behind?_isWord_cases "INSERT" hts
  · cases hn.symm.trans hb
  · obtain rfl := Option.some.inj (hs.symm.trans hb)
    have hread := agree_readInsertion sql sql' hrest
    rw [hr] at hread
    obtain ⟨⟨command, more⟩, hr', i', j, hi, hj, hij, hmore⟩ := hread.exists_of_ok
    cases hi
    cases hj
    cases hmore.eq_nil
    exact ⟨j, read_eq_insert_iff.2 ⟨rest', hb', hr'⟩, hij⟩

end Command

end BulkInsert.Sql
