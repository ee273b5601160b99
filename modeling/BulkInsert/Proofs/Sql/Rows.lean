import BulkInsert.Proofs.Sql.Places

/-!
# Repeating the row of an insertion

Tokens that are read as an insertion of one row stay readable when the row is repeated, with
commas in between, and what is read is the same insertion with that many copies of the row.
This is `exists_read_tokens`. It rests on what each reader in front of the row uses up: it
leaves everything behind alone, so something else can stand there.
-/

namespace BulkInsert.Sql

open Token

namespace Command

/-! ### What readers use up -/

/-- A word is one token. -/
theorem expectWord_eq_ok_iff {word : String} {ts rest : List Token} :
    expectWord word ts = .ok rest ↔ ∃ t, ts = t :: rest ∧ t.isWord word = true := by
  rcases ts with - | ⟨t, ts⟩
  · simp [expectWord, expect]
  · by_cases ht : t.isWord word = true
    · simp [expectWord, expect, ht]
    · simp [expectWord, expect, ht]

/-- A name is one token. -/
theorem readName_eq_ok_iff {ts rest : List Token} {n : Text} :
    readName ts = .ok (n, rest) ↔ ∃ t, ts = t :: rest ∧ name? t = some n := by
  rcases ts with - | ⟨t, ts⟩
  · simp [readName]
  · cases hn : name? t with
    | none => simp [readName, hn]
    | some m => simp [readName, hn, and_comm]

/-- What stands behind a token is found if the token is expected. -/
theorem behind?_eq_some_iff {isExpected : Token → Bool} {ts rest : List Token} :
    behind? isExpected ts = some rest ↔ ∃ t, ts = t :: rest ∧ isExpected t = true := by
  rcases ts with - | ⟨t, ts⟩
  · simp [behind?]
  · by_cases ht : isExpected t = true
    · simp [behind?, ht]
    · simp [behind?, ht]

/-- A list is elements and commas up to a closing parenthesis, whatever stands behind. -/
theorem exists_of_readListed_eq_ok {α : Type} {element? : Token → Option α}
    {ts rest : List Token} {xs : List α} (h : readListed element? ts = .ok (xs, rest)) :
    ∃ inside closing, ts = inside ++ closing :: rest ∧ closing.isMark ')' = true ∧
      (∀ t ∈ inside, (element? t).isSome = true ∨ t.isMark ',' = true) ∧
      ∀ rest', readListed element? (inside ++ closing :: rest') = .ok (xs, rest') := by
  fun_induction readListed element? ts generalizing xs rest with
  | case1 | case2 | case3 | case4 | case7 => simp at h
  | case5 t separator ts x hx hc ih =>
      cases hr : readListed element? ts with
      | error e => simp [hr, Except.map] at h
      | ok p =>
          obtain ⟨ys, tail⟩ := p
          rw [hr] at h
          obtain ⟨rfl, rfl⟩ := Prod.mk.inj (Except.ok.inj h)
          obtain ⟨inside, closing, rfl, hclosing, hinside, hread⟩ := ih hr
          refine ⟨t :: separator :: inside, closing, rfl, hclosing, ?_, ?_⟩
          · intro u hu
            rcases List.mem_cons.1 hu with rfl | hu
            · exact .inl (hx ▸ rfl)
            · rcases List.mem_cons.1 hu with rfl | hu
              · exact .inr hc
              · exact hinside u hu
          · intro rest'
            rw [List.cons_append, List.cons_append, readListed, hx]
            simp only [hc, if_true, hread]
            rfl
  | case6 t separator ts x hx hc hclosing =>
      obtain ⟨rfl, rfl⟩ := Prod.mk.inj (Except.ok.inj h)
      refine ⟨[t], separator, rfl, hclosing, ?_, ?_⟩
      · intro u hu
        obtain rfl := List.mem_singleton.1 hu
        exact .inl (hx ▸ rfl)
      · intro rest'
        rw [List.singleton_append, readListed, hx]
        simp only [hc, hclosing, if_true]
        rfl

/-! ### What is no name and no item -/

/-- A mark is no word. -/
theorem isWord_of_isMark {t : Token} {c : Char} (h : t.isMark c = true) (word : String) :
    t.isWord word = false := by
  rw [isMark, beq_iff_eq] at h
  simp [isWord, h]

/-- A word is one word only. -/
theorem isWord_of_isWord {t : Token} {word other : String} (h : t.isWord word = true)
    (hne : word.toList ≠ other.toList) : t.isWord other = false := by
  rw [isWord, beq_iff_eq] at h
  simpa [isWord, h] using hne

/-- The word `VALUES` is no name. -/
theorem isWord_values_of_isSome_name? {t : Token} (h : (name? t).isSome = true) :
    t.isWord "VALUES" = false := by
  rw [Bool.eq_false_iff]
  intro hword
  rw [isWord, beq_iff_eq] at hword
  rw [name?, hword] at h
  exact absurd h (by decide)

/-- A closing parenthesis is no item. -/
theorem isMark_of_isSome_item? {t : Token} (h : (item? t).isSome = true) :
    t.isMark ')' = false := by
  rw [Bool.eq_false_iff]
  intro hmark
  rw [isMark, beq_iff_eq] at hmark
  rw [item?, hmark] at h
  simp at h

/-- A mark is one mark only. -/
theorem isMark_of_isMark {t : Token} {c d : Char} (h : t.isMark c = true) (hne : c ≠ d) :
    t.isMark d = false := by
  rw [isMark, beq_iff_eq] at h
  simp [isMark, h, hne]

/-! ### The parts of an insertion -/

/-- A column list in front of `VALUES` uses up tokens that hold no `VALUES`. -/
theorem exists_of_readColumnList_eq_ok {ts rest : List Token} {columns : Option (List Text)}
    {values : Token} (h : readColumnList ts = .ok (columns, values :: rest))
    (hvalues : values.isWord "VALUES" = true) :
    ∃ front, ts = front ++ values :: rest ∧ (∀ t ∈ front, t.isWord "VALUES" = false) ∧
      ∀ rest', readColumnList (front ++ values :: rest') = .ok (columns, values :: rest') := by
  rw [readColumnList] at h
  rcases ts with - | ⟨t, ts⟩
  · cases h
  by_cases ht : t.isMark '(' = true
  · simp only [behind?, if_pos ht] at h
    cases hr : readListed name? ts with
    | error e =>
        rw [hr] at h
        cases h
    | ok p =>
        obtain ⟨names, tail⟩ := p
        rw [hr] at h
        obtain ⟨rfl, rfl⟩ := Prod.mk.inj (Except.ok.inj h)
        obtain ⟨inside, closing, rfl, hclosing, hinside, hread⟩ :=
          exists_of_readListed_eq_ok hr
        refine ⟨t :: (inside ++ [closing]), by simp, ?_, ?_⟩
        · intro u hu
          rcases List.mem_cons.1 hu with rfl | hu
          · exact isWord_of_isMark ht _
          · rcases List.mem_append.1 hu with hu | hu
            · exact (hinside u hu).elim isWord_values_of_isSome_name?
                fun hcomma => isWord_of_isMark hcomma _
            · obtain rfl := List.mem_singleton.1 hu
              exact isWord_of_isMark hclosing _
        · intro rest'
          rw [readColumnList, List.cons_append, List.append_assoc, List.singleton_append]
          simp only [behind?, if_pos ht, hread]
          rfl
  · simp only [behind?, if_neg ht] at h
    obtain ⟨rfl, hts⟩ := Prod.mk.inj (Except.ok.inj h)
    refine ⟨[], hts, by simp, ?_⟩
    intro rest'
    have hnot : values.isMark '(' ≠ true := by
      intro hmark
      rw [isWord_of_isMark hmark] at hvalues
      cases hvalues
    rw [readColumnList, List.nil_append]
    simp only [behind?, if_neg hnot]

end Command

/-- Tokens split at the first row behind the word `VALUES`. -/
structure RowSplit where
  front : List Token
  values : Token
  opening : Token
  inside : List Token
  closing : Token
  rest : List Token
  isWord_front : ∀ t ∈ front, t.isWord "VALUES" = false
  isWord_values : values.isWord "VALUES" = true
  isMark_opening : opening.isMark '(' = true
  isMark_inside : ∀ t ∈ inside, t.isMark ')' = false
  isMark_closing : closing.isMark ')' = true

namespace RowSplit

/-- The row and `count` copies of it, each behind a comma. -/
def copies (r : RowSplit) (count : Nat) : List Token :=
  r.opening :: (r.inside ++ r.closing ::
    (List.replicate count (⟨.mark ',', 0, 0⟩ :: r.opening :: (r.inside ++ [r.closing]))).flatten)

/-- The tokens with `count` copies added to the row. -/
def tokens (r : RowSplit) (count : Nat) : List Token :=
  r.front ++ r.values :: (r.copies count ++ r.rest)

/-- One more copy stands behind a comma, with the others behind it. -/
theorem copies_succ_append (r : RowSplit) (count : Nat) (more : List Token) :
    r.copies (count + 1) ++ more =
      r.opening :: (r.inside ++ r.closing ::
        (⟨.mark ',', 0, 0⟩ :: (r.copies count ++ more))) := by
  simp [copies, List.replicate_succ]

theorem copies_zero_append (r : RowSplit) (more : List Token) :
    r.copies 0 ++ more = r.opening :: (r.inside ++ r.closing :: more) := by
  simp [copies]

end RowSplit

namespace Command

/-- One row that is read as the only one uses up its tokens, and copies of it are read as
copies. -/
theorem readRows_copies {r : RowSplit} {items : List Item} {rest : List Token}
    (hread : ∀ rest', readListed item? (r.inside ++ r.closing :: rest') = .ok (items, rest'))
    (hrest : behind? (·.isMark ',') rest = none) (count : Nat) :
    readRows (r.copies count ++ rest) = .ok (List.replicate (count + 1) items, rest) := by
  induction count with
  | zero =>
      rw [RowSplit.copies_zero_append, readRows_cons, if_pos r.isMark_opening, hread]
      simp only [bind, Except.bind, hrest]
      rfl
  | succ count ih =>
      have hcomma : behind? (·.isMark ',') (⟨.mark ',', 0, 0⟩ :: (r.copies count ++ rest)) =
          some (r.copies count ++ rest) := rfl
      rw [RowSplit.copies_succ_append, readRows_cons, if_pos r.isMark_opening, hread]
      simp only [bind, Except.bind, hcomma, ih]
      rfl

/-- Rows are a parenthesis, a list and, behind a comma, more rows. -/
theorem exists_of_readRows_eq_ok {ts rest : List Token} {rows : List (List Item)}
    (h : readRows ts = .ok (rows, rest)) :
    ∃ opening inside row tail, ts = opening :: inside ∧ opening.isMark '(' = true ∧
      readListed item? inside = .ok (row, tail) ∧
      ((behind? (·.isMark ',') tail = none ∧ rows = [row] ∧ rest = tail) ∨
        ∃ more rows', behind? (·.isMark ',') tail = some more ∧
          readRows more = .ok (rows', rest) ∧ rows = row :: rows') := by
  rcases ts with - | ⟨t, inside⟩
  · rw [readRows] at h
    cases h
  rw [readRows_cons] at h
  split at h
  · rename_i ht
    obtain ⟨⟨row, tail⟩, hr, hmore⟩ := bind_eq_ok_iff.1 h
    refine ⟨t, inside, row, tail, rfl, ht, hr, ?_⟩
    cases hb : behind? (·.isMark ',') tail with
    | none =>
        simp only [hb, Except.ok.injEq, Prod.mk.injEq] at hmore
        exact .inl ⟨rfl, hmore.1.symm, hmore.2.symm⟩
    | some more =>
        simp only [hb] at hmore
        cases hm : readRows more with
        | error e =>
            rw [hm] at hmore
            cases hmore
        | ok p =>
            rw [hm] at hmore
            obtain ⟨rfl, rfl⟩ := Prod.mk.inj (Except.ok.inj hmore)
            exact .inr ⟨more, p.1, rfl, hm, rfl⟩
  · cases h

/-- At least one row is read. -/
theorem ne_nil_of_readRows {ts rest : List Token} {rows : List (List Item)}
    (h : readRows ts = .ok (rows, rest)) : rows ≠ [] := by
  obtain ⟨-, -, row, -, -, -, -, ⟨-, rfl, -⟩ | ⟨-, rows', -, -, rfl⟩⟩ :=
    exists_of_readRows_eq_ok h
  · exact List.cons_ne_nil _ _
  · exact List.cons_ne_nil _ _

/-- A single row is a parenthesis and a list, and no comma stands behind it. -/
theorem exists_of_readRows_eq_singleton {ts rest : List Token} {items : List Item}
    (h : readRows ts = .ok ([items], rest)) :
    ∃ opening inside, ts = opening :: inside ∧ opening.isMark '(' = true ∧
      readListed item? inside = .ok (items, rest) ∧ behind? (·.isMark ',') rest = none := by
  obtain ⟨opening, inside, row, tail, rfl, hopening, hr, hcases⟩ := exists_of_readRows_eq_ok h
  obtain ⟨hb, hrow, rfl⟩ | ⟨more, rows', -, hm, hrow⟩ := hcases
  · obtain rfl := (List.cons.inj hrow).1
    exact ⟨opening, inside, rfl, hopening, hr, hb⟩
  · exact absurd (List.cons.inj hrow).2.symm (ne_nil_of_readRows hm)

/-- An insertion is read part by part. -/
theorem readInsertion_eq_ok_iff {sql : Text} {ts rest : List Token} {i : Insertion} :
    readInsertion sql ts = .ok (.insert i, rest) ↔
      ∃ ts₁ ts₂ ts₃ ts₄ ts₅ ts₆, expectWord "INTO" ts = .ok ts₁ ∧
        readName ts₁ = .ok (i.table, ts₂) ∧ readColumnList ts₂ = .ok (i.columns, ts₃) ∧
        expectWord "VALUES" ts₃ = .ok ts₄ ∧ readRows ts₄ = .ok (i.rows, ts₅) ∧
        readConflict ts₅ = .ok (i.skipConflicts, ts₆) ∧
        readReturning sql ts₆ = .ok (i.returning, rest) := by
  rw [readInsertion]
  constructor
  · intro h
    obtain ⟨ts₁, hinto, h⟩ := bind_eq_ok_iff.1 h
    obtain ⟨⟨table, ts₂⟩, htable, h⟩ := bind_eq_ok_iff.1 h
    obtain ⟨⟨columns, ts₃⟩, hcolumns, h⟩ := bind_eq_ok_iff.1 h
    obtain ⟨ts₄, hvalues, h⟩ := bind_eq_ok_iff.1 h
    obtain ⟨⟨rows, ts₅⟩, hrows, h⟩ := bind_eq_ok_iff.1 h
    obtain ⟨⟨skip, ts₆⟩, hconflict, h⟩ := bind_eq_ok_iff.1 h
    obtain ⟨⟨returning, ts₇⟩, hreturning, h⟩ := bind_eq_ok_iff.1 h
    obtain ⟨hi, rfl⟩ := Prod.mk.inj (Except.ok.inj h)
    obtain rfl := Command.insert.inj hi
    exact ⟨ts₁, ts₂, ts₃, ts₄, ts₅, ts₆, hinto, htable, hcolumns, hvalues, hrows, hconflict,
      hreturning⟩
  · rintro ⟨ts₁, ts₂, ts₃, ts₄, ts₅, ts₆, hinto, htable, hcolumns, hvalues, hrows, hconflict,
      hreturning⟩
    simp only [hinto, htable, hcolumns, hvalues, hrows, hconflict, hreturning, bind,
      Except.bind]
    rfl

/-- What is read as an insertion of a single row is split at it, and with copies of the row
it is read as the same insertion of copies. -/
theorem exists_read_tokens {sql : Text} {ts : List Token} {i : Insertion}
    {items : List Item} (h : read sql ts = .ok (.insert i)) (hrows : i.rows = [items]) :
    ∃ r : RowSplit, ts = r.tokens 0 ∧ ∀ count,
      read sql (r.tokens count) =
        .ok (.insert { i with rows := List.replicate (count + 1) items }) := by
  obtain ⟨ts, hb, hinsert⟩ := read_eq_insert_iff.1 h
  obtain ⟨ts₁, ts₂, ts₃, ts₄, ts₅, ts₆, hinto, htable, hcolumns, hvalues, hread, hconflict,
    hreturning⟩ := readInsertion_eq_ok_iff.1 hinsert
  rw [hrows] at hread
  -- Each part in front of the row is one token, but for the column list.
  obtain ⟨first, rfl, hfirst⟩ := behind?_eq_some_iff.1 hb
  obtain ⟨into, rfl, hintoWord⟩ := expectWord_eq_ok_iff.1 hinto
  obtain ⟨name, rfl, hname⟩ := readName_eq_ok_iff.1 htable
  obtain ⟨values, rfl, hvaluesWord⟩ := expectWord_eq_ok_iff.1 hvalues
  obtain ⟨front, rfl, hfront, hreadFront⟩ :=
    exists_of_readColumnList_eq_ok hcolumns hvaluesWord
  obtain ⟨opening, inside, rfl, hopening, hlisted, hcomma⟩ :=
    exists_of_readRows_eq_singleton hread
  obtain ⟨inside, closing, rfl, hclosing, hinside, hreadInside⟩ :=
    exists_of_readListed_eq_ok hlisted
  have hwords : ∀ t ∈ first :: into :: name :: front, t.isWord "VALUES" = false := by
    intro t ht
    rcases List.mem_cons.1 ht with rfl | ht
    · exact isWord_of_isWord hfirst (by decide)
    rcases List.mem_cons.1 ht with rfl | ht
    · exact isWord_of_isWord hintoWord (by decide)
    rcases List.mem_cons.1 ht with rfl | ht
    · exact isWord_values_of_isSome_name? (hname ▸ rfl)
    · exact hfront t ht
  have hmarks : ∀ t ∈ inside, t.isMark ')' = false := fun t ht =>
    (hinside t ht).elim isMark_of_isSome_item? fun hc => isMark_of_isMark hc (by decide)
  let r : RowSplit := ⟨first :: into :: name :: front, values, opening, inside, closing, ts₅,
    hwords, hvaluesWord, hopening, hmarks, hclosing⟩
  refine ⟨r, ?_, ?_⟩
  · rw [RowSplit.tokens, RowSplit.copies_zero_append]
    rfl
  · intro count
    have hrepeated : readRows (r.copies count ++ r.rest) =
        .ok (List.replicate (count + 1) items, ts₅) :=
      readRows_copies (r := r) hreadInside hcomma count
    refine read_eq_insert_iff.2 ⟨into :: name :: (front ++ values :: (r.copies count ++ ts₅)),
      behind?_eq_some_iff.2 ⟨first, rfl, hfirst⟩, readInsertion_eq_ok_iff.2 ?_⟩
    exact ⟨_, _, _, _, _, _, expectWord_eq_ok_iff.2 ⟨into, rfl, hintoWord⟩,
      readName_eq_ok_iff.2 ⟨name, rfl, hname⟩, hreadFront _,
      expectWord_eq_ok_iff.2 ⟨values, rfl, hvaluesWord⟩, hrepeated, hconflict, hreturning⟩

end Command

end BulkInsert.Sql
