import BulkInsert.Proofs.Config.Grammar

/-!
# Strings are read to their end

Behind the opening quote of a string both readers stop behind its closing quote, whatever
follows: `skipString_append` for every string, and `readString_append` for a string that
means a text, which is then what is read. Both are inductions over the grammar; a reader
has one equation for each of its rules.
-/

namespace BulkInsert.Config

/-! ### Escapes -/

/-- A hexadecimal digit is read as its value. -/
theorem HexDigit.hexDigit?_eq {c : Char} {value : Nat} (h : HexDigit c value) :
    hexDigit? c = some value := by
  have hall : ∀ v < 16, hexDigit? v.digitChar = some v ∧ hexDigit? v.digitChar.toUpper = some v := by
    decide
  obtain ⟨hlt, rfl | rfl⟩ := h
  · exact (hall value hlt).1
  · exact (hall value hlt).2

/-- Four hexadecimal digits are read as their value. -/
theorem HexUnit.readUnit_append {digits : Text} {n : Nat} (h : HexUnit digits n)
    (rest : Text) : readUnit (digits ++ rest) = .ok (n, rest) := by
  obtain ⟨ha, hb, hc, hd⟩ := h
  simp only [List.cons_append, List.nil_append, readUnit, hexValue?, ha.hexDigit?_eq,
    hb.hexDigit?_eq, hc.hexDigit?_eq, hd.hexDigit?_eq]
  rfl

/-- No character is a surrogate. -/
theorem toNat_not_surrogate (c : Char) : c.toNat < 0xD800 ∨ 0xDFFF < c.toNat := by
  rcases c.valid with h | h
  · exact .inl h
  · exact .inr h.1

/-- An escaped code unit that is a character is read as it. -/
theorem HexUnit.readEscape_append {digits : Text} {c : Char} (h : HexUnit digits c.toNat)
    (rest : Text) : readEscape ('u' :: (digits ++ rest)) = .ok (c, rest) := by
  have hc := toNat_not_surrogate c
  have htrailing : ¬(0xDC00 ≤ c.toNat ∧ c.toNat ≤ 0xDFFF) := by omega
  have hleading : ¬(0xD800 ≤ c.toNat ∧ c.toNat ≤ 0xDBFF) := by omega
  simp only [readEscape, if_true, readCodePoint, h.readUnit_append, bind, Except.bind, pure,
    Except.pure, if_neg htrailing, if_neg hleading, Char.ofNat_toNat]

/-- A leading surrogate and the trailing one behind it are read as one character. -/
theorem HexUnit.readEscape_pair {digits digits' : Text} {high low : Nat} {c : Char}
    (hhigh : HexUnit digits high) (hleading : 0xD800 ≤ high ∧ high ≤ 0xDBFF)
    (hlow : HexUnit digits' low) (htrailing : 0xDC00 ≤ low ∧ low ≤ 0xDFFF)
    (hc : c.toNat = 0x10000 + (high - 0xD800) * 0x400 + (low - 0xDC00)) (rest : Text) :
    readEscape ('u' :: (digits ++ '\\' :: 'u' :: (digits' ++ rest))) = .ok (c, rest) := by
  have hfirst : ¬(0xDC00 ≤ high ∧ high ≤ 0xDFFF) := by omega
  have hsecond : ¬(low < 0xDC00 ∨ 0xDFFF < low) := by omega
  have hmark : expectWord ['\\', 'u'] ('\\' :: 'u' :: (digits' ++ rest)) =
      .ok (digits' ++ rest) := rfl
  simp only [readEscape, if_true, readCodePoint, hhigh.readUnit_append, hmark,
    hlow.readUnit_append, bind, Except.bind, pure, Except.pure, if_neg hfirst,
    if_pos hleading, if_neg hsecond, ← hc, Char.ofNat_toNat]

/-- A short escape is known, and its letter is not that of code units. -/
theorem plainEscape?_of_mem {c d : Char} (h : (c, d) ∈ escapes) :
    plainEscape? c = some d ∧ c ≠ 'u' := by
  have hall : ∀ p ∈ escapes, plainEscape? p.1 = some p.2 ∧ p.1 ≠ 'u' := by decide
  exact hall (c, d) h

/-- A short escape is read as what it stands for. -/
theorem readEscape_of_mem {c d : Char} (h : (c, d) ∈ escapes) (rest : Text) :
    readEscape (c :: rest) = .ok (d, rest) := by
  obtain ⟨hplain, hu⟩ := plainEscape?_of_mem h
  simp only [readEscape, if_neg hu, hplain]

/-- A short escape is passed over. -/
theorem skipEscape_of_mem {c d : Char} (h : (c, d) ∈ escapes) (rest : Text) :
    skipEscape (c :: rest) = .ok rest := by
  obtain ⟨hplain, hu⟩ := plainEscape?_of_mem h
  simp only [skipEscape, if_neg hu, hplain]

/-- Any escaped code unit is passed over, a lone surrogate too. -/
theorem HexUnit.skipEscape_append {digits : Text} {n : Nat} (h : HexUnit digits n)
    (rest : Text) : skipEscape ('u' :: (digits ++ rest)) = .ok rest := by
  simp only [skipEscape, h.readUnit_append, if_true, Except.map]

/-! ### One step through a string -/

theorem skipString_quote (rest : Text) : skipString ('\x22' :: rest) = .ok rest := by
  rw [skipString, if_pos rfl]

theorem skipString_plain {c : Char} (h : Plain c) (t : Text) :
    skipString (c :: t) = skipString t := by
  rw [skipString, if_neg h.1, if_neg h.2.1, if_neg (by have := h.2.2; omega)]

theorem skipString_escape {t rest : Text} (h : skipEscape t = .ok rest) :
    skipString ('\\' :: t) = skipString rest := by
  rw [skipString, if_neg (by decide), if_pos rfl]
  split
  · rename_i e he
    rw [h] at he
    cases he
  · rename_i tail he
    rw [h] at he
    rw [Except.ok.inj he]

theorem readString_quote (rest : Text) : readString ('\x22' :: rest) = .ok ([], rest) := by
  rw [readString, if_pos rfl]

theorem readString_plain {c : Char} (h : Plain c) (t : Text) :
    readString (c :: t) = (readString t).map fun (s, tail) => (c :: s, tail) := by
  rw [readString, if_neg h.1, if_neg h.2.1, if_neg (by have := h.2.2; omega)]

theorem readString_escape {t rest : Text} {d : Char} (h : readEscape t = .ok (d, rest)) :
    readString ('\\' :: t) = (readString rest).map fun (s, tail) => (d :: s, tail) := by
  rw [readString, if_neg (by decide), if_pos rfl]
  split
  · rename_i e he
    rw [h] at he
    cases he
  · rename_i d' tail he
    rw [h] at he
    obtain ⟨rfl, rfl⟩ := Prod.mk.inj (Except.ok.inj he)
    rfl

/-! ### To the closing quote -/

/-- A string is passed over up to its closing quote. -/
theorem StringBody.skipString_append {body : Text} (h : StringBody body) (rest : Text) :
    skipString (body ++ '\x22' :: rest) = .ok rest := by
  induction h with
  | nil => exact skipString_quote rest
  | plain hc _ ih => rw [List.cons_append, skipString_plain hc, ih]
  | escape hc _ ih =>
      rw [List.cons_append, List.cons_append, skipString_escape (skipEscape_of_mem hc _), ih]
  | unit hdigits _ ih =>
      rw [List.cons_append, List.cons_append, List.append_assoc,
        skipString_escape (hdigits.skipEscape_append _), ih]

/-- A string that means a text is read as this text, up to its closing quote. -/
theorem Unescapes.readString_append {body text : Text} (h : Unescapes body text)
    (rest : Text) : readString (body ++ '\x22' :: rest) = .ok (text, rest) := by
  induction h with
  | nil => exact readString_quote rest
  | plain hc _ ih =>
      rw [List.cons_append, readString_plain hc, ih]
      rfl
  | escape hc _ ih =>
      rw [List.cons_append, List.cons_append, readString_escape (readEscape_of_mem hc _), ih]
      rfl
  | unit hdigits _ ih =>
      rw [List.cons_append, List.cons_append, List.append_assoc,
        readString_escape (hdigits.readEscape_append _), ih]
      rfl
  | pair hhigh h₁ h₂ hlow h₃ h₄ hc _ ih =>
      simp only [List.cons_append, List.append_assoc]
      rw [readString_escape (hhigh.readEscape_pair ⟨h₁, h₂⟩ hlow ⟨h₃, h₄⟩ hc _), ih]
      rfl

end BulkInsert.Config
