import BulkInsert.Config.Error

/-!
# Words and strings of a document

A reader of this library takes the rest of the document and answers with what it read and
what follows, or with the first problem. This module reads the parts of JSON that are made
of single characters: space, the three literal words, and strings.

## Two ways through a string

A string whose text is wanted is read by `readString`: its escapes are replaced, and two
escaped surrogates become one code point, so a surrogate on its own breaks the grammar. A
string that is only passed over, by `skipString`, needs four hexadecimal digits behind `\u`
and nothing more.
-/

namespace BulkInsert.Config

/-- The answer of a reader, or the first problem. -/
abbrev Read := Except ConfigError

/-- Whether a character may stand between the tokens of a document. -/
def isSpace (c : Char) : Bool := c == ' ' || c == '\n' || c == '\t' || c == '\r'

/-- The document without its leading space. -/
def skipSpace (t : Text) : Text := t.dropWhile isSpace

/-- The rest of the document behind a word that has to stand here. -/
def expectWord : Text → Text → Read Text
  | [], t => .ok t
  | _ :: _, [] => .error .endOfText
  | w :: word, c :: rest => if c = w then expectWord word rest else .error .malformed

/-! ### Escapes -/

/-- The value of a hexadecimal digit. -/
def hexDigit? (c : Char) : Option Nat :=
  if c.isDigit then some (c.toNat - '0'.toNat)
  else if 'a' ≤ c ∧ c ≤ 'f' then some (c.toNat - 'a'.toNat + 10)
  else if 'A' ≤ c ∧ c ≤ 'F' then some (c.toNat - 'A'.toNat + 10)
  else none

/-- The value of four hexadecimal digits. -/
def hexValue? (a b c d : Char) : Option Nat := do
  return (((← hexDigit? a) * 16 + (← hexDigit? b)) * 16 + (← hexDigit? c)) * 16 +
    (← hexDigit? d)

/-- Reads four hexadecimal digits. A document with fewer than four bytes left ends too
early, whatever they are. -/
def readUnit : Text → Read (Nat × Text)
  | a :: b :: c :: d :: rest =>
    match hexValue? a b c d with
    | some n => .ok (n, rest)
    | none => .error .malformed
  | t => if Text.byteLength t < 4 then .error .endOfText else .error .malformed

/-- Reads the number of a code point behind `\u`. A leading surrogate has to be followed by
an escaped trailing one. -/
def readCodePoint (t : Text) : Read (Char × Text) := do
  let (high, rest) ← readUnit t
  if 0xDC00 ≤ high ∧ high ≤ 0xDFFF then throw .malformed
  if 0xD800 ≤ high ∧ high ≤ 0xDBFF then
    let (low, rest) ← readUnit (← expectWord ['\\', 'u'] rest)
    if low < 0xDC00 ∨ 0xDFFF < low then throw .malformed
    return (Char.ofNat (0x10000 + (high - 0xD800) * 0x400 + (low - 0xDC00)), rest)
  return (Char.ofNat high, rest)

/-- The character that an escape of one letter stands for. -/
def plainEscape? (c : Char) : Option Char :=
  if c == '\x22' || c == '\\' || c == '/' then some c
  else if c == 'b' then some '\x08'
  else if c == 'f' then some '\x0c'
  else if c == 'n' then some '\n'
  else if c == 'r' then some '\r'
  else if c == 't' then some '\t'
  else none

/-- Reads an escape behind its backslash. -/
def readEscape : Text → Read (Char × Text)
  | [] => .error .endOfText
  | c :: rest =>
    if c = 'u' then readCodePoint rest
    else match plainEscape? c with
      | some d => .ok (d, rest)
      | none => .error .malformed

/-- Passes over an escape behind its backslash. -/
def skipEscape : Text → Read Text
  | [] => .error .endOfText
  | c :: rest =>
    if c = 'u' then (readUnit rest).map Prod.snd
    else match plainEscape? c with
      | some _ => .ok rest
      | none => .error .malformed

/-! ### How much a reader takes -/

theorem length_skipSpace (t : Text) : (skipSpace t).length ≤ t.length :=
  (List.dropWhile_suffix _).length_le

theorem length_of_skipSpace {t rest : Text} {c : Char} (h : skipSpace t = c :: rest) :
    rest.length < t.length := by
  have := length_skipSpace t
  rw [h, List.length_cons] at this
  exact this

theorem length_of_expectWord {word t rest : Text} (h : expectWord word t = .ok rest) :
    rest.length ≤ t.length := by
  induction word generalizing t with
  | nil => simp only [expectWord, Except.ok.injEq] at h; simp [h]
  | cons w word ih =>
    cases t with
    | nil => simp [expectWord] at h
    | cons c t =>
      by_cases hc : c = w
      · simp only [expectWord, hc, if_true] at h
        have := ih h
        simp only [List.length_cons]; omega
      · simp [expectWord, hc] at h

theorem length_of_readUnit {t rest : Text} {n : Nat} (h : readUnit t = .ok (n, rest)) :
    rest.length ≤ t.length := by
  unfold readUnit at h
  split at h
  · split at h
    · simp only [Except.ok.injEq, Prod.mk.injEq] at h
      simp only [List.length_cons, ← h.2]; omega
    · simp at h
  · split at h <;> simp at h

theorem length_of_readCodePoint {t rest : Text} {c : Char}
    (h : readCodePoint t = .ok (c, rest)) : rest.length ≤ t.length := by
  simp only [readCodePoint, bind, Except.bind, pure, Except.pure, throw, throwThe,
    MonadExceptOf.throw] at h
  cases hu : readUnit t with
  | error e => simp [hu] at h
  | ok p =>
    obtain ⟨high, r⟩ := p
    have h₁ := length_of_readUnit hu
    simp only [hu] at h
    split at h
    · simp at h
    · split at h
      · cases hw : expectWord ['\\', 'u'] r with
        | error e => simp [hw] at h
        | ok r₁ =>
          have h₂ := length_of_expectWord hw
          simp only [hw] at h
          cases hl : readUnit r₁ with
          | error e => simp [hl] at h
          | ok q =>
            obtain ⟨low, r₂⟩ := q
            have h₃ := length_of_readUnit hl
            simp only [hl] at h
            split at h
            · simp at h
            · simp only [Except.ok.injEq, Prod.mk.injEq] at h
              rw [← h.2]; omega
      · simp only [Except.ok.injEq, Prod.mk.injEq] at h
        rw [← h.2]; omega

theorem length_of_readEscape {t rest : Text} {c : Char} (h : readEscape t = .ok (c, rest)) :
    rest.length ≤ t.length := by
  cases t with
  | nil => simp [readEscape] at h
  | cons d t =>
    simp only [readEscape] at h
    split at h
    · have := length_of_readCodePoint h
      simp only [List.length_cons]; omega
    · split at h
      · simp only [Except.ok.injEq, Prod.mk.injEq] at h
        simp only [List.length_cons, ← h.2]; omega
      · simp at h

theorem length_of_skipEscape {t rest : Text} (h : skipEscape t = .ok rest) :
    rest.length ≤ t.length := by
  cases t with
  | nil => simp [skipEscape] at h
  | cons d t =>
    simp only [skipEscape] at h
    split at h
    · cases hu : readUnit t with
      | error e => simp [hu, Except.map] at h
      | ok p =>
        obtain ⟨n, r⟩ := p
        have := length_of_readUnit hu
        simp only [hu, Except.map, Except.ok.injEq] at h
        simp only [List.length_cons, ← h]; omega
    · split at h
      · simp only [Except.ok.injEq] at h
        simp only [List.length_cons, ← h]; omega
      · simp at h

/-! ### Strings -/

/-- Reads a string behind its opening quote. -/
def readString : Text → Read (Text × Text)
  | [] => .error .endOfText
  | c :: rest =>
    if c = '\x22' then .ok ([], rest)
    else if c = '\\' then
      match _h : readEscape rest with
      | .error e => .error e
      | .ok (d, tail) => (readString tail).map fun (s, tail) => (d :: s, tail)
    else if c.toNat < 0x20 then .error .malformed
    else (readString rest).map fun (s, tail) => (c :: s, tail)
termination_by t => t.length
decreasing_by
  · have := length_of_readEscape _h
    simp only [List.length_cons]; omega
  · simp

/-- Passes over a string behind its opening quote. -/
def skipString : Text → Read Text
  | [] => .error .endOfText
  | c :: rest =>
    if c = '\x22' then .ok rest
    else if c = '\\' then
      match _h : skipEscape rest with
      | .error e => .error e
      | .ok tail => skipString tail
    else if c.toNat < 0x20 then .error .malformed
    else skipString rest
termination_by t => t.length
decreasing_by
  · have := length_of_skipEscape _h
    simp only [List.length_cons]; omega
  · simp

theorem length_of_readString {t s rest : Text} (h : readString t = .ok (s, rest)) :
    rest.length < t.length := by
  fun_induction readString t generalizing s rest with
  | case1 => simp at h
  | case2 => simp only [Except.ok.injEq, Prod.mk.injEq] at h; simp [h.2]
  | case3 => simp at h
  | case4 _ d tail hd _ ih =>
    cases ht : readString tail with
    | error e => simp [ht, Except.map] at h
    | ok p =>
      obtain ⟨u, r⟩ := p
      simp only [ht, Except.map, Except.ok.injEq, Prod.mk.injEq] at h
      have h₁ := ih ht
      have h₂ := length_of_readEscape hd
      simp only [List.length_cons, ← h.2]; omega
  | case5 => simp at h
  | case6 c tail _ _ _ ih =>
    cases ht : readString tail with
    | error e => simp [ht, Except.map] at h
    | ok p =>
      obtain ⟨u, r⟩ := p
      simp only [ht, Except.map, Except.ok.injEq, Prod.mk.injEq] at h
      have := ih ht
      simp only [List.length_cons, ← h.2]; omega

theorem length_of_skipString {t rest : Text} (h : skipString t = .ok rest) :
    rest.length < t.length := by
  fun_induction skipString t with
  | case1 => simp at h
  | case2 => simp only [Except.ok.injEq] at h; simp [h]
  | case3 => simp at h
  | case4 _ tail hd _ ih =>
    have h₁ := ih h
    have h₂ := length_of_skipEscape hd
    simp only [List.length_cons]; omega
  | case5 => simp at h
  | case6 _ _ _ _ _ ih =>
    have := ih h
    simp only [List.length_cons]; omega

end BulkInsert.Config
