import BulkInsert.Proofs.Config.Grammar

/-!
# Numbers are read to their end

A number ends where nothing follows that could go on with it, which is so before every
delimiter. `Numeral.skipNumber_append`: every number of the grammar is passed over, whatever
its size. `readNumber_digitsOf`: the decimal notation of a number that fits into 64 bits is
read as that number.

The digits of a number are gathered from the left. What is gathered never exceeds the whole
number, so the bound of 64 bits is never met on the way.
-/

namespace BulkInsert.Config

/-! ### What follows -/

/-- What cannot go on with a number: no digit, no point, no power of ten. -/
theorem Delimited.cases {rest : Text} (h : Delimited rest) :
    rest = [] ∨ ∃ c t, rest = c :: t ∧ c.isDigit = false ∧ c ≠ '.' ∧ c ≠ 'e' ∧ c ≠ 'E' := by
  rcases rest with - | ⟨c, t⟩
  · exact .inl rfl
  · have hall : ∀ c ∈ [' ', '\n', '\t', '\r', ',', ']', '\x7d'],
        c.isDigit = false ∧ c ≠ '.' ∧ c ≠ 'e' ∧ c ≠ 'E' := by simp [Char.isDigit]
    exact .inr ⟨c, t, rfl, hall c (h c rfl)⟩

theorem Delimited.startsDigit {rest : Text} (h : Delimited rest) : startsDigit rest = false := by
  rcases h.cases with rfl | ⟨c, t, rfl, hdigit, -⟩
  · rfl
  · exact hdigit

theorem Delimited.skipPower {rest : Text} (h : Delimited rest) : skipPower rest = .ok rest := by
  rcases h.cases with rfl | ⟨c, t, rfl, -, -, he, hE⟩
  · rfl
  · simp only [Config.skipPower, he, hE, or_self, if_false]

theorem Delimited.readPower {rest : Text} (h : Delimited rest) :
    readPower rest = .ok (none, rest) := by
  rcases h.cases with rfl | ⟨c, t, rfl, -, -, he, hE⟩
  · rfl
  · simp only [Config.readPower, he, hE, or_self, if_false]

theorem Delimited.readFraction {rest : Text} (h : Delimited rest) (n : Nat) :
    readFraction n rest = .ok (n, none, rest) := by
  rcases h.cases with rfl | ⟨c, t, rfl, -, hpoint, -⟩
  · rfl
  · simp only [Config.readFraction, hpoint, if_false]

/-! ### Digits -/

/-- What begins with no digit is left by passing over digits. -/
theorem dropWhile_isDigit {rest : Text} (h : startsDigit rest = false) :
    rest.dropWhile Char.isDigit = rest := by
  cases rest with
  | nil => rfl
  | cons c t => exact List.dropWhile_cons_of_neg (by simpa [startsDigit] using h)

/-- What begins with no digit has no digits in front. -/
theorem takeWhile_isDigit {rest : Text} (h : startsDigit rest = false) :
    rest.takeWhile Char.isDigit = [] := by
  cases rest with
  | nil => rfl
  | cons c t => exact List.takeWhile_cons_of_neg (by simpa [startsDigit] using h)

/-- Digits are passed over. -/
theorem skipDigits_append {digits rest : Text} (h : ∀ c ∈ digits, c.isDigit)
    (hrest : startsDigit rest = false) : skipDigits (digits ++ rest) = rest := by
  rw [skipDigits, List.dropWhile_append_of_pos h, dropWhile_isDigit hrest]

/-- One digit or more are passed over. -/
theorem Digits.skipSomeDigits_append {digits rest : Text} (h : Digits digits)
    (hrest : startsDigit rest = false) : skipSomeDigits (digits ++ rest) = .ok rest := by
  obtain ⟨hne, hall⟩ := h
  obtain ⟨c, t, rfl⟩ := List.exists_cons_of_ne_nil hne
  rw [List.cons_append, skipSomeDigits, if_pos (hall c List.mem_cons_self),
    skipDigits_append (fun d hd => hall d (List.mem_cons_of_mem c hd)) hrest]

/-- A digit is no sign. -/
theorem not_sign_of_isDigit {c : Char} (h : c.isDigit) : ¬(c = '+' ∨ c = '-') := by
  rintro (rfl | rfl) <;> exact absurd h (by decide)

/-! ### Passing over -/

/-- A power of ten is passed over. -/
theorem Power.skipPower_append {power rest : Text} (h : Power power) (hrest : Delimited rest) :
    skipPower (power ++ rest) = .ok rest := by
  rcases h with - | ⟨he, hsign, hdigits⟩
  · exact hrest.skipPower
  · rename_i e sign digits
    have he' : e = 'e' ∨ e = 'E' := by simpa using he
    obtain ⟨d, t, hdt⟩ := List.exists_cons_of_ne_nil hdigits.1
    have hd : ¬(d = '+' ∨ d = '-') := not_sign_of_isDigit (hdigits.2 d (by simp [hdt]))
    have hskip := hdigits.skipSomeDigits_append hrest.startsDigit
    rw [List.cons_append, List.append_assoc, skipPower.eq_def]
    simp only [if_pos he']
    rcases (by simpa using hsign : sign = [] ∨ sign = ['+'] ∨ sign = ['-']) with
      rfl | rfl | rfl
    · rw [hdt] at hskip ⊢
      simpa only [List.nil_append, List.cons_append, if_neg hd] using hskip
    · simpa using hskip
    · simpa using hskip

/-- In front of what follows a number, a power of ten does not begin with a digit. -/
theorem Power.startsDigit_append {power rest : Text} (h : Power power)
    (hrest : Delimited rest) : startsDigit (power ++ rest) = false := by
  rcases h with - | ⟨he, -, -⟩
  · exact hrest.startsDigit
  · rcases (by simpa using he : _ = 'e' ∨ _ = 'E') with rfl | rfl <;> rfl

/-- A fraction and a power of ten are passed over. -/
theorem Places.skipFraction_append {places power rest : Text} (h : Places places)
    (hpower : Power power) (hrest : Delimited rest) :
    skipFraction (places ++ (power ++ rest)) = .ok rest := by
  have hskip := hpower.skipPower_append hrest
  rcases h with - | ⟨hdigits⟩
  · rw [List.nil_append]
    cases hpower with
    | none =>
        rcases hrest.cases with rfl | ⟨c, t, rfl, -, hpoint, -⟩
        · rfl
        · rw [List.nil_append, skipFraction, if_neg hpoint]
          exact hskip
    | @some e _ _ he =>
        have hpoint : e ≠ '.' := by
          rintro rfl
          exact absurd he (by decide)
        rw [List.cons_append, skipFraction, if_neg hpoint]
        exact hskip
  · rw [List.cons_append, skipFraction, if_pos rfl,
      hdigits.skipSomeDigits_append (hpower.startsDigit_append hrest)]
    exact hskip

/-- In front of what follows a number, a fraction does not begin with a digit. -/
theorem Places.startsDigit_append {places rest : Text} (h : Places places)
    (hrest : startsDigit rest = false) : startsDigit (places ++ rest) = false := by
  cases h with
  | none => exact hrest
  | some => rfl

/-- The digits before the point are passed over. -/
theorem Whole.skipMagnitude_append {whole rest : Text} (h : Whole whole)
    (hrest : startsDigit rest = false) : skipMagnitude (whole ++ rest) = skipFraction rest := by
  cases h with
  | zero =>
      rw [List.singleton_append, skipMagnitude, if_pos rfl, hrest]
      rfl
  | @digits c t hc hzero ht =>
      have hdigits : Digits (c :: t) := by
        refine ⟨List.cons_ne_nil c t, fun d hd => ?_⟩
        rcases List.mem_cons.1 hd with rfl | hd
        · exact hc
        · exact ht d hd
      have hskip := hdigits.skipSomeDigits_append hrest
      rw [List.cons_append] at hskip ⊢
      rw [skipMagnitude, if_neg hzero, hskip]
      rfl

/-- The digits before the point begin with a digit. -/
theorem Whole.exists_cons {whole : Text} (h : Whole whole) :
    ∃ c t, whole = c :: t ∧ c.isDigit := by
  cases h with
  | zero => exact ⟨'0', [], rfl, by decide⟩
  | @digits c t hc => exact ⟨c, t, rfl, hc⟩

/-- What does not begin with a sign is passed over as it is. -/
theorem skipNumber_of_ne {c : Char} (h : c ≠ '-') (t : Text) :
    skipNumber (c :: t) = skipMagnitude (c :: t) := by
  rw [skipNumber]
  rintro _ ⟨⟩
  exact h rfl

/-- Every number is passed over, up to what follows it. -/
theorem Numeral.skipNumber_append {number rest : Text} (h : Numeral number)
    (hrest : Delimited rest) : skipNumber (number ++ rest) = .ok rest := by
  obtain ⟨hsign, hwhole, hplaces, hpower⟩ := h
  rename_i sign whole places power
  have hafter := hplaces.startsDigit_append (hpower.startsDigit_append hrest)
  have hskip : skipMagnitude (whole ++ (places ++ (power ++ rest))) = .ok rest := by
    rw [hwhole.skipMagnitude_append hafter, hplaces.skipFraction_append hpower hrest]
  simp only [List.append_assoc]
  rcases (by simpa using hsign : sign = [] ∨ sign = ['-']) with rfl | rfl
  · obtain ⟨c, t, rfl, hc⟩ := hwhole.exists_cons
    have hminus : c ≠ '-' := fun heq => not_sign_of_isDigit hc (.inr heq)
    rw [List.nil_append]
    rw [List.cons_append] at hskip ⊢
    rw [skipNumber_of_ne hminus, hskip]
  · exact hskip

/-! ### Reading a decimal notation -/

/-- A decimal notation consists of digits. -/
theorem isDigit_of_mem_digitsOf {n : Nat} {c : Char} (h : c ∈ Text.digitsOf n) : c.isDigit :=
  Nat.isDigit_of_mem_toDigits (by decide) (by decide) h

/-- A decimal notation has no leading zero. -/
theorem whole_digitsOf (n : Nat) : Whole (Text.digitsOf n) := by
  have hhead : ∀ n > 0, (Text.digitsOf n).head? ≠ some '0' := by
    intro n
    induction n using Nat.strongRecOn with
    | ind n ih =>
        intro hpos
        rw [Text.digitsOf, Nat.toDigits_eq_if (by decide)]
        split
        · simpa using Nat.ne_of_gt hpos
        · rw [List.head?_append, Option.or_of_isSome (by simp)]
          exact ih (n / 10) (by omega) (by omega)
  rcases Nat.eq_zero_or_pos n with rfl | hpos
  · exact .zero
  · have hne : Text.digitsOf n ≠ [] := Nat.toDigits_ne_nil
    obtain ⟨c, t, hct⟩ := List.exists_cons_of_ne_nil hne
    have hdigit : ∀ d ∈ c :: t, d.isDigit := fun d hd => isDigit_of_mem_digitsOf (hct ▸ hd)
    have hzero : c ≠ '0' := by
      rintro rfl
      exact hhead n hpos (congrArg List.head? hct)
    rw [hct]
    exact .digits (hdigit c List.mem_cons_self) hzero
      fun d hd => hdigit d (List.mem_cons_of_mem c hd)

/-- Further digits make a number no smaller. -/
theorem le_ofDigitChars (digits : Text) (n : Nat) : n ≤ Nat.ofDigitChars 10 digits n := by
  rw [Nat.ofDigitChars_eq_ofDigitChars_zero]
  exact Nat.le_add_right_of_le (Nat.le_mul_of_pos_left n (Nat.pow_pos (by decide)))

/-- All digits are gathered when the number that they make up fits into 64 bits. -/
theorem gather_append {digits rest : Text} {n : Nat} (h : ∀ c ∈ digits, c.isDigit)
    (hrest : startsDigit rest = false) (hfits : Nat.ofDigitChars 10 digits n < UInt64.size) :
    gather n (digits ++ rest) = (Nat.ofDigitChars 10 digits n, digits.length, rest) := by
  induction digits generalizing n with
  | nil =>
      cases rest with
      | nil => rfl
      | cons c t =>
          have hc : c.isDigit = false := hrest
          simp [gather, hc, Nat.ofDigitChars_nil]
  | cons c digits ih =>
      rw [Nat.ofDigitChars_cons, Nat.mul_comm] at hfits ⊢
      have hnext : n * 10 + (c.toNat - '0'.toNat) < Nat.pow 2 64 :=
        Nat.lt_of_le_of_lt (le_ofDigitChars digits _) hfits
      rw [List.cons_append, gather]
      simp only [h c List.mem_cons_self, hnext, and_self, if_true,
        ih (fun d hd => h d (List.mem_cons_of_mem c hd)) hfits, List.length_cons]

/-- A number without superfluous zeros is not refused for them. -/
theorem Whole.not_padded {whole rest : Text} (h : Whole whole)
    (hrest : startsDigit rest = false) :
    ¬((whole ++ rest).head? = some '0' ∧ startsDigit ((whole ++ rest).drop 1)) := by
  cases h with
  | zero => simp [hrest]
  | digits _ hzero _ => simp [hzero]

/-- What begins with no sign is read without one. -/
theorem readNumber_of_ne {c : Char} (h : c ≠ '-') (t : Text) :
    readNumber (c :: t) = readMagnitude false (c :: t) := by
  rw [readNumber]
  rintro _ ⟨⟩
  exact h rfl

/-- The decimal notation of a number that fits into 64 bits is read as that number. -/
theorem readNumber_digitsOf {n : Nat} (h : n < UInt64.size) {rest : Text} (hrest : Delimited rest) :
    readNumber (Text.digitsOf n ++ rest) = .ok (.unsigned n, rest) := by
  have hwhole := whole_digitsOf n
  have hgather : gather 0 (Text.digitsOf n ++ rest) = (n, (Text.digitsOf n).length, rest) := by
    have hvalue : Nat.ofDigitChars 10 (Text.digitsOf n) 0 = n := Nat.ofDigitChars_ten_toDigits
    rw [gather_append (fun c hc => isDigit_of_mem_digitsOf hc) hrest.startsDigit
      (by rwa [hvalue]), hvalue]
  have htail : readTail false n 0 rest = .ok (.unsigned n, rest) := by
    simp only [readTail, hrest.readFraction, hrest.readPower, bind, Except.bind]
    rfl
  obtain ⟨c, t, hct, hc⟩ := hwhole.exists_cons
  have hpadded := hwhole.not_padded hrest.startsDigit
  rw [hct, List.cons_append] at hgather hpadded ⊢
  rw [readNumber_of_ne fun heq => not_sign_of_isDigit hc (.inr heq), readMagnitude]
  simp only [expectDigit, hc, if_true, bind, Except.bind, if_neg hpadded, hgather,
    takeWhile_isDigit hrest.startsDigit, List.length_nil, skipDigits,
    dropWhile_isDigit hrest.startsDigit]
  exact htail

end BulkInsert.Config
