import BulkInsert.Config.Literal

/-!
# Numbers of a document

A number is read as an integer when it is written without a point and without a power of
ten and fits into 64 bits, signed or unsigned; otherwise it is read as a double.

## How a double is found

The digits are gathered into a whole number as long as that fits into 64 bits. Digits
before the point that no longer fit only raise the power of ten; digits behind the point
that no longer fit are ignored. The whole number is rounded to a double and then multiplied
or divided by powers of ten, itself rounded, so the last place of the double may be off.
A double beyond all bounds breaks the grammar.

A number that is passed over breaks the grammar where one that is read ends too early.
-/

namespace BulkInsert.Config

/-- A number of a document. -/
inductive Number where
  | unsigned (value : Nat)
  /-- The negative of a positive number. -/
  | negative (magnitude : Nat)
  | fraction (value : Float)
  deriving DecidableEq, Repr

/-- What a number is found to be when something else is expected. -/
def Number.found : Number → Found
  | unsigned n => .integer n
  | negative n => .integer (-n)
  | fraction x => .fraction x

/-! ### Reading -/

/-- Gathers digits behind `significand` as long as the number fits into 64 bits: the
number, how many digits it took, and the rest. -/
def gather (significand : Nat) : Text → Nat × Nat × Text
  | [] => (significand, 0, [])
  | c :: rest =>
    let next := significand * 10 + (c.toNat - '0'.toNat)
    if c.isDigit ∧ next < Nat.pow 2 64 then
      let (total, count, tail) := gather next rest
      (total, count + 1, tail)
    else (significand, 0, c :: rest)

/-- The rest of the document behind its leading digits. -/
def skipDigits (t : Text) : Text := t.dropWhile Char.isDigit

/-- Whether the document goes on with a digit. -/
def startsDigit (t : Text) : Bool := t.head?.any Char.isDigit

/-- Fails unless the document goes on with a digit. -/
def expectDigit : Text → Read Unit
  | [] => .error .endOfText
  | c :: _ => if c.isDigit then .ok () else .error .malformed

/-- Multiplies or divides by powers of ten until nothing is left of `exponent`. There is no
double beyond all bounds. -/
def scale (x : Float) (exponent : Int) : Option Float :=
  if exponent.natAbs ≤ 308 then
    let power := Float.ofScientific 1 false exponent.natAbs
    if 0 ≤ exponent then
      let y := x * power
      if y.isInf then none else some y
    else some (x / power)
  else if x == 0 then some x
  else if 0 ≤ exponent then none
  else scale (x / Float.ofScientific 1 false 308) (exponent + 308)
termination_by exponent.natAbs

/-- The double for a sign, a whole number and a power of ten. -/
def Number.ofParts (isNegative : Bool) (significand : Nat) (exponent : Int) : Read Number :=
  match scale significand.toUInt64.toFloat exponent with
  | none => .error .malformed
  | some x => .ok (.fraction (if isNegative then -x else x))

/-- The number for a sign and a whole number of at most 64 bits. A negative one that does
not fit into 64 signed bits is a double, and so is negative zero. -/
def Number.ofInteger (isNegative : Bool) (n : Nat) : Number :=
  if !isNegative then unsigned n
  else if n = 0 ∨ Nat.pow 2 63 < n then fraction (-n.toUInt64.toFloat)
  else negative n

/-- Reads an optional power of ten: its exponent, whether there is one, and the rest. -/
def readPower : Text → Read (Option Int × Text)
  | [] => .ok (none, [])
  | c :: rest =>
    if c = 'e' ∨ c = 'E' then do
      let (isNegative, digits) := match rest with
        | '+' :: tail => (false, tail)
        | '-' :: tail => (true, tail)
        | tail => (false, tail)
      expectDigit digits
      let value : Int := Nat.ofDigitChars 10 (digits.takeWhile Char.isDigit) 0
      return (some (if isNegative then -value else value), skipDigits digits)
    else .ok (none, c :: rest)

/-- Reads an optional fraction behind the number `significand`: the number with its digits
gathered too, how many there were if there is a fraction, and the rest. -/
def readFraction (significand : Nat) : Text → Read (Nat × Option Nat × Text)
  | [] => .ok (significand, none, [])
  | c :: rest =>
    if c = '.' then do
      expectDigit rest
      let (total, count, tail) := gather significand rest
      return (total, some count, skipDigits tail)
    else .ok (significand, none, c :: rest)

/-- The number for a sign, the digits gathered, how many digits before the point no longer
fitted, how many of those gathered stand behind the point, and the power of ten. -/
def Number.ofDigits (isNegative : Bool) (total dropped : Nat) (places : Option Nat)
    (power : Option Int) : Read Number :=
  if dropped = 0 ∧ places = none ∧ power = none then .ok (ofInteger isNegative total)
  else ofParts isNegative total (dropped - (places.getD 0 : Nat) + power.getD 0)

/-- Reads what follows the digits before the point. Here `significand` is the number
gathered from them and `dropped` counts those that no longer fitted. -/
def readTail (isNegative : Bool) (significand dropped : Nat) (t : Text) :
    Read (Number × Text) := do
  let (total, places, rest) ← readFraction significand t
  let (power, rest) ← readPower rest
  return (← Number.ofDigits isNegative total dropped places power, rest)

/-- Reads the digits of a number behind its sign. A number with more than one digit does
not begin with zero. -/
def readMagnitude (isNegative : Bool) (t : Text) : Read (Number × Text) := do
  expectDigit t
  if t.head? = some '0' ∧ startsDigit (t.drop 1) then throw .malformed
  let (significand, _, rest) := gather 0 t
  let dropped := (rest.takeWhile Char.isDigit).length
  readTail isNegative significand dropped (skipDigits rest)

/-- Reads a number. -/
def readNumber : Text → Read (Number × Text)
  | '-' :: rest => readMagnitude true rest
  | t => readMagnitude false t

/-! ### Passing over -/

/-- Passes over at least one digit. -/
def skipSomeDigits : Text → Read Text
  | [] => .error .malformed
  | c :: rest => if c.isDigit then .ok (skipDigits rest) else .error .malformed

/-- Passes over an optional power of ten. -/
def skipPower : Text → Read Text
  | [] => .ok []
  | c :: rest =>
    if c = 'e' ∨ c = 'E' then
      match rest with
      | [] => .error .malformed
      | s :: tail => skipSomeDigits (if s = '+' ∨ s = '-' then tail else rest)
    else .ok (c :: rest)

/-- Passes over an optional fraction and an optional power of ten. -/
def skipFraction : Text → Read Text
  | [] => .ok []
  | c :: rest => if c = '.' then (skipSomeDigits rest).bind skipPower else skipPower (c :: rest)

/-- Passes over the digits of a number behind its sign. -/
def skipMagnitude : Text → Read Text
  | [] => .error .malformed
  | c :: rest =>
    if c = '0' then if startsDigit rest then .error .malformed else skipFraction rest
    else (skipSomeDigits (c :: rest)).bind skipFraction

/-- Passes over a number. -/
def skipNumber : Text → Read Text
  | '-' :: rest => skipMagnitude rest
  | t => skipMagnitude t

/-! ### How much a reader takes -/

theorem length_skipDigits (t : Text) : (skipDigits t).length ≤ t.length :=
  (List.dropWhile_suffix _).length_le

theorem length_of_skipSomeDigits {t rest : Text} (h : skipSomeDigits t = .ok rest) :
    rest.length < t.length := by
  cases t with
  | nil => simp [skipSomeDigits] at h
  | cons c t =>
    simp only [skipSomeDigits] at h
    split at h
    · have := length_skipDigits t
      simp only [Except.ok.injEq] at h
      simp only [List.length_cons, ← h]; omega
    · simp at h

theorem length_of_skipPower {t rest : Text} (h : skipPower t = .ok rest) :
    rest.length ≤ t.length := by
  cases t with
  | nil => simp only [skipPower, Except.ok.injEq] at h; simp [h]
  | cons c t =>
    simp only [skipPower] at h
    split at h
    · cases t with
      | nil => simp at h
      | cons s u =>
        have := length_of_skipSomeDigits h
        split at this <;> simp only [List.length_cons] at this ⊢ <;> omega
    · simp only [Except.ok.injEq] at h; simp [h]

theorem length_of_skipFraction {t rest : Text} (h : skipFraction t = .ok rest) :
    rest.length ≤ t.length := by
  cases t with
  | nil => simp only [skipFraction, Except.ok.injEq] at h; simp [h]
  | cons c t =>
    simp only [skipFraction] at h
    split at h
    · cases hd : skipSomeDigits t with
      | error e => simp [hd, Except.bind] at h
      | ok u =>
        have h₁ := length_of_skipSomeDigits hd
        simp only [hd, Except.bind] at h
        have h₂ := length_of_skipPower h
        simp only [List.length_cons]; omega
    · exact length_of_skipPower h

theorem length_of_skipMagnitude {t rest : Text} (h : skipMagnitude t = .ok rest) :
    rest.length < t.length := by
  cases t with
  | nil => simp [skipMagnitude] at h
  | cons c t =>
    simp only [skipMagnitude] at h
    split at h
    · split at h
      · simp at h
      · have := length_of_skipFraction h
        simp only [List.length_cons]; omega
    · cases hd : skipSomeDigits (c :: t) with
      | error e => simp [hd, Except.bind] at h
      | ok u =>
        have h₁ := length_of_skipSomeDigits hd
        simp only [hd, Except.bind] at h
        have h₂ := length_of_skipFraction h
        omega

theorem length_of_skipNumber {t rest : Text} (h : skipNumber t = .ok rest) :
    rest.length < t.length := by
  unfold skipNumber at h
  split at h
  · have := length_of_skipMagnitude h
    simp only [List.length_cons]; omega
  · exact length_of_skipMagnitude h

theorem length_of_gather {n total count : Nat} {t rest : Text}
    (h : gather n t = (total, count, rest)) : rest.length ≤ t.length := by
  induction t generalizing n total count with
  | nil => simp only [gather, Prod.mk.injEq] at h; simp [← h.2.2]
  | cons c t ih =>
    simp only [gather] at h
    split at h
    · simp only [Prod.mk.injEq] at h
      have := ih (n := n * 10 + (c.toNat - '0'.toNat)) (Prod.ext rfl (Prod.ext rfl h.2.2))
      simp only [List.length_cons]; omega
    · simp only [Prod.mk.injEq] at h; simp [← h.2.2]

theorem length_of_readPower {t rest : Text} {power : Option Int}
    (h : readPower t = .ok (power, rest)) : rest.length ≤ t.length := by
  cases t with
  | nil => simp only [readPower, Except.ok.injEq, Prod.mk.injEq] at h; simp [← h.2]
  | cons c t =>
    simp only [readPower] at h
    split at h
    · simp only [bind, Except.bind, pure, Except.pure] at h
      split at h
      · simp at h
      · simp only [Except.ok.injEq, Prod.mk.injEq] at h
        rw [← h.2]
        refine Nat.le_trans (length_skipDigits _) ?_
        split <;> simp only [List.length_cons] <;> omega
    · simp only [Except.ok.injEq, Prod.mk.injEq] at h; simp [← h.2]

theorem length_of_readFraction {n total : Nat} {places : Option Nat} {t rest : Text}
    (h : readFraction n t = .ok (total, places, rest)) : rest.length ≤ t.length := by
  cases t with
  | nil => simp only [readFraction, Except.ok.injEq, Prod.mk.injEq] at h; simp [← h.2.2]
  | cons c t =>
    simp only [readFraction] at h
    split at h
    · cases hd : expectDigit t with
      | error e => simp [hd, bind, Except.bind] at h
      | ok u =>
        rcases hg : gather n t with ⟨m, count, tail⟩
        simp only [hd, hg, bind, Except.bind, pure, Except.pure, Except.ok.injEq,
          Prod.mk.injEq] at h
        have h₁ := length_of_gather hg
        have h₂ := length_skipDigits tail
        simp only [List.length_cons, ← h.2.2]; omega
    · simp only [Except.ok.injEq, Prod.mk.injEq] at h; simp [← h.2.2]

theorem length_of_readTail {isNegative : Bool} {n dropped : Nat} {t rest : Text}
    {number : Number} (h : readTail isNegative n dropped t = .ok (number, rest)) :
    rest.length ≤ t.length := by
  simp only [readTail, bind, Except.bind, pure, Except.pure] at h
  cases hf : readFraction n t with
  | error e => simp [hf] at h
  | ok p =>
    obtain ⟨total, places, r₁⟩ := p
    simp only [hf] at h
    cases hp : readPower r₁ with
    | error e => simp [hp] at h
    | ok q =>
      obtain ⟨power, r₂⟩ := q
      simp only [hp] at h
      cases hn : Number.ofDigits isNegative total dropped places power with
      | error e => simp [hn] at h
      | ok m =>
        simp only [hn, Except.ok.injEq, Prod.mk.injEq] at h
        have h₁ := length_of_readFraction hf
        have h₂ := length_of_readPower hp
        rw [← h.2]; omega

theorem length_of_readMagnitude {isNegative : Bool} {t rest : Text} {number : Number}
    (h : readMagnitude isNegative t = .ok (number, rest)) : rest.length ≤ t.length := by
  simp only [readMagnitude, bind, Except.bind, throw, throwThe, MonadExceptOf.throw] at h
  cases hd : expectDigit t with
  | error e => simp [hd] at h
  | ok u =>
    simp only [hd] at h
    split at h
    · simp at h
    · rcases hg : gather 0 t with ⟨m, count, tail⟩
      simp only [hg] at h
      have h₁ := length_of_gather hg
      have h₂ := length_skipDigits tail
      have h₃ := length_of_readTail h
      omega

theorem length_of_readNumber {t rest : Text} {number : Number}
    (h : readNumber t = .ok (number, rest)) : rest.length ≤ t.length := by
  unfold readNumber at h
  split at h
  · have := length_of_readMagnitude h
    simp only [List.length_cons]; omega
  · exact length_of_readMagnitude h

end BulkInsert.Config
