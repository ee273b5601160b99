/-!
# The shortest decimal of a binary fraction

A double is `mantissa * 2 ^ exponent` for two integers. Many decimals round to it; the
shortest of them is the one with the fewest digits, and of those with equally few the
nearest one, an even last digit deciding a tie.

## Which decimals read back

A decimal reads back as the double when it lies between the midpoints to the two
neighbouring doubles. Rounding sends a midpoint to the neighbour with the even mantissa, so
the midpoints count exactly when the mantissa is even. Below a power of two the lower
neighbour is only half as far away.

All comparisons are made in exact arithmetic on natural numbers. For each number of digits
the two points of the decimal grid around the value are tried, which is enough: if any
point of the grid reads back, so does one of these.
-/

namespace BulkInsert.Decimal

/-- A non-negative double as an integer times a power of two. -/
structure Binary where
  mantissa : Nat
  exponent : Int
  /-- Whether the neighbour below is only half as far away as the one above. -/
  narrowBelow : Bool
  deriving DecidableEq, Repr

/-- The magnitude of a finite double. -/
def Binary.ofFloat (x : Float) : Binary :=
  let bits := x.toBits.toNat
  let fraction : Nat := bits % Nat.pow 2 52
  let biased : Nat := bits / Nat.pow 2 52 % Nat.pow 2 11
  if biased = 0 then ⟨fraction, -1074, false⟩
  else ⟨fraction + Nat.pow 2 52, (biased : Int) - 1075, fraction == 0 && biased > 1⟩

/-- A decimal: `digits * 10 ^ exponent`. -/
structure Digits where
  digits : Nat
  exponent : Int
  deriving DecidableEq, Repr

namespace Binary

/-- The numerator of a quarter of the mantissa's unit, on the decimal grid of `grid`. -/
def numerator (b : Binary) (grid : Int) : Nat :=
  Nat.pow 2 (b.exponent - 2).toNat * Nat.pow 10 (-grid).toNat

/-- The denominator that goes with `numerator`. -/
def denominator (b : Binary) (grid : Int) : Nat :=
  Nat.pow 2 (2 - b.exponent).toNat * Nat.pow 10 grid.toNat

/-- Whether `n * 10 ^ grid` reads back as the double. -/
def readsBack (b : Binary) (grid : Int) (n : Nat) : Bool :=
  let point := n * b.denominator grid
  let below := (4 * b.mantissa - if b.narrowBelow then 1 else 2) * b.numerator grid
  let above := (4 * b.mantissa + 2) * b.numerator grid
  if b.mantissa % 2 = 0 then below ≤ point && point ≤ above
  else below < point && point < above

/-- The point of the grid nearest to the double among those around it that read back. -/
def onGrid? (b : Binary) (grid : Int) : Option Digits :=
  let value := 4 * b.mantissa * b.numerator grid
  let low := value / b.denominator grid
  let toLow := value - low * b.denominator grid
  let toHigh := (low + 1) * b.denominator grid - value
  let preferLow := toLow < toHigh || (toLow == toHigh && low % 2 == 0)
  let candidates := if preferLow then [low, low + 1] else [low + 1, low]
  (candidates.find? (b.readsBack grid)).map (⟨·, grid⟩)

/-- The decimal exponent of the leading digit. Doubles are large enough for four hundred
further places to hold it. -/
def leading (b : Binary) : Int :=
  let shifted := 4 * b.mantissa * b.numerator (-400) / b.denominator (-400)
  (Nat.toDigits 10 shifted).length - 401

/-- The shortest decimal that reads back as the double; seventeen digits always do. -/
def shortest (b : Binary) : Digits :=
  if b.mantissa = 0 then ⟨0, 0⟩
  else
    ((List.range 17).findSome? fun more : Nat => b.onGrid? (b.leading - more)).getD
      ⟨b.mantissa, b.exponent⟩

end Binary

end BulkInsert.Decimal
