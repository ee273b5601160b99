import BulkInsert.Decimal.Shortest
import BulkInsert.Text.Basic

/-!
# Decimal layout

How a shortest decimal is written. Within a range of magnitudes it is written positionally,
with at least one place behind the point; outside that range its first digit stands before
the point and a power of ten follows.
-/

namespace BulkInsert.Decimal

/-- The magnitudes, as exponents of the leading digit, that are written positionally. -/
structure Layout where
  least : Int
  greatest : Int
  deriving DecidableEq, Repr

namespace Layout

/-- The power of ten of an exponent, which always has a sign and no leading zero. -/
def power (exponent : Int) : Text :=
  'e' :: (if exponent < 0 then '-' else '+') :: Text.digitsOf exponent.natAbs

/-- Writes significant digits whose leading one has the given exponent. -/
def write (layout : Layout) (digits : Text) (leading : Int) : Text :=
  if leading < layout.least ∨ layout.greatest < leading then
    match digits with
    | [] => power leading
    | [d] => d :: power leading
    | d :: rest => d :: '.' :: rest ++ power leading
  else if leading < 0 then
    ['0', '.'] ++ List.replicate (-leading - 1).toNat '0' ++ digits
  else
    let places := leading.toNat + 1
    let whole := digits.take places ++ List.replicate (places - digits.length) '0'
    let fraction := digits.drop places
    whole ++ ['.'] ++ if fraction.isEmpty then ['0'] else fraction

/-- Writes a finite double by its shortest decimal. -/
def writeFloat (layout : Layout) (x : Float) : Text :=
  let sign : Text := if x.toBits.toNat / Nat.pow 2 63 = 1 then ['-'] else []
  let b := Binary.ofFloat x
  if b.mantissa = 0 then sign ++ layout.write ['0'] 0
  else
    let d := b.shortest
    let digits := Text.digitsOf d.digits
    let leading := d.exponent + digits.length - 1
    let significant := (digits.reverse.dropWhile (· == '0')).reverse
    sign ++ layout.write significant leading

end Layout

end BulkInsert.Decimal
