import PatchReview.Decimal.Binary

/-!
# The shortest decimal that reads back

Of all decimals that read back as a given double, the shortest one is chosen, and of several of
that length the nearest. The search goes through one, two, … seventeen digits and tests the two
neighbours of the value on each decimal grid.
-/

namespace PatchReview
namespace Decimal

/-- Digits `d₁d₂…` with the exponent of the first: `d₁.d₂… * 10 ^ exponent`. -/
structure Scientific where
  digits : List Char
  exponent : Int
  deriving DecidableEq, Repr

/-- The exponent of the first decimal digit of a positive fraction. -/
def Fraction.leadingExponent (f : Fraction) : Int :=
  if f.den ≤ f.num then ((Nat.toDigits 10 (f.num / f.den)).length : Int) - 1
  else -((Nat.toDigits 10 ((f.den - 1) / f.num)).length : Int)

/-- The quarters of the last place that bound the decimals reading back as a double, from below and
from above. The lower gap is half as wide where the power of two changes. -/
def Binary.readingBounds (b : Binary) : Fraction × Fraction :=
  let below := if b.mantissa == Nat.pow 2 52 && b.exponent > -1074 then 1 else 2
  (.scaled (4 * b.mantissa - below) (b.exponent - 2), .scaled (4 * b.mantissa + 2) (b.exponent - 2))

/-- Whether `n * 10 ^ k` reads back as the double. -/
def Binary.readsBack (b : Binary) (n : Nat) (k : Int) : Bool :=
  let (lower, upper) := b.readingBounds
  let lower := lower.shift (-k)
  let upper := upper.shift (-k)
  if b.mantissa % 2 == 0 then lower.num ≤ n * lower.den && n * upper.den ≤ upper.num
  else lower.num < n * lower.den && n * upper.den < upper.num

/-- The neighbour of the value on the grid of `10 ^ k` that reads back, the nearer one of two. -/
def Binary.onGrid? (b : Binary) (k : Int) : Option Nat :=
  let value := b.magnitude.shift (-k)
  let n := value.num / value.den
  match b.readsBack n k, b.readsBack (n + 1) k with
  | true, true => some value.round
  | true, false => some n
  | false, true => some (n + 1)
  | false, false => none

/-- Drops the zeros at the end of a list of digits. -/
def dropZeros (ds : List Char) : List Char := (ds.reverse.dropWhile (· == '0')).reverse

/-- The shortest decimal with at least the given number of digits, at most `fuel` more. -/
def Binary.shortestFrom (b : Binary) (lead : Int) : (fuel count : Nat) → Scientific
  | 0, _ => ⟨['0'], 0⟩
  | fuel + 1, count =>
    let k := lead - ((count : Int) - 1)
    match b.onGrid? k with
    | some n =>
      let ds := Nat.toDigits 10 n
      ⟨dropZeros ds, (ds.length : Int) - 1 + k⟩
    | none => b.shortestFrom lead fuel (count + 1)

/-- The shortest decimal that reads back as the double. -/
def Binary.shortest (b : Binary) : Scientific :=
  if b.mantissa == 0 then ⟨['0'], 0⟩ else b.shortestFrom b.magnitude.leadingExponent 18 1

end Decimal
end PatchReview
