/-!
# The exact value of a double

A finite double is a sign, a whole mantissa and a power of two. All decimal texts of doubles are
computed from these three in whole numbers.
-/

namespace PatchReview
namespace Decimal

/-- A finite double: `mantissa * 2 ^ exponent` with a sign. -/
structure Binary where
  negative : Bool
  mantissa : Nat
  exponent : Int
  deriving DecidableEq, Repr

/-- What the bits of a double stand for. -/
inductive Reading where
  | notANumber
  | infinite (negative : Bool)
  | finite (value : Binary)
  deriving DecidableEq, Repr

def Reading.ofBits (bits : Nat) : Reading :=
  let negative := bits.testBit 63
  let biased : Nat := bits / Nat.pow 2 52 % Nat.pow 2 11
  let fraction : Nat := bits % Nat.pow 2 52
  if biased == 2047 then if fraction == 0 then .infinite negative else .notANumber
  else if biased == 0 then .finite ⟨negative, fraction, -1074⟩
  else .finite ⟨negative, Nat.pow 2 52 + fraction, (biased : Int) - 1075⟩

def Reading.ofFloat (x : Float) : Reading := .ofBits x.toBits.toNat

/-- A fraction of whole numbers. -/
structure Fraction where
  num : Nat
  den : Nat
  deriving DecidableEq, Repr

/-- The fraction `n * 2 ^ e`. -/
def Fraction.scaled (n : Nat) (e : Int) : Fraction :=
  if 0 ≤ e then ⟨n * Nat.pow 2 e.toNat, 1⟩ else ⟨n, Nat.pow 2 (-e).toNat⟩

/-- The fraction times `10 ^ k`. -/
def Fraction.shift (f : Fraction) (k : Int) : Fraction :=
  if 0 ≤ k then ⟨f.num * Nat.pow 10 k.toNat, f.den⟩ else ⟨f.num, f.den * Nat.pow 10 (-k).toNat⟩

/-- The nearest whole number; a half goes to the even neighbour. -/
def Fraction.round (f : Fraction) : Nat :=
  let q := f.num / f.den
  let twice := 2 * (f.num % f.den)
  if twice < f.den then q
  else if twice == f.den then q + q % 2
  else q + 1

def Binary.magnitude (b : Binary) : Fraction := .scaled b.mantissa b.exponent

end Decimal
end PatchReview
