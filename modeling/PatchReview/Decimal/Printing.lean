import PatchReview.Decimal.Shortest

/-!
# Texts of doubles

A double is written with the shortest digits that read back. The point stands between the digits for
sizes from `10 ^ -4` up to `10 ^ 16`; other sizes have an exponent of at least two digits.
-/

namespace PatchReview
namespace Decimal

/-- What a format decides about the texts of doubles. -/
structure FloatFormat where
  /-- The least exponent that is written with a point alone. -/
  leastPositional : Int
  /-- The exponent from which on an exponent is written. -/
  scientificFrom : Int
  notANumber : String
  infinity : String

/-- The point and the digits behind it; a whole number gets a zero there. -/
def fractionPart (ds : List Char) : List Char := '.' :: (if ds.isEmpty then ['0'] else ds)

/-- A decimal written with a point alone. -/
def Scientific.positional (s : Scientific) : List Char :=
  if s.exponent < 0 then
    '0' :: fractionPart (List.replicate (-s.exponent - 1).toNat '0' ++ s.digits)
  else
    let whole := s.exponent.toNat + 1
    s.digits.take whole ++ List.replicate (whole - s.digits.length) '0' ++
      fractionPart (s.digits.drop whole)

def Scientific.withExponent (s : Scientific) : List Char :=
  let mantissa := match s.digits with
    | [] => []
    | [d] => [d]
    | d :: ds => d :: '.' :: ds
  let size := Nat.toDigits 10 s.exponent.natAbs
  mantissa ++ ['e', if s.exponent < 0 then '-' else '+'] ++
    (if size.length < 2 then '0' :: size else size)

def FloatFormat.write (format : FloatFormat) (x : Float) : String :=
  match Reading.ofFloat x with
  | .notANumber => format.notANumber
  | .infinite negative => (if negative then "-" else "") ++ format.infinity
  | .finite b =>
    let s := b.shortest
    let size := if format.leastPositional ≤ s.exponent && s.exponent < format.scientificFrom
      then s.positional else s.withExponent
    String.ofList (if b.negative then '-' :: size else size)

/-- Doubles in running text. -/
def plain : FloatFormat := ⟨-4, 16, "nan", "inf"⟩

/-- The double nearest to a value rounded to a number of places; a half goes to the even
neighbour. -/
def roundPlaces (places : Nat) (x : Float) : Float :=
  match Reading.ofFloat x with
  | .finite b =>
    let size := Float.ofScientific (b.magnitude.shift places).round true places
    if b.negative then -size else size
  | _ => x

/-- A double rounded to a whole number, without a point. -/
def writeWhole (x : Float) : String :=
  match Reading.ofFloat x with
  | .notANumber => plain.notANumber
  | .infinite negative => (if negative then "-" else "") ++ plain.infinity
  | .finite b => (if b.negative then "-" else "") ++ toString b.magnitude.round

end Decimal
end PatchReview
