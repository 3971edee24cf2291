import PatchReview.Decimal.Natural

/-!
# Reading doubles

Decimal texts as doubles, rounded to the nearest one. Sizes beyond all doubles are infinite or zero.
-/

namespace PatchReview
namespace Decimal

def infinity : Float := 1.0 / 0.0

def notANumber : Float := 0.0 / 0.0

/-- The double nearest to `n * 10 ^ e`. -/
def toFloat (n : Nat) (e : Int) : Float :=
  let size := ((Nat.toDigits 10 n).length : Int) + e
  if n == 0 || size < -330 then 0
  else if 330 < size then infinity
  else Float.ofScientific n (e < 0) e.natAbs

def signedFloat (negative : Bool) (x : Float) : Float := if negative then -x else x

/-- The digits of a numeral that may be empty. -/
def ungroupedOrEmpty? (s : List Char) : Option (List Char) :=
  if s.isEmpty then some [] else ungrouped? Text.isDecimalDigit s

def readExponent? (s : List Char) : Option Int := do
  let (negative, s) := splitSign s
  let ds ← ungrouped? Text.isDecimalDigit s
  some (signed negative (valueOf 10 Text.decimalDigit? ds))

/-- A numeral without sign: digits on one side of a point at least, perhaps with an exponent. -/
def readUnsigned? (s : List Char) : Option Float := do
  let (mantissa, exponent) := s.span fun c => c != 'e' && c != 'E'
  let exponent ← match exponent with
    | [] => some 0
    | _ :: s => readExponent? s
  let (whole, fraction) := mantissa.span (· != '.')
  let whole ← ungroupedOrEmpty? whole
  let fraction ← ungroupedOrEmpty? (fraction.drop 1)
  if whole.isEmpty && fraction.isEmpty then none
  else some (toFloat (valueOf 10 Text.decimalDigit? (whole ++ fraction))
    (exponent - fraction.length))

/-- The ASCII letters of a text in lower case. -/
def lowerAscii (s : List Char) : List Char := s.map Char.toLower

/-- A double as people type it: blanks around it, a sign, and the words for infinity and for no
number in any case. -/
def readTypedFloat? (s : List Char) : Option Float :=
  let (negative, s) := splitSign (Text.trimBy Text.isBlank s)
  let word := String.ofList (lowerAscii s)
  if word == "inf" || word == "infinity" then some (signedFloat negative infinity)
  else if word == "nan" then some notANumber
  else (readUnsigned? s).map (signedFloat negative)

end Decimal
end PatchReview
