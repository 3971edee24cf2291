import PatchReview.Text.Blank
import PatchReview.Text.DecimalDigit

/-!
# Whole numbers in decimal

Reading whole numbers from decimal digits of any script. A run of digits is refused when it is
longer than a fixed limit, whatever its leading zeros; a number whose digits would pass the limit is
not written either.
-/

namespace PatchReview
namespace Decimal

/-- The longest run of digits that is read or written. -/
def digitLimit : Nat := 4300

/-- Why a whole number is neither read nor written. -/
inductive LimitError where
  /-- The text has more digits than the limit. -/
  | tooLongToRead (digits : Nat)
  /-- The number has more digits than the limit. -/
  | tooLongToWrite
  deriving DecidableEq, Repr

def LimitError.message : LimitError → String
  | .tooLongToRead digits =>
    s!"Exceeds the limit ({digitLimit} digits) for integer string conversion: value has {digits} digits; use sys.set_int_max_str_digits() to increase the limit"
  | .tooLongToWrite =>
    s!"Exceeds the limit ({digitLimit} digits) for integer string conversion; use sys.set_int_max_str_digits() to increase the limit"

/-- The number that a run of digits denotes, in a base; characters that are no digits are passed
over. -/
def valueOf (base : Nat) (digit? : Char → Option Nat) (s : List Char) : Nat :=
  s.foldl (fun n c => match digit? c with
    | some d => n * base + d
    | none => n) 0

def readDigits (s : List Char) : Except LimitError Nat :=
  if s.length > digitLimit then .error (.tooLongToRead s.length)
  else .ok (valueOf 10 Text.decimalDigit? s)

/-- The value of a digit of a base up to 36; letters count on from nine. -/
def digitOf? (base : Nat) (c : Char) : Option Nat :=
  let value := match Text.decimalDigit? c with
    | some d => some d
    | none =>
      if 'a' ≤ c && c ≤ 'z' then some (c.toNat - 'a'.toNat + 10)
      else if 'A' ≤ c && c ≤ 'Z' then some (c.toNat - 'A'.toNat + 10)
      else none
  value.filter (· < base)

/-- The digits of a numeral in which single low lines may stand between digits. -/
def ungrouped? (isDigit : Char → Bool) : List Char → Option (List Char)
  | [] => none
  | [c] => if isDigit c then some [c] else none
  | c :: '_' :: cs => if isDigit c then (ungrouped? isDigit cs).map (c :: ·) else none
  | c :: cs => if isDigit c then (ungrouped? isDigit cs).map (c :: ·) else none

/-- The sign in front of a numeral, and the rest. -/
def splitSign : List Char → Bool × List Char
  | '-' :: s => (true, s)
  | '+' :: s => (false, s)
  | s => (false, s)

def signed (negative : Bool) (n : Nat) : Int := if negative then -(n : Int) else n

def baseLetters : Nat → List Char
  | 2 => ['b', 'B']
  | 8 => ['o', 'O']
  | 16 => ['x', 'X']
  | _ => []

/-- A numeral without the mark of its base, if it has one. -/
def dropBaseMark (base : Nat) : List Char → List Char
  | '0' :: c :: s =>
    if (baseLetters base).contains c then
      match s with
      | '_' :: s => s
      | _ => s
    else '0' :: c :: s
  | s => s

/-- A numeral of a base as people type it: blanks around it, a sign, the mark of the base, low lines
between digits. No number where the text is none. Only in bases that are no powers of two is the
length limited. -/
def readTyped (base : Nat) (s : List Char) : Except LimitError (Option Int) :=
  let (negative, s) := splitSign (Text.trimBy Text.isBlank s)
  let s := dropBaseMark base s
  match ungrouped? (fun c => (digitOf? base c).isSome) s with
  | none => .ok none
  | some ds =>
    if ds.length > digitLimit && !([2, 4, 8, 16, 32].contains base) then
      .error (.tooLongToRead ds.length)
    else .ok (some (signed negative (valueOf base (digitOf? base) ds)))

/-- The least number with more digits than some. -/
def powerOfTen (digits : Nat) : Nat := Nat.pow 10 digits

/-- The least number with more digits than the limit. -/
def numberLimit : Nat := powerOfTen digitLimit

def writeInt (n : Int) : Except LimitError String :=
  if n.natAbs < numberLimit then .ok (toString n) else .error .tooLongToWrite

end Decimal
end PatchReview
