import PatchReview.Calendar
import PatchReview.Decimal.Reading
import PatchReview.Text.CaseMap
import PatchReview.Text.Pieces
import PatchReview.Yaml.Error
import PatchReview.Yaml.Implicit

/-!
# Values of scalars

The value of the text of a scalar under its tag. A tag that is written out may stand in front of any
text, so that every value can fail to be one.
-/

namespace PatchReview
namespace Yaml

/-! ## Numbers -/

/-- A text without low lines. -/
def dropLines (s : List Char) : List Char := s.filter (· != '_')

/-- The sign of a number and the rest. A number without characters has neither. -/
def signOf (s : List Char) : Except Error (Bool × List Char) :=
  if s.isEmpty then .error .emptyNumber else .ok (Decimal.splitSign s)

def intOf (base : Nat) (s : List Char) : Except Error Int :=
  match Decimal.readTyped base s with
  | .ok (some n) => .ok n
  | .ok none => .error (.notInteger base (String.ofList s))
  | .error e => .error (.digits e)

/-- The value of digits in sixtieths, the last one first. -/
def sixtieths : List Int → Int
  | [] => 0
  | d :: ds => d + 60 * sixtieths ds

/-- A whole number: its base is announced behind a zero, and colons separate sixtieths. -/
def readInt (text : String) : Except Error Int := do
  let (negative, s) ← signOf (dropLines text.toList)
  let sign : Int := if negative then -1 else 1
  match s with
  | [] => .error .emptyNumber
  | ['0'] => return 0
  | '0' :: 'b' :: ds => return sign * (← intOf 2 ds)
  | '0' :: 'x' :: ds => return sign * (← intOf 16 ds)
  | '0' :: _ => return sign * (← intOf 8 s)
  | _ =>
    if s.contains ':' then
      let parts ← (Text.splitAtChar ':' s).mapM (intOf 10)
      return sign * sixtieths parts.reverse
    else return sign * (← intOf 10 s)

def floatOf (s : List Char) : Except Error Float :=
  match Decimal.readTypedFloat? s with
  | some x => .ok x
  | none => .error (.notNumber (String.ofList s))

/-- The value of numbers in sixtieths, the last one first, given the power of sixty that this one
counts and the sum of those before. The powers are whole numbers, and each has to be in the range of
numbers with a point. -/
def floatSixtieths (power : Nat) (sum : Float) : List Float → Except Error Float
  | [] => .ok sum
  | x :: xs =>
    if 2 ^ 1024 ≤ power then .error .powerTooLarge
    else floatSixtieths (power * 60) (sum + x * Float.ofNat power) xs

/-- A number with a point, in sixtieths between colons, or one of the words for no finite number. -/
def readFloat (text : String) : Except Error Float := do
  let (negative, s) ← signOf (Text.lower (dropLines text.toList))
  if s == ".inf".toList then return Decimal.signedFloat negative Decimal.infinity
  else if s == ".nan".toList then return Decimal.notANumber
  else if s.contains ':' then
    let parts ← (Text.splitAtChar ':' s).mapM floatOf
    return Decimal.signedFloat negative (← floatSixtieths 1 0.0 parts.reverse)
  else return Decimal.signedFloat negative (← floatOf s)

/-! ## Words, bytes and times -/

/-- A truth value in a word of any case. -/
def readTruth (text : String) : Except Error Bool :=
  let word := String.ofList (Text.lower text.toList)
  match truthWords.lookup word with
  | some b => .ok b
  | none => .error (.notTruth word)

/-- A sign of the sixty-four that bytes are written with. -/
def isByteSign (c : Char) : Bool := c.toNat < 0x80 && (c.isAlphanum || c == '+' || c == '/')

/-- Whether signs end well, given the number of signs since the last full group of four and of the
fill signs in a row. Other characters are passed over. -/
def endsGroups : (signs fills : Nat) → List Char → Bool
  | signs, _, [] => signs == 0
  | signs, fills, c :: cs =>
    if c == '=' then
      if 2 ≤ signs && 4 ≤ signs + (fills + 1) then true
      else endsGroups signs (if 2 ≤ signs then fills + 1 else fills) cs
    else if isByteSign c then endsGroups ((signs + 1) % 4) 0 cs
    else endsGroups signs fills cs

/-- Whether a text is bytes written in groups of four signs. -/
def isBinary (text : String) : Bool :=
  text.toList.all (fun c => c.toNat < 0x80) && endsGroups 0 0 text.toList

def digitsValue (ds : List Char) : Nat := Decimal.valueOf 10 Text.decimalDigit? ds

/-- Whether the parts of a time are in their ranges, and if not, which is the first that is not. -/
def TimeText.check (t : TimeText) : Except Error Unit := do
  match t.offset with
  | some (sign, hours, minutes) =>
    let total : Int := digitsValue hours * 60 + digitsValue minutes
    if 1440 ≤ total then throw (.offsetOutOfRange (if sign == '-' then -total else total))
  | none => pure ()
  let year := digitsValue t.year
  let month := digitsValue t.month
  let day := digitsValue t.day
  if year == 0 then throw .yearOutOfRange
  if month == 0 || 12 < month then throw .monthOutOfRange
  if day == 0 || Calendar.monthDays year month < day then throw .dayOutOfRange
  if 23 < digitsValue t.hour then throw .hourOutOfRange
  if 59 < digitsValue t.minute then throw .minuteOutOfRange
  if 59 < digitsValue t.second then throw .secondOutOfRange

/-- Whether a text is a time, and if not, why. -/
def checkTime (text : String) : Except Error Unit :=
  match TimeText.read? (dropLineFeed text.toList) with
  | some t => t.check
  | none => .error .notTime

end Yaml
end PatchReview
