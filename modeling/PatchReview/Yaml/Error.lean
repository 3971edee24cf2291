import PatchReview.Calendar
import PatchReview.Decimal.Natural
import PatchReview.Text.Quoted

/-!
# Errors of YAML documents

A text that breaks the grammar of YAML is told apart from a scalar that looks like a number or a
time and is none.
-/

namespace PatchReview
namespace Yaml

/-- Why a text has no value. -/
inductive Error where
  /-- The text breaks the rules of YAML. -/
  | malformed
  /-- A text is no whole number in a base. -/
  | notInteger (base : Nat) (text : String)
  /-- A whole number has too many digits. -/
  | digits (error : Decimal.LimitError)
  /-- A text is no number. -/
  | notNumber (text : String)
  /-- A number has no characters. -/
  | emptyNumber
  /-- A number has so many sixtieths that a power of sixty is beyond all numbers with a point. -/
  | powerTooLarge
  /-- A word is no truth value. -/
  | notTruth (word : String)
  /-- A text is no time. -/
  | notTime
  | yearOutOfRange
  | monthOutOfRange
  | dayOutOfRange
  | hourOutOfRange
  | minuteOutOfRange
  | secondOutOfRange
  /-- An offset of a time zone, in minutes, is a day or more. -/
  | offsetOutOfRange (minutes : Int)
  /-- An escape names no character. -/
  | notCharacter (code : Nat)
  deriving DecidableEq, Repr

/-- The wording of an error. A breach of the grammar is shown by a mark, whatever it is. -/
def Error.message : Error → String
  | .malformed => "<yaml error>"
  | .notInteger base text =>
    "invalid literal for int() with base " ++ toString base ++ ": " ++
      String.ofList ((Text.quoted text).toList.take 200)
  | .digits error => error.message
  | .notNumber text => "could not convert string to float: " ++ Text.quoted text
  | .emptyNumber => "string index out of range"
  | .powerTooLarge => "int too large to convert to float"
  | .notTruth word => Text.quoted word
  | .notTime => "'NoneType' object has no attribute 'groupdict'"
  | .yearOutOfRange => "year 0 is out of range"
  | .monthOutOfRange => "month must be in 1..12"
  | .dayOutOfRange => "day is out of range for month"
  | .hourOutOfRange => "hour must be in 0..23"
  | .minuteOutOfRange => "minute must be in 0..59"
  | .secondOutOfRange => "second must be in 0..59"
  | .offsetOutOfRange minutes =>
    "offset must be a timedelta strictly between -timedelta(hours=24) and timedelta(hours=24), not " ++
      Calendar.durationLiteral minutes ++ "."
  | .notCharacter code =>
    if code < 0x80000000 then "chr() arg not in range(0x110000)"
    else "Python int too large to convert to C int"

end Yaml
end PatchReview
