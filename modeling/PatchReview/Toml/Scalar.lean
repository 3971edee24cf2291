import PatchReview.Decimal.Reading
import PatchReview.Text.Pieces
import PatchReview.Toml.Error
import PatchReview.Toml.Value

/-!
# Numbers and moments in TOML

Each is read at the start of a text, as far as it goes.
-/

namespace PatchReview
namespace Toml

/-! ## Numbers -/

/-- Digits that go on from a digit, with single low lines between them, and the rest. -/
def moreDigits (isDigit : Char → Bool) : List Char → List Char × List Char
  | [] => ([], [])
  | [c] => if isDigit c then ([c], []) else ([], [c])
  | c :: d :: s =>
    if isDigit c then
      let (ds, rest) := moreDigits isDigit (d :: s)
      (c :: ds, rest)
    else if c == '_' && isDigit d then
      let (ds, rest) := moreDigits isDigit s
      (d :: ds, rest)
    else ([], c :: d :: s)

/-- Digits with single low lines between them, if there is one, and the rest. -/
def digits? (isDigit : Char → Bool) : List Char → Option (List Char × List Char)
  | [] => none
  | c :: s =>
    if isDigit c then
      let (ds, rest) := moreDigits isDigit s
      some (c :: ds, rest)
    else none

def baseOf? (c : Char) : Option Nat := [('x', 16), ('o', 8), ('b', 2)].lookup c

def readBased? : List Char → Option (Int × List Char)
  | '0' :: letter :: s => do
    let base ← baseOf? letter
    let digit? := fun c => if c.toNat < 0x80 then Decimal.digitOf? base c else none
    let (ds, rest) ← digits? (fun c => (digit? c).isSome) s
    return (Decimal.valueOf base digit? ds, rest)
  | _ => none

/-- The digits in front of a point: a zero alone, or digits that start with another. -/
def readWhole? : List Char → Option (List Char × List Char)
  | '0' :: s => some (['0'], s)
  | s => digits? Char.isDigit s

/-- The sign at the start of a text. -/
def readSign : List Char → List Char × List Char
  | '-' :: s => (['-'], s)
  | '+' :: s => (['+'], s)
  | s => ([], s)

/-- A point and the digits behind it, or nothing. -/
def readFraction (s : List Char) : List Char × List Char :=
  match s with
  | '.' :: behind =>
    match digits? Char.isDigit behind with
    | some (ds, rest) => ('.' :: ds, rest)
    | none => ([], s)
  | _ => ([], s)

/-- The exponent with its letter, or nothing. -/
def readExponent (s : List Char) : List Char × List Char :=
  match s with
  | c :: behind =>
    if c == 'e' || c == 'E' then
      let (sign, behind) := readSign behind
      match digits? Char.isDigit behind with
      | some (ds, rest) => ('e' :: sign ++ ds, rest)
      | none => ([], s)
    else ([], s)
  | [] => ([], [])

/-- A number in decimal: a whole one, unless there is a fraction or an exponent. -/
def readDecimal? (s : List Char) : Option (Except Error (Value × List Char)) := do
  let (sign, s) := readSign s
  let (whole, s) ← readWhole? s
  let (fraction, s) := readFraction s
  let (exponent, rest) := readExponent s
  if fraction.isEmpty && exponent.isEmpty then
    match Decimal.readTyped 10 (sign ++ whole) with
    | .ok (some n) => some (.ok (.int n, rest))
    | .ok none => none
    | .error e => some (.error (.digits e))
  else
    let x ← Decimal.readTypedFloat? (sign ++ whole ++ fraction ++ exponent)
    some (.ok (.float x, rest))

/-- The words for infinity and for no number, with or without a sign. -/
def readWord? (s : List Char) : Option (Value × List Char) :=
  let (sign, s) := readSign s
  let word := String.ofList (s.take 3)
  if word == "inf" then
    some (.float (Decimal.signedFloat (sign == ['-']) Decimal.infinity), s.drop 3)
  else if word == "nan" then some (.float Decimal.notANumber, s.drop 3)
  else none

def readNumber? (s : List Char) : Option (Except Error (Value × List Char)) :=
  match readBased? s with
  | some (n, rest) => some (.ok (.int n, rest))
  | none => readDecimal? s <|> (readWord? s).map .ok

/-! ## Moments -/

def fixedDigits? (count lo hi : Nat) (s : List Char) : Option (Nat × List Char) :=
  let ds := s.take count
  let n := ds.foldl (fun n c => n * 10 + (c.toNat - '0'.toNat)) 0
  if ds.length == count && ds.all Char.isDigit && lo ≤ n && n ≤ hi then some (n, s.drop count)
  else none

def after? (c : Char) : List Char → Option (List Char)
  | d :: s => if c == d then some s else none
  | [] => none

/-- A day, whether the month has it or not. -/
def readDate? (s : List Char) : Option (Calendar.Date × List Char) := do
  let (year, s) ← fixedDigits? 4 0 9999 s
  let (month, s) ← fixedDigits? 2 1 12 (← after? '-' s)
  let (day, s) ← fixedDigits? 2 1 31 (← after? '-' s)
  return (⟨year, month, day⟩, s)

/-- The parts of a second behind a point, to the microsecond. -/
def readMicroseconds (s : List Char) : Nat × List Char :=
  match s with
  | '.' :: behind =>
    let ds := behind.takeWhile Char.isDigit
    if ds.isEmpty then (0, s)
    else
      let six := (ds ++ List.replicate 6 '0').take 6
      (six.foldl (fun n c => n * 10 + (c.toNat - '0'.toNat)) 0, behind.drop ds.length)
  | _ => (0, s)

def readClock? (s : List Char) : Option (Calendar.Clock × List Char) := do
  let (hour, s) ← fixedDigits? 2 0 23 s
  let (minute, s) ← fixedDigits? 2 0 59 (← after? ':' s)
  let (second, s) ← fixedDigits? 2 0 59 (← after? ':' s)
  let (microsecond, s) := readMicroseconds s
  return (⟨hour, minute, second, microsecond⟩, s)

def readOffset? : List Char → Option (Int × List Char)
  | [] => none
  | c :: s =>
    if c == 'Z' || c == 'z' then some (0, s)
    else if c == '+' || c == '-' then do
      let (hours, s) ← fixedDigits? 2 0 23 s
      let (minutes, s) ← fixedDigits? 2 0 59 (← after? ':' s)
      return (Decimal.signed (c == '-') (hours * 60 + minutes), s)
    else none

/-- A time of the day behind a letter or a blank, with its offset. -/
def readClockBehindDate? : List Char → Option (Calendar.Clock × Option Int × List Char)
  | [] => none
  | c :: s => do
    if c != 'T' && c != 't' && c != ' ' then none
    let (clock, s) ← readClock? s
    match readOffset? s with
    | some (offset, rest) => return (clock, some offset, rest)
    | none => return (clock, none, s)

/-- A day, a time of the day or both. A day that its month does not have is an error. -/
def readMoment? (s : List Char) : Option (Except Error (Calendar.Moment × List Char)) :=
  match readDate? s with
  | some (date, behind) =>
    if date.year == 0 || Calendar.monthDays date.year date.month < date.day then
      some (.error (.malformed .moment s))
    else match readClockBehindDate? behind with
      | some (clock, offset, rest) => some (.ok (.both date clock offset, rest))
      | none => some (.ok (.date date, behind))
  | none => (readClock? s).map fun (clock, rest) => .ok (.clock clock, rest)

end Toml
end PatchReview
