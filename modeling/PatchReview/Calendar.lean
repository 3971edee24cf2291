/-!
# Days and times

Days of the calendar, times of the day and moments, which are a day with a time. Each has a plain
text and a text that shows how it is put together from numbers.
-/

namespace PatchReview
namespace Calendar

def monthDays (year month : Nat) : Nat :=
  if month == 2 then
    if year % 4 == 0 && (year % 100 != 0 || year % 400 == 0) then 29 else 28
  else if [4, 6, 9, 11].contains month then 30
  else 31

/-- A number in decimal, with zeros in front up to a width. -/
def padded (width n : Nat) : String :=
  let digits := toString n
  String.ofList (List.replicate (width - digits.length) '0') ++ digits

/-- A day. -/
structure Date where
  year : Nat
  month : Nat
  day : Nat
  deriving DecidableEq, Repr

/-- A time of the day. -/
structure Clock where
  hour : Nat
  minute : Nat
  second : Nat
  microsecond : Nat
  deriving DecidableEq, Repr

/-- A day, a time of any day, or both; the latter with or without an offset of its zone in
minutes. -/
inductive Moment where
  | date (date : Date)
  | clock (clock : Clock)
  | both (date : Date) (clock : Clock) (offset : Option Int)
  deriving DecidableEq, Repr

/-! ## Plain texts -/

/-- A day with dashes. -/
def Date.text (d : Date) : String :=
  padded 4 d.year ++ "-" ++ padded 2 d.month ++ "-" ++ padded 2 d.day

/-- A time with colons; parts of a second are shown if there are any. -/
def Clock.text (t : Clock) : String :=
  padded 2 t.hour ++ ":" ++ padded 2 t.minute ++ ":" ++ padded 2 t.second ++
    if t.microsecond == 0 then "" else "." ++ padded 6 t.microsecond

/-- An offset with its sign. -/
def offsetText (minutes : Int) : String :=
  let n := minutes.natAbs
  (if minutes < 0 then "-" else "+") ++ padded 2 (n / 60) ++ ":" ++ padded 2 (n % 60)

/-- The plain text of a moment. -/
def Moment.text : Moment → String
  | .date d => d.text
  | .clock t => t.text
  | .both d t offset => d.text ++ " " ++ t.text ++ (offset.map offsetText).getD ""

/-! ## Texts that show the numbers -/

/-- A duration of whole minutes in days and seconds, the latter never negative. -/
def durationLiteral (minutes : Int) : String :=
  let days := Int.fdiv minutes 1440
  let seconds := Int.fmod minutes 1440 * 60
  let parts := (if days == 0 then [] else ["days=" ++ toString days]) ++
    (if seconds == 0 then [] else ["seconds=" ++ toString seconds])
  "datetime.timedelta(" ++ (if parts.isEmpty then "0" else String.intercalate ", " parts) ++ ")"

def zoneLiteral (minutes : Int) : String :=
  if minutes == 0 then "datetime.timezone.utc"
  else "datetime.timezone(" ++ durationLiteral minutes ++ ")"

def Date.numbers (d : Date) : List Nat := [d.year, d.month, d.day]

/-- The numbers of a time; zeros at the end are left out, except for the minute. -/
def Clock.numbers (t : Clock) : List Nat :=
  [t.hour, t.minute] ++
    if t.microsecond != 0 then [t.second, t.microsecond]
    else if t.second != 0 then [t.second]
    else []

/-- The text of a moment that shows its numbers. -/
def Moment.literal : Moment → String
  | .date d => "datetime.date(" ++ String.intercalate ", " (d.numbers.map toString) ++ ")"
  | .clock t => "datetime.time(" ++ String.intercalate ", " (t.numbers.map toString) ++ ")"
  | .both d t offset =>
    let numbers := (d.numbers ++ t.numbers).map toString
    let zone := (offset.map fun minutes => ["tzinfo=" ++ zoneLiteral minutes]).getD []
    "datetime.datetime(" ++ String.intercalate ", " (numbers ++ zone) ++ ")"

end Calendar
end PatchReview
