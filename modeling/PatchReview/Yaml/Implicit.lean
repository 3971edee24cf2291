import PatchReview.Decimal.Natural

/-!
# Tags of plain scalars

What a plain scalar without a tag is, by the shape of its text: nothing, a truth value, a number, a
time, a sign with a meaning of its own, or else a text.
-/

namespace PatchReview
namespace Yaml

/-- The tags that values have. -/
inductive Tag where
  | null
  | bool
  | int
  | float
  | binary
  | timestamp
  | orderedMap
  | pairs
  | set
  | text
  | sequence
  | mapping
  /-- The key whose values are taken over. -/
  | merge
  /-- The key of a default value. -/
  | defaultValue
  /-- A tag that no value has. -/
  | unknown
  deriving DecidableEq, Repr

def Tag.ofName (name : String) : Tag :=
  match name with
  | "tag:yaml.org,2002:null" => .null
  | "tag:yaml.org,2002:bool" => .bool
  | "tag:yaml.org,2002:int" => .int
  | "tag:yaml.org,2002:float" => .float
  | "tag:yaml.org,2002:binary" => .binary
  | "tag:yaml.org,2002:timestamp" => .timestamp
  | "tag:yaml.org,2002:omap" => .orderedMap
  | "tag:yaml.org,2002:pairs" => .pairs
  | "tag:yaml.org,2002:set" => .set
  | "tag:yaml.org,2002:str" => .text
  | "tag:yaml.org,2002:seq" => .sequence
  | "tag:yaml.org,2002:map" => .mapping
  | "tag:yaml.org,2002:merge" => .merge
  | "tag:yaml.org,2002:value" => .defaultValue
  | _ => .unknown

/-! ## Shapes -/

/-- A text without a sign in front. -/
def unsigned : List Char → List Char
  | '+' :: s => s
  | '-' :: s => s
  | s => s

/-- A digit or a low line. -/
def isDigitOrLine (c : Char) : Bool := c.isDigit || c == '_'

/-- Groups of one or two digits below sixty, each behind a colon. -/
def areSixtieths : List Char → Bool
  | [] => true
  | [':', a] => a.isDigit
  | ':' :: a :: b :: s =>
    if b == ':' then a.isDigit && areSixtieths (b :: s)
    else '0' ≤ a && a ≤ '5' && b.isDigit && areSixtieths s
  | _ => false

/-- A whole number: binary, octal, decimal, hexadecimal, or in sixtieths. -/
def looksInt (s : List Char) : Bool :=
  match unsigned s with
  | ['0'] => true
  | '0' :: 'b' :: ds => !ds.isEmpty && ds.all fun c => c == '0' || c == '1' || c == '_'
  | '0' :: 'x' :: ds =>
    !ds.isEmpty && ds.all fun c => c == '_' || (c.toNat < 0x80 && (Decimal.digitOf? 16 c).isSome)
  | '0' :: ds => ds.all fun c => ('0' ≤ c && c ≤ '7') || c == '_'
  | c :: s =>
    let (_, rest) := s.span isDigitOrLine
    '1' ≤ c && c ≤ '9' && areSixtieths rest
  | [] => false

/-- An exponent with its sign, or nothing. -/
def isExponent : List Char → Bool
  | [] => true
  | e :: sign :: ds =>
    (e == 'e' || e == 'E') && (sign == '+' || sign == '-') && !ds.isEmpty && ds.all Char.isDigit
  | _ => false

/-- A number with a point, which may have no sign when it starts with the point. -/
def looksFloat (s : List Char) : Bool :=
  match s with
  | '.' :: c :: rest => looksNan s || looksInfinity s ||
    (c.isDigit && isExponent (rest.dropWhile isDigitOrLine))
  | _ =>
    looksInfinity s ||
      match unsigned s with
      | c :: rest =>
        let (_, rest) := rest.span isDigitOrLine
        c.isDigit &&
          match rest with
          | '.' :: rest => isExponent (rest.dropWhile isDigitOrLine)
          | ':' :: _ =>
            let (sixtieths, fraction) := rest.span (· != '.')
            areSixtieths sixtieths &&
              match fraction with
              | '.' :: ds => ds.all isDigitOrLine
              | _ => false
          | _ => false
      | [] => false
where
  looksInfinity (s : List Char) : Bool :=
    [".inf", ".Inf", ".INF"].contains (String.ofList (unsigned s))
  looksNan (s : List Char) : Bool := [".nan", ".NaN", ".NAN"].contains (String.ofList s)

def truthWords : List (String × Bool) :=
  [("yes", true), ("no", false), ("true", true), ("false", false), ("on", true), ("off", false)]

/-- A word in lower case, with a capital, or in capitals. -/
def spellings (word : String) : List String := [word, word.capitalize, word.toUpper]

/-! ## Times -/

/-- The parts of a time as they are written. -/
structure TimeText where
  year : List Char
  month : List Char
  day : List Char
  hour : List Char := []
  minute : List Char := []
  second : List Char := []
  fraction : List Char := []
  /-- The sign, hours and minutes of the offset of the zone. -/
  offset : Option (Char × List Char × List Char) := none
  deriving DecidableEq, Repr

/-- One or two digits, and the rest. -/
def oneOrTwo? : List Char → Option (List Char × List Char)
  | a :: b :: s =>
    if a.isDigit then some (if b.isDigit then ([a, b], s) else ([a], b :: s)) else none
  | [a] => if a.isDigit then some ([a], []) else none
  | [] => none

/-- Exactly two digits, and the rest. -/
def two? : List Char → Option (List Char × List Char)
  | a :: b :: s => if a.isDigit && b.isDigit then some ([a, b], s) else none
  | _ => none

def behind? (c : Char) : List Char → Option (List Char)
  | d :: s => if c == d then some s else none
  | [] => none

/-- The date at the start of a text, and the rest. -/
def date? (s : List Char) : Option (TimeText × List Char) := do
  let (a, s) ← two? s
  let (b, s) ← two? s
  let (month, s) ← oneOrTwo? (← behind? '-' s)
  let (day, s) ← oneOrTwo? (← behind? '-' s)
  some ({ year := a ++ b, month, day }, s)

/-- A blank between the parts of a time. -/
def isTimeBlank (c : Char) : Bool := c == ' ' || c == '\t'

/-- The zone at the end of a text, which may be left out. -/
def zone? (t : TimeText) (s : List Char) : Option TimeText :=
  if s.isEmpty then some t
  else match s.dropWhile isTimeBlank with
  | ['Z'] => some t
  | sign :: s => do
    if sign != '+' && sign != '-' then none
    let (hours, s) ← oneOrTwo? s
    match s with
    | [] => some { t with offset := some (sign, hours, []) }
    | _ =>
      let (minutes, s) ← two? (← behind? ':' s)
      if s.isEmpty then some { t with offset := some (sign, hours, minutes) } else none
  | [] => none

/-- What separates the time of day from the date. -/
def behindDate? : List Char → Option (List Char)
  | c :: s =>
    if c == 'T' || c == 't' then some s
    else if isTimeBlank c then some (s.dropWhile isTimeBlank)
    else none
  | [] => none

def TimeText.read? (s : List Char) : Option TimeText := do
  let (t, s) ← date? s
  if s.isEmpty then some t
  else
    let s ← behindDate? s
    let (hour, s) ← oneOrTwo? s
    let (minute, s) ← two? (← behind? ':' s)
    let (second, s) ← two? (← behind? ':' s)
    let (fraction, s) := match s with
      | '.' :: s => s.span Char.isDigit
      | _ => ([], s)
    zone? { t with hour, minute, second, fraction } s

/-- A date with all its digits, or a time. -/
def looksTime (s : List Char) : Bool :=
  match TimeText.read? s with
  | some t => !t.hour.isEmpty || (t.month.length == 2 && t.day.length == 2)
  | none => false

/-! ## Tags -/

def dropLineFeed (s : List Char) : List Char :=
  if s.getLast? == some '\n' then s.dropLast else s

def implicitTag (text : String) : Tag :=
  let s := dropLineFeed text.toList
  let word := String.ofList s
  if word == "" || word == "~" || (spellings "null").contains word then
    (if text == "\n" then .text else .null)
  else if truthWords.any fun (w, _) => (spellings w).contains word then .bool
  else if looksFloat s then .float
  else if looksInt s then .int
  else if word == "<<" then .merge
  else if looksTime s then .timestamp
  else if word == "=" then .defaultValue
  else if word == "!" || word == "&" || word == "*" then .unknown
  else .text

end Yaml
end PatchReview
