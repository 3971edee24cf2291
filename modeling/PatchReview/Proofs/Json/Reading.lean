import PatchReview.Decimal.Reading
import PatchReview.Json.Basic
import PatchReview.Toml.Quote

/-!
# Reading JSON documents

A reader that takes one character after the other. It accepts the documents of RFC 8259 in which
escaped units make up characters; an extended reader takes in addition the words by which some
writers note doubles that are no finite numbers.
-/

namespace PatchReview
namespace Json

/-! ## Strings -/

/-- Where a reader stands with an escape: in none, behind a backslash, or behind some digits of a
unit. -/
inductive Escape where
  | none
  | started
  | digits (count value : Nat)

/-- What has been read of a string. The first of a pair of units waits for the second. -/
structure Quote where
  chars : List Char := []
  first? : Option Nat := none
  escape : Escape := .none

namespace Quote

/-- The characters that letters behind a backslash stand for. -/
def escapeLetters : List (Char × Char) :=
  [('"', '"'), ('\\', '\\'), ('/', '/'), ('b', '\x08'), ('f', '\x0c'), ('n', '\n'), ('r', '\r'),
    ('t', '\t')]

/-- Takes a unit that has been escaped. Units from `0xD800` up to `0xDFFF` make characters in
pairs. -/
def takeUnit? (q : Quote) (n : Nat) : Option Quote :=
  match q.first? with
  | none =>
    if n < 0xD800 || 0xE000 ≤ n then some { chars := q.chars ++ [Char.ofNat n] }
    else if n < 0xDC00 then some { chars := q.chars, first? := some n }
    else none
  | some m =>
    if 0xDC00 ≤ n && n < 0xE000 then
      some { chars := q.chars ++ [Char.ofNat (0x10000 + (m - 0xD800) * 0x400 + (n - 0xDC00))] }
    else none

/-- Whether a quote may end the string here. -/
def isOpen (q : Quote) : Bool :=
  match q.escape, q.first? with
  | .none, none => true
  | _, _ => false

/-- Takes the next character of a string, which is no quote that ends it. -/
def step? (q : Quote) (c : Char) : Option Quote :=
  match q.escape with
  | .none =>
    if c == '\\' then some { q with escape := .started }
    else if q.first?.isSome || c == '"' || c.toNat < 0x20 then none
    else some { chars := q.chars ++ [c] }
  | .started =>
    if c == 'u' then some { q with escape := .digits 0 0 }
    else if q.first?.isSome then none
    else (escapeLetters.lookup c).map fun d => { chars := q.chars ++ [d] }
  | .digits count value =>
    (Toml.hexDigit? c).bind fun digit =>
      if count < 3 then some { q with escape := .digits (count + 1) (16 * value + digit) }
      else q.takeUnit? (16 * value + digit)

end Quote

/-! ## Numbers and words -/

/-- The digits behind a point, if there is one, and the rest. -/
def fraction? : List Char → Option (List Char × List Char)
  | '.' :: s =>
    if (s.takeWhile Char.isDigit).isEmpty then none
    else some (s.takeWhile Char.isDigit, s.dropWhile Char.isDigit)
  | s => some ([], s)

/-- The exponent behind its letter, if there is one. -/
def exponent? : List Char → Option (Option Int)
  | [] => some none
  | c :: s =>
    let size := (Decimal.splitSign s).2
    if (c == 'e' || c == 'E') && !size.isEmpty && size.all Char.isDigit then
      some
        (some (Decimal.signed (Decimal.splitSign s).1 (Decimal.valueOf 10 Text.decimalDigit? size)))
    else none

/-- Whether digits may stand in front of a point. -/
def isWhole (digits : List Char) : Bool :=
  !digits.isEmpty && digits.all Char.isDigit && (digits.head? != some '0' || digits.length == 1)

/-- The number without a sign that a text denotes: a whole number, or a double if it has a point or
an exponent. -/
def unsigned? (negative : Bool) (s : List Char) : Option Json :=
  let whole := s.takeWhile Char.isDigit
  if isWhole whole then
    (fraction? (s.dropWhile Char.isDigit)).bind fun (fraction, rest) =>
      (exponent? rest).map fun exponent =>
        let value := Decimal.valueOf 10 Text.decimalDigit? (whole ++ fraction)
        if fraction.isEmpty && exponent.isNone then .int (Decimal.signed negative value)
        else .float (Decimal.signedFloat negative
          (Decimal.toFloat value (exponent.getD 0 - fraction.length)))
  else none

def number? : List Char → Option Json
  | '-' :: s => unsigned? true s
  | s => unsigned? false s

def bare? (extended : Bool) (word : List Char) : Option Json :=
  if word == ['n', 'u', 'l', 'l'] then some .null
  else if word == ['t', 'r', 'u', 'e'] then some (.bool true)
  else if word == ['f', 'a', 'l', 's', 'e'] then some (.bool false)
  else if extended && word == ['N', 'a', 'N'] then some (.float Decimal.notANumber)
  else if extended && word == ['I', 'n', 'f', 'i', 'n', 'i', 't', 'y'] then some
    (.float Decimal.infinity)
  else if extended && word == ['-', 'I', 'n', 'f', 'i', 'n', 'i', 't', 'y'] then
    some (.float (-Decimal.infinity))
  else number? word

/-- Whether a character may stand in a bare word. -/
def isBare (c : Char) : Bool := c.isAlphanum || c == '-' || c == '+' || c == '.'

/-! ## Documents -/

/-- What is due: a value, a name, the colon behind a name, or what follows a value. -/
inductive Due where
  | value
  | name
  | colon
  | behind (j : Json)

/-- Something that is open: a list, an object in which a name is due, or one in which the value of a
name is due. -/
inductive Frame where
  | list (items : List Json)
  | object (members : List (String × Json))
  | member (members : List (String × Json)) (name : String)

/-- What a reader is in the middle of. -/
inductive Scan where
  | between
  | quote (q : Quote)
  | bare (word : List Char)

/-- A reader: what it is in the middle of, what is due, and what is open, from the inside out. -/
structure Reader where
  scan : Scan := .between
  due : Due := .value
  frames : List Frame := []

namespace Reader

/-- Whether a character may stand between any two others of a document that are not in a string or
word. -/
def isSpace (c : Char) : Bool := c == ' ' || c == '\n' || c == '\r' || c == '\t'

/-- Takes a character where a value is due. -/
def openValue? (c : Char) (frames : List Frame) : Option Reader :=
  if c == '"' then some { scan := .quote {}, due := .value, frames }
  else if c == '[' then some { due := .value, frames := .list [] :: frames }
  else if c == '\x7b' then some { due := .name, frames := .object [] :: frames }
  else if isBare c then some { scan := .bare [c], due := .value, frames }
  else
    match frames with
    | .list [] :: frames => if c == ']' then some { due := .behind (.list []), frames } else none
    | _ => none

/-- Takes a character where a name is due. -/
def openName? (c : Char) (frames : List Frame) : Option Reader :=
  if c == '"' then some { scan := .quote {}, due := .name, frames }
  else
    match frames with
    | .object [] :: frames =>
      if c == '\x7d' then some { due := .behind (.object []), frames } else none
    | _ => none

/-- Takes a character behind a value. -/
def follow? (j : Json) (c : Char) : List Frame → Option Reader
  | .list items :: frames =>
    if c == ',' then some { due := .value, frames := .list (items ++ [j]) :: frames }
    else if c == ']' then some { due := .behind (.list (items ++ [j])), frames }
    else none
  | .member members name :: frames =>
    if c == ',' then some { due := .name, frames := .object (members ++ [(name, j)]) :: frames }
    else if c == '\x7d' then some { due := .behind (.object (members ++ [(name, j)])), frames }
    else none
  | _ => none

/-- Takes a character that is in no string and in no word. -/
def between? (r : Reader) (c : Char) : Option Reader :=
  if isSpace c then some r
  else
    match r.due with
    | .value => openValue? c r.frames
    | .name => openName? c r.frames
    | .colon => if c == ':' then some { due := .value, frames := r.frames } else none
    | .behind j => follow? j c r.frames

/-- Ends a string: it is the value or the name that is due. -/
def endQuote? (r : Reader) (s : String) : Option Reader :=
  match r.due, r.frames with
  | .value, frames => some { due := .behind (.text s), frames }
  | .name, .object members :: frames =>
    some { due := .colon, frames := .member members s :: frames }
  | _, _ => none

/-- Ends the word that a reader is in, if it is in one: it is the value that is due. -/
def settle? (extended : Bool) (r : Reader) : Option Reader :=
  match r.scan with
  | .bare word => (bare? extended word).map fun j => { due := .behind j, frames := r.frames }
  | _ => some r

/-- Takes the next character of a document. -/
def step? (extended : Bool) (r : Reader) (c : Char) : Option Reader :=
  match r.scan with
  | .between => r.between? c
  | .quote q =>
    if c == '"' && q.isOpen then r.endQuote? (String.ofList q.chars)
    else (q.step? c).map fun q => { r with scan := .quote q }
  | .bare word =>
    if isBare c then some { r with scan := .bare (word ++ [c]) }
    else (r.settle? extended).bind (between? · c)

/-- The value of a document that has been read to its end. -/
def result? (r : Reader) : Option Json :=
  match r.scan, r.due, r.frames with
  | .between, .behind j, [] => some j
  | _, _, _ => none

/-- Takes characters one after the other, and ends the last word. -/
def after? (extended : Bool) (r : Reader) (s : List Char) : Option Reader :=
  (s.foldlM (step? extended) r).bind (settle? extended)

end Reader

/-- The value of a document. -/
def read? (extended : Bool) (text : String) : Option Json :=
  (({} : Reader).after? extended text.toList).bind Reader.result?

example :
    (read? false "[1, \"\\u00e9\"]").isSome = true ∧ (read? false "[1, 2,]").isSome = false ∧
    (read? false "[Infinity]").isSome = false ∧ (read? true "[Infinity]").isSome = true := by
  decide

end Json
end PatchReview
