import PatchReview.Decimal.Printing
import PatchReview.Text.Pieces
import PatchReview.Text.Quoted

/-!
# JSON documents

Values of JSON documents and their indented texts, which hold ASCII characters alone.
-/

namespace PatchReview

/-- A JSON value; the members of an object are in the order of writing. -/
inductive Json where
  | null
  | bool (b : Bool)
  | int (n : Int)
  | float (x : Float)
  | text (s : String)
  | list (items : List Json)
  | object (members : List (String × Json))

namespace Json

/-- Doubles in JSON documents. -/
def floatFormat : Decimal.FloatFormat := ⟨-4, 16, "NaN", "Infinity"⟩

/-- A sixteen-bit unit as an escape. -/
def unitEscape (n : Nat) : List Char := '\\' :: 'u' :: Text.hexDigits 4 n

/-- A character as it stands in a JSON string; beyond the basic plane it is two escapes. -/
def writeChar (c : Char) : List Char :=
  if c == '"' then ['\\', '"']
  else if c == '\\' then ['\\', '\\']
  else if c == '\n' then ['\\', 'n']
  else if c == '\r' then ['\\', 'r']
  else if c == '\t' then ['\\', 't']
  else if c == '\x0c' then ['\\', 'f']
  else if c == '\x08' then ['\\', 'b']
  else if 0x20 ≤ c.toNat && c.toNat < 0x7F then [c]
  else if c.toNat < 0x10000 then unitEscape c.toNat
  else
    let n := c.toNat - 0x10000
    unitEscape (0xD800 + n / 0x400) ++ unitEscape (0xDC00 + n % 0x400)

def writeText (s : String) : List Char := '"' :: s.toList.flatMap writeChar ++ ['"']

def lineBreak (depth : Nat) : List Char := '\n' :: List.replicate (2 * depth) ' '

/-- Pieces between brackets, one to a line. -/
def enclose (left right : Char) (depth : Nat) (pieces : List (List Char)) : List Char :=
  if pieces.isEmpty then [left, right]
  else left :: lineBreak (depth + 1) ++ Text.joinWith (',' :: lineBreak (depth + 1)) pieces ++
    lineBreak depth ++ [right]

mutual

def writeAt (depth : Nat) : Json → List Char
  | .null => "null".toList
  | .bool true => "true".toList
  | .bool false => "false".toList
  | .int n => (toString n).toList
  | .float x => (floatFormat.write x).toList
  | .text s => writeText s
  | .list items => enclose '[' ']' depth (writeItems (depth + 1) items)
  | .object members => enclose '\x7b' '\x7d' depth (writeMembers (depth + 1) members)

def writeItems (depth : Nat) : List Json → List (List Char)
  | [] => []
  | item :: items => writeAt depth item :: writeItems depth items

def writeMembers (depth : Nat) : List (String × Json) → List (List Char)
  | [] => []
  | (name, value) :: members =>
    (writeText name ++ ": ".toList ++ writeAt depth value) :: writeMembers depth members

end

def write (j : Json) : String := String.ofList (writeAt 0 j)

end Json
end PatchReview
