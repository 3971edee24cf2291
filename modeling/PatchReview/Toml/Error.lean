import PatchReview.Decimal.Natural
import PatchReview.Text.Quoted

/-!
# Errors of TOML documents

The rules that a text can break, with the wording for each. The wording shows the key, the name or
the character that breaks the rule, and the place by line and column.
-/

namespace PatchReview
namespace Toml

/-- The names on the way to a value. -/
abbrev Key := List String

/-- A key as it is shown: its names in quotes between parentheses, with a comma behind a single
one. -/
def Key.text : Key → String
  | [name] => "(" ++ Text.quoted name ++ ",)"
  | names => "(" ++ String.intercalate ", " (names.map Text.quoted) ++ ")"

/-- A rule of TOML that a text breaks. -/
inductive Breach where
  | statement
  | lineEnd
  /-- A character that may not stand in a comment or between single quotes. -/
  | invalidCharacter (c : Char)
  /-- A character that may not stand between double quotes. -/
  | illegalCharacter (c : Char)
  | keyStart
  | equals
  | tableEnd
  | listedEnd
  | declaredTwice (key : Key)
  | overwritten
  | immutable (key : Key)
  | redefined (key : Key)
  | duplicate (name : String)
  | value
  | moment
  | openList
  | openTable
  | escape
  | hexValue
  | notCharacter
  | unterminated
  /-- The single quotes that end a text are missing: one, or three around several lines. -/
  | quotes (lines : Bool)
  deriving DecidableEq, Repr

def Breach.message : Breach → String
  | .statement => "Invalid statement"
  | .lineEnd => "Expected newline or end of document after a statement"
  | .invalidCharacter c => "Found invalid character " ++ Text.quoted (String.singleton c)
  | .illegalCharacter c => "Illegal character " ++ Text.quoted (String.singleton c)
  | .keyStart => "Invalid initial character for a key part"
  | .equals => "Expected '=' after a key in a key/value pair"
  | .tableEnd => "Expected ']' at the end of a table declaration"
  | .listedEnd => "Expected ']]' at the end of an array declaration"
  | .declaredTwice key => "Cannot declare " ++ key.text ++ " twice"
  | .overwritten => "Cannot overwrite a value"
  | .immutable key => "Cannot mutate immutable namespace " ++ key.text
  | .redefined key => "Cannot redefine namespace " ++ key.text
  | .duplicate name => "Duplicate inline table key " ++ Text.quoted name
  | .value => "Invalid value"
  | .moment => "Invalid date or datetime"
  | .openList => "Unclosed array"
  | .openTable => "Unclosed inline table"
  | .escape => "Unescaped '\\' in a string"
  | .hexValue => "Invalid hex value"
  | .notCharacter => "Escaped character is not a Unicode scalar value"
  | .unterminated => "Unterminated string"
  | .quotes lines => "Expected " ++ Text.quoted (if lines then "'''" else "'")

/-- Why a text is no document. -/
inductive Error where
  /-- The text breaks a rule of TOML where a rest of it starts. -/
  | malformed (breach : Breach) (rest : List Char)
  /-- There are more brackets inside of each other than there is room for. -/
  | nested
  /-- A whole number has too many digits. -/
  | digits (error : Decimal.LimitError)
  deriving DecidableEq, Repr

/-- The place at which a rest of a text starts. -/
def placeOf (text rest : List Char) : String :=
  if rest.isEmpty then "end of document"
  else
    let front := text.take (text.length - rest.length)
    let column := (front.reverse.takeWhile (· != '\n')).length + 1
    "line " ++ toString (front.count '\n' + 1) ++ ", column " ++ toString column

def Error.message (text : List Char) : Error → String
  | .malformed breach rest => breach.message ++ " (at " ++ placeOf text rest ++ ")"
  | .nested => "maximum recursion depth exceeded"
  | .digits error => error.message

end Toml
end PatchReview
