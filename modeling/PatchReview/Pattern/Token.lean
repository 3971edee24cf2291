import PatchReview.Decimal.Natural

/-!
# Tokens of patterns

A pattern text is a list of characters and of escapes, which are a backslash and a character. A
backslash at the end of the text is a fault, but only once reading comes to it.
-/

namespace PatchReview
namespace Pattern

/-- Why a text is no pattern. -/
inductive PatternError where
  /-- The text breaks the grammar of patterns. -/
  | malformed
  /-- A number of rounds is beyond what can be counted. -/
  | roundsTooLarge
  /-- A number of rounds has too many digits. -/
  | digits (error : Decimal.LimitError)
  /-- The flags ask for both alphabets. -/
  | bothAlphabets
  deriving DecidableEq, Repr

/-- The wording of an error. A breach of the grammar is shown by a mark, whatever it is. -/
def PatternError.message : PatternError → String
  | .malformed => "<regex error>"
  | .roundsTooLarge => "the repetition number is too large"
  | .digits error => error.message
  | .bothAlphabets => "ASCII and UNICODE flags are incompatible"

/-- A unit of a pattern text. -/
inductive Token where
  | char (c : Char)
  | escape (c : Char)
  /-- A backslash with nothing behind it. -/
  | dangling
  deriving DecidableEq, Repr

namespace Token

def ofChars : List Char → List Token
  | [] => []
  | ['\\'] => [.dangling]
  | '\\' :: c :: cs => .escape c :: ofChars cs
  | c :: cs => .char c :: ofChars cs

def toChars : Token → List Char
  | .char c => [c]
  | .escape c => ['\\', c]
  | .dangling => ['\\']

end Token
end Pattern
end PatchReview
