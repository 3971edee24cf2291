import PatchReview.Text.Alphanumeric
import PatchReview.Text.Blank
import PatchReview.Text.CaseMap
import PatchReview.Text.DecimalDigit

/-!
# Tests of one character

The parts of a pattern that take exactly one character: a literal, a set of literals, ranges and
classes, and the wildcard. A test knows the case rule that holds where it stands. Members of a
pattern are code points, as a pattern can name code points that are no characters.
-/

namespace PatchReview
namespace Pattern

/-! ## Case -/

/-- Which characters count as equal. -/
inductive CaseRule where
  /-- Only a character and itself. -/
  | exact
  /-- The two cases of an ASCII letter too. -/
  | ascii
  /-- The cases of any letter too. -/
  | unicode
  deriving DecidableEq, Repr

/-- Lower-case characters that share an upper-case partner with another lower-case character. -/
def sharedUppercase : List (Nat × List Nat) :=
  [(0x69, [0x131]), (0x73, [0x17F]), (0xB5, [0x3BC]), (0x131, [0x69]), (0x17F, [0x73]),
   (0x345, [0x3B9, 0x1FBE]), (0x390, [0x1FD3]), (0x3B0, [0x1FE3]), (0x3B2, [0x3D0]),
   (0x3B5, [0x3F5]), (0x3B8, [0x3D1]), (0x3B9, [0x345, 0x1FBE]), (0x3BA, [0x3F0]),
   (0x3BC, [0xB5]), (0x3C0, [0x3D6]), (0x3C1, [0x3F1]), (0x3C2, [0x3C3]), (0x3C3, [0x3C2]),
   (0x3C6, [0x3D5]), (0x3D0, [0x3B2]), (0x3D1, [0x3B8]), (0x3D5, [0x3C6]), (0x3D6, [0x3C0]),
   (0x3F0, [0x3BA]), (0x3F1, [0x3C1]), (0x3F5, [0x3B5]), (0x432, [0x1C80]), (0x434, [0x1C81]),
   (0x43E, [0x1C82]), (0x441, [0x1C83]), (0x442, [0x1C84, 0x1C85]), (0x44A, [0x1C86]),
   (0x463, [0x1C87]), (0x1C80, [0x432]), (0x1C81, [0x434]), (0x1C82, [0x43E]), (0x1C83, [0x441]),
   (0x1C84, [0x442, 0x1C85]), (0x1C85, [0x442, 0x1C84]), (0x1C86, [0x44A]), (0x1C87, [0x463]),
   (0x1C88, [0xA64B]), (0x1E61, [0x1E9B]), (0x1E9B, [0x1E61]), (0x1FBE, [0x345, 0x3B9]),
   (0x1FD3, [0x390]), (0x1FE3, [0x3B0]), (0xA64B, [0x1C88]), (0xFB05, [0xFB06]),
   (0xFB06, [0xFB05])]

/-- The other lower-case characters with the same upper-case partner. -/
def siblings (code : Nat) : List Nat := (sharedUppercase.lookup code).getD []

namespace CaseRule

/-- The lower-case form of a code point. -/
def lower : CaseRule → Nat → Nat
  | .exact, n => n
  | .ascii, n => if 0x41 ≤ n && n ≤ 0x5A then n + 0x20 else n
  | .unicode, n => Text.lowerRuns.apply n

/-- The code points with the same lower-case form that the rule lets stand for it. -/
def siblings : CaseRule → Nat → List Nat
  | .unicode, n => Pattern.siblings n
  | _, _ => []

/-- The code points with a given lower-case form. -/
def preimages : CaseRule → Nat → List Nat
  | .exact, n => [n]
  | .ascii, n =>
    if 0x61 ≤ n && n ≤ 0x7A then [n, n - 0x20]
    else if 0x41 ≤ n && n ≤ 0x5A then []
    else [n]
  | .unicode, n => Text.lowerRuns.preimages n

/-- Whether a closed range of code points holds one that has another case. -/
def meetsCased : CaseRule → (first last : Nat) → Bool
  | .exact, _, _ => false
  | .ascii, first, last => (first ≤ 0x5A && 0x41 ≤ last) || (first ≤ 0x7A && 0x61 ≤ last)
  | .unicode, first, last =>
    Text.lowerRuns.meets first last || Text.upperRuns.meets first last

/-- Whether a code point has another case. -/
def isCased (rule : CaseRule) (n : Nat) : Bool := rule.meetsCased n n

end CaseRule

/-! ## Classes -/

/-- The classes of characters that an escape names. -/
inductive ClassName where
  | digit
  | blank
  | word
  deriving DecidableEq, Repr

/-- A class, perhaps complemented, perhaps only its ASCII part. -/
structure CharClass where
  name : ClassName
  complement : Bool
  asciiOnly : Bool
  deriving DecidableEq, Repr

def ClassName.holds : ClassName → Char → Bool
  | .digit, c => Text.isDecimalDigit c
  | .blank, c => Text.isBlank c
  | .word, c => Text.isWord c

def ClassName.holdsAscii : ClassName → Char → Bool
  | .digit, c => c.isDigit
  | .blank, c => c == ' ' || (0x09 ≤ c.toNat && c.toNat ≤ 0x0D)
  | .word, c => c.isAlphanum || c == '_'

def CharClass.holds (k : CharClass) (c : Char) : Bool :=
  (if k.asciiOnly then k.name.holdsAscii c else k.name.holds c) != k.complement

/-! ## Sets -/

/-- A member of a set. -/
inductive Member where
  | code (n : Nat)
  | range (first last : Nat)
  | cls (k : CharClass)
  deriving DecidableEq, Repr

/-- The last code point of the basic plane; the case rules treat members beyond it apart. -/
def basicPlaneEnd : Nat := 0xFFFF

/-- Whether a member makes its set compare lower-case forms. -/
def Member.folds (rule : CaseRule) : Member → Bool
  | .code n => rule != .exact && (rule.isCased n || basicPlaneEnd < rule.lower n)
  | .range first last => rule != .exact && (rule.meetsCased first last || basicPlaneEnd < last)
  | .cls _ => false

/-- Whether a member holds a character as it is. -/
def Member.holds (c : Char) : Member → Bool
  | .code n => c.toNat == n
  | .range first last => first ≤ c.toNat && c.toNat ≤ last
  | .cls k => k.holds c

/-- Whether a member holds a lower-case character up to case. Beyond the basic plane, a code point
stands for itself alone, and a range holds a character with either of its cases. -/
def Member.holdsFolded (rule : CaseRule) (c : Char) : Member → Bool
  | .code n =>
    let low := rule.lower n
    if basicPlaneEnd < low then c.toNat == n
    else c.toNat == low || (rule.siblings low).contains c.toNat
  | .range first last =>
    let sources := (c.toNat :: rule.siblings c.toNat).flatMap rule.preimages
    sources.any (fun n => first ≤ n && n ≤ last && n ≤ basicPlaneEnd) ||
      (basicPlaneEnd < last &&
        ((first ≤ c.toNat && c.toNat ≤ last) ||
          (first ≤ (Text.toUpperChar c).toNat && (Text.toUpperChar c).toNat ≤ last)))
  | .cls k => k.holds c

/-! ## Tests -/

/-- A test of one character. -/
inductive CharTest where
  | literal (rule : CaseRule) (code : Nat)
  | otherThan (rule : CaseRule) (code : Nat)
  | set (rule : CaseRule) (complement : Bool) (members : List Member)
  /-- Any character; a line feed only where the flag is set. -/
  | any (lineFeeds : Bool)
  deriving DecidableEq, Repr

/-- Whether a code point of a pattern stands for a character. -/
def literalHolds (rule : CaseRule) (code : Nat) (c : Char) : Bool :=
  if rule.isCased code then
    let low := rule.lower code
    rule.lower c.toNat == low || (rule.siblings low).contains (rule.lower c.toNat)
  else c.toNat == code

def CharTest.holds : CharTest → Char → Bool
  | .literal rule code, c => literalHolds rule code c
  | .otherThan rule code, c => !literalHolds rule code c
  | .set rule complement members, c =>
    (if members.any (Member.folds rule) then
      members.any (Member.holdsFolded rule (Char.ofNat (rule.lower c.toNat)))
    else members.any (Member.holds c)) != complement
  | .any lineFeeds, c => lineFeeds || c != '\n'

end Pattern
end PatchReview
