import PatchReview.Text.Ranges

/-!
# Blank characters

The characters that count as blank around a text and between words, and trimming by them.
-/

namespace PatchReview
namespace Text

/-- Code points that are white space, with the four separators of ASCII among them. -/
def blankRanges : RangeTable :=
  [(0x09, 0x0D), (0x1C, 0x20), (0x85, 0x85), (0xA0, 0xA0), (0x1680, 0x1680), (0x2000, 0x200A),
   (0x2028, 0x2029), (0x202F, 0x202F), (0x205F, 0x205F), (0x3000, 0x3000)]

def isBlank (c : Char) : Bool := blankRanges.covers c.toNat

def dropEnd (p : Char → Bool) (s : List Char) : List Char := (s.reverse.dropWhile p).reverse

def trimBy (p : Char → Bool) (s : List Char) : List Char := dropEnd p (s.dropWhile p)

/-- Drops the blank characters at both ends of a text. -/
def trim (s : String) : String := String.ofList (trimBy isBlank s.toList)

end Text
end PatchReview
