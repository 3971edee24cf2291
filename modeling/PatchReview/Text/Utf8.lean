/-!
# UTF-8

Texts as bytes. Decoding is strict, or it puts the replacement character in place of each longest
piece of bytes that starts a character and is not one.
-/

namespace PatchReview
namespace Text

def encodeChar (c : Char) : List UInt8 :=
  let n := c.toNat
  if n < 0x80 then [n.toUInt8]
  else if n < 0x800 then [(0xC0 + n / 0x40).toUInt8, (0x80 + n % 0x40).toUInt8]
  else if n < 0x10000 then
    [(0xE0 + n / 0x1000).toUInt8, (0x80 + n / 0x40 % 0x40).toUInt8, (0x80 + n % 0x40).toUInt8]
  else
    [(0xF0 + n / 0x40000).toUInt8, (0x80 + n / 0x1000 % 0x40).toUInt8,
      (0x80 + n / 0x40 % 0x40).toUInt8, (0x80 + n % 0x40).toUInt8]

def encodeUtf8 (s : String) : List UInt8 := s.toList.flatMap encodeChar

/-- What a first byte says: its share of the code point, and for each byte that must follow the
range in which it must lie. -/
def leadByte? (b : Nat) : Option (Nat × List (Nat × Nat)) :=
  if b < 0x80 then some (b, [])
  else if b < 0xC2 then none
  else if b < 0xE0 then some (b - 0xC0, [(0x80, 0xBF)])
  else if b == 0xE0 then some (0, [(0xA0, 0xBF), (0x80, 0xBF)])
  else if b == 0xED then some (0xD, [(0x80, 0x9F), (0x80, 0xBF)])
  else if b < 0xF0 then some (b - 0xE0, [(0x80, 0xBF), (0x80, 0xBF)])
  else if b == 0xF0 then some (0, [(0x90, 0xBF), (0x80, 0xBF), (0x80, 0xBF)])
  else if b < 0xF4 then some (b - 0xF0, [(0x80, 0xBF), (0x80, 0xBF), (0x80, 0xBF)])
  else if b == 0xF4 then some (4, [(0x80, 0x8F), (0x80, 0xBF), (0x80, 0xBF)])
  else none

/-- Adds the bytes that must follow to a code point: the code point if all are there, and what is
left of the bytes. -/
def followBytes (code : Nat) : List (Nat × Nat) → List UInt8 → Option Nat × List UInt8
  | [], bytes => (some code, bytes)
  | _ :: _, [] => (none, [])
  | (lo, hi) :: ranges, b :: bytes =>
    if lo ≤ b.toNat && b.toNat ≤ hi then followBytes (code * 0x40 + (b.toNat - 0x80)) ranges bytes
    else (none, b :: bytes)

/-- The characters of bytes, with none for each piece that is no character. -/
def decodePieces : (fuel : Nat) → List UInt8 → List (Option Char)
  | 0, _ => []
  | _, [] => []
  | fuel + 1, b :: bytes =>
    match leadByte? b.toNat with
    | none => none :: decodePieces fuel bytes
    | some (code, ranges) =>
      let (code?, rest) := followBytes code ranges bytes
      code?.map Char.ofNat :: decodePieces fuel rest

/-- The text of bytes, if all of them are characters. -/
def decodeUtf8? (bytes : List UInt8) : Option (List Char) :=
  (decodePieces bytes.length bytes).mapM id

/-- The text of bytes, with the replacement character for pieces that are no characters. -/
def decodeUtf8Lossy (bytes : List UInt8) : List Char :=
  (decodePieces bytes.length bytes).map (·.getD '\ufffd')

end Text
end PatchReview
