import Mathlib.Data.List.Basic
import PatchReview.Text.Utf8

/-!
# Reading what was written in UTF-8

A text is read back from its bytes. Each character is written with a first byte, which tells its
share of the code point and what must follow, and the bytes that follow with six bits each.
-/

namespace PatchReview
namespace Text

/-! ## Bytes -/

/-- A byte that must follow adds its six bits. -/
theorem followBytes_cons {code bits lo hi : Nat} (hbits : bits < 0x40) (hlo : lo ≤ 0x80 + bits)
    (hhi : 0x80 + bits ≤ hi) (ranges : List (Nat × Nat)) (bytes : List UInt8) :
    followBytes code ((lo, hi) :: ranges) ((0x80 + bits).toUInt8 :: bytes) =
      followBytes (code * 0x40 + bits) ranges bytes := by
  have hbyte : (0x80 + bits).toUInt8.toNat = 0x80 + bits := by
    simpa using (by omega : 0x80 + bits < 256)
  have hrange : (lo ≤ 0x80 + bits && 0x80 + bits ≤ hi) = true := by
    simp [hlo, hhi]
  rw [followBytes, hbyte, if_pos hrange, Nat.add_sub_cancel_left]

/-- A lead byte and the bytes that follow it as it announces are one piece. -/
theorem decodePieces_cons {b code : Nat} (hb : b < 256) {ranges : List (Nat × Nat)}
    (hlead : leadByte? b = some (code, ranges)) (fuel : Nat) {bytes rest : List UInt8} {n : Nat}
    (hfollow : followBytes code ranges bytes = (some n, rest)) :
    decodePieces (fuel + 1) (b.toUInt8 :: bytes) =
      some (Char.ofNat n) :: decodePieces fuel rest := by
  have hbyte : b.toUInt8.toNat = b := by
    simpa using hb
  rw [decodePieces, hbyte, hlead]
  dsimp only
  rw [hfollow]
  rfl

/-! ## First bytes -/

theorem leadByte?_two {n : Nat} (h : 0x80 ≤ n) (h' : n < 0x800) :
    leadByte? (0xC0 + n / 0x40) = some (n / 0x40, [(0x80, 0xBF)]) := by
  rw [leadByte?, if_neg (by omega), if_neg (by omega), if_pos (by omega), Nat.add_sub_cancel_left]

/-- The second of three bytes is held off the long spellings of small numbers and off the
surrogates. -/
theorem exists_leadByte?_three {n : Nat} (h : 0x800 ≤ n) (h' : n < 0x10000)
    (hvalid : n < 0xD800 ∨ 0xDFFF < n) :
    ∃ lo hi, leadByte? (0xE0 + n / 0x1000) = some (n / 0x1000, [(lo, hi), (0x80, 0xBF)]) ∧
      lo ≤ 0x80 + n / 0x40 % 0x40 ∧ 0x80 + n / 0x40 % 0x40 ≤ hi := by
  simp only [leadByte?, beq_iff_eq]
  rw [if_neg (by omega), if_neg (by omega), if_neg (by omega)]
  by_cases hzero : n / 0x1000 = 0
  · refine ⟨0xA0, 0xBF, ?_, by omega, by omega⟩
    rw [if_pos (by omega), hzero]
  · rw [if_neg (by omega)]
    by_cases hsurrogate : n / 0x1000 = 0xD
    · refine ⟨0x80, 0x9F, ?_, by omega, by omega⟩
      rw [if_pos (by omega), hsurrogate]
    · refine ⟨0x80, 0xBF, ?_, by omega, by omega⟩
      rw [if_neg (by omega), if_pos (by omega), Nat.add_sub_cancel_left]

/-- The second of four bytes is held off the long spellings of small numbers and off what lies
beyond the last character. -/
theorem exists_leadByte?_four {n : Nat} (h : 0x10000 ≤ n) (h' : n < 0x110000) :
    ∃ lo hi, leadByte? (0xF0 + n / 0x40000) =
        some (n / 0x40000, [(lo, hi), (0x80, 0xBF), (0x80, 0xBF)]) ∧
      lo ≤ 0x80 + n / 0x1000 % 0x40 ∧ 0x80 + n / 0x1000 % 0x40 ≤ hi := by
  simp only [leadByte?, beq_iff_eq]
  rw [if_neg (by omega), if_neg (by omega), if_neg (by omega), if_neg (by omega), if_neg (by omega),
    if_neg (by omega)]
  by_cases hzero : n / 0x40000 = 0
  · refine ⟨0x90, 0xBF, ?_, by omega, by omega⟩
    rw [if_pos (by omega), hzero]
  · rw [if_neg (by omega)]
    by_cases hlast : n / 0x40000 = 4
    · refine ⟨0x80, 0x8F, ?_, by omega, by omega⟩
      rw [if_neg (by omega), if_pos (by omega), hlast]
    · refine ⟨0x80, 0xBF, ?_, by omega, by omega⟩
      rw [if_pos (by omega), Nat.add_sub_cancel_left]

/-! ## Characters -/

/-- A character is read back from its bytes, whatever follows. -/
theorem decodePieces_encodeChar (c : Char) (fuel : Nat) (rest : List UInt8) :
    decodePieces (fuel + 1) (encodeChar c ++ rest) = some c :: decodePieces fuel rest := by
  have hchar : Char.ofNat c.toNat = c := Char.ofNat_toNat c
  have hvalid : c.toNat < 0xD800 ∨ (0xDFFF < c.toNat ∧ c.toNat < 0x110000) := c.valid
  rw [encodeChar]
  -- From here on the character is its number. There is one case for each number of bytes.
  generalize c.toNat = n at hchar hvalid
  subst hchar
  split
  · rename_i h
    have hlead : leadByte? n = some (n, []) := by
      rw [leadByte?, if_pos h]
    exact decodePieces_cons (by omega) hlead fuel rfl
  · split
    · rename_i h h'
      refine decodePieces_cons (by omega) (leadByte?_two (by omega) h') fuel ?_
      show followBytes _ _ (_ :: rest) = _
      rw [followBytes_cons (by omega) (by omega) (by omega), followBytes, Nat.div_add_mod']
    · split
      · rename_i h h' h''
        rcases exists_leadByte?_three (by omega) h'' (by omega) with ⟨lo, hi, hlead, hlo, hhi⟩
        refine decodePieces_cons (by omega) hlead fuel ?_
        show followBytes _ _ (_ :: _ :: rest) = _
        have hcode : (n / 0x1000 * 0x40 + n / 0x40 % 0x40) * 0x40 + n % 0x40 = n := by
          omega
        rw [followBytes_cons (by omega) hlo hhi, followBytes_cons (by omega) (by omega) (by omega),
          followBytes, hcode]
      · rename_i h h' h''
        rcases exists_leadByte?_four (by omega) (by omega : n < 0x110000) with
          ⟨lo, hi, hlead, hlo, hhi⟩
        refine decodePieces_cons (by omega) hlead fuel ?_
        show followBytes _ _ (_ :: _ :: _ :: rest) = _
        have hcode : ((n / 0x40000 * 0x40 + n / 0x1000 % 0x40) * 0x40 + n / 0x40 % 0x40) * 0x40 +
            n % 0x40 = n := by
          omega
        rw [followBytes_cons (by omega) hlo hhi, followBytes_cons (by omega) (by omega) (by omega),
          followBytes_cons (by omega) (by omega) (by omega), followBytes, hcode]

theorem length_encodeChar_pos (c : Char) : 0 < (encodeChar c).length := by
  rw [encodeChar]
  split
  · exact Nat.zero_lt_succ _
  · split
    · exact Nat.zero_lt_succ _
    · split <;> exact Nat.zero_lt_succ _

/-! ## Texts -/

/-- The bytes of characters are decoded as those characters, piece by piece. -/
theorem decodePieces_flatMap_encodeChar (cs : List Char) {fuel : Nat} (h : cs.length ≤ fuel) :
    decodePieces fuel (cs.flatMap encodeChar) = cs.map some := by
  induction cs generalizing fuel with
  | nil =>
    cases fuel <;> rfl
  | cons c cs ih =>
    cases fuel with
    | zero =>
      cases h
    | succ fuel =>
      rw [List.flatMap_cons, decodePieces_encodeChar, ih (Nat.le_of_succ_le_succ h), List.map_cons]

theorem length_le_length_flatMap_encodeChar (cs : List Char) :
    cs.length ≤ (cs.flatMap encodeChar).length := by
  induction cs with
  | nil =>
    exact Nat.le_refl _
  | cons c cs ih =>
    have hc := length_encodeChar_pos c
    rw [List.flatMap_cons, List.length_append, List.length_cons]
    omega

/-- A text is read back from its bytes. -/
theorem decodeUtf8?_encodeUtf8 (s : String) : decodeUtf8? (encodeUtf8 s) = some s.toList := by
  rw [decodeUtf8?, encodeUtf8,
    decodePieces_flatMap_encodeChar _ (length_le_length_flatMap_encodeChar _), List.mapM_map]
  show s.toList.mapM pure = pure s.toList
  exact List.mapM_pure.trans (congrArg pure (List.map_id _))

/-- Bytes that are a text are read as that text also where others would be replaced. -/
theorem decodeUtf8Lossy_of_decodeUtf8? {bytes : List UInt8} {text : List Char}
    (h : decodeUtf8? bytes = some text) : decodeUtf8Lossy bytes = text := by
  rw [decodeUtf8?] at h
  rw [decodeUtf8Lossy]
  generalize decodePieces bytes.length bytes = pieces at h
  induction pieces generalizing text with
  | nil =>
    cases h
    rfl
  | cons piece pieces ih =>
    rw [List.mapM_cons] at h
    cases piece with
    | none =>
      cases h
    | some c =>
      cases hrest : pieces.mapM id with
      | none =>
        rw [hrest] at h
        cases h
      | some rest =>
        rw [hrest] at h
        cases h
        rw [List.map_cons, ih hrest]
        rfl

end Text
end PatchReview
