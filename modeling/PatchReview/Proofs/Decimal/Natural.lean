import Mathlib.Data.List.Basic
import Mathlib.Data.List.Induction
import PatchReview.Decimal.Natural
import PatchReview.Proofs.Text.Pieces

/-!
# Reading what was written in decimal

The digits that a number is written with are decimal digits, and they denote the number.
-/

namespace PatchReview
namespace Decimal

/-- The value of a digit of ASCII. -/
theorem decimalDigit?_of_isDigit {c : Char} (h : c.isDigit = true) :
    Text.decimalDigit? c = some (c.toNat - '0'.toNat) := by
  have hrange := Char.isDigit_iff_toNat.1 h
  have hascii : c.toNat < 0x80 := by
    have hnine : '9'.toNat = 57 := rfl
    omega
  simp [Text.decimalDigit?, hascii, h]

theorem isDecimalDigit_of_mem_toDigits {n : Nat} {c : Char} (h : c ∈ Nat.toDigits 10 n) :
    Text.isDecimalDigit c = true := by
  have hdigit : c.isDigit = true := Nat.isDigit_of_mem_toDigits (by decide) (by decide) h
  simp [Text.isDecimalDigit, decimalDigit?_of_isDigit hdigit]

/-- The value of a number's own digits is the number. -/
theorem valueOf_toDigits (n : Nat) : valueOf 10 Text.decimalDigit? (Nat.toDigits 10 n) = n := by
  calc
    valueOf 10 Text.decimalDigit? (Nat.toDigits 10 n)
        = Nat.ofDigitChars 10 (Nat.toDigits 10 n) 0 := by
          apply List.foldl_ext
          intro value c hc
          have hdigit : c.isDigit = true := Nat.isDigit_of_mem_toDigits (by decide) (by decide) hc
          simp [decimalDigit?_of_isDigit hdigit, Nat.mul_comm]
    _ = n := Nat.ofDigitChars_ten_toDigits

/-- A number below a power of ten has no more digits than that power has zeros. -/
theorem length_toDigits_le {n limit : Nat} (hlimit : 0 < limit) (h : n < powerOfTen limit) :
    (Nat.toDigits 10 n).length ≤ limit :=
  (Nat.length_toDigits_le_iff (by decide) hlimit).2 h

/-- A number below the limit is read back. -/
theorem readDigits_toDigits {n : Nat} (h : n < numberLimit) :
    readDigits (Nat.toDigits 10 n) = .ok n := by
  have hlength : (Nat.toDigits 10 n).length ≤ digitLimit := length_toDigits_le (by decide) h
  rw [readDigits, if_neg (by omega), valueOf_toDigits]

/-- Digits are read if there are not too many of them, and as the number that they denote. -/
theorem readDigits_eq_ok_iff {s : List Char} {n : Nat} :
    readDigits s = .ok n ↔ s.length ≤ digitLimit ∧ valueOf 10 Text.decimalDigit? s = n := by
  rw [readDigits]
  split
  · simp
    omega
  · simp
    omega

/-! ## Sizes -/

theorem decimalDigit?_lt {c : Char} {d : Nat} (h : Text.decimalDigit? c = some d) : d < 10 := by
  rw [Text.decimalDigit?] at h
  split at h
  · split at h
    · next hdigit =>
      have hrange := Char.isDigit_iff_toNat.1 hdigit
      have hzero : '0'.toNat = 48 := rfl
      cases h
      have hnine : '9'.toNat = 57 := rfl
      omega
    · cases h
  · rcases Option.map_eq_some_iff.1 h with ⟨r, -, rfl⟩
    exact Nat.mod_lt _ (by decide)

theorem powerOfTen_le {m n : Nat} (h : m ≤ n) : powerOfTen m ≤ powerOfTen n :=
  Nat.pow_le_pow_right (by decide) h

theorem one_lt_powerOfTen {n : Nat} (h : n ≠ 0) : 1 < powerOfTen n :=
  Nat.one_lt_pow h (by decide)

/-- A number has no more digits than it was read from, in any base. -/
theorem valueOf_lt_pow {base : Nat} (hbase : 0 < base) {digit? : Char → Option Nat}
    (hdigit : ∀ c d, digit? c = some d → d < base) (s : List Char) :
    valueOf base digit? s < Nat.pow base s.length := by
  induction s using List.reverseRecOn with
  | nil =>
    exact Nat.one_pos
  | append_singleton s c ih =>
    have hpower : Nat.pow base (s ++ [c]).length = Nat.pow base s.length * base := by
      rw [List.length_append]
      rfl
    rw [hpower]
    cases hc : digit? c with
    | none =>
      have hvalue : valueOf base digit? (s ++ [c]) = valueOf base digit? s := by
        simp [valueOf, hc]
      rw [hvalue]
      exact Nat.lt_of_lt_of_le ih (Nat.le_mul_of_pos_right _ hbase)
    | some d =>
      have hvalue : valueOf base digit? (s ++ [c]) = valueOf base digit? s * base + d := by
        simp [valueOf, hc]
      calc valueOf base digit? (s ++ [c]) = valueOf base digit? s * base + d := hvalue
        _ < valueOf base digit? s * base + base := Nat.add_lt_add_left (hdigit c d hc) _
        _ = (valueOf base digit? s + 1) * base := (Nat.succ_mul _ _).symm
        _ ≤ Nat.pow base s.length * base := Nat.mul_le_mul_right base ih

/-- A number has no more decimal digits than it was read from. -/
theorem valueOf_lt (s : List Char) : valueOf 10 Text.decimalDigit? s < powerOfTen s.length :=
  valueOf_lt_pow (by decide) (fun _ _ h => decimalDigit?_lt h) s

/-- A length of digits up to which numbers of bases up to sixteen can be written in decimal. -/
def hexLimit : Nat := 3500

/-- No number that is read is too large to be written again. -/
theorem lt_numberLimit_of_readDigits {s : List Char} {n : Nat} (h : readDigits s = .ok n) :
    n < numberLimit := by
  rcases readDigits_eq_ok_iff.1 h with ⟨hlength, rfl⟩
  exact Nat.lt_of_lt_of_le (valueOf_lt s) (powerOfTen_le hlength)

theorem one_lt_numberLimit : 1 < numberLimit := by
  have hlimit : digitLimit ≠ 0 := by decide
  exact one_lt_powerOfTen hlimit

/-- The digits of a number do not start with a zero, unless the number is zero. -/
theorem head?_toDigits_ne {n : Nat} (h : 0 < n) : (Nat.toDigits 10 n).head? ≠ some '0' := by
  intro hhead
  cases hdigits : Nat.toDigits 10 n with
  | nil =>
    rw [hdigits] at hhead
    cases hhead
  | cons d rest =>
    rw [hdigits] at hhead
    cases hhead
    -- The zero adds nothing, so the number would do with the digits behind it.
    have hvalue : valueOf 10 Text.decimalDigit? rest = n := by
      have hall := valueOf_toDigits n
      rw [hdigits] at hall
      exact hall
    have hlt : n < 10 ^ rest.length := by
      have := valueOf_lt rest
      rwa [hvalue] at this
    cases hrest : rest.length with
    | zero =>
      rw [hrest] at hlt
      omega
    | succ k =>
      rw [hrest] at hlt
      have hle := (Nat.length_toDigits_le_iff (by decide) (Nat.succ_pos k)).2 hlt
      rw [hdigits, List.length_cons, hrest] at hle
      omega

/-! ## Numerals as people type them -/

/-- A character that is neither a digit nor a minus sign is in the text of no number. -/
theorem not_mem_toString_nat {c : Char} (hc : c.isDigit = false) (n : Nat) :
    c ∉ (toString n).toList := by
  intro hmem
  have hdigits : (toString n).toList = Nat.toDigits 10 n := by simp
  rw [hdigits] at hmem
  rw [Nat.isDigit_of_mem_toDigits (by decide) (by decide) hmem] at hc
  cases hc

/-- A number that is not negative is shown by its digits. -/
theorem toList_toString_ofNat (n : Nat) : (toString (Int.ofNat n)).toList = Nat.toDigits 10 n := by
  rw [Int.toString_eq_repr, Int.repr, ← Nat.toString_eq_repr]
  simp

/-- A negative number is shown by a minus and the digits of its size. -/
theorem toList_toString_negSucc (n : Nat) :
    (toString (Int.negSucc n)).toList = '-' :: Nat.toDigits 10 (n + 1) := by
  rw [Int.toString_eq_repr, Int.repr, String.toList_append, ← Nat.toString_eq_repr]
  simp

/-- What shows a number has no character but digits and a minus. -/
theorem not_mem_toString_int {c : Char} (hc : c.isDigit = false) (hminus : c ≠ '-') (n : Int) :
    c ∉ (toString n).toList := by
  cases n with
  | ofNat m =>
    exact not_mem_toString_nat hc m
  | negSucc m =>
    have hdigits : c ∉ Nat.toDigits 10 (m + 1) := by
      have htext := not_mem_toString_nat hc (m + 1)
      simpa using htext
    rw [toList_toString_negSucc, List.mem_cons, not_or]
    exact ⟨hminus, hdigits⟩

end Decimal
end PatchReview
