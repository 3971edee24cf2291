import Mathlib.Data.List.DropRight
import PatchReview.Decimal.Shortest
import PatchReview.Proofs.Decimal.Natural

/-!
# Digits of doubles

The shortest decimal of a double has digits, and the first of them is a zero for the size zero
alone.
-/

namespace PatchReview
namespace Decimal

/-! ## Sizes on a grid -/

/-- A positive number stays positive when it is scaled by a power of ten. -/
theorem Fraction.pos_scaled {n : Nat} (h : 0 < n) (e : Int) : 0 < (scaled n e).num := by
  rw [scaled]
  split
  · exact Nat.mul_pos h (Nat.pow_pos (by decide))
  · exact h

theorem Fraction.pos_shift {f : Fraction} (h : 0 < f.num) (k : Int) : 0 < (f.shift k).num := by
  rw [shift]
  split
  · exact Nat.mul_pos h (Nat.pow_pos (by decide))
  · exact h

/-- Rounding does not go below the whole part. -/
theorem Fraction.le_round (f : Fraction) : f.num / f.den ≤ f.round := by
  rw [round]
  split
  · exact Nat.le_refl _
  · split
    · exact Nat.le_add_right _ _
    · exact Nat.le_succ _

/-- Zero reads back as no other double. -/
theorem pos_of_readsBack {b : Binary} (hb : 0 < b.mantissa) {n : Nat} {k : Int}
    (h : b.readsBack n k = true) : 0 < n := by
  rw [Nat.pos_iff_ne_zero]
  rintro rfl
  -- The least size that reads back as the double is positive, and zero would have to reach it.
  have hlower : 0 < (b.readingBounds.1.shift (-k)).num := by
    apply Fraction.pos_shift
    apply Fraction.pos_scaled
    split <;> omega
  rw [Binary.readsBack] at h
  simp only [Nat.zero_mul] at h
  split at h
  · simp only [Bool.and_eq_true, decide_eq_true_eq] at h
    omega
  · simp only [Bool.and_eq_true, decide_eq_true_eq] at h
    omega

/-- The multiple that lies next to a positive number is not zero. -/
theorem pos_of_onGrid? {b : Binary} (hb : 0 < b.mantissa) {n : Nat} {k : Int}
    (h : b.onGrid? k = some n) : 0 < n := by
  rw [Binary.onGrid?] at h
  split at h
  · rename_i hlower _
    cases h
    exact Nat.lt_of_lt_of_le (pos_of_readsBack hb hlower) (Fraction.le_round _)
  · rename_i hlower _
    cases h
    exact pos_of_readsBack hb hlower
  · cases h
    exact Nat.succ_pos _
  · cases h

/-! ## The shortest decimal -/

/-- Digits that may stand for a size: there are some, and the first is a zero for the size zero
alone. -/
structure Scientific.Proper (s : Scientific) : Prop where
  digits : ∀ c ∈ s.digits, c.isDigit = true
  nonempty : s.digits ≠ []
  zero : s.digits.head? = some '0' → s.digits = ['0'] ∧ s.exponent = 0

theorem proper_zero : Scientific.Proper ⟨['0'], 0⟩ where
  digits := by simp
  nonempty := List.cons_ne_nil _ _
  zero := fun _ => ⟨rfl, rfl⟩

/-- The digits of a number are proper without the zeros at their end. -/
theorem proper_dropZeros {n : Nat} (hn : 0 < n) (exponent : Int) :
    Scientific.Proper ⟨dropZeros (Nat.toDigits 10 n), exponent⟩ := by
  have hdrop : dropZeros (Nat.toDigits 10 n) = (Nat.toDigits 10 n).rdropWhile (· == '0') := rfl
  have hfirst := head?_toDigits_ne hn
  have hnonempty : dropZeros (Nat.toDigits 10 n) ≠ [] := by
    rw [hdrop, ne_eq, List.rdropWhile_eq_nil_iff]
    intro hall
    cases hdigits : Nat.toDigits 10 n with
    | nil =>
      exact Nat.toDigits_ne_nil hdigits
    | cons d rest =>
      rw [hdigits] at hall hfirst
      exact hfirst (congrArg some (by simpa using hall d List.mem_cons_self))
  rcases List.rdropWhile_prefix (· == '0') (l := Nat.toDigits 10 n) with ⟨zeros, hzeros⟩
  rw [← hdrop] at hzeros
  refine ⟨?_, hnonempty, ?_⟩
  · intro c hc
    exact Nat.isDigit_of_mem_toDigits (by decide) (by decide)
      (hzeros ▸ List.mem_append_left zeros hc)
  · -- Zeros are dropped at the end only, so the first digit is still that of the number.
    intro hhead
    refine absurd ?_ hfirst
    rw [← hzeros, List.head?_append_of_ne_nil _ hnonempty, hhead]

/-- However many digits are tried, the ones that are found are proper. -/
theorem proper_shortestFrom {b : Binary} (hb : 0 < b.mantissa) (lead : Int) (fuel count : Nat) :
    (b.shortestFrom lead fuel count).Proper := by
  induction fuel generalizing count with
  | zero =>
    -- A search that found no grid would give zero, which is proper as well.
    exact proper_zero
  | succ fuel ih =>
    rw [Binary.shortestFrom]
    cases hgrid : b.onGrid? (lead - ((count : Int) - 1)) with
    | none =>
      exact ih (count + 1)
    | some n =>
      exact proper_dropZeros (pos_of_onGrid? hb hgrid) _

/-- The shortest digits of a double are proper. -/
theorem proper_shortest (b : Binary) : b.shortest.Proper := by
  rw [Binary.shortest]
  split
  · exact proper_zero
  · rename_i hb
    exact proper_shortestFrom (Nat.pos_of_ne_zero (by simpa using hb)) _ _ _

end Decimal
end PatchReview
