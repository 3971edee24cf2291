/-!
# Tables of code points

Character classes are lists of closed ranges in ascending order, and case mappings are lists of runs
that share one offset.
-/

namespace PatchReview
namespace Text

/-- Closed ranges of code points, ascending and apart. -/
abbrev RangeTable := List (Nat × Nat)

/-- Whether some range of the table holds the code point. -/
def RangeTable.covers : RangeTable → Nat → Bool
  | [], _ => false
  | (lo, hi) :: rest, n => if n < lo then false else n ≤ hi || RangeTable.covers rest n

/-- Runs `(first, last, step, offset)` of code points that are mapped alike, ascending. -/
abbrev CaseTable := List (Nat × Nat × Nat × Int)

/-- The image of a code point, which is the code point itself outside all runs. -/
def CaseTable.apply : CaseTable → Nat → Nat
  | [], n => n
  | (first, last, step, offset) :: rest, n =>
    if n < first then n
    else if n ≤ last && (n - first) % step == 0 then (n + offset).toNat
    else CaseTable.apply rest n

/-- All code points that the table maps to `n`, with `n` itself if it is mapped nowhere else. -/
def CaseTable.preimages (table : CaseTable) (n : Nat) : List Nat :=
  (if table.apply n == n then [n] else []) ++
    table.filterMap fun (first, last, step, offset) =>
      let m := ((n : Int) - offset).toNat
      if (n : Int) - offset < 0 then none
      else if first ≤ m && m ≤ last && (m - first) % step == 0 && table.apply m == n then some m
      else none

/-- Whether a closed range of code points holds one that the table maps elsewhere. -/
def CaseTable.meets (table : CaseTable) (lo hi : Nat) : Bool :=
  table.any fun (first, last, step, _) =>
    if lo ≤ first then first ≤ hi
    else lo ≤ last && lo + (step - (lo - first) % step) % step ≤ min last hi

end Text
end PatchReview
