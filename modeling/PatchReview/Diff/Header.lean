import PatchReview.Diff.Basic
import PatchReview.Decimal.Natural
import PatchReview.Text.Pieces

/-!
# Headers

A hunk header reads `@@ -start,count +start,count @@ heading`, where a count that is left out is
one. A file header starts with `diff --git` and ends with the new path of the file behind `b/`.
-/

namespace PatchReview
namespace Diff

/-! ## Hunk headers -/

/-- The digits of a start and of its count, if that is written. -/
structure RangeText where
  start : List Char
  count : Option (List Char)
  deriving DecidableEq, Repr

/-- The texts of a hunk header. -/
structure HeaderText where
  old : RangeText
  new : RangeText
  heading : List Char
  deriving DecidableEq, Repr

/-- The digits at the start of a text, at least one, and what follows them. -/
def digits? (s : List Char) : Option (List Char × List Char) :=
  match s.span Text.isDecimalDigit with
  | ([], _) => none
  | (ds, rest) => some (ds, rest)

/-- A start with an optional count behind a comma, and what follows them. -/
def RangeText.read? (s : List Char) : Option (RangeText × List Char) := do
  let (start, rest) ← digits? s
  match rest with
  | ',' :: s =>
    match digits? s with
    | some (count, s) => some (⟨start, some count⟩, s)
    | none => none
  | _ => some (⟨start, none⟩, rest)

/-- The texts of a line that is a hunk header. -/
def HeaderText.read? (line : List Char) : Option HeaderText := do
  let s ← Text.afterStart? "@@ -".toList line
  let (old, s) ← RangeText.read? s
  let s ← Text.afterStart? " +".toList s
  let (new, s) ← RangeText.read? s
  let s ← Text.afterStart? " @@".toList s
  some ⟨old, new, (Text.afterStart? [' '] s).getD s⟩

def RangeText.readCount (r : RangeText) : Except Decimal.LimitError Nat :=
  match r.count with
  | some ds => Decimal.readDigits ds
  | none => .ok 1

/-- The header that the texts denote; both counts are read before the starts. -/
def HeaderText.toHeader (t : HeaderText) : Except Decimal.LimitError Header := do
  let oldCount ← t.old.readCount
  let newCount ← t.new.readCount
  let oldStart ← Decimal.readDigits t.old.start
  let newStart ← Decimal.readDigits t.new.start
  let heading := if t.heading.isEmpty then none else some (String.ofList t.heading)
  return { oldStart, oldCount, newStart, newCount, heading }

/-! ## File headers -/

/-- The characters of a path, if there are any. -/
def someUnlessEmpty (s : List Char) : Option (List Char) := if s.isEmpty then none else some s

/-- The new path in an unquoted file header. -/
def plainPath? (line : List Char) : Option (List Char) :=
  match Text.cutLast? " b/".toList line with
  | some (_, path) => someUnlessEmpty path
  | none =>
    match Text.cutLast? "b/".toList line with
    | some (_, path) => someUnlessEmpty path
    | none => none

/-- The new path in a file header, which may be quoted. -/
def headerPath? (line : List Char) : Option (List Char) :=
  if line.getLast? == some '"' then
    match Text.cutLast? " \"b/".toList line with
    | some (_, path) => someUnlessEmpty path.dropLast
    | none => plainPath? line
  else plainPath? line

end Diff
end PatchReview
