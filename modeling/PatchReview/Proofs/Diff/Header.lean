import PatchReview.Diff.Header
import PatchReview.Proofs.Decimal.Natural
import PatchReview.Proofs.Text.Pieces

/-!
# The grammar of hunk headers

A hunk header is a text of a fixed shape, `HeaderText.Spells`. The reader of headers accepts
exactly the lines of that shape, and it takes them apart in the one way in which they fit.
-/

namespace PatchReview
namespace Diff

/-! ## Digits -/

/-- A run of decimal digits of any script. -/
structure IsDigits (ds : List Char) : Prop where
  ne_nil : ds ≠ []
  digit : ∀ c ∈ ds, Text.isDecimalDigit c = true

/-- Digits are taken as far as they go. -/
theorem span_digits {ds rest : List Char} (hds : ∀ c ∈ ds, Text.isDecimalDigit c = true)
    (hrest : ∀ c, rest.head? = some c → Text.isDecimalDigit c = false) :
    (ds ++ rest).span Text.isDecimalDigit = (ds, rest) := by
  rw [List.span_eq_takeWhile_dropWhile, List.takeWhile_append_of_pos hds,
    List.dropWhile_append_of_pos hds]
  cases rest with
  | nil =>
    simp
  | cons c cs =>
    simp [hrest c rfl]

/-- A run of digits is read as far as the first character that is none. -/
theorem digits?_append {ds rest : List Char} (hds : IsDigits ds)
    (hrest : ∀ c, rest.head? = some c → Text.isDecimalDigit c = false) :
    digits? (ds ++ rest) = some (ds, rest) := by
  rw [digits?, span_digits hds.digit hrest]
  cases h : ds with
  | nil =>
    exact absurd h hds.ne_nil
  | cons d ds =>
    rfl

/-- What is read as digits is a run at the start. -/
theorem eq_append_of_digits? {s ds rest : List Char} (h : digits? s = some (ds, rest)) :
    s = ds ++ rest ∧ IsDigits ds := by
  rw [digits?, List.span_eq_takeWhile_dropWhile] at h
  split at h
  · cases h
  · next run after hne hspan =>
    cases h
    rw [Prod.mk.injEq] at hspan
    rcases hspan with ⟨hds, hrest⟩
    refine ⟨?_, hne, ?_⟩
    · rw [← hds, ← hrest, List.takeWhile_append_dropWhile]
    · intro c hc
      rw [← hds] at hc
      exact List.mem_takeWhile_imp hc

/-! ## Ranges -/

namespace RangeText

/-- A start, with the count behind a comma if there is one. -/
def text (r : RangeText) : List Char :=
  match r.count with
  | some count => r.start ++ ',' :: count
  | none => r.start

/-- A range of numbers. -/
structure IsNumeric (r : RangeText) : Prop where
  start : IsDigits r.start
  count : ∀ ds, r.count = some ds → IsDigits ds

/-- The number of lines that a range declares, one if it declares none. -/
def countValue (r : RangeText) : Nat :=
  match r.count with
  | some ds => Decimal.valueOf 10 Text.decimalDigit? ds
  | none => 1

/-- A range ends where a blank stands. -/
theorem read?_text {r : RangeText} (h : r.IsNumeric) (rest : List Char) :
    read? (r.text ++ ' ' :: rest) = some (r, ' ' :: rest) := by
  have hblank : ∀ c, (' ' :: rest).head? = some c → Text.isDecimalDigit c = false := by
    rintro c ⟨⟩
    decide
  rcases r with ⟨start, count⟩
  cases count with
  | none =>
    simp [text, read?, digits?_append h.start hblank]
  | some ds =>
    have hcomma : ∀ c, (',' :: (ds ++ ' ' :: rest)).head? = some c →
        Text.isDecimalDigit c = false := by
      rintro c ⟨⟩
      decide
    have hds : IsDigits ds := h.count ds rfl
    simp [text, read?, digits?_append h.start hcomma, digits?_append hds hblank]

/-- What is read as a range is the text of the range, and it is made of digits. -/
theorem eq_append_of_read? {s rest : List Char} {r : RangeText}
    (h : read? s = some (r, rest)) : s = r.text ++ rest ∧ r.IsNumeric := by
  rw [read?] at h
  rcases Option.bind_eq_some_iff.1 h with ⟨⟨start, after⟩, hstart, hafter⟩
  rcases eq_append_of_digits? hstart with ⟨rfl, hdigits⟩
  dsimp only at hafter
  split at hafter
  · next s =>
    split at hafter
    · next count s' hcount =>
      cases hafter
      rcases eq_append_of_digits? hcount with ⟨rfl, hdigits'⟩
      refine ⟨by simp [text], hdigits, ?_⟩
      rintro ds ⟨⟩
      exact hdigits'
    · cases hafter
  · cases hafter
    refine ⟨rfl, hdigits, ?_⟩
    rintro ds ⟨⟩

end RangeText

/-! ## Headers -/

namespace HeaderText

/-- The shape of a hunk header. One blank before the heading is no part of it. -/
structure Spells (t : HeaderText) (line : List Char) : Prop where
  old : t.old.IsNumeric
  new : t.new.IsNumeric
  line_eq : ∃ tail, line = "@@ -".toList ++ t.old.text ++ " +".toList ++ t.new.text ++
    " @@".toList ++ tail ∧ (tail = ' ' :: t.heading ∨ tail = t.heading ∧ t.heading.head? ≠ some ' ')

/-- What stands behind the second mark is the heading, less one blank. -/
theorem heading_eq_iff {tail heading : List Char} :
    (Text.afterStart? [' '] tail).getD tail = heading ↔
      tail = ' ' :: heading ∨ tail = heading ∧ heading.head? ≠ some ' ' := by
  -- one blank in front of the heading is taken off, if there is one
  cases h : Text.afterStart? [' '] tail with
  | some rest =>
    obtain rfl : tail = ' ' :: rest := Text.afterStart?_eq_some_iff.1 h
    constructor
    · rintro rfl
      exact .inl rfl
    · rintro (heq | ⟨rfl, hblank⟩)
      · simpa using heq
      · simp at hblank
  | none =>
    have hno : ∀ rest, tail ≠ ' ' :: rest := by
      rintro rest rfl
      simp [Text.afterStart?] at h
    constructor
    · rintro rfl
      refine .inr ⟨rfl, ?_⟩
      intro hblank
      rcases List.head?_eq_some_iff.1 hblank with ⟨rest, hrest⟩
      exact hno rest hrest
    · rintro (heq | ⟨rfl, -⟩)
      · exact absurd heq (hno heading)
      · rfl

/-- A line is read as a hunk header exactly when it has the shape of one. -/
theorem read?_eq_some_iff {t : HeaderText} {line : List Char} :
    read? line = some t ↔ t.Spells line := by
  constructor
  · intro h
    rw [read?] at h
    -- each part that is read is taken off the front, and what is left goes to the next
    rcases Option.bind_eq_some_iff.1 h with ⟨s₁, hopen, h₁⟩
    rcases Option.bind_eq_some_iff.1 h₁ with ⟨⟨old, s₂⟩, hold, h₂⟩
    rcases Option.bind_eq_some_iff.1 h₂ with ⟨s₃, hplus, h₃⟩
    rcases Option.bind_eq_some_iff.1 h₃ with ⟨⟨new, s₄⟩, hnew, h₄⟩
    rcases Option.bind_eq_some_iff.1 h₄ with ⟨tail, hclose, h₅⟩
    obtain rfl := Text.afterStart?_eq_some_iff.1 hopen
    rcases RangeText.eq_append_of_read? hold with ⟨rfl, holdNumeric⟩
    obtain rfl := Text.afterStart?_eq_some_iff.1 hplus
    rcases RangeText.eq_append_of_read? hnew with ⟨rfl, hnewNumeric⟩
    obtain rfl := Text.afterStart?_eq_some_iff.1 hclose
    cases h₅
    refine ⟨holdNumeric, hnewNumeric, tail, ?_, heading_eq_iff.1 rfl⟩
    simp only [List.append_assoc]
  · rintro ⟨hold, hnew, tail, rfl, htail⟩
    have hplus : " +".toList = [' ', '+'] := rfl
    have hclose : " @@".toList = [' ', '@', '@'] := rfl
    simp [read?, hplus, hclose, RangeText.read?_text hold, RangeText.read?_text hnew,
      Text.afterStart?, heading_eq_iff.2 htail]

def header (t : HeaderText) : Header where
  oldStart := Decimal.valueOf 10 Text.decimalDigit? t.old.start
  oldCount := t.old.countValue
  newStart := Decimal.valueOf 10 Text.decimalDigit? t.new.start
  newCount := t.new.countValue
  heading := if t.heading.isEmpty then none else some (String.ofList t.heading)

end HeaderText

/-- A count that is read has the value of its digits; one that is left out is one. -/
theorem RangeText.countValue_of_readCount {r : RangeText} {n : Nat} (h : r.readCount = .ok n) :
    r.countValue = n := by
  rcases r with ⟨start, count⟩
  cases count with
  | none =>
    cases h
    rfl
  | some ds =>
    exact (Decimal.readDigits_eq_ok_iff.1 h).2

/-- A header is accepted when both of its counts and then both of its starts are. -/
theorem HeaderText.reads_of_toHeader {t : HeaderText} {h : Header} (hread : t.toHeader = .ok h) :
    t.old.readCount = .ok h.oldCount ∧ t.new.readCount = .ok h.newCount ∧
      Decimal.readDigits t.old.start = .ok h.oldStart ∧
        Decimal.readDigits t.new.start = .ok h.newStart ∧
        h.heading = if t.heading.isEmpty then none else some (String.ofList t.heading) := by
  unfold toHeader at hread
  cases hold : t.old.readCount with
  | error e =>
    simp [hold, bind, Except.bind] at hread
  | ok oldCount =>
    cases hnew : t.new.readCount with
    | error e =>
      simp [hold, hnew, bind, Except.bind] at hread
    | ok newCount =>
      cases holdStart : Decimal.readDigits t.old.start with
      | error e =>
        simp [hold, hnew, holdStart, bind, Except.bind] at hread
      | ok oldStart =>
        cases hnewStart : Decimal.readDigits t.new.start with
        | error e =>
          simp [hold, hnew, holdStart, hnewStart, bind, Except.bind] at hread
        | ok newStart =>
          simp only [hold, hnew, holdStart, hnewStart, bind, Except.bind, pure, Except.pure,
            Except.ok.injEq] at hread
          subst hread
          exact ⟨rfl, rfl, rfl, rfl, rfl⟩

/-- A header that is accepted has the numbers that its texts denote. -/
theorem HeaderText.eq_header_of_toHeader {t : HeaderText} {h : Header}
    (hread : t.toHeader = .ok h) : h = t.header := by
  rcases reads_of_toHeader hread with ⟨holdCount, hnewCount, holdStart, hnewStart, hheading⟩
  rcases h with ⟨oldStart, oldCount, newStart, newCount, heading⟩
  dsimp only at holdCount hnewCount holdStart hnewStart hheading
  rw [header, RangeText.countValue_of_readCount holdCount,
    RangeText.countValue_of_readCount hnewCount, (Decimal.readDigits_eq_ok_iff.1 holdStart).2,
    (Decimal.readDigits_eq_ok_iff.1 hnewStart).2, hheading]

/-- No count that is read is too large to be written again. -/
theorem RangeText.lt_numberLimit_of_readCount {r : RangeText} {n : Nat} (h : r.readCount = .ok n) :
    n < Decimal.numberLimit := by
  rcases r with ⟨start, count⟩
  cases count with
  | none =>
    cases h
    exact Decimal.one_lt_numberLimit
  | some ds =>
    exact Decimal.lt_numberLimit_of_readDigits h

end Diff
end PatchReview
