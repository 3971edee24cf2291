import PatchReview.Proofs.Diff.Layout

/-!
# Texts that are refused

Reading a diff fails for one reason only: a hunk header with a run of digits beyond the limit, at a
place where headers are looked at, which is below a file header that yields a path. This module says
which run of which header it is, and that every other text is read.
-/

namespace PatchReview
namespace Diff

/-! ## Headers with too many digits -/

namespace HeaderText

/-- The runs of digits of a header in the order in which they are read: the counts that are written,
and then the starts. -/
def runs (t : HeaderText) : List (List Char) :=
  t.old.count.toList ++ t.new.count.toList ++ [t.old.start, t.new.start]

/-- The first run of digits that is beyond the limit. -/
def overlong? (t : HeaderText) : Option (List Char) :=
  t.runs.find? fun run => Decimal.digitLimit < run.length

end HeaderText

/-- A run of digits that is short enough is read. -/
theorem readDigits_of_le {s : List Char} (h : s.length ≤ Decimal.digitLimit) :
    Decimal.readDigits s = .ok (Decimal.valueOf 10 Text.decimalDigit? s) :=
  Decimal.readDigits_eq_ok_iff.2 ⟨h, rfl⟩

/-- A longer one is refused, and its length is told. -/
theorem readDigits_of_lt {s : List Char} (h : Decimal.digitLimit < s.length) :
    Decimal.readDigits s = .error (.tooLongToRead s.length) := by
  rw [Decimal.readDigits, if_pos h]

/-- A count is read as its run of digits is; a count that is left out is one. -/
theorem RangeText.readCount_eq (r : RangeText) :
    r.readCount = match r.count.toList.find? fun run => Decimal.digitLimit < run.length with
      | some run => .error (.tooLongToRead run.length)
      | none => .ok r.countValue := by
  rcases r with ⟨start, count⟩
  cases count with
  | none =>
    rfl
  | some ds =>
    by_cases hds : Decimal.digitLimit < ds.length
    · simp [readCount, readDigits_of_lt hds, hds]
    · simp [readCount, countValue, readDigits_of_le (Nat.le_of_not_lt hds), hds]

/-- A header is refused for the first of its runs that is beyond the limit. -/
theorem HeaderText.toHeader_eq (t : HeaderText) :
    t.toHeader = match t.overlong? with
      | some run => .error (.tooLongToRead run.length)
      | none => .ok t.header := by
  unfold toHeader overlong? runs
  rw [List.find?_append, List.find?_append, t.old.readCount_eq, t.new.readCount_eq]
  cases t.old.count.toList.find? fun run => Decimal.digitLimit < run.length with
  | some run =>
    rfl
  | none =>
    cases t.new.count.toList.find? fun run => Decimal.digitLimit < run.length with
    | some run =>
      rfl
    | none =>
      -- both counts are read, so the starts decide
      by_cases hold : Decimal.digitLimit < t.old.start.length
      · simp [readDigits_of_lt hold, hold, bind, Except.bind]
      · by_cases hnew : Decimal.digitLimit < t.new.start.length
        · simp [readDigits_of_le (Nat.le_of_not_lt hold), readDigits_of_lt hnew, hold, hnew, bind,
            Except.bind]
        · simp [readDigits_of_le (Nat.le_of_not_lt hold), readDigits_of_le (Nat.le_of_not_lt hnew),
            hold, hnew, bind, Except.bind, pure, Except.pure, header]

/-- The numbers of a line are refused if it is a hunk header with a run beyond the limit. -/
theorem refusal?_eq_some_iff {line : List Char} {e : Decimal.LimitError} :
    refusal? line = some e ↔
      ∃ t : HeaderText, t.Spells line ∧ ∃ run, t.overlong? = some run ∧
        e = .tooLongToRead run.length := by
  constructor
  · intro h
    rw [refusal?] at h
    split at h
    · cases hread : HeaderText.read? line with
      | none =>
        simp [hread] at h
      | some t =>
        refine ⟨t, HeaderText.read?_eq_some_iff.1 hread, ?_⟩
        rw [hread, Option.map_some, t.toHeader_eq] at h
        cases hlong : t.overlong? with
        | none =>
          simp [hlong] at h
        | some run =>
          rw [hlong] at h
          cases h
          exact ⟨run, rfl, rfl⟩
    · cases h
  · rintro ⟨t, ht, run, hlong, rfl⟩
    rcases isHunkMark_of_spells ht with ⟨hmark, hfile⟩
    simp [refusal?, hmark, hfile, HeaderText.read?_eq_some_iff.2 ht, t.toHeader_eq, hlong]

/-! ## Places in a text -/

/-- A hunk header with too many digits, below lines whose last file header yields a path. -/
structure Overlong (above : List (List Char)) (line : List Char) (t : HeaderText) : Prop where
  spells : t.Spells line
  owned : ∃ path, owner? above = some path
  overlong : ∃ run ∈ t.runs, Decimal.digitLimit < run.length

/-- Somewhere among some lines stands a hunk header with too many digits that belongs to a file. -/
def HasOverlong (lines : List (List Char)) : Prop :=
  ∃ above line below t, lines = above ++ line :: below ∧ Overlong above line t

/-- A header is refused for a run if one of its runs is too long. -/
theorem exists_overlong?_iff {t : HeaderText} :
    (∃ run, t.overlong? = some run) ↔ ∃ run ∈ t.runs, Decimal.digitLimit < run.length := by
  rw [← Option.isSome_iff_exists, HeaderText.overlong?, List.find?_isSome]
  simp

/-- Below a file header with a path, a line is refused if it is a hunk header with too many
digits. -/
theorem refusal_below_iff {above : List (List Char)} {line : List Char} {e : Decimal.LimitError} :
    (focusAfter none above).bind (fun _ => refusal? line) = some e ↔
      ∃ t run, Overlong above line t ∧ t.overlong? = some run ∧ e = .tooLongToRead run.length := by
  have howner : (∃ focus, focusAfter none above = some focus) ↔ ∃ path,
      owner? above = some path := by
    rw [← focusPath_focusAfter, focusPath]
    simp
  simp only [Option.bind_eq_some_iff, refusal?_eq_some_iff]
  constructor
  · rintro ⟨focus, hfocus, t, ht, run, hlong, he⟩
    exact ⟨t, run, ⟨ht, howner.1 ⟨focus, hfocus⟩, exists_overlong?_iff.1 ⟨run, hlong⟩⟩, hlong, he⟩
  · rintro ⟨t, run, h, hlong, he⟩
    rcases howner.2 h.owned with ⟨focus, hfocus⟩
    exact ⟨focus, hfocus, t, h.spells, run, hlong, he⟩

/-! ## Texts -/

/-- The first refusal among some lines stands at a line above which there is none. -/
theorem refusalIn?_eq_some_iff {lines : List (List Char)} {e : Decimal.LimitError} :
    refusalIn? none lines = some e ↔
      ∃ above line below, lines = above ++ line :: below ∧ refusalIn? none above = none ∧
        (focusAfter none above).bind (fun _ => refusal? line) = some e := by
  constructor
  · intro h
    -- from the end: the last line has a say only if nothing above it is refused
    induction lines using List.reverseRecOn with
    | nil =>
      cases h
    | append_singleton lines last ih =>
      rw [refusalIn?_append] at h
      cases hfirst : refusalIn? none lines with
      | some first =>
        rw [hfirst, Option.some_or] at h
        rcases ih (hfirst.trans h) with ⟨above, line, below, rfl, habove, hline⟩
        exact ⟨above, line, below ++ [last], by simp, habove, hline⟩
      | none =>
        rw [hfirst, Option.none_or, refusalIn?, refusalIn?, Option.or_none] at h
        exact ⟨lines, last, [], rfl, hfirst, h⟩
  · rintro ⟨above, line, below, rfl, habove, hline⟩
    rw [refusalIn?_append, habove, Option.none_or, refusalIn?, hline, Option.some_or]

/-- Lines are refused just if a hunk header with too many digits stands among them. -/
theorem refusalIn?_eq_none_iff {lines : List (List Char)} :
    refusalIn? none lines = none ↔ ¬ HasOverlong lines := by
  constructor
  · rintro hnone ⟨above, line, below, t, rfl, hlong⟩
    rcases exists_overlong?_iff.2 hlong.overlong with ⟨run, hrun⟩
    have hline := refusal_below_iff.2 ⟨t, run, hlong, hrun, rfl⟩
    -- a refusal above this line would do as well, so it need not be the first one
    rw [refusalIn?_append, Option.or_eq_none_iff, refusalIn?, Option.or_eq_none_iff, hline] at hnone
    cases hnone.2.1
  · intro hno
    cases h : refusalIn? none lines with
    | none =>
      rfl
    | some e =>
      rcases refusalIn?_eq_some_iff.1 h with ⟨above, line, below, hlines, -, hline⟩
      rcases refusal_below_iff.1 hline with ⟨t, run, hlong, -, -⟩
      exact absurd ⟨above, line, below, t, hlines, hlong⟩ hno

/-- A text is read unless a hunk header with a run of digits beyond the limit stands below a file
header that yields a path. Then, and only then, reading fails: for the first such header, and for
the first of its runs that is too long, with the number of its digits. -/
theorem parse_refuses (text : String) :
    ((∃ d, parse text = .ok d) ↔ ¬ HasOverlong (textLines text.toList)) ∧
      ∀ e, parse text = .error e ↔
        ∃ above line below t run, textLines text.toList = above ++ line :: below ∧
          Overlong above line t ∧
          ¬ HasOverlong above ∧ t.overlong? = some run ∧ e = .tooLongToRead run.length := by
  have hparse : parse text = ofLines (textLines text.toList) := rfl
  constructor
  · rw [hparse, ← refusalIn?_eq_none_iff]
    simp only [ofLines_eq_ok_iff]
    exact ⟨fun ⟨_, hnone, _⟩ => hnone, fun hnone => ⟨_, hnone, rfl⟩⟩
  · intro e
    have herror : ofLines (textLines text.toList) = .error e ↔
        refusalIn? none (textLines text.toList) = some e := by
      rw [ofLines_eq]
      cases refusalIn? none (textLines text.toList) <;> simp
    rw [hparse, herror, refusalIn?_eq_some_iff]
    simp only [refusalIn?_eq_none_iff, refusal_below_iff]
    constructor
    · rintro ⟨above, line, below, hlines, habove, t, run, hlong, hrun, he⟩
      exact ⟨above, line, below, t, run, hlines, hlong, habove, hrun, he⟩
    · rintro ⟨above, line, below, t, run, hlines, hlong, habove, hrun, he⟩
      exact ⟨above, line, below, hlines, habove, t, run, hlong, hrun, he⟩

end Diff
end PatchReview
