import PatchReview.Proofs.Console.Layout
import PatchReview.Proofs.Console.Screen
import PatchReview.Proofs.Console.Verbatim
import PatchReview.Proofs.Report.Terminal

/-!
# The table of findings

What the table of a report shows. If no text of the findings holds anything that a console reads,
the report succeeds and its table has one line for each finding, in order: the severity, and then
the name of the skill, the rule, the file, the line and the message, character by character.
-/

namespace PatchReview
namespace Report

open Console

/-! ## What a table shows -/

/-- The path of a finding; a finding without one has a dash in its place. -/
def fileText (f : Finding) : String :=
  match f.file with
  | some path => if path.isEmpty then "-" else path
  | none => "-"

/-- The number of the line of a finding; a finding without one has a dash in its place. -/
def numberText (f : Finding) : String :=
  match f.line with
  | some n => toString n
  | none => "-"

def shownTexts (skill : String) (f : Finding) : List String :=
  [skill, f.ruleId, fileText f, numberText f, f.message]

/-- The widths of the columns behind the first one. -/
structure Limits where
  skill : Nat
  rule : Nat
  file : Nat
  line : Nat
  message : Nat

def Limits.widths (l : Limits) : List Nat := [12, l.skill, l.rule, l.file, l.line, l.message]

def filled (limit : Nat) (text : List Char) : List Char := text ++ blanks (limit - width text)

def filledFront (limit : Nat) (text : List Char) : List Char := blanks (limit - width text) ++ text

/-- A line across all columns, with its texts filled up to their widths. -/
def Limits.row (l : Limits) (e : Edges) (first skill rule file line message : List Char) :
    List Char :=
  e.line [first, filled l.skill skill, filled l.rule rule, filled l.file file,
    filledFront l.line line,
    filled l.message message]

/-- A printable text in which a console finds nothing to read. -/
@[mk_iff]
structure Verbatim (s : String) : Prop where
  printable : ∀ c ∈ s.toList, Text.isPrintable c = true
  plain : Plain s.toList

/-- The texts of a finding that come from outside are shown as they are. -/
@[mk_iff]
structure VerbatimFinding (f : Finding) : Prop where
  ruleId : Verbatim f.ruleId
  message : Verbatim f.message
  file : ∀ path ∈ f.file, Verbatim path

/-- A text is shown verbatim if it is printable and plain, which can be decided. -/
theorem verbatim_iff_all (s : String) :
    Verbatim s ↔ s.toList.all Text.isPrintable = true ∧ Plain s.toList := by
  rw [verbatim_iff, List.all_eq_true]

instance (s : String) : Decidable (Verbatim s) :=
  decidable_of_iff _ (verbatim_iff_all s).symm

instance (f : Finding) : Decidable (VerbatimFinding f) :=
  decidable_of_iff (Verbatim f.ruleId ∧ Verbatim f.message ∧ ∀ path ∈ f.file, Verbatim path)
    (verbatimFinding_iff f).symm

/-- No printable character is dropped. -/
theorem not_isDropped {c : Char} (h : Text.isPrintable c = true) : isDropped c = false := by
  have hle := Text.le_toNat_of_isPrintable h
  simp only [isDropped, List.contains_eq_mem, List.mem_cons, List.not_mem_nil, or_false,
    decide_eq_false_iff_not]
  omega

/-- Printable text without brackets and colons is shown as it is. -/
theorem Verbatim.of_not_mem {s : String} (hprint : ∀ c ∈ s.toList, Text.isPrintable c = true)
    (hbracket : '[' ∉ s.toList) (hcolon : ':' ∉ s.toList) : Verbatim s where
  printable := hprint
  plain := by
    refine ⟨noTag_of_not_mem hbracket, ?_, ?_, fun c hc => not_isDropped (hprint c hc)⟩
    · intro hin
      exact hbracket (hin.subset (by simp))
    · have hnone : ∀ (fuel : Nat) (s : List Char), ':' ∉ s → colonNames fuel s = [] := by
        intro fuel
        induction fuel with
        | zero =>
          intro s _
          rfl
        | succ fuel ih =>
          intro s hs
          cases s with
          | nil =>
            rfl
          | cons c s =>
            rw [List.mem_cons, not_or] at hs
            rw [colonNames, if_neg (Ne.symm hs.1), ih s hs.2]
      simp [hnone _ _ hcolon]

theorem verbatim_dash : Verbatim "-" :=
  .of_not_mem (List.all_eq_true.1 (by decide)) (by decide) (by decide)

/-- What shows a number has digits and a minus only. -/
theorem isDigit_or_minus_of_mem_toString {n : Int} {c : Char} (h : c ∈ (toString n).toList) :
    c.isDigit = true ∨ c = '-' := by
  by_contra hno
  rw [not_or, Bool.not_eq_true] at hno
  exact Decimal.not_mem_toString_int hno.1 hno.2 n h

/-- A number is shown verbatim. -/
theorem verbatim_toString (n : Int) : Verbatim (toString n) := by
  have hother {c : Char} (hdigit : c.isDigit = false) (hminus : c ≠ '-') :
      c ∉ (toString n).toList :=
    Decimal.not_mem_toString_int hdigit hminus n
  refine .of_not_mem ?_ (hother (by decide) (by decide)) (hother (by decide) (by decide))
  intro c hc
  rcases isDigit_or_minus_of_mem_toString hc with hdigit | rfl
  · have hrange := Char.isDigit_iff_toNat.1 hdigit
    have hascii : c.toNat < 0x7F := by
      have hnine : '9'.toNat = 57 := rfl
      omega
    have hzero : '0'.toNat = 48 := rfl
    rw [Text.isPrintable, if_pos hascii]
    exact decide_eq_true (by omega)
  · decide

theorem verbatim_numberText (f : Finding) : Verbatim (numberText f) := by
  rw [numberText]
  split
  · exact verbatim_toString _
  · exact verbatim_dash

/-- The file of such a finding is shown verbatim, also where there is none. -/
theorem VerbatimFinding.fileText {f : Finding} (hf : VerbatimFinding f) :
    Verbatim (fileText f) := by
  rw [Report.fileText]
  cases hfile : f.file with
  | none =>
    exact verbatim_dash
  | some path =>
    dsimp only
    split
    · exact verbatim_dash
    · exact hf.file path hfile

/-- So are all its texts. -/
theorem VerbatimFinding.shownTexts {skill : String} {f : Finding} (hskill : Verbatim skill)
    (hf : VerbatimFinding f) : ∀ text ∈ shownTexts skill f, Verbatim text := by
  intro text htext
  simp only [Report.shownTexts, List.mem_cons, List.not_mem_nil, or_false] at htext
  rcases htext with rfl | rfl | rfl | rfl | rfl
  · exact hskill
  · exact hf.ruleId
  · exact hf.fileText
  · exact verbatim_numberText f
  · exact hf.message

/-! ## Reading the cells -/

section Transposition

variable {α β : Type}

theorem mapM_ok {ε : Type} {f : α → Except ε β} {g : α → β} {items : List α}
    (h : ∀ a ∈ items, f a = .ok (g a)) : items.mapM f = .ok (items.map g) := by
  induction items with
  | nil =>
    rfl
  | cons a items ih =>
    rw [List.mapM_cons, h a List.mem_cons_self, ih fun x hx => h x (List.mem_cons_of_mem a hx)]
    rfl

end Transposition

/-- A finding whose line can be written has the texts of its row. -/
theorem rowTexts_of_writable {skill : String} {f : Finding} (h : f.LineWritable) :
    rowTexts skill f = .ok (shownTexts skill f) := by
  have hnumber : (f.line.map toString).getD "-" = numberText f := by
    rw [numberText]
    cases f.line <;> rfl
  rw [rowTexts, Finding.lineText_of_writable h, shownTexts, ← hnumber]
  rfl

def Limits.header (l : Limits) : List Char :=
  l.row ⟨'┃', ' ', '┃', '┃'⟩ "  Severity  ".toList "Skill".toList "Rule".toList "File".toList
    "Line".toList "Message".toList

/-- A finding with a name is one of the result with that name. -/
theorem exists_of_mem_namedFindings {results : List SkillResult} {entry : String × Finding}
    (h : entry ∈ namedFindings results) :
    ∃ r ∈ results, entry.1 = r.skill ∧ entry.2 ∈ r.findings := by
  rcases List.mem_flatMap.1 h with ⟨r, hr, hin⟩
  rcases List.mem_map.1 hin with ⟨f, hf, rfl⟩
  exact ⟨r, hr, rfl, hf⟩

end Report
end PatchReview
