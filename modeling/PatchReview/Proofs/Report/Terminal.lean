import PatchReview.Proofs.Console.Markup
import PatchReview.Proofs.Decimal.Natural
import PatchReview.Proofs.Report.Lines
import PatchReview.Proofs.Work

/-!
# Reports on a console can be shown

A report on a console writes the numbers of all lines, and then it reads texts with tags: the texts
of the findings and the lines of the summary. The templates of these lines are balanced, so that
only texts that come from outside can be faulty, and only with an opening bracket.
-/

namespace PatchReview
namespace Report

open Console

/-! ## Lists of computations -/

section Lists

variable {ε α β : Type}

/-- A result among several is the result of one. -/
theorem exists_of_mem_mapM {f : α → Except ε β} {as : List α} {bs : List β} (h : as.mapM f = .ok bs)
    {b : β} (hb : b ∈ bs) : ∃ a ∈ as, f a = .ok b := by
  induction as generalizing bs with
  | nil =>
    cases h
    cases hb
  | cons a as ih =>
    rw [List.mapM_cons] at h
    rcases bind_eq_ok_iff.1 h with ⟨first, ha, h⟩
    rcases bind_eq_ok_iff.1 h with ⟨rest, hrest, h⟩
    cases h
    rcases List.mem_cons.1 hb with rfl | hmem
    · exact ⟨a, List.mem_cons_self, ha⟩
    · rcases ih hrest hmem with ⟨x, hx, hfx⟩
      exact ⟨x, List.mem_cons_of_mem _ hx, hfx⟩

/-- There are as many results as steps. -/
theorem length_of_mapM {f : α → Except ε β} {as : List α} {bs : List β} (h : as.mapM f = .ok bs) :
    bs.length = as.length := by
  induction as generalizing bs with
  | nil =>
    cases h
    rfl
  | cons a as ih =>
    rw [List.mapM_cons] at h
    rcases bind_eq_ok_iff.1 h with ⟨b, _, h⟩
    rcases bind_eq_ok_iff.1 h with ⟨rest, hrest, h⟩
    cases h
    rw [List.length_cons, List.length_cons, ih hrest]

end Lists

/-! ## Lines of the summary -/

/-- Without their names the findings are those of the results, in order. -/
theorem map_namedFindings (results : List SkillResult) :
    (namedFindings results).map (·.2) = allFindings results := by
  simp [namedFindings, allFindings, List.map_flatMap, Function.comp_def]

section Errors

variable {P : TerminalError → Prop}

/-- The texts of all rows can be written if the lines can. -/
theorem mapM_rowTexts_written (findings : List (String × Finding)) :
    ((findings.mapM fun entry => rowTexts entry.1 entry.2).map fun _ => ()) =
      linesWritten (findings.map (·.2)) := by
  refine mapM_written Prod.snd (fun entry => ?_) findings
  rw [rowTexts]
  cases entry.2.lineText <;> rfl

end Errors

end Report
end PatchReview
