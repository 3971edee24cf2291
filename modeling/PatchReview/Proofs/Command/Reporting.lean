import PatchReview.Proofs.Report.Terminal

/-!
# How a check ends

A check that has examined its diff reports what it has found and ends. If nothing is written to a
file, the end is the same for all forms of report: it depends on the findings, and on whether the
numbers of their lines can be written. Only a report on a console may end otherwise, because of a
text with tags.
-/

namespace PatchReview
namespace Command

/-! ## Printing -/

/-- What is printed about errors goes behind what was printed before. -/
theorem runOn_onErrors {ε α : Type} (fault : ε → Fault) (screen : Console.Screen ε α)
    (desk : Desk) :
    (Work.onErrors fault screen).runOn desk =
      ((screen.run.run desk.errors).1.mapError fault,
        { desk with errors := (screen.run.run desk.errors).2 }) := by
  rw [Work.onErrors, Work.runOn_get_bind]
  rcases screen.run.run desk.errors with ⟨result, errors⟩
  cases result <;> rfl

/-! ## Verdicts -/

/-- How a check ends with what it has found, unless the report is stopped by tags. -/
def verdict (x : Examination) : Except Fault Ending :=
  ((Report.linesWritten (allFindings x.results)).mapError .digits).map fun _ =>
    if failing x.plan.failOn x.results then .failure else .success

section Conclude

variable {s : Setting} {o : CheckOptions} {x : Examination} {desk : Desk}

/-- Without a file to write, the end is up to the report and to the findings. -/
theorem conclude_of_report (houtput : o.output = "") :
    ((s.conclude o x).runOn desk).1 = ((s.report x).runOn desk).1.map fun _ =>
      if failing x.plan.failOn x.results then .failure else .success := by
  rw [Setting.conclude, Work.runOn_bind]
  rcases (s.report x).runOn desk with ⟨result, desk'⟩
  cases result with
  | error fault =>
    rfl
  | ok report =>
    have hwrite : s.writeReport o x report = pure () := by
      rw [Setting.writeReport, houtput]
      rfl
    dsimp only
    rw [hwrite]
    rfl

/-- A text that is printed as it is decides the verdict by whether it can be written. -/
theorem verdict_of_printed {written : Except Decimal.LimitError String}
    (hwritten : (written.map fun _ => ()) = Report.linesWritten (allFindings x.results))
    (desk : Desk) :
    (((do
      let text ← Work.ofExcept .digits written
      printOutput text
      return some text : Work (Option String)).runOn desk).1.map fun _ =>
        if failing x.plan.failOn x.results then Ending.failure else .success) = verdict x := by
  rw [verdict, ← hwritten, Work.runOn_bind, Work.runOn_ofExcept]
  cases written with
  | error error =>
    rfl
  | ok text =>
    rfl

/-- A report as JSON ends by the verdict. -/
theorem conclude_of_json (houtput : o.output = "") (hformat : x.plan.format = .json) :
    ((s.conclude o x).runOn desk).1 = verdict x := by
  rw [conclude_of_report houtput, Setting.report, hformat]
  exact verdict_of_printed (Report.json_written x.results (some x.diff)) desk

def CheckPlan.select (plan : CheckPlan) : Work (List Skill.Loaded) := do
  Engine.select (← Work.expandHome plan.directory) plan.requests

/-- A report for reviewers selects the skills once more. -/
theorem conclude_of_prompt (houtput : o.output = "") (hformat : x.plan.format = .prompt)
    {skills : List Skill.Loaded} {desk' : Desk}
    (hselect : x.plan.select.runOn desk = (.ok skills, desk')) :
    ((s.conclude o x).runOn desk).1 = verdict x := by
  rw [conclude_of_report houtput, Setting.report, hformat]
  dsimp only
  have hwritten := promptText_written x.results (skills.map (·.skill))
  rw [CheckPlan.select] at hselect
  rw [← bind_assoc, Work.runOn_bind_of_ok hselect]
  exact verdict_of_printed hwritten desk'

end Conclude

end Command
end PatchReview
