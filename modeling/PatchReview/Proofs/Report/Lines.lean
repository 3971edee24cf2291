import Mathlib.Data.List.Basic
import PatchReview.Command.Check

/-!
# Numbers of lines in reports

Every form of report writes the number of the line of every finding. That is all that can go wrong
with the reports that are printed as they are: they are refused if a number has too many digits, and
then all of them are.
-/

namespace PatchReview

/-- The number of the line can be written, if it is known. -/
def Finding.LineWritable (f : Finding) : Prop :=
  ∀ n, f.line = some n → n.natAbs < Decimal.numberLimit

/-- A number that is short enough is written. -/
theorem Finding.lineText_of_writable {f : Finding} (h : f.LineWritable) :
    f.lineText = .ok (f.line.map toString) := by
  rw [lineText]
  cases hline : f.line with
  | none =>
    rfl
  | some n =>
    dsimp only
    rw [Decimal.writeInt, if_pos (h n hline)]
    rfl

/-- A longer one is refused. -/
theorem Finding.lineText_of_not_writable {f : Finding} (h : ¬ f.LineWritable) :
    f.lineText = .error .tooLongToWrite := by
  rw [lineText]
  cases hline : f.line with
  | none =>
    refine absurd ?_ h
    intro n hn
    rw [hline] at hn
    cases hn
  | some n =>
    have hn : ¬ n.natAbs < Decimal.numberLimit := by
      intro hlt
      refine h fun m hm => ?_
      cases hline.symm.trans hm
      exact hlt
    dsimp only
    rw [Decimal.writeInt, if_neg hn]
    rfl

namespace Report

/-! ## Writing all numbers -/

/-- Whether the number of every line can be written, or why not. -/
def linesWritten (findings : List Finding) : Except Decimal.LimitError Unit :=
  (findings.mapM Finding.lineText).map fun _ => ()

theorem linesWritten_cons (f : Finding) (findings : List Finding) :
    linesWritten (f :: findings) = f.lineText.bind fun _ => linesWritten findings := by
  rw [linesWritten, linesWritten, List.mapM_cons]
  cases f.lineText with
  | error error =>
    rfl
  | ok text =>
    cases findings.mapM Finding.lineText <;> rfl

/-- The lines are written if each can be. -/
theorem linesWritten_of_writable {findings : List Finding} (h : ∀ f ∈ findings, f.LineWritable) :
    linesWritten findings = .ok () := by
  induction findings with
  | nil =>
    rfl
  | cons f findings ih =>
    rw [linesWritten_cons, Finding.lineText_of_writable (h f List.mem_cons_self)]
    exact ih fun g hg => h g (List.mem_cons_of_mem _ hg)

/-- One that cannot be written is enough for the error. -/
theorem linesWritten_of_not_writable {findings : List Finding}
    (h : ¬ ∀ f ∈ findings, f.LineWritable) : linesWritten findings = .error .tooLongToWrite := by
  induction findings with
  | nil =>
    simp at h
  | cons f findings ih =>
    rw [linesWritten_cons]
    by_cases hf : f.LineWritable
    · rw [Finding.lineText_of_writable hf]
      refine ih fun hall => h fun g hg => ?_
      rcases List.mem_cons.1 hg with rfl | hg
      · exact hf
      · exact hall g hg
    · rw [Finding.lineText_of_not_writable hf]
      rfl

/-- What can be written for a finding just if its number can is written for all if all numbers
can. -/
theorem mapM_written {α β : Type} {g : α → Except Decimal.LimitError β} (finding : α → Finding)
    (hg : ∀ a, ((g a).map fun _ => ()) = (finding a).lineText.map fun _ => ()) (as : List α) :
    ((as.mapM g).map fun _ => ()) = linesWritten (as.map finding) := by
  induction as with
  | nil =>
    rfl
  | cons a as ih =>
    -- Of each result only whether there is one counts.
    have hforget {γ : Type} (e : Except Decimal.LimitError γ)
        (next : Except Decimal.LimitError Unit) :
        (e.bind fun _ => next) = (e.map fun _ => ()).bind fun _ => next := by
      cases e <;> rfl
    calc
      (((a :: as).mapM g).map fun _ => ())
          = (g a).bind fun _ => (as.mapM g).map fun _ => () := by
            rw [List.mapM_cons]
            cases g a with
            | error error =>
              rfl
            | ok b =>
              cases as.mapM g <;> rfl
      _ = (finding a).lineText.bind fun _ => linesWritten (as.map finding) := by
            rw [hforget, hg, ← hforget, ih]
      _ = linesWritten ((a :: as).map finding) := by
            rw [List.map_cons, linesWritten_cons]

/-! ## Reports that are printed as they are -/

/-- A report as JSON can be written if the lines can. -/
theorem json_written (results : List SkillResult) (diff : Option Diff) :
    ((json results diff).map fun _ => ()) = linesWritten (allFindings results) := by
  rw [json, linesWritten]
  cases (allFindings results).mapM Finding.lineText <;> rfl

/-- A bullet can be written if its line can. -/
theorem bullet_written (f : Finding) :
    ((bullet f).map fun _ => ()) = f.lineText.map fun _ => () := by
  rw [bullet, Finding.location]
  cases f.lineText <;> rfl

/-- So can the bullets of all results. -/
theorem findingsBlock_written (results : List SkillResult) :
    ((findingsBlock results).map fun _ => ()) = linesWritten (allFindings results) := by
  have hbullets := mapM_written id bullet_written (allFindings results)
  rw [List.map_id] at hbullets
  rw [← hbullets, findingsBlock]
  cases (allFindings results).mapM bullet <;> rfl

end Report

/-- So can the text for a reviewer; the guidelines play no part. -/
theorem Command.promptText_written (results : List SkillResult) (skills : List Skill) :
    ((promptText results skills).map fun _ => ()) = Report.linesWritten (allFindings results) := by
  rw [← Report.findingsBlock_written, promptText]
  cases Report.findingsBlock results <;> rfl

end PatchReview
