import PatchReview.Decimal.Natural
import PatchReview.Skill.Severity

/-!
# Findings

What checking a diff brings to light: findings at lines of the new files, grouped by skill.
-/

namespace PatchReview

/-- A match of a rule, with its place in the new file where that is known. -/
structure Finding where
  ruleId : String
  message : String
  severity : Severity
  file : Option String
  line : Option Int
  deriving DecidableEq, Repr

/-- The number of the line in digits, where it is known. -/
def Finding.lineText (f : Finding) : Except Decimal.LimitError (Option String) :=
  match f.line with
  | some n => (Decimal.writeInt n).map some
  | none => .ok none

/-- The place of a finding in words; nothing is said of a file without a name. -/
def Finding.location (f : Finding) : Except Decimal.LimitError String :=
  let file := match f.file with
    | some path => if path.isEmpty then [] else [path]
    | none => []
  f.lineText.map fun line =>
    String.intercalate ", " (file ++ (line.map ("line " ++ ·)).toList)

/-- What running a skill against a diff came to. -/
structure SkillResult where
  skill : String
  passed : Bool
  findings : List Finding := []
  /-- In seconds. -/
  executionTime : Float := 0
  /-- Whether no trigger of the skill applies. -/
  skipped : Bool := false

/-- The findings that are at least as grave as what a word names. -/
def SkillResult.findingsAtOrAbove (r : SkillResult) (threshold : String) : List Finding :=
  r.findings.filter (·.severity.atOrAbove threshold)

def allFindings (results : List SkillResult) : List Finding := results.flatMap (·.findings)

end PatchReview
