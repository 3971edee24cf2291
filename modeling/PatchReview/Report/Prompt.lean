import PatchReview.Finding
import PatchReview.Skill.Basic
import PatchReview.Text.Blank

/-!
# Reports for reviewers

The findings as a block of Markdown, and the guidelines that skills give to a reviewer.
-/

namespace PatchReview
namespace Report

def capitalName : Severity → String
  | .info => "Info"
  | .warning => "Warning"
  | .critical => "Critical"

def findingsHeader : String :=
  "## Automated Checks (from custom rules)\n\nThe following issues were found by automated rules:\n\n"

def bullet (f : Finding) : Except Decimal.LimitError String :=
  f.location.map fun location =>
    "- [" ++ capitalName f.severity ++ "] " ++ f.message ++
      (if location.isEmpty then "" else " (" ++ location ++ ")")

/-- The findings as a list under a header; nothing where there are none. -/
def findingsBlock (results : List SkillResult) : Except Decimal.LimitError String := do
  let bullets ← (allFindings results).mapM bullet
  return if bullets.isEmpty then ""
  else findingsHeader ++ String.intercalate "\n" bullets ++ "\n"

/-- What a skill tells a reviewer: its context and its checks in prose, where they are not empty. -/
def guidelineParts (skill : Skill) : List String :=
  let context := match skill.prompts.bind (·.additionalContext) with
    | some s => if s.isEmpty then [] else [Text.trim s]
    | none => []
  let checks := skill.rules.filterMap fun rule =>
    match rule.check with
    | some check => if check.isEmpty then none else some ("- " ++ rule.id ++ ": " ++ check)
    | none => none
  context ++ checks

/-- What a skill tells a reviewer, under its name. -/
def guidelineSection? (skill : Skill) : Option String :=
  let parts := guidelineParts skill
  if parts.isEmpty then none
  else some ("### " ++ skill.name ++ "\n\n" ++ String.intercalate "\n" parts)

/-- What all skills tell a reviewer; nothing where they tell nothing. -/
def guidelines (skills : List Skill) : String :=
  let sections := skills.filterMap guidelineSection?
  if sections.isEmpty then ""
  else "## Review Guidelines\n\n" ++ String.intercalate "\n\n" sections ++ "\n"

end Report
end PatchReview
