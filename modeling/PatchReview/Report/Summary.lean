import PatchReview.Finding
import PatchReview.Diff.Basic
import PatchReview.Json.Basic

/-!
# Reports for programs

The results as a JSON document: whether all skills passed, how many findings there are, and for each
skill its findings.
-/

namespace PatchReview
namespace Report

/-- A finding as an object; what is not known of its place is left out. -/
def findingObject (f : Finding) : Json :=
  let file := match f.file with
    | some path => [("file", Json.text path)]
    | none => []
  let line := match f.line with
    | some n => [("line", Json.int n)]
    | none => []
  .object ([("rule", .text f.ruleId), ("severity", .text f.severity.name),
    ("message", .text f.message)] ++ file ++ line)

/-- The result of a skill as an object, with the time in milliseconds to two places. -/
def resultObject (r : SkillResult) : Json :=
  .object [("skill", .text r.skill), ("passed", .bool r.passed), ("skipped", .bool r.skipped),
    ("execution_time_ms", .float (Decimal.roundPlaces 2 (r.executionTime * 1000))),
    ("findings", .list (r.findings.map findingObject))]

def diffObject (d : Diff) : Json :=
  .object [("files", .int d.files.length), ("additions", .int (d.count .addition)),
    ("deletions", .int (d.count .deletion))]

def document (results : List SkillResult) (diff : Option Diff) : Json :=
  .object ([("version", .text "1.0"), ("passed", .bool (results.all (·.passed))),
    ("total_findings", .int ((results.map (·.findings.length)).foldl (· + ·) 0 : Nat)),
    ("results", .list (results.map resultObject))] ++
    match diff with
    | some d => [("diff", diffObject d)]
    | none => [])

/-- The results as a JSON text, if the numbers of all lines can be written. -/
def json (results : List SkillResult) (diff : Option Diff) : Except Decimal.LimitError String := do
  let _ ← (allFindings results).mapM Finding.lineText
  return (document results diff).write

end Report
end PatchReview
