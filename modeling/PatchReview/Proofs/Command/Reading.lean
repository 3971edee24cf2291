import PatchReview.Proofs.Command.Planning
import PatchReview.Proofs.Diff.LineEnds

/-!
# What a check reads

A check reads the bytes of a diff, from a file or from the input. A text that ends its lines with
line feeds, with or without a carriage return in front, is scanned as it is: the report holds what
the skills find in the diff of that very text.
-/

namespace PatchReview

/-! ## The findings of a report -/

namespace Json

def member? (name : String) : Json → Option Json
  | .object members => members.lookup name
  | _ => none

def items : Json → List Json
  | .list items => items
  | _ => []

end Json

namespace Report

/-- The findings that a document reports, in its order. -/
def reported (document : Json) : List Json :=
  ((document.member? "results").map Json.items).getD [] |>.flatMap fun result =>
    ((result.member? "findings").map Json.items).getD []

/-- A document reports the findings of all results. -/
theorem reported_document (results : List SkillResult) (diff : Option Diff) :
    reported (document results diff) = (allFindings results).map findingObject := by
  have hresults : (document results diff).member? "results" =
      some (.list (results.map resultObject)) := by
    rfl
  have hfindings (r : SkillResult) :
      (resultObject r).member? "findings" = some (.list (r.findings.map findingObject)) := by
    rfl
  rw [reported, hresults]
  simp [Json.items, List.flatMap_map, hfindings, allFindings, List.map_flatMap]

end Report

namespace Command

/-! ## Reading -/

/-- The bytes of the diff: those of a file, or the input. -/
def Setting.diffBytes? (s : Setting) (path : Option String) (d : Disk) : Option (List UInt8) :=
  match path.filter (· != "-") with
  | none => some s.input
  | some path => (d.read (.ofText path)).toOption

/-- Bytes that are a text are read as that text with line feeds for its line ends. -/
theorem Setting.runOn_readDiff {s : Setting} {path : Option String} {desk : Desk}
    {bytes : List UInt8} {text : List Char} (hbytes : s.diffBytes? path desk.disk = some bytes)
    (htext : Text.decodeUtf8? bytes = some text) :
    (s.readDiff path).runOn desk =
      (.ok (some (String.ofList (Text.normalizeLineEnds text))), desk) := by
  rw [diffBytes?] at hbytes
  rw [readDiff]
  cases hpath : path.filter (· != "-") with
  | none =>
    rw [hpath] at hbytes
    cases hbytes
    dsimp only
    rw [htext]
    rfl
  | some place =>
    rw [hpath] at hbytes
    dsimp only at hbytes ⊢
    rw [Work.runOn_disk_bind]
    cases hread : desk.disk.read (.ofText place) with
    | error error =>
      rw [hread] at hbytes
      cases hbytes
    | ok found =>
      rw [hread] at hbytes
      cases hbytes
      dsimp only
      -- A file may hold bytes that are no text; here they are one, and nothing is replaced in it.
      rw [Text.decodeUtf8Lossy_of_decodeUtf8? htext]
      rfl

/-! ## Scanning -/

/-- Runs the planned skills against the diff of a text and reports their findings as JSON. -/
def Setting.scanText (s : Setting) (o : CheckOptions) (plan : CheckPlan) (text : String) :
    Work Ending := do
  let diff ← Work.ofExcept .digits (Diff.parse text)
  if o.verbose || o.debug then s.printSizes plan.directory diff
  let selected ← Engine.requested plan.directory plan.requests
  let results ← Engine.runAll (selected.map (·.skill)) diff
  let report ← Work.ofExcept .digits (Report.json results (some diff))
  printOutput report
  s.writeReport o { plan, diff, selected, results } (some report)
  return if failing plan.failOn results then .failure else .success

/-- A report as JSON is printed and written as it is. -/
theorem Setting.conclude_json (s : Setting) (o : CheckOptions) {x : Examination}
    (hformat : x.plan.format = .json) :
    s.conclude o x = do
      let report ← Work.ofExcept .digits (Report.json x.results (some x.diff))
      printOutput report
      s.writeReport o x (some report)
      return if failing x.plan.failOn x.results then .failure else .success := by
  rw [conclude, report, hformat]
  simp only [bind_assoc, pure_bind]

/-- To examine a text and report it as JSON is to scan it. -/
theorem Setting.examineText_bind_conclude (s : Setting) (o : CheckOptions) {plan : CheckPlan}
    (hformat : plan.format = .json) (text : String) :
    s.examineText o plan text >>= s.conclude o = s.scanText o plan text := by
  rw [examineText, scanText]
  split
  · simp only [bind_assoc, pure_bind, s.conclude_json o (x := ⟨plan, _, _, _⟩) hformat]
  · simp only [bind_assoc, pure_bind, s.conclude_json o (x := ⟨plan, _, _, _⟩) hformat]

/-- A planned check with a text to read examines the text and concludes. -/
theorem Setting.runOn_check_of_text {s : Setting} {o : CheckOptions} {plan : CheckPlan}
    {text : String} {desk desk₁ desk₂ : Desk}
    (hplan : (s.plan o).runOn desk = (.ok (some plan), desk₁))
    (hread : (s.readDiff o.diffPath).runOn desk₁ = (.ok (some text), desk₂)) :
    (s.check o).runOn desk = (s.examineText o plan text >>= s.conclude o).runOn desk₂ := by
  rw [check, examine, bind_assoc, Work.runOn_bind_of_ok hplan]
  dsimp only
  rw [bind_assoc, Work.runOn_bind_of_ok hread]
  simp only [bind_assoc, pure_bind]

/-- A check that is planned and reports as JSON scans the text that its bytes are, with line feeds
for its line ends; if carriage returns stand in front of line feeds alone, that is to scan the text
as it is. The report holds the findings of that scan. -/
theorem Setting.runOn_check_json {s : Setting} {o : CheckOptions} {plan : CheckPlan}
    {desk desk₁ : Desk} {bytes : List UInt8} {text : List Char}
    (hplan : (s.plan o).runOn desk = (.ok (some plan), desk₁)) (hformat : plan.format = .json)
    (hbytes : s.diffBytes? o.diffPath desk₁.disk = some bytes)
    (htext : Text.decodeUtf8? bytes = some text) :
    (s.check o).runOn desk =
        (s.scanText o plan (String.ofList (Text.normalizeLineEnds text))).runOn desk₁ ∧
      (Text.ReturnsEndLines text →
        (s.check o).runOn desk = (s.scanText o plan (String.ofList text)).runOn desk₁) ∧
      ∀ results diff, Report.reported (Report.document results diff) =
        (allFindings results).map Report.findingObject := by
  have hscan : (s.check o).runOn desk =
      (s.scanText o plan (String.ofList (Text.normalizeLineEnds text))).runOn desk₁ := by
    calc
      (s.check o).runOn desk
          = (s.examineText o plan (String.ofList (Text.normalizeLineEnds text)) >>=
            s.conclude o).runOn desk₁ :=
            runOn_check_of_text hplan (runOn_readDiff hbytes htext)
      _ = (s.scanText o plan (String.ofList (Text.normalizeLineEnds text))).runOn desk₁ := by
            rw [s.examineText_bind_conclude o hformat]
  refine ⟨hscan, ?_, Report.reported_document⟩
  intro hends
  rw [hscan, scanText, scanText, Diff.parse_normalizeLineEnds hends]

theorem Setting.runOn_check_json_crlf :
    let text := "diff --git a/f.py b/f.py\r\n@@ -0,0 +1,1 @@\r\n+eval(x)\r\n"
    let s : Setting := { input := Text.encodeUtf8 text }
    (s.check (noEvalOptions.withFormat .json)).runOn { disk := noEvalDisk } =
      (s.scanText (noEvalOptions.withFormat .json) (noEvalPlan .json) text).runOn
        { disk := noEvalDisk } := by
  intro text s
  have hends : Text.ReturnsEndLines text.toList := by decide
  have hcheck := (runOn_check_json (s.runOn_plan_noEval rfl rfl .json) rfl rfl
    (Text.decodeUtf8?_encodeUtf8 text)).2.1 hends
  rwa [String.ofList_toList] at hcheck

end Command
end PatchReview
