import PatchReview.Proofs.Command.Examination
import PatchReview.Proofs.Engine.Pool
import PatchReview.Proofs.Report.Recovery
import PatchReview.Proofs.Report.Table

/-!
# Reports agree

Each report goes through the results in its own way: a report for programs tells them skill by skill
and gives totals; the list for a reviewer has an item and the table on a console a row for each
finding, and something else stands in their place if there is no finding. Of what the engine makes
they all tell the same findings, because there a skill has passed just if it has none, whether it
was skipped or not.
-/

namespace PatchReview

/-- A skill that has passed, or was skipped, has no findings, and one without findings has
passed. -/
structure SkillResult.Coherent (r : SkillResult) : Prop where
  passed_iff : r.passed = true ↔ r.findings = []
  findings_of_skipped : r.skipped = true → r.findings = []

/-! ## What the engine makes -/

namespace Engine

variable {skill : Skill} {skills : List Skill} {d : Diff} {log log' : List LogEntry}
  {r : SkillResult}
  {results : List SkillResult}

/-- The result of a skill is coherent. -/
theorem coherent_of_executeSkill (h : (executeSkill skill d).run.run log = (.ok r, log')) :
    r.Coherent := by
  rw [executeSkill] at h
  split at h
  · rcases run_bind_eq_ok_iff.1 h with ⟨found, _, _, h⟩
    rcases run_bind_eq_ok_iff.1 h with ⟨_, _, _, h⟩
    cases h
    refine { passed_iff := List.isEmpty_iff, findings_of_skipped := ?_ }
    intro hskipped
    cases hskipped
  · rcases run_bind_eq_ok_iff.1 h with ⟨_, _, _, h⟩
    cases h
    exact { passed_iff := ⟨fun _ => rfl, fun _ => rfl⟩, findings_of_skipped := fun _ => rfl }

/-- So are the results of several. -/
theorem coherent_of_runSkills (h : (runSkills skills d).run.run log = (.ok results, log')) :
    ∀ r ∈ results, r.Coherent :=
  forall_of_run_mapM (fun _ _ _ _ _ hrun => coherent_of_executeSkill hrun) h

/-- Run one by one or several at a time, skills pass just if they find nothing. -/
theorem coherent_of_runScheduled {workers : Nat} {schedule : Pool → List Nat}
    (h : (runScheduled workers schedule skills d).run.run log = (.ok (some results), log')) :
    ∀ r ∈ results, r.Coherent := by
  rw [runScheduled] at h
  split at h
  · cases hpool : (Pool.ofSkills skills).run? workers d (schedule (.ofSkills skills)) with
    | none =>
      rw [hpool] at h
      cases h
    | some answer =>
      rcases answer with ⟨result, told⟩
      rw [hpool] at h
      rcases run_bind_eq_ok_iff.1 h with ⟨_, _, _, h⟩
      cases result with
      | error error =>
        cases h
      | ok made =>
        cases h
        intro r hr
        -- The result stands at the place of a skill, and is the one that the skill has on its own.
        rcases Report.exists_of_mem_mapM (Pool.of_run? hpool).1.symm hr with ⟨own, hown, hresult⟩
        rcases List.mem_map.1 hown with ⟨skill, _, rfl⟩
        have halone : (executeSkill skill d).run.run [] = (.ok r, (alone d skill).2) :=
          Prod.ext hresult rfl
        exact coherent_of_executeSkill halone
  · rcases run_bind_eq_ok_iff.1 h with ⟨made, _, hrun, h⟩
    cases h
    exact coherent_of_runSkills hrun

end Engine

namespace Report

open Console

variable {results : List SkillResult}

/-- All skills have passed just if there is no finding. -/
theorem all_passed_iff (h : ∀ r ∈ results, r.Coherent) :
    results.all (·.passed) = true ↔ allFindings results = [] := by
  rw [List.all_eq_true, allFindings, List.flatMap_eq_nil_iff]
  exact forall₂_congr fun r hr => (h r hr).passed_iff

/-! ## The list for a reviewer -/

def placeText (f : Finding) : String :=
  let file := match f.file with
    | some path => if path.isEmpty then [] else [path]
    | none => []
  String.intercalate ", " (file ++ ((f.line.map toString).map ("line " ++ ·)).toList)

def itemText (f : Finding) : String :=
  "- [" ++ capitalName f.severity ++ "] " ++ f.message ++
    (if (placeText f).isEmpty then "" else " (" ++ placeText f ++ ")")

/-- A finding whose line can be written has its bullet. -/
theorem bullet_of_writable {f : Finding} (h : f.LineWritable) : bullet f = .ok (itemText f) := by
  rw [bullet, Finding.location, Finding.lineText_of_writable h]
  rfl

/-- The bullets can be written if the lines can. -/
theorem bullets_written (findings : List Finding) :
    ((findings.mapM bullet).map fun _ => ()) = linesWritten findings := by
  rw [mapM_written id bullet_written, List.map_id]

/-- There is no text for a reviewer just if there is no finding. -/
theorem findingsBlock_eq_empty_iff : findingsBlock results = .ok "" ↔ allFindings results = [] := by
  constructor
  · intro h
    rcases bind_eq_ok_iff.1 h with ⟨bullets, hbullets, h⟩
    cases hfindings : allFindings results with
    | nil =>
      rfl
    | cons f findings =>
      rw [hfindings, List.mapM_cons] at hbullets
      rcases bind_eq_ok_iff.1 hbullets with ⟨first, _, hbullets⟩
      rcases bind_eq_ok_iff.1 hbullets with ⟨rest, _, hbullets⟩
      cases hbullets
      -- The header is not empty, whatever the items are.
      have hblock : findingsHeader ++ String.intercalate "\n" (first :: rest) ++ "\n" = "" :=
        Except.ok.inj h
      exact absurd (String.append_eq_empty_iff.1 hblock).2 (by decide)
  · intro h
    rw [findingsBlock, h]
    rfl

/-! ## The table on a console -/

/-- The row that a table is given for a finding of a skill: a cell for the severity, and the other
texts. -/
def givenRow (entry : String × Finding) : Except Decimal.LimitError (List Char × List String) :=
  (rowTexts entry.1 entry.2).map fun texts => (severityCell entry.2.severity, texts)

/-- The rows that the table is given, if one is to be printed. -/
def givenRows? (results : List SkillResult) :
    Option (Except Decimal.LimitError (List (List Char × List String))) :=
  if (namedFindings results).isEmpty then none else some ((namedFindings results).mapM givenRow)

/-- The table of some rows, once their texts have been read. -/
def tableOf (rows : List (List Char × List String)) : Except TerminalError Table := do
  let cells ← (plainCells (rows.map (·.2)) 5).mapError .markup
  return { title := "Skill Findings", columns := findingColumns
           rows := (rows.zip cells).map fun row => row.1.1 :: row.2, ruled := true }

/-- What is printed in place of a table. -/
def notice (results : List SkillResult) : String :=
  if results.isEmpty then
    "[dim]No skills selected.[/dim]"
  else
    "[bold green]✅ All skills passed.[/bold green]"

/-- The rows of a table are their texts behind the severities. -/
theorem mapM_givenRow (findings : List (String × Finding)) :
    findings.mapM givenRow = (findings.mapM fun entry => rowTexts entry.1 entry.2).map
      ((findings.map fun entry => severityCell entry.2.severity).zip ·) := by
  induction findings with
  | nil =>
    rfl
  | cons entry findings ih =>
    rw [List.mapM_cons, List.mapM_cons, ih, givenRow]
    cases rowTexts entry.1 entry.2 with
    | error error =>
      rfl
    | ok texts =>
      cases findings.mapM fun entry : String × Finding => rowTexts entry.1 entry.2 <;> rfl

/-- Of rows that are zipped with cells, only the first items stand in front of the cells. -/
theorem map_zip_zip {α β : Type} {firsts : List α} {texts : List β}
    (h : firsts.length = texts.length) (cells : List (List α)) :
    (((firsts.zip texts).zip cells).map fun row => row.1.1 :: row.2) =
      List.zipWith List.cons firsts cells := by
  have hfirsts : (firsts.zip texts).map (·.1) = firsts := List.map_fst_zip h.le
  rw [List.map_zip_eq_zipWith]
  conv_rhs => rw [← hfirsts, List.zipWith_map_left]
  rfl

/-- The table is made of the rows, once these can be written. -/
theorem findingTable_eq_tableOf (findings : List (String × Finding)) :
    findingTable findings = ((findings.mapM givenRow).mapError .digits).bind tableOf := by
  rw [findingTable, mapM_givenRow]
  cases htexts : findings.mapM fun entry : String × Finding => rowTexts entry.1 entry.2 with
  | error error =>
    rfl
  | ok texts =>
    -- The texts alone are read; the severities go past the reading and stand in front again.
    have hlength : (findings.map fun entry => severityCell entry.2.severity).length =
        texts.length := by
      rw [List.length_map, length_of_mapM htexts]
    have hread : ((findings.map fun entry => severityCell entry.2.severity).zip texts).map
        (·.2) = texts :=
      List.map_snd_zip hlength.ge
    have hrows (cells : List (List (List Char))) :
        ((findings.zip cells).map fun row => severityCell row.1.2.severity :: row.2) =
          List.zipWith List.cons (findings.map fun entry => severityCell entry.2.severity)
            cells := by
      rw [List.map_zip_eq_zipWith, List.zipWith_map_left]
      rfl
    simp only [mapError_ok, Except.map, Except.bind, tableOf, hread, map_zip_zip hlength, ← hrows]
    rfl

/-- A report on a console with a table of some rows, or a notice in place of it, and the summary if
it is asked for. -/
def reportWith (columns : Nat) (results : List SkillResult) (diff : Option Diff) (summary : Bool)
    (rows? : Option (Except Decimal.LimitError (List (List Char × List String)))) :
    Screen TerminalError Unit := do
  printLine []
  match rows? with
  | none => printText columns (notice results)
  | some rows => printTable (← (rows.mapError .digits).bind tableOf)
  if summary then
    printLine []
    if let some d := diff then printText columns (diffLine d)
    results.forM fun r => printText columns (skillLine r)

/-- The table on a console is that of the given rows. -/
theorem terminal_eq_reportWith (columns : Nat) (results : List SkillResult) (diff : Option Diff)
    (summary : Bool) :
    terminal columns results diff summary =
      reportWith columns results diff summary (givenRows? results) := by
  rw [terminal, givenRows?]
  cases results with
  | nil =>
    rfl
  | cons r results =>
    cases hnone : (namedFindings (r :: results)).isEmpty with
    | true =>
      rfl
    | false =>
      simp only [findingTable_eq_tableOf]
      rfl

/-- The rows can be written if the lines can. -/
theorem rows_written (results : List SkillResult) :
    (((namedFindings results).mapM givenRow).map fun _ => ()) =
      linesWritten (allFindings results) := by
  rw [← map_namedFindings, ← mapM_rowTexts_written, mapM_givenRow]
  cases (namedFindings results).mapM fun entry : String × Finding =>
    rowTexts entry.1 entry.2 <;> rfl

/-- The row of a finding whose number can be written. -/
def shownRow (entry : String × Finding) : List Char × List String :=
  (severityCell entry.2.severity, shownTexts entry.1 entry.2)

/-- A finding whose line can be written has its row. -/
theorem givenRow_of_writable {entry : String × Finding} (h : entry.2.LineWritable) :
    givenRow entry = .ok (shownRow entry) := by
  rw [givenRow, rowTexts_of_writable h]
  rfl

/-- There are findings with names if there are findings. -/
theorem namedFindings_eq_nil_iff : namedFindings results = [] ↔ allFindings results = [] := by
  rw [← map_namedFindings, List.map_eq_nil_iff]

/-- There is no table just if there is no finding. -/
theorem givenRows?_eq_none_iff : givenRows? results = none ↔ allFindings results = [] := by
  rw [← namedFindings_eq_nil_iff, givenRows?, ← List.isEmpty_iff]
  cases (namedFindings results).isEmpty <;> simp

/-- If the lines can be written, the rows that are given are those of the findings, in
their order. -/
theorem eq_of_mem_givenRows? (h : ∀ f ∈ allFindings results, f.LineWritable)
    {rows : Except Decimal.LimitError (List (List Char × List String))}
    (hrows : rows ∈ givenRows? results) : rows = .ok ((namedFindings results).map shownRow) := by
  rw [givenRows?] at hrows
  split at hrows
  · cases hrows
  · cases hrows
    apply mapM_ok
    intro entry hentry
    rcases exists_of_mem_namedFindings hentry with ⟨r, hr, _, hf⟩
    exact givenRow_of_writable (h _ (List.mem_flatMap.2 ⟨r, hr, hf⟩))

/-- Otherwise no rows are given, and the error is told. -/
theorem givenRows?_of_not_writable (h : ¬ ∀ f ∈ allFindings results, f.LineWritable) :
    givenRows? results = some (.error .tooLongToWrite) := by
  have hfound : (namedFindings results).isEmpty = false := by
    rw [List.isEmpty_eq_false_iff, ne_eq, namedFindings_eq_nil_iff]
    intro hempty
    rw [hempty] at h
    exact h (by simp)
  have hrows := (rows_written results).trans (linesWritten_of_not_writable h)
  rw [givenRows?, hfound, map_eq_error_iff.1 hrows]
  rfl

/-! ## Agreement -/

/-- The findings that a record tells, each with the name of its skill. -/
def Record.namedFindings (record : Record) : List (String × Finding) :=
  record.entries.flatMap fun e => e.findings.map fun f => (e.skill, f)

/-- The record has the findings that the table has. -/
theorem Record.namedFindings_of (results : List SkillResult) (diff : Option Diff) :
    (Record.of results diff).namedFindings = Report.namedFindings results := by
  rw [Record.namedFindings, Record.of, List.flatMap_map]
  rfl

/-- What a report for programs tells, and what a reviewer and a console are given, are the same
findings. -/
structure Agree (results : List SkillResult) (diff : Option Diff) (record : Record) : Prop where
  total : record.totalFindings = (allFindings results).length
  entries : ∀ e ∈ record.entries, (e.passed = true ↔ e.findings = []) ∧
    (e.skipped = true → e.findings = [])
  passed_iff : record.passed = true ↔ record.totalFindings = 0
  block_iff : findingsBlock results = .ok "" ↔ record.totalFindings = 0
  table_iff : givenRows? results = none ↔ record.totalFindings = 0
  table : ∀ columns summary,
    terminal columns results diff summary =
    reportWith columns results diff summary (givenRows? results)
  told : record.namedFindings.map (·.2) = allFindings results
  /-- If the numbers of all lines can be written, there is an item and a row for each finding. -/
  written : (∀ f ∈ allFindings results, f.LineWritable) →
    json results diff = .ok (document results diff).write ∧
    (allFindings results).mapM bullet = .ok ((allFindings results).map itemText) ∧
    ∀ rows ∈ givenRows? results, rows = .ok (record.namedFindings.map shownRow)
  /-- If one of them cannot, there is no text, and there are neither items nor rows. -/
  refused : (¬ ∀ f ∈ allFindings results, f.LineWritable) →
    json results diff = .error .tooLongToWrite ∧
    (allFindings results).mapM bullet = .error .tooLongToWrite ∧
    givenRows? results = some (.error .tooLongToWrite)

/-- Results in which a skill has passed just if it has no findings are told alike by all reports. -/
theorem agree_of_coherent (h : ∀ r ∈ results, r.Coherent) (diff : Option Diff) :
    Agree results diff (.of results diff) := by
  have htotal : (Record.of results diff).totalFindings = 0 ↔ allFindings results = [] := by
    rw [Record.of, Int.natCast_eq_zero, List.length_eq_zero_iff]
  refine {
    total := rfl
    entries := ?entries
    passed_iff := (all_passed_iff h).trans htotal.symm
    block_iff := findingsBlock_eq_empty_iff.trans htotal.symm
    table_iff := givenRows?_eq_none_iff.trans htotal.symm
    table := fun columns => terminal_eq_reportWith columns results diff
    told := by rw [Record.namedFindings_of, map_namedFindings]
    written := fun hlines => ⟨json_eq_ok_iff.2 ⟨hlines, rfl⟩, ?bullets, ?rows⟩
    refused := fun hlines => ⟨?text, ?noBullets, givenRows?_of_not_writable hlines⟩ }
  case entries =>
    intro e he
    rcases List.mem_map.1 he with ⟨r, hr, rfl⟩
    exact ⟨(h r hr).passed_iff, (h r hr).findings_of_skipped⟩
  case bullets =>
    exact mapM_ok fun f hf => bullet_of_writable (hlines f hf)
  case rows =>
    -- the record names the skills of its findings as the rows do
    rw [Record.namedFindings_of]
    exact fun rows hrows => eq_of_mem_givenRows? hlines hrows
  case text =>
    exact map_eq_error_iff.1
      ((json_written results diff).trans (linesWritten_of_not_writable hlines))
  case noBullets =>
    exact map_eq_error_iff.1 ((bullets_written _).trans (linesWritten_of_not_writable hlines))

/-- All reports on what the engine makes of skills and a diff tell the same findings in the same
order, as many as the total says. All skills have passed just if there is no finding; then there is
no list for a reviewer and no table. Items and rows are made if the numbers of all lines can be
written, and else no report is. -/
theorem reports_agree {workers : Nat} {schedule : Engine.Pool → List Nat} {skills : List Skill}
    {d : Diff} {log log' : List LogEntry}
    (hrun : (Engine.runScheduled workers schedule skills d).run.run log =
      (.ok (some results), log'))
    (diff : Option Diff) :
    ∃ record, Record.ofJson? (document results diff) = some record ∧ Agree results diff record := by
  have hentries : (results.map resultObject).mapM Entry.ofJson? = some (results.map Entry.of) := by
    have hentry : ∀ r, Entry.ofJson? (resultObject r) = pure (Entry.of r) :=
      fun r => Entry.ofJson?_resultWith _ r
    rw [List.mapM_map]
    simp only [Function.comp_def, hentry, List.mapM_pure]
    rfl
  refine ⟨.of results diff, Record.ofJson?_documentWith diff hentries, ?_⟩
  exact agree_of_coherent (Engine.coherent_of_runScheduled hrun) diff

/-- A skill that finds something, one that finds nothing and one for other files. -/
def mixedSkills : List Skill := [
  Skill.noEval,
  { Skill.noEval with name := "quiet", rules := [] },
  { Skill.noEval with
    name := "other", triggers := [{ fileExtensions := some [".js"], pathContains := none }] }]

theorem findings_mixedSkills : allFindings (mixedSkills.map (Engine.outcome Command.evalDiff)) =
    [{ ruleId := "R", message := "m", severity := .critical, file := some "f.py",
        line := some 1 }] := by
  decide

theorem compiles_of_mem_mixedSkills :
    ∀ skill ∈ mixedSkills, ∀ rule ∈ skill.rules, rule.Compiles := by
  have hcompile : (Pattern.compile "eval").toOption.isSome = true := by decide
  have hrule : ∀ rule ∈ Skill.noEval.rules, rule.Compiles := by
    intro rule hrule pattern hpattern
    cases List.mem_singleton.1 hrule
    cases hpattern
    cases hresult : Pattern.compile "eval" with
    | error error =>
      rw [hresult] at hcompile
      cases hcompile
    | ok p =>
      exact ⟨p, rfl⟩
  intro skill hskill
  simp only [mixedSkills, List.mem_cons, List.not_mem_nil, or_false] at hskill
  rcases hskill with rfl | rfl | rfl
  · exact hrule
  · intro rule hnone
    cases hnone
  · exact hrule

theorem reports_agree_mixed :
    ∃ schedule log results record,
      (Engine.runScheduled 2 schedule mixedSkills Command.evalDiff).run.run [] =
      (.ok (some results), log) ∧
      results.map (·.skipped) = [false, false, true] ∧
      Record.ofJson? (document results (some Command.evalDiff)) = some record ∧
      record.totalFindings = 1 ∧ record.passed = false ∧
      (allFindings results).mapM bullet = .ok ["- [Critical] m (f.py, line 1)"] := by
  -- the last skill is begun first, and other turns follow until all are run
  have hbegun : ∃ p, (Engine.Pool.ofSkills mixedSkills).play? 2 Command.evalDiff [2, 0] =
      some p := ⟨_, rfl⟩
  rcases hbegun with ⟨p, hp⟩
  rcases Engine.Pool.exists_run?_append (by decide) hp with ⟨turns, answer, hturns⟩
  have hschedule : 1 < 2 → 1 < mixedSkills.length → ∃ answer,
      (Engine.Pool.ofSkills mixedSkills).run? 2 Command.evalDiff ([2, 0] ++ turns) = some answer :=
    fun _ _ => ⟨answer, hturns⟩
  have hresults : ∃ log,
      (Engine.runScheduled 2 (fun _ => [2, 0] ++ turns) mixedSkills Command.evalDiff).run.run [] =
      (.ok (some (mixedSkills.map (Engine.outcome Command.evalDiff))), log) :=
    Engine.exists_run_runScheduled compiles_of_mem_mixedSkills Command.evalDiff hschedule []
  rcases hresults with ⟨log, hrun⟩
  rcases reports_agree hrun (some Command.evalDiff) with ⟨record, hrecord, hagree⟩
  have htotal : record.totalFindings = 1 := by
    rw [hagree.total, findings_mixedSkills]
    rfl
  have hpassed : record.passed = false := by
    rw [← Bool.not_eq_true, hagree.passed_iff, htotal]
    decide
  have hlines : ∀ f ∈ allFindings (mixedSkills.map (Engine.outcome Command.evalDiff)),
      f.LineWritable := by
    rw [findings_mixedSkills]
    intro f hf n hn
    rw [List.mem_singleton.1 hf] at hn
    cases hn
    exact Decimal.lt_numberLimit_of_readDigits (s := "1".toList) (by decide)
  have hbullets := (hagree.written hlines).2.1
  rw [findings_mixedSkills] at hbullets
  refine ⟨_, log, _, record, hrun, by decide, hrecord, htotal, hpassed, ?_⟩
  rw [findings_mixedSkills, hbullets]
  decide

end Report
end PatchReview
