import PatchReview.Proofs.Command.Examination
import PatchReview.Proofs.Command.Reporting

/-!
# The severity gate

A check fails if a rule that is grave enough finds an added line. Nothing but the numbers of the
lines can come in between: they are written before the check ends. A lower level never lets a check
pass that fails at a higher one.
-/

namespace PatchReview

/-- A severity has its rank by its name. -/
theorem Severity.rankOf_name (level : Severity) : rankOf level.name = level.rank := by
  cases level <;> rfl

/-- A trigger of the skill applies to the diff, and the pattern of a rule that is as grave as a
level occurs in an added line of it. -/
def Skill.FindsFrom (level : Severity) (d : Diff) (skill : Skill) : Prop :=
  (∃ t ∈ skill.triggers, ∃ f ∈ d.files, Engine.triggerMatchesFile t f = true) ∧
  ∃ rule ∈ skill.rules, ∃ text pattern,
    rule.pattern = some text ∧ Pattern.compile text = .ok pattern ∧
    level.rank ≤ rule.severity.rank ∧
    ∃ f ∈ d.files, ∃ hunk ∈ f.hunks, ∃ line ∈ hunk.lines,
      line.kind = .addition ∧ pattern.occursIn line.content = true

namespace Command

/-! ## The gate -/

/-- The check fails by its plan: a selected skill finds something in the diff that is as grave as
the level. -/
def Examination.Fails (x : Examination) : Prop :=
  ∃ level, x.plan.failOn = some level ∧ ∃ l ∈ x.selected, l.skill.FindsFrom level x.diff

/-- A check fails if a finding reaches the level, if there is one. -/
theorem failing_iff {failOn : FailOn} {results : List SkillResult} :
    failing failOn results = true ↔
      ∃ level, failOn = some level ∧ ∃ r ∈ results, ∃ f ∈ r.findings,
        level.rank ≤ f.severity.rank := by
  cases failOn with
  | none =>
    simp [failing]
  | some level =>
    simp [failing, SkillResult.findingsAtOrAbove, Severity.atOrAbove, Severity.rankOf_name]

/-- A lower level lets no results pass that fail at a higher one. -/
theorem failing_of_lower {level lower : Severity} (h : lower.rank ≤ level.rank)
    {results : List SkillResult} (hfail : failing (some level) results = true) :
    failing (some lower) results = true := by
  rcases failing_iff.1 hfail with ⟨_, heq, r, hr, f, hf, hrank⟩
  cases heq
  exact failing_iff.2 ⟨lower, rfl, r, hr, f, hf, h.trans hrank⟩

/-- An outcome reaches the level if a rule of that severity matches an added line. -/
theorem exists_grave_outcome {d : Diff} {skill : Skill} {level : Severity} :
    (∃ finding ∈ (Engine.outcome d skill).findings, level.rank ≤ finding.severity.rank) ↔
      skill.FindsFrom level d := by
  constructor
  · rintro ⟨finding, hmem, hrank⟩
    rcases Engine.mem_findings_outcome.1 hmem with ⟨hrun, rule, hrule, hfinding⟩
    refine ⟨Engine.shouldRun_iff.1 hrun, rule, hrule, ?_⟩
    exact (Engine.exists_mem_ruleFindings (p := fun severity => level.rank ≤ severity.rank)).1
      ⟨finding, hfinding, hrank⟩
  · rintro ⟨htriggers, rule, hrule, hfound⟩
    rcases (Engine.exists_mem_ruleFindings (p := fun severity => level.rank ≤ severity.rank)).2
      hfound with
      ⟨finding, hfinding, hrank⟩
    refine ⟨finding, Engine.mem_findings_outcome.2 ⟨?_, rule, hrule, hfinding⟩, hrank⟩
    exact Engine.shouldRun_iff.2 htriggers

/-- The findings make a check fail just if it fails by its plan. -/
theorem failing_iff_fails {x : Examination}
    (hresults : x.results = (x.selected.map (·.skill)).map (Engine.outcome x.diff)) :
    failing x.plan.failOn x.results = true ↔ x.Fails := by
  rw [failing_iff, hresults, Examination.Fails]
  simp only [List.map_map, List.mem_map, Function.comp_apply]
  constructor
  · rintro ⟨level, hlevel, _, ⟨l, hl, rfl⟩, hgrave⟩
    exact ⟨level, hlevel, l, hl, exists_grave_outcome.1 hgrave⟩
  · rintro ⟨level, hlevel, l, hl, hgrave⟩
    exact ⟨level, hlevel, _, ⟨l, hl, rfl⟩, exists_grave_outcome.2 hgrave⟩

/-! ## Exit codes -/

variable {s : Setting} {o : CheckOptions}

/-- A check that has examined its diff ends by concluding. -/
theorem Setting.runOn_check_of_examine {x : Examination} {desk desk' : Desk}
    (h : (s.examine o).runOn desk = (.ok (some x), desk')) :
    (s.check o).runOn desk = (s.conclude o x).runOn desk' := by
  rw [check, Work.runOn_bind_of_ok h]

/-! ## Lower levels -/

/-- Reports an examination and writes the report. -/
def Setting.deliver (s : Setting) (o : CheckOptions) (x : Examination) : Work Unit := do
  let report ← s.report x
  s.writeReport o x report

/-- The findings are looked at once the report is delivered. -/
theorem Setting.conclude_eq_map (o : CheckOptions) (x : Examination) :
    s.conclude o x =
      (fun _ => if failing x.plan.failOn x.results then .failure else .success) <$>
        s.deliver o x := by
  rw [conclude, deliver, map_bind]
  refine bind_congr fun report => ?_
  rw [map_eq_pure_bind]

/-- What fails at a level fails at each lower one. -/
theorem Setting.exitCode_conclude_of_lower (o : CheckOptions) {x : Examination}
    {level lower : Severity} (hrank : lower.rank ≤ level.rank) (hlevel : x.plan.failOn = some level)
    {desk : Desk} (hfail : exitCode ((s.conclude (o.withLevel level) x).runOn desk).1 = 1) :
    exitCode ((s.conclude (o.withLevel lower) (x.replan (.withLevel lower))).runOn desk).1 = 1 := by
  have hdelivered : s.deliver (o.withLevel lower) (x.replan (.withLevel lower)) =
      s.deliver (o.withLevel level) x := rfl
  rw [conclude_eq_map, Work.runOn_map] at hfail ⊢
  rw [hdelivered]
  cases hdone : ((s.deliver (o.withLevel level) x).runOn desk).1 with
  | error fault =>
    rfl
  | ok _ =>
    rw [hdone, hlevel] at hfail
    have hgrave : failing (some level) x.results = true := by
      by_contra hpass
      rw [Except.map, if_neg hpass] at hfail
      cases hfail
    show exitCode (.ok (if failing (some lower) x.results then .failure else .success)) = 1
    rw [failing_of_lower hrank hgrave]
    rfl

/-- A check that fails at a level fails at a lower one. -/
theorem Setting.exitCode_check_of_lower (o : CheckOptions) {level lower : Severity}
    (hrank : lower.rank ≤ level.rank) {desk : Desk}
    (hfail : exitCode ((s.check (o.withLevel level)).runOn desk).1 = 1) :
    exitCode ((s.check (o.withLevel lower)).runOn desk).1 = 1 := by
  rw [runOn_check_replan (examine_withLevel o level lower)]
  rw [check, Work.runOn_bind] at hfail
  rcases hexamine : (s.examine (o.withLevel level)).runOn desk with ⟨result, desk'⟩
  rw [hexamine] at hfail
  cases result with
  | error fault =>
    exact hfail
  | ok x? =>
    cases x? with
    | none =>
      exact hfail
    | some x =>
      have hlevel : x.plan.failOn = some level := by
        rcases (exists_of_examine hexamine).1 with ⟨desk₁, hplan⟩
        rcases failOn_of_plan hplan with ⟨config, _, hasked⟩
        have hname : (o.withLevel level).failOn ≠ "" := by
          show level.name ≠ ""
          cases level <;> decide
        rw [if_neg hname] at hasked
        exact (Option.some.inj ((FailOn.ofName?_name level).symm.trans hasked)).symm
      -- What is examined is the same; only the plan has the lower level.
      exact exitCode_conclude_of_lower o hrank hlevel hfail

/-! ## The exit code of a check -/

/-- If the lines can be written, the findings decide. -/
theorem verdict_of_writable {x : Examination} (h : ∀ f ∈ allFindings x.results, f.LineWritable) :
    verdict x = .ok (if failing x.plan.failOn x.results then .failure else .success) := by
  rw [verdict, Report.linesWritten_of_writable h]
  rfl

/-- Otherwise there is an error. -/
theorem verdict_of_not_writable {x : Examination}
    (h : ¬ ∀ f ∈ allFindings x.results, f.LineWritable) :
    verdict x = .error (.digits .tooLongToWrite) := by
  rw [verdict, Report.linesWritten_of_not_writable h]
  rfl

/-- A check whose report is printed as it is ends by its verdict. -/
theorem Setting.check_of_printed (houtput : o.output = "") {x : Examination} {desk desk' : Desk}
    (hexamine : (s.examine o).runOn desk = (.ok (some x), desk'))
    (hformat : x.plan.format ≠ .terminal)
    (hselect : x.plan.format = .prompt → ∃ skills desk'',
      x.plan.select.runOn desk' = (.ok skills, desk'')) :
    ((s.check o).runOn desk).1 = verdict x := by
  rw [runOn_check_of_examine hexamine]
  cases hplanned : x.plan.format with
  | terminal =>
    exact absurd hplanned hformat
  | json =>
    exact conclude_of_json houtput hplanned
  | prompt =>
    rcases hselect hplanned with ⟨skills, desk'', hskills⟩
    exact conclude_of_prompt houtput hplanned hskills

/-- A check that reports on the output, and in whose course nothing fails, ends with code 1 just if
it fails by its plan, and with code 0 otherwise. The one thing to fail after that is to write the
number of a line, where it has too many digits; then the check is given up, whatever its level. The
level is the one that is asked for or else the configured one, and a lower one lets no check pass
that fails. -/
theorem Setting.check_gates (houtput : o.output = "") {x : Examination} {desk desk' : Desk}
    (hexamine : (s.examine o).runOn desk = (.ok (some x), desk'))
    (hformat : x.plan.format ≠ .terminal)
    (hselect : x.plan.format = .prompt → ∃ skills desk'',
      x.plan.select.runOn desk' = (.ok skills, desk'')) :
    ((∀ f ∈ allFindings x.results, f.LineWritable) →
      ∃ ending, ((s.check o).runOn desk).1 = .ok ending ∧
        (ending.code = 1 ↔ x.Fails) ∧ (ending.code = 0 ↔ ¬ x.Fails)) ∧
    ((¬ ∀ f ∈ allFindings x.results, f.LineWritable) →
      ((s.check o).runOn desk).1 = .error (.digits .tooLongToWrite)) ∧
    (∃ config, Config.load s.bounds desk.disk s.environment desk.disk.workingDirectory o.config =
      .ok config ∧
      if o.failOn = "" then x.plan.failOn = config.failOn
      else FailOn.ofName? o.failOn = some x.plan.failOn) ∧
    ∀ level lower : Severity, lower.rank ≤ level.rank →
      exitCode ((s.check (o.withLevel level)).runOn desk).1 = 1 →
        exitCode ((s.check (o.withLevel lower)).runOn desk).1 = 1 := by
  rcases exists_of_examine hexamine with ⟨⟨desk₁, hplan⟩, hresults⟩
  have hverdict := check_of_printed houtput hexamine hformat hselect
  refine ⟨fun hlines => ?_, fun hlines => ?_, failOn_of_plan hplan, ?_⟩
  · rw [verdict_of_writable hlines] at hverdict
    refine ⟨_, hverdict, ?_⟩
    rw [← failing_iff_fails hresults]
    cases failing x.plan.failOn x.results <;> decide
  · rw [hverdict, verdict_of_not_writable hlines]
  · intro level lower hrank hfail
    exact exitCode_check_of_lower o hrank hfail

theorem Setting.exitCode_check_evalDiff :
    let s : Setting := { input := Text.encodeUtf8 evalDiffText }
    exitCode ((s.check (noEvalOptions.withFormat .json)).runOn { disk := noEvalDisk }).1 = 1 := by
  intro s
  rcases s.exists_runOn_examine_noEval rfl rfl rfl parse_evalDiffText .json with ⟨log, hexamine⟩
  have hlines : ∀ f ∈ allFindings [Engine.outcome evalDiff Skill.noEval], f.LineWritable := by
    rw [findings_evalDiff]
    intro f hf n hn
    rw [List.mem_singleton.1 hf] at hn
    cases hn
    decide +kernel
  have hpattern : (Pattern.compile "eval").toOption.any (·.occursIn "eval(x)") = true := by
    decide +kernel
  rcases (check_gates rfl hexamine (by decide) nofun).1 hlines with ⟨ending, hend, hcode, _⟩
  rw [hend]
  refine hcode.2 ⟨.critical, rfl, noEvalLoaded, List.mem_singleton.2 rfl, ?_, ?_⟩
  · refine ⟨_, List.mem_singleton.2 rfl, _, List.mem_singleton.2 rfl, ?_⟩
    decide +kernel
  · cases hcompile : Pattern.compile "eval" with
    | error error =>
      rw [hcompile] at hpattern
      cases hpattern
    | ok pattern =>
      rw [hcompile] at hpattern
      exact ⟨_, List.mem_singleton.2 rfl, "eval", pattern, rfl, hcompile, le_refl _, _,
        List.mem_singleton.2 rfl, _, List.mem_singleton.2 rfl, _, List.mem_singleton.2 rfl, rfl,
        hpattern⟩

end Command
end PatchReview
