import PatchReview.Engine.Selection
import PatchReview.Proofs.Work

/-!
# Outcomes of skills

What a skill comes to depends on the skill and the diff alone: it is run if a trigger applies, and
then every rule finds the added lines that its pattern occurs in. Skills whose patterns compile are
run without a fault.
-/

namespace PatchReview

/-- The pattern of the rule compiles, if it has one. -/
def Skill.Rule.Compiles (rule : Skill.Rule) : Prop :=
  ∀ pattern, rule.pattern = some pattern → ∃ p, Pattern.compile pattern = .ok p

namespace Engine

/-! ## Rules -/

/-- The added lines are the lines of the hunks that are additions. -/
theorem exists_mem_numberFrom (n : Nat) (lines : List Diff.Line) (line : Diff.Line)
    (hline : line.kind ≠ .deletion) :
    (∃ m, (m, line) ∈ Diff.Hunk.numberFrom n lines) ↔ line ∈ lines := by
  induction lines generalizing n with
  | nil =>
    simp [Diff.Hunk.numberFrom]
  | cons first lines ih =>
    rw [Diff.Hunk.numberFrom]
    split
    -- A deleted line has no number in the new file, and it is not the line in question.
    · rename_i hfirst
      have hne : line ≠ first := by
        rintro rfl
        exact hline (by simpa using hfirst)
      rw [ih, List.mem_cons, or_iff_right hne]
    · simp only [List.mem_cons, Prod.mk.injEq, exists_or, ih]
      simp

/-- For what is added, the numbers of lines play no part. -/
theorem exists_mem_addedLines {f : Diff.File} {content : String} :
    (∃ n, (n, content) ∈ addedLines f) ↔
      ∃ hunk ∈ f.hunks, ∃ line ∈ hunk.lines, line.kind = .addition ∧ line.content = content := by
  constructor
  · rintro ⟨n, hmem⟩
    rcases List.mem_flatMap.1 hmem with ⟨hunk, hhunk, hadded⟩
    rcases List.mem_map.1 hadded with ⟨⟨m, line⟩, hline, heq⟩
    rcases List.mem_filter.1 hline with ⟨hnumbered, hkind⟩
    simp only [Prod.mk.injEq] at heq
    have hkind' : line.kind = .addition := by simpa using hkind
    have hin := (exists_mem_numberFrom _ hunk.lines line (by simp [hkind'])).1 ⟨m, hnumbered⟩
    exact ⟨hunk, hhunk, line, hin, hkind', heq.2⟩
  · rintro ⟨hunk, hhunk, line, hline, hkind, rfl⟩
    rcases (exists_mem_numberFrom hunk.header.newStart hunk.lines line (by simp [hkind])).2
      hline with
      ⟨m, hnumbered⟩
    refine ⟨m, List.mem_flatMap.2 ⟨hunk, hhunk, List.mem_map.2 ⟨(m, line), ?_, rfl⟩⟩⟩
    exact List.mem_filter.2 ⟨hnumbered, by simp [hkind]⟩

/-- The findings of a rule are there for added lines, and are as grave as the rule. -/
theorem exists_mem_findingsOf {rule : Skill.Rule} {found : String → Bool} {d : Diff}
    {p : Severity → Prop} :
    (∃ finding ∈ findingsOf rule found d, p finding.severity) ↔
      p rule.severity ∧ ∃ f ∈ d.files, ∃ hunk ∈ f.hunks, ∃ line ∈ hunk.lines,
        line.kind = .addition ∧ found line.content = true := by
  constructor
  · rintro ⟨finding, hmem, hp⟩
    rcases List.mem_flatMap.1 hmem with ⟨f, hf, hinfile⟩
    rcases List.mem_map.1 hinfile with ⟨⟨n, content⟩, hline, rfl⟩
    rcases List.mem_filter.1 hline with ⟨hadded, hfound⟩
    rcases exists_mem_addedLines.1 ⟨n, hadded⟩ with ⟨hunk, hhunk, line, hin, hkind, rfl⟩
    exact ⟨hp, f, hf, hunk, hhunk, line, hin, hkind, hfound⟩
  · rintro ⟨hp, f, hf, hunk, hhunk, line, hin, hkind, hfound⟩
    rcases exists_mem_addedLines.2 ⟨hunk, hhunk, line, hin, hkind, rfl⟩ with ⟨n, hadded⟩
    refine ⟨_, List.mem_flatMap.2 ⟨f, hf, List.mem_map.2 ⟨(n, line.content), ?_, rfl⟩⟩, hp⟩
    exact List.mem_filter.2 ⟨hadded, hfound⟩

/-- The findings of a rule in a diff. -/
def ruleFindings (d : Diff) (rule : Skill.Rule) : List Finding :=
  match rule.pattern.map Pattern.compile with
  | some (.ok p) => findingsOf rule p.occursIn d
  | _ => []

/-- A rule finds something of a severity if the severity is its own and its pattern occurs in an
added line. -/
theorem exists_mem_ruleFindings {rule : Skill.Rule} {d : Diff} {p : Severity → Prop} :
    (∃ finding ∈ ruleFindings d rule, p finding.severity) ↔
      ∃ text pattern, rule.pattern = some text ∧ Pattern.compile text = .ok pattern ∧
        p rule.severity ∧
        ∃ f ∈ d.files, ∃ hunk ∈ f.hunks, ∃ line ∈ hunk.lines,
          line.kind = .addition ∧ pattern.occursIn line.content = true := by
  rw [ruleFindings]
  cases hpattern : rule.pattern with
  | none =>
    simp
  | some text =>
    cases hcompile : Pattern.compile text with
    | error error =>
      simp [hcompile]
    | ok pattern =>
      simp [hcompile, exists_mem_findingsOf]

/-! ## Skills -/

/-- What a skill comes to in a diff. -/
def outcome (d : Diff) (skill : Skill) : SkillResult :=
  if shouldRun skill d then
    let findings := skill.rules.flatMap (ruleFindings d)
    { skill := skill.name, passed := findings.isEmpty, findings }
  else { skill := skill.name, passed := true, skipped := true }

theorem skill_outcome (d : Diff) (skill : Skill) : (outcome d skill).skill = skill.name := by
  rw [outcome]
  split <;> rfl

theorem skipped_outcome (d : Diff) (skill : Skill) :
    (outcome d skill).skipped = !shouldRun skill d := by
  rw [outcome]
  cases shouldRun skill d <;> rfl

/-- A skill runs if one of its triggers matches one of the files. -/
theorem shouldRun_iff {skill : Skill} {d : Diff} :
    shouldRun skill d = true ↔
      ∃ t ∈ skill.triggers, ∃ f ∈ d.files, triggerMatchesFile t f = true := by
  simp [shouldRun, triggerMatches, List.any_eq_true]

/-- A skill that runs has the findings of its rules, and one that does not run has none. -/
theorem mem_findings_outcome {d : Diff} {skill : Skill} {finding : Finding} :
    finding ∈ (outcome d skill).findings ↔
      shouldRun skill d = true ∧ ∃ rule ∈ skill.rules, finding ∈ ruleFindings d rule := by
  rw [outcome]
  cases hrun : shouldRun skill d with
  | true =>
    simp
  | false =>
    simp

/-! ## Runs -/

/-- A rule whose pattern compiles finds its findings, and nothing is told. -/
theorem checkRule_eq {rule : Skill.Rule} (h : rule.Compiles) (d : Diff) :
    checkRule rule d = pure (ruleFindings d rule) := by
  rw [checkRule, ruleFindings]
  cases hpattern : rule.pattern with
  | none =>
    rfl
  | some text =>
    rcases h text hpattern with ⟨p, hp⟩
    simp [hp]

/-- So do several rules, one after the other. -/
theorem mapM_checkRule {rules : List Skill.Rule} (h : ∀ rule ∈ rules, rule.Compiles) (d : Diff) :
    rules.mapM (checkRule · d) = pure (rules.map (ruleFindings d)) := by
  induction rules with
  | nil =>
    rfl
  | cons rule rules ih =>
    rw [List.mapM_cons, checkRule_eq (h rule List.mem_cons_self),
      ih fun r hr => h r (List.mem_cons_of_mem _ hr)]
    simp

/-- A skill whose patterns compile has its outcome, and a message is told, which is not a
warning. -/
theorem exists_executeSkill_eq {skill : Skill} (h : ∀ rule ∈ skill.rules, rule.Compiles)
    (d : Diff) :
    ∃ entry, entry.level = .debug ∧ executeSkill skill d = do
      tell entry
      return outcome d skill := by
  rw [executeSkill, outcome]
  cases shouldRun skill d with
  | true =>
    rw [if_pos rfl, mapM_checkRule h, pure_bind, if_pos rfl, List.flatMap_def]
    exact ⟨_, rfl, rfl⟩
  | false =>
    exact ⟨_, rfl, rfl⟩

/-- Skills whose patterns compile have their outcomes, in their order; besides, messages are
told. -/
theorem exists_run_runSkills {skills : List Skill}
    (h : ∀ skill ∈ skills, ∀ rule ∈ skill.rules, rule.Compiles) (d : Diff) (log : List LogEntry) :
    ∃ log', (runSkills skills d).run.run log = (.ok (skills.map (outcome d)), log') := by
  refine exists_run_mapM (fun skill hmem log => ?_) log
  rcases exists_executeSkill_eq (h skill hmem) d with ⟨entry, -, heq⟩
  rw [heq]
  exact ⟨log ++ [entry], rfl⟩

/-- Running skills whose patterns compile gives their outcomes, and leaves all but the log as
it is. -/
theorem exists_runOn_runAll {skills : List Skill}
    (h : ∀ skill ∈ skills, ∀ rule ∈ skill.rules, rule.Compiles) (d : Diff) (desk : Desk) :
    ∃ log, (runAll skills d).runOn desk = (.ok (skills.map (outcome d)), { desk with log }) := by
  rcases exists_run_runSkills h d desk.log with ⟨log, hrun⟩
  refine ⟨log, ?_⟩
  rw [runAll, Work.runOn_get_bind, hrun]
  rfl

end Engine
end PatchReview
