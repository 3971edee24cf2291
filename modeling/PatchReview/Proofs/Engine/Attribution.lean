import PatchReview.Proofs.Engine.Requests
import PatchReview.Proofs.Skill.Validity

/-!
# Where findings come from

A finding belongs to a rule and to an added line of the diff that the pattern of the rule occurs in.
A skill that was loaded is run without a rule being passed over; its findings are those of its
rules, and the id of a finding names one of them.
-/

namespace PatchReview
namespace Engine

/-- A finding of a rule at an added line of a diff: it says of the rule what the rule says of
itself, and stands at the number that the line has in the new file. -/
structure FoundBy (rule : Skill.Rule) (d : Diff) (finding : Finding) : Prop where
  ruleId : finding.ruleId = rule.id
  severity : finding.severity = rule.severity
  message : finding.message = rule.message
  line : ∃ text pattern, rule.pattern = some text ∧ Pattern.compile text = .ok pattern ∧
    ∃ f ∈ d.files, finding.file = some f.path ∧
      ∃ hunk ∈ f.hunks, ∃ n line, (n, line) ∈ hunk.numberedLines ∧ finding.line = some (n : Int) ∧
        line.kind = .addition ∧ pattern.occursIn line.content = true

/-! ## Rules -/

/-- The added lines of a file are those of its hunks, with their numbers. -/
theorem mem_addedLines_iff {f : Diff.File} {n : Nat} {content : String} :
    (n, content) ∈ addedLines f ↔
      ∃ hunk ∈ f.hunks, ∃ line, (n, line) ∈ hunk.numberedLines ∧ line.kind = .addition ∧
        line.content = content := by
  constructor
  · intro h
    rcases List.mem_flatMap.1 h with ⟨hunk, hhunk, hadded⟩
    rcases List.mem_map.1 hadded with ⟨⟨m, line⟩, hline, heq⟩
    rcases List.mem_filter.1 hline with ⟨hnumbered, hkind⟩
    simp only [Prod.mk.injEq] at heq
    rcases heq with ⟨rfl, rfl⟩
    exact ⟨hunk, hhunk, line, hnumbered, by simpa using hkind, rfl⟩
  · rintro ⟨hunk, hhunk, line, hnumbered, hkind, rfl⟩
    refine List.mem_flatMap.2 ⟨hunk, hhunk, List.mem_map.2 ⟨(n, line), ?_, rfl⟩⟩
    exact List.mem_filter.2 ⟨hnumbered, by simp [hkind]⟩

/-- The findings of a rule by a test stand at the added lines that pass it. -/
theorem mem_findingsOf_iff {rule : Skill.Rule} {found : String → Bool} {d : Diff}
    {finding : Finding} :
    finding ∈ findingsOf rule found d ↔
      finding.ruleId = rule.id ∧ finding.severity = rule.severity ∧ finding.message = rule.message ∧
        ∃ f ∈ d.files, finding.file = some f.path ∧
          ∃ hunk ∈ f.hunks, ∃ n line, (n, line) ∈ hunk.numberedLines ∧
            finding.line = some (n : Int) ∧
            line.kind = .addition ∧ found line.content = true := by
  constructor
  · intro h
    rcases List.mem_flatMap.1 h with ⟨f, hf, hinfile⟩
    rcases List.mem_map.1 hinfile with ⟨⟨n, content⟩, hline, rfl⟩
    rcases List.mem_filter.1 hline with ⟨hadded, hfound⟩
    rcases mem_addedLines_iff.1 hadded with ⟨hunk, hhunk, line, hnumbered, hkind, rfl⟩
    exact ⟨rfl, rfl, rfl, f, hf, rfl, hunk, hhunk, n, line, hnumbered, rfl, hkind, hfound⟩
  · rintro ⟨hid, hseverity, hmessage, f, hf, hfile, hunk, hhunk, n, line, hnumbered, hn,
      hkind, hfound⟩
    have hadded : (n, line.content) ∈ addedLines f :=
      mem_addedLines_iff.2 ⟨hunk, hhunk, line, hnumbered, hkind, rfl⟩
    refine List.mem_flatMap.2 ⟨f, hf, List.mem_map.2 ⟨(n, line.content), ?_, ?_⟩⟩
    · exact List.mem_filter.2 ⟨hadded, hfound⟩
    · rcases finding with ⟨id, message, severity, file, number⟩
      simp only at hid hseverity hmessage hfile hn
      rw [hid, hseverity, hmessage, hfile, hn]

/-- The findings of a rule in a diff are those that it is found to have at added lines. -/
theorem mem_ruleFindings_iff {rule : Skill.Rule} {d : Diff} {finding : Finding} :
    finding ∈ ruleFindings d rule ↔ FoundBy rule d finding := by
  rw [ruleFindings]
  cases hpattern : rule.pattern with
  | none =>
    refine iff_of_false List.not_mem_nil fun h => ?_
    rcases h.line with ⟨text, _, htext, _⟩
    rw [hpattern] at htext
    cases htext
  | some text =>
    dsimp only [Option.map_some]
    -- without a pattern that compiles nothing is found, and nothing is described
    cases hcompile : Pattern.compile text with
    | error error =>
      refine iff_of_false List.not_mem_nil fun h => ?_
      rcases h.line with ⟨text', _, htext, hpattern', _⟩
      cases hpattern.symm.trans htext
      cases hcompile.symm.trans hpattern'
    | ok pattern =>
      rw [mem_findingsOf_iff]
      constructor
      · rintro ⟨hid, hseverity, hmessage, hline⟩
        exact ⟨hid, hseverity, hmessage, text, pattern, hpattern, hcompile, hline⟩
      · intro h
        rcases h.line with ⟨text', pattern', htext, hpattern', hline⟩
        cases hpattern.symm.trans htext
        cases hcompile.symm.trans hpattern'
        exact ⟨h.ruleId, h.severity, h.message, hline⟩

/-! ## Skills -/

/-- Running a skill passes just if nothing is found; one that does not run passes and finds
nothing. -/
theorem passed_of_outcome (d : Diff) (skill : Skill) :
    ((outcome d skill).passed = true ↔ (outcome d skill).findings = []) ∧
      ((outcome d skill).skipped = true →
        (outcome d skill).passed = true ∧ (outcome d skill).findings = []) := by
  rw [outcome]
  cases shouldRun skill d with
  | true =>
    simp
  | false =>
    simp

/-- A skill that was loaded is run to its end: no rule is passed over, and no fault comes up. Its
findings are those of its rules, all of them if it is not skipped; the id of a finding is that of a
single rule, the one that found it. It passes just if nothing is found, and so it does if it is
skipped. -/
theorem executeSkill_of_loadable {skill : Skill} (h : skill.Loadable) (d : Diff)
    (log : List LogEntry) :
    skill.Valid ∧
    ∃ result entry, (executeSkill skill d).run.run log = (.ok result, log ++ [entry]) ∧
      (∀ rule pattern error, entry ≠ skippedRule rule pattern error) ∧
      (∀ finding ∈ result.findings, ∃ rule,
        skill.rules.filter (·.id == finding.ruleId) = [rule] ∧ FoundBy rule d finding) ∧
      (result.skipped = false →
        ∀ rule ∈ skill.rules, ∀ finding, FoundBy rule d finding → finding ∈ result.findings) ∧
      (result.passed = true ↔ result.findings = []) ∧
      (result.skipped = true → result.passed = true ∧ result.findings = []) := by
  have hvalid := h.valid
  rcases exists_executeSkill_eq hvalid.compiles d with ⟨entry, hlevel, heq⟩
  refine ⟨hvalid, outcome d skill, entry, ?_, ?_, ?_, ?_, passed_of_outcome d skill⟩
  · rw [heq]
    rfl
  · -- A rule that is passed over is told as a warning.
    rintro rule pattern error rfl
    cases hlevel
  · intro finding hfinding
    rcases mem_findings_outcome.1 hfinding with ⟨_, rule, hrule, hfound⟩
    have hby := mem_ruleFindings_iff.1 hfound
    exact ⟨rule, hby.ruleId ▸ Skill.filter_id_of_nodup hvalid.nodup_ids hrule, hby⟩
  · intro hskipped rule hrule finding hby
    have hrun : shouldRun skill d = true := by
      rw [skipped_outcome] at hskipped
      simpa using hskipped
    exact mem_findings_outcome.2 ⟨hrun, rule, hrule, mem_ruleFindings_iff.2 hby⟩

/-- A diff of two files. A deleted line and an unchanged one would be found too, if they counted. -/
def printDiff : Diff where
  files :=
    [{ path := "f.py"
       hunks :=
        [{ header := { oldStart := 1, oldCount := 2, newStart := 1, newCount := 3, heading := none }
           lines :=
            [{ kind := .deletion, content := "eval(x)" },
              { kind := .context, content := "print(0)" },
              { kind := .addition, content := "print(eval(x))" },
              { kind := .addition, content := "eval(y)" }] }] },
      { path := "g.py"
        hunks :=
        [{ header := { oldStart := 0, oldCount := 0, newStart := 1, newCount := 1, heading := none }
           lines := [{ kind := .addition, content := "print(1)" }] }] }]

/-- Two of three rules find lines, one line is found by both, and every finding leads back to its
rule. -/
theorem executeSkill_of_loadable_noPrint :
    Skill.noPrint.Loadable ∧ Skill.noPrint.rules.map (·.id) = ["P", "E", "M"] ∧
    ∃ result entry, (executeSkill Skill.noPrint printDiff).run.run [] = (.ok result, [entry]) ∧
      result.passed = false ∧
      result.findings.map (fun finding => (finding.ruleId, finding.file, finding.line)) =
        [("P", some "f.py", some 2), ("P", some "g.py", some 1), ("E", some "f.py", some 2),
          ("E", some "f.py", some 3)] ∧
      ∀ finding ∈ result.findings, ∃ rule,
        Skill.noPrint.rules.filter (·.id == finding.ruleId) = [rule] ∧
        FoundBy rule printDiff finding := by
  rcases exists_runOn_loadAll_pairDisk with ⟨_, hload⟩
  have hloadable : Skill.noPrint.Loadable :=
    .ofDirectory (l := ⟨_, Skill.noPrint⟩) hload (List.mem_cons_of_mem _ List.mem_cons_self)
  refine ⟨hloadable, rfl, ?_⟩
  rcases executeSkill_of_loadable hloadable printDiff [] with
    ⟨hvalid, result, entry, hrun, _, hfrom, _, hpassed, _⟩
  rcases exists_executeSkill_eq hvalid.compiles printDiff with ⟨_, _, heq⟩
  have hresult : result = outcome printDiff Skill.noPrint := by
    rw [heq] at hrun
    cases hrun
    rfl
  have hfindings : result.findings.map
      (fun finding => (finding.ruleId, finding.file, finding.line)) =
      [("P", some "f.py", some 2), ("P", some "g.py", some 1), ("E", some "f.py", some 2),
        ("E", some "f.py", some 3)] := by
    rw [hresult]
    decide +kernel
  have hfailed : result.passed = false := by
    rw [← Bool.not_eq_true, hpassed]
    intro hnone
    rw [hnone] at hfindings
    cases hfindings
  exact ⟨result, entry, hrun, hfailed, hfindings, hfrom⟩

end Engine
end PatchReview
