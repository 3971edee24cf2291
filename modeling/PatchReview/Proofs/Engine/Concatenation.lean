import Mathlib.Data.List.Perm.Basic
import PatchReview.Proofs.Diff.Merge
import PatchReview.Proofs.Engine.Outcome

/-!
# Findings in diffs one behind the other

Two diff texts one behind the other are read as the merge of what is read from each of them. A file
that stands in both has the hunks of both, so a rule finds in the merge just what it finds in the
two diffs, though not in the same order. A skill is run on the merge if it is run on one of them, so
that a check of the whole never misses what a check of a piece finds.
-/

namespace PatchReview

/-! ## Lists over merged tables -/

namespace Diff

section Lists

variable {α : Type} (F : File → List α) {earlier later : List File}

/-- In a table without a path twice, looking for a path and picking it out come to the same. -/
theorem filter_path_eq (h : (later.map (·.path)).Nodup) (path : String) :
    later.filter (fun g => path == g.path) = (later.find? (·.path == path)).toList := by
  induction later with
  | nil =>
    rfl
  | cons g later ih =>
    rw [List.map_cons, List.nodup_cons] at h
    by_cases hpath : g.path = path
    · have hrest : later.filter (fun g => path == g.path) = [] := by
        rw [ih h.2, find?_path_eq_none (hpath ▸ h.1), Option.toList_none]
      simp [hpath, hrest]
    · simp [hpath, Ne.symm hpath, ih h.2]

/-- The later files that have an earlier one, by the order of the earlier table. -/
theorem flatMap_find?_perm (hearlier : (earlier.map (·.path)).Nodup)
    (hlater : (later.map (·.path)).Nodup) :
    (earlier.flatMap fun f => (later.find? (·.path == f.path)).toList.flatMap F).Perm
      ((later.filter fun g => earlier.any (·.path == g.path)).flatMap F) := by
  induction earlier with
  | nil =>
    simp
  | cons f earlier ih =>
    rw [List.map_cons, List.nodup_cons] at hearlier
    -- The later file of the first path is none of those that belong to the rest.
    have hfirst : ((later.filter fun g => (f :: earlier).any (·.path == g.path)).filter
        fun g => f.path == g.path) = (later.find? (·.path == f.path)).toList := by
      rw [← filter_path_eq hlater, List.filter_filter]
      refine List.filter_congr fun g _ => ?_
      by_cases hg : f.path = g.path <;> simp [hg]
    have hrest : ((later.filter fun g => (f :: earlier).any (·.path == g.path)).filter
        fun g => !(f.path == g.path)) = later.filter fun g => earlier.any (·.path == g.path) := by
      rw [List.filter_filter]
      refine List.filter_congr fun g _ => ?_
      by_cases hg : f.path = g.path
      · have hnone : earlier.any (·.path == g.path) = false := by
          rw [← Bool.not_eq_true, any_path_iff, ← hg]
          exact hearlier.1
        simp [hg, hnone]
      · have hne : (f.path == g.path) = false := by
          simpa using hg
        simp [hne]
    have hsplit := List.filter_append_perm (fun g => f.path == g.path)
      (later.filter fun g => (f :: earlier).any (·.path == g.path))
    rw [hfirst, hrest] at hsplit
    calc
      ((f :: earlier).flatMap fun f => (later.find? (·.path == f.path)).toList.flatMap F)
          = (later.find? (·.path == f.path)).toList.flatMap F ++
              earlier.flatMap fun f => (later.find? (·.path == f.path)).toList.flatMap F :=
            List.flatMap_cons
      List.Perm _ ((later.find? (·.path == f.path)).toList.flatMap F ++
              (later.filter fun g => earlier.any (·.path == g.path)).flatMap F) :=
            (ih hearlier.2).append_left _
      _ = ((later.find? (·.path == f.path)).toList ++
              later.filter fun g => earlier.any (·.path == g.path)).flatMap F :=
            List.flatMap_append.symm
      List.Perm _ ((later.filter fun g => (f :: earlier).any (·.path == g.path)).flatMap F) :=
            hsplit.flatMap_right F

/-- What is listed for each file, and for added hunks behind the others, is listed for a merged
table as for its two parts. -/
theorem flatMap_mergeFiles_perm (hF : ∀ f g : File, g.path = f.path → F (f.andThen g) = F f ++ F g)
    (hearlier : (earlier.map (·.path)).Nodup) (hlater : (later.map (·.path)).Nodup) :
    ((mergeFiles earlier later).flatMap F).Perm (earlier.flatMap F ++ later.flatMap F) := by
  have hmerged : ∀ f : File, F (f.andThenIn later) =
      F f ++ (later.find? (·.path == f.path)).toList.flatMap F := by
    intro f
    rw [File.andThenIn]
    cases hfind : later.find? (·.path == f.path) with
    | none =>
      simp
    | some g =>
      have hpath : g.path = f.path := by
        simpa using List.find?_some hfind
      simp [hF f g hpath]
  have hearlierPart : ((earlier.map (File.andThenIn later)).flatMap F).Perm
      (earlier.flatMap F ++ (later.filter fun g => earlier.any (·.path == g.path)).flatMap F) := by
    rw [List.flatMap_map, List.flatMap_congr fun f _ => hmerged f]
    exact (List.flatMap_append_perm earlier _ _).symm.trans
      ((flatMap_find?_perm F hearlier hlater).append_left _)
  have hlaterPart := List.filter_append_perm (fun g => earlier.any (·.path == g.path)) later
  rw [mergeFiles, List.flatMap_append]
  refine (hearlierPart.append_right _).trans ?_
  rw [List.append_assoc, ← List.flatMap_append]
  exact (hlaterPart.flatMap_right F).append_left _

end Lists

end Diff

namespace Engine

/-! ## Triggers -/

/-- A trigger looks at nothing of a file but its path. -/
theorem triggerMatchesFile_congr (t : Skill.Trigger) {f g : Diff.File} (h : f.path = g.path) :
    triggerMatchesFile t f = triggerMatchesFile t g := by
  rw [triggerMatchesFile, triggerMatchesFile, Diff.File.extension, Diff.File.extension, h]

/-- A skill runs because of a path, and of nothing else in a file. -/
theorem shouldRun_iff_paths {skill : Skill} {d : Diff} :
    shouldRun skill d = true ↔
      ∃ t ∈ skill.triggers, ∃ path ∈ d.paths, triggerMatchesFile t { path := path } = true := by
  rw [shouldRun_iff]
  constructor
  · rintro ⟨t, ht, f, hf, hmatch⟩
    refine ⟨t, ht, f.path, List.mem_map_of_mem hf, ?_⟩
    rw [← hmatch]
    exact triggerMatchesFile_congr t rfl
  · rintro ⟨t, ht, path, hpath, hmatch⟩
    rcases List.mem_map.1 hpath with ⟨f, hf, rfl⟩
    refine ⟨t, ht, f, hf, ?_⟩
    rw [← hmatch]
    exact triggerMatchesFile_congr t rfl

/-- A skill applies to a merge if it applies to one of the two diffs. -/
theorem shouldRun_merge (skill : Skill) (x y : Diff) :
    shouldRun skill (x.merge y) = (shouldRun skill x || shouldRun skill y) := by
  have hpaths : ∀ path, path ∈ (x.merge y).paths ↔ path ∈ x.paths ∨ path ∈ y.paths :=
    fun path => Diff.mem_paths_mergeFiles
  rw [Bool.eq_iff_iff, Bool.or_eq_true, shouldRun_iff_paths, shouldRun_iff_paths,
    shouldRun_iff_paths]
  constructor
  · rintro ⟨t, ht, path, hpath, hmatch⟩
    rcases (hpaths path).1 hpath with hx | hy
    · exact .inl ⟨t, ht, path, hx, hmatch⟩
    · exact .inr ⟨t, ht, path, hy, hmatch⟩
  · rintro (⟨t, ht, path, hpath, hmatch⟩ | ⟨t, ht, path, hpath, hmatch⟩)
    · exact ⟨t, ht, path, (hpaths path).2 (.inl hpath), hmatch⟩
    · exact ⟨t, ht, path, (hpaths path).2 (.inr hpath), hmatch⟩

/-! ## Findings -/

/-- Hunks of a file one behind the other have their added lines one behind the other. -/
theorem addedLines_andThen (f g : Diff.File) :
    addedLines (f.andThen g) = addedLines f ++ addedLines g := by
  simp [addedLines, Diff.File.andThen]

/-- Hunks that are added are searched behind those before them. -/
theorem findingsInFile_andThen (rule : Skill.Rule) (found : String → Bool) {f g : Diff.File}
    (h : g.path = f.path) :
    findingsInFile rule found (f.andThen g) = findingsInFile rule found f ++
      findingsInFile rule found g := by
  have hpath : (f.andThen g).path = f.path := rfl
  rw [findingsInFile, findingsInFile, findingsInFile, addedLines_andThen, hpath, h,
    List.filter_append, List.map_append]

section Merge

variable {x y : Diff}

/-- In merged diffs a rule finds what it finds in each, in some order. -/
theorem ruleFindings_merge_perm (hx : x.paths.Nodup) (hy : y.paths.Nodup) (rule : Skill.Rule) :
    (ruleFindings (x.merge y) rule).Perm (ruleFindings x rule ++ ruleFindings y rule) := by
  rw [ruleFindings, ruleFindings, ruleFindings]
  split
  · exact Diff.flatMap_mergeFiles_perm _ (fun f g h => findingsInFile_andThen rule _ h) hx hy
  · exact List.Perm.refl _

/-- The rules find in a merge what they find in the two diffs. -/
theorem flatMap_ruleFindings_merge_perm (hx : x.paths.Nodup) (hy : y.paths.Nodup)
    (rules : List Skill.Rule) :
    (rules.flatMap (ruleFindings (x.merge y))).Perm
      (rules.flatMap (ruleFindings x) ++ rules.flatMap (ruleFindings y)) := by
  have hrules : ∀ rule ∈ rules,
      (ruleFindings (x.merge y) rule).Perm (ruleFindings x rule ++ ruleFindings y rule) :=
    fun rule _ => ruleFindings_merge_perm hx hy rule
  exact (List.Perm.flatMap_left rules hrules).trans (List.flatMap_append_perm rules _ _).symm

/-- The findings of a skill, if it is run. -/
theorem findings_outcome (d : Diff) (skill : Skill) :
    (outcome d skill).findings =
      if shouldRun skill d = true then skill.rules.flatMap (ruleFindings d) else [] := by
  rw [outcome]
  split <;> rfl

/-- A skill has passed if it has found nothing. -/
theorem passed_outcome_iff {d : Diff} {skill : Skill} :
    (outcome d skill).passed = true ↔ (outcome d skill).findings = [] := by
  rw [outcome]
  split <;> simp

/-- What a skill finds in one of two diffs it finds in their merge. -/
theorem count_findings_merge (hx : x.paths.Nodup) (hy : y.paths.Nodup) (skill : Skill)
    (finding : Finding) :
    (outcome x skill).findings.count finding + (outcome y skill).findings.count finding ≤
      (outcome (x.merge y) skill).findings.count finding := by
  have hmerge := (flatMap_ruleFindings_merge_perm hx hy skill.rules).count_eq finding
  rw [List.count_append] at hmerge
  rw [findings_outcome, findings_outcome, findings_outcome, shouldRun_merge]
  -- A diff that the skill is not run on has no findings, and those of its rules come on top.
  cases shouldRun skill x <;> cases shouldRun skill y <;> simp <;> omega

/-- A skill that passes a merge passes each of the two diffs. -/
theorem passed_of_passed_merge (hx : x.paths.Nodup) (hy : y.paths.Nodup) {skill : Skill}
    (h : (outcome (x.merge y) skill).passed = true) :
    (outcome x skill).passed = true ∧ (outcome y skill).passed = true := by
  rw [passed_outcome_iff] at h
  -- the two diffs have no more of any finding than their merge, which has none
  have hcount := count_findings_merge hx hy skill
  rw [h] at hcount
  constructor
  · rw [passed_outcome_iff, List.eq_nil_iff_forall_not_mem]
    intro finding
    exact List.count_eq_zero.1 (Nat.le_zero.1 ((Nat.le_add_right _ _).trans (hcount finding)))
  · rw [passed_outcome_iff, List.eq_nil_iff_forall_not_mem]
    intro finding
    exact List.count_eq_zero.1 (Nat.le_zero.1 ((Nat.le_add_left _ _).trans (hcount finding)))

end Merge

/-! ## Texts one behind the other -/

/-- A skill comes to a result in a diff. -/
theorem exists_run_executeSkill {skill : Skill} (h : ∀ rule ∈ skill.rules, rule.Compiles) (d : Diff)
    (log : List LogEntry) :
    ∃ log', (executeSkill skill d).run.run log = (.ok (outcome d skill), log') := by
  rcases exists_executeSkill_eq h d with ⟨entry, -, heq⟩
  rw [heq]
  exact ⟨log ++ [entry], rfl⟩

/-- A skill is run on two texts one behind the other if it is run on one of them, and then it finds
what its rules find in the two, each finding as often as in both together. So it passes the whole
only if it passes either text, and it finds in the whole what it finds in a text alone. -/
theorem executeSkill_concat {skill : Skill} (hcompiles : ∀ rule ∈ skill.rules, rule.Compiles)
    {a b : String} (ha : a = "" ∨ ∃ front, a = front ++ "\n")
    (hb : ∃ rest, b = "diff --git" ++ rest) {x y : Diff} (hx : Diff.parse a = .ok x)
    (hy : Diff.parse b = .ok y) (log : List LogEntry) :
    ∃ z rx ry rz foundX foundY, Diff.parse (a ++ b) = .ok z ∧
      ((executeSkill skill x).run.run log).1 = .ok rx ∧
      ((executeSkill skill y).run.run log).1 = .ok ry ∧
      ((executeSkill skill z).run.run log).1 = .ok rz ∧
      skill.rules.mapM (checkRule · x) = pure foundX ∧
      skill.rules.mapM (checkRule · y) = pure foundY ∧
      shouldRun skill z = (shouldRun skill x || shouldRun skill y) ∧
      (shouldRun skill z = true → rz.skipped = false ∧
        rz.findings.Perm (foundX.flatten ++ foundY.flatten)) ∧
      (rz.passed = true → rx.passed = true ∧ ry.passed = true) ∧
      ∀ finding, rx.findings.count finding + ry.findings.count finding ≤
        rz.findings.count finding := by
  rcases hb with ⟨rest, rfl⟩
  -- the diff of the whole text is the merge of the diffs
  have hz : Diff.parse (a ++ ("diff --git" ++ rest)) = .ok (x.merge y) := by
    rw [Diff.parse_append ha rest, hx, hy]
    rfl
  have hnodupX : x.paths.Nodup := Diff.nodup_paths_of_parse hx
  have hnodupY : y.paths.Nodup := Diff.nodup_paths_of_parse hy
  have hrun : ∀ d, ((executeSkill skill d).run.run log).1 = .ok (outcome d skill) := by
    intro d
    rcases exists_run_executeSkill hcompiles d log with ⟨log', heq⟩
    rw [heq]
  refine ⟨x.merge y, outcome x skill, outcome y skill, outcome (x.merge y) skill,
    skill.rules.map (ruleFindings x), skill.rules.map (ruleFindings y), hz, hrun x, hrun y, hrun _,
    mapM_checkRule hcompiles x, mapM_checkRule hcompiles y, shouldRun_merge skill x y, ?_,
    passed_of_passed_merge hnodupX hnodupY, count_findings_merge hnodupX hnodupY skill⟩
  intro htriggered
  have hfindings : (outcome (x.merge y) skill).findings =
      skill.rules.flatMap (ruleFindings (x.merge y)) := by
    rw [findings_outcome, if_pos htriggered]
  constructor
  · rw [outcome, if_pos htriggered]
  · rw [hfindings, ← List.flatMap_def, ← List.flatMap_def]
    exact flatMap_ruleFindings_merge_perm hnodupX hnodupY skill.rules

/-- A skill for files below `src/` that looks for two letters. -/
def lettersSkill : Skill where
  name := "s"
  version := "1"
  description := "d"
  triggers := [{ fileExtensions := none, pathContains := some ["src/"] }]
  rules := [
    { id := "r", severity := .warning, message := "m", pattern := some "b", check := none },
    { id := "q", severity := .info, message := "n", pattern := some "a", check := none }]
  prompts := none

theorem compiles_lettersSkill : ∀ rule ∈ lettersSkill.rules, rule.Compiles := by
  intro rule hrule pattern hpattern
  simp only [lettersSkill, List.mem_cons, List.not_mem_nil, or_false] at hrule
  rcases hrule with rfl | rfl
  · cases hpattern
    exact ⟨⟨.char (.literal .unicode 98), 1⟩, rfl⟩
  · cases hpattern
    exact ⟨⟨.char (.literal .unicode 97), 1⟩, rfl⟩

/-- A text with a file that this skill does not look at. -/
def earlierText : String := "diff --git a/b.py b/b.py\n@@ -0,0 +1,9 @@\n+b\n"

/-- A text with a file that it looks at, and with the other file once more. -/
def laterText : String :=
  "diff --git a/src/x b/src/x\n@@ -0,0 +1 @@\n+a b\ndiff --git a/b.py b/b.py\n@@ -7,0 +8 @@\n+a\n"

theorem parse_earlierText : Diff.parse earlierText =
    .ok { files := [{ path := "b.py", hunks := [⟨⟨0, 0, 1, 9, none⟩, [⟨.addition, "b"⟩]⟩] }] } := by
  have htext : earlierText.toList = _ := String.toList_ofList
  unfold Diff.parse
  rw [htext]
  rfl

theorem parse_laterText : Diff.parse laterText =
    .ok { files := [{ path := "src/x", hunks := [⟨⟨0, 0, 1, 1, none⟩, [⟨.addition, "a b"⟩]⟩] },
      { path := "b.py", hunks := [⟨⟨7, 0, 8, 1, none⟩, [⟨.addition, "a"⟩]⟩] }] } := by
  have htext : laterText.toList = _ := String.toList_ofList
  unfold Diff.parse
  rw [htext]
  rfl

/-- The findings of the two rules are those of both texts, also of the one on which the skill is not
run, in an order of their own. -/
theorem executeSkill_concat_not_triggered :
    ∃ z rz, Diff.parse (earlierText ++ laterText) = .ok z ∧
      ((executeSkill lettersSkill z).run.run []).1 = .ok rz ∧ rz.skipped = false ∧
      rz.findings.Perm [⟨"r", "m", .warning, some "b.py", some 1⟩,
        ⟨"r", "m", .warning, some "src/x", some 1⟩,
        ⟨"q", "n", .info, some "src/x", some 1⟩, ⟨"q", "n", .info, some "b.py", some 8⟩] := by
  have hends : earlierText = "diff --git a/b.py b/b.py\n@@ -0,0 +1,9 @@\n+b" ++ "\n" := by
    decide
  have hbegins : laterText = "diff --git" ++
      " a/src/x b/src/x\n@@ -0,0 +1 @@\n+a b\ndiff --git a/b.py b/b.py\n@@ -7,0 +8 @@\n+a\n" := by
    decide
  rcases executeSkill_concat compiles_lettersSkill (.inr ⟨_, hends⟩) ⟨_, hbegins⟩ parse_earlierText
      parse_laterText [] with
    ⟨z, rx, ry, rz, foundX, foundY, hz, -, -, hrun, hfoundX, hfoundY, htriggered, hfindings, -, -⟩
  refine ⟨z, rz, hz, hrun, ?_⟩
  have hrules := hfindings (htriggered.trans (by decide))
  refine ⟨hrules.1, hrules.2.trans ?_⟩
  have hX : foundX = [[⟨"r", "m", .warning, some "b.py", some 1⟩], []] := by
    have hlists := congrArg (fun run : Run _ => (run.run.run []).1) hfoundX
    refine Except.ok.inj (hlists.symm.trans ?_)
    decide
  have hY : foundY = [[⟨"r", "m", .warning, some "src/x", some 1⟩],
      [⟨"q", "n", .info, some "src/x", some 1⟩, ⟨"q", "n", .info, some "b.py", some 8⟩]] := by
    have hlists := congrArg (fun run : Run _ => (run.run.run []).1) hfoundY
    refine Except.ok.inj (hlists.symm.trans ?_)
    decide
  rw [hX, hY]
  decide

end Engine
end PatchReview
