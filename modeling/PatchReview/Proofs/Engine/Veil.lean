import PatchReview.Proofs.Diff.Veil
import PatchReview.Proofs.Engine.Outcome

/-!
# Skills see through no veil

What a skill comes to depends on the paths and the additions of a diff, and on the numbers of the
additions; a veil leaves all of them. So the texts of removed and unchanged lines reach no finding.
-/

namespace PatchReview

/-! ## Numbers under a veil -/

namespace Diff

/-- The lines of the new file keep their numbers under a veil. -/
theorem Hunk.numberFrom_veiled (n : Nat) (lines : List Line) :
    numberFrom n (lines.map Line.veiled) = (numberFrom n lines).map fun (m, line) =>
      (m, line.veiled) := by
  induction lines generalizing n with
  | nil =>
    rfl
  | cons line lines ih =>
    rw [List.map_cons, numberFrom, numberFrom, Line.veiled_kind]
    split
    · exact ih n
    · rw [ih, List.map_cons]

end Diff

/-! ## Skills under a veil -/

namespace Engine

/-- Additions can be read through a veil. -/
theorem addedLines_veiled (f : Diff.File) : addedLines f.veiled = addedLines f := by
  have hlines : ∀ numbered : List (Nat × Diff.Line),
      ((numbered.map fun (n, line) => (n, line.veiled)).filter
          fun (_, line) => line.kind == .addition).map (fun (n, line) => (n, line.content)) =
        (numbered.filter fun (_, line) => line.kind == .addition).map
          fun (n, line) => (n, line.content) := by
    intro numbered
    induction numbered with
    | nil =>
      rfl
    | cons entry numbered ih =>
      rcases entry with ⟨n, line⟩
      by_cases hkind : line.kind = .addition
      · have hline : line.veiled = line := if_pos hkind
        simpa [hkind, hline] using ih
      · simpa [hkind] using ih
  rw [addedLines, addedLines, Diff.File.veiled, List.flatMap_map]
  refine List.flatMap_congr fun hunk _ => ?_
  rw [Diff.Hunk.numberedLines, Diff.Hunk.veiled, Diff.Hunk.numberFrom_veiled, hlines]
  rfl

/-- A rule looks at no contents but those of added lines. -/
theorem findingsOf_veiled (rule : Skill.Rule) (found : String → Bool) (d : Diff) :
    findingsOf rule found d.veiled = findingsOf rule found d := by
  rw [findingsOf, findingsOf, Diff.veiled, List.flatMap_map]
  refine List.flatMap_congr fun f _ => ?_
  rw [findingsInFile, findingsInFile, addedLines_veiled]
  rfl

/-- A skill comes to the same above the veil and below it, and tells the same. -/
theorem executeSkill_veiled (skill : Skill) (d : Diff) :
    executeSkill skill d.veiled = executeSkill skill d := by
  have hrun : shouldRun skill d.veiled = shouldRun skill d := by
    rw [shouldRun, shouldRun]
    refine congrArg skill.triggers.any (funext fun t => ?_)
    rw [triggerMatches, triggerMatches, Diff.veiled, List.any_map]
    rfl
  have hrule : (checkRule · d.veiled) = (checkRule · d) := by
    funext rule
    rw [checkRule, checkRule]
    simp only [findingsOf_veiled]
  rw [executeSkill, executeSkill, hrun, hrule]

end Engine

/-! ## Texts that differ where it does not show -/

namespace Diff

/-- Texts whose lines differ only in the texts of removed lines and of context that a hunk expects:
if one is read, so is the other, and the diffs differ in these texts alone. Files, headers, kinds of
lines, additions and numbers are the same, and every skill comes to the same. -/
theorem parse_differUnseen {text₁ text₂ : String}
    (h : ReadState.DifferUnseen {} (textLines text₁.toList) (textLines text₂.toList)) {d₁ : Diff}
    (h₁ : parse text₁ = .ok d₁) :
    ∃ d₂, parse text₂ = .ok d₂ ∧ d₁.veiled = d₂.veiled ∧
      (d₁.files.map fun f => f.hunks.map fun hunk => hunk.numberedLines.map fun (n, line) =>
        (n, line.veiled)) =
        (d₂.files.map fun f => f.hunks.map fun hunk => hunk.numberedLines.map fun (n, line) =>
          (n, line.veiled)) ∧
      ∀ skill, Engine.executeSkill skill d₁ = Engine.executeSkill skill d₂ := by
  have halike : (parse text₁).map veiled = (parse text₂).map veiled := ofLines_alike h
  -- the numbers are those of the diff under its veil, which both diffs share
  have hnumbers : ∀ d : Diff,
      (d.files.map fun f => f.hunks.map fun hunk => hunk.numberedLines.map fun (n, line) =>
      (n, line.veiled)) =
        d.veiled.files.map fun f => f.hunks.map Hunk.numberedLines := by
    intro d
    simp [veiled, File.veiled, Hunk.veiled, Hunk.numberedLines, Hunk.numberFrom_veiled,
      Function.comp_def]
  rw [h₁] at halike
  cases h₂ : parse text₂ with
  | error e =>
    rw [h₂] at halike
    cases halike
  | ok d₂ =>
    rw [h₂] at halike
    have hveiled : d₁.veiled = d₂.veiled := Except.ok.inj halike
    refine ⟨d₂, rfl, hveiled, ?_, fun skill => ?_⟩
    · rw [hnumbers, hnumbers, hveiled]
    · rw [← Engine.executeSkill_veiled, hveiled, Engine.executeSkill_veiled]

/-- A text with an added line between a removed line and lines of context. -/
def quietText : String := "diff --git a/x b/x\n@@ -1,3 +1,3 @@\n-b\n b\n+b\n b\n"

/-- The same text, but the removed line and one of context look like headers, and one of context is
empty. -/
def lookalikeText : String := "diff --git a/x b/x\n@@ -1,3 +1,3 @@\n--- a/y\n @@ -1 +1 @@\n+b\n \n"

theorem parse_quietText : parse quietText =
    .ok { files := [{ path := "x", hunks := [⟨⟨1, 3, 1, 3, none⟩,
      [⟨.deletion, "b"⟩, ⟨.context, "b"⟩, ⟨.addition, "b"⟩, ⟨.context, "b"⟩]⟩] }] } := by
  have htext : quietText.toList = _ := String.toList_ofList
  unfold parse
  rw [htext]
  rfl

theorem parse_lookalikeText : parse lookalikeText =
    .ok { files := [{ path := "x", hunks := [⟨⟨1, 3, 1, 3, none⟩,
      [⟨.deletion, "-- a/y"⟩, ⟨.context, "@@ -1 +1 @@"⟩, ⟨.addition, "b"⟩, ⟨.context, ""⟩]⟩]
      }] } := by
  have htext : lookalikeText.toList = _ := String.toList_ofList
  unfold parse
  rw [htext]
  rfl

theorem parse_differUnseen_lookalikes :
    ∃ d₁ d₂, parse quietText = .ok d₁ ∧ parse lookalikeText = .ok d₂ ∧ d₁ ≠ d₂ ∧
      d₁.veiled = d₂.veiled ∧
      ∀ skill, Engine.executeSkill skill d₁ = Engine.executeSkill skill d₂ := by
  have hlines : ReadState.DifferUnseen {} (textLines quietText.toList)
      (textLines lookalikeText.toList) := by
    have hquiet : quietText.toList = _ := String.toList_ofList
    have hlookalike : lookalikeText.toList = _ := String.toList_ofList
    apply ReadState.differUnseen_of_pieces
    rw [hquiet, hlookalike]
    exact ⟨by decide, by decide⟩
  rcases parse_differUnseen hlines parse_quietText with ⟨d₂, h₂, hveiled, -, hskills⟩
  cases parse_lookalikeText.symm.trans h₂
  exact ⟨_, _, parse_quietText, parse_lookalikeText, by decide, hveiled, hskills⟩

end Diff
end PatchReview
