import PatchReview.Engine
import PatchReview.Proofs.Diff.RoundTrip
import PatchReview.Proofs.Diff.Script

/-!
# Findings at the lines of the new text

A rule is checked against a diff that was written for some changes of files. It finds the inserted
lines that the hunks show and that its pattern occurs in, each at its line of the new text.
-/

namespace PatchReview
namespace Engine

def findingAt (rule : Skill.Rule) (path : String) (i : Diff.Insertion) : Finding where
  ruleId := rule.id
  message := rule.message
  severity := rule.severity
  file := some path
  line := some (i.number : Int)

/-- The findings of a rule in a change: one for each shown insertion of a line that is found. -/
def findingsInChange (rule : Skill.Rule) (found : String → Bool) (c : Diff.Change) : List Finding :=
  (c.insertions.filter fun i => found i.line).map (findingAt rule c.path)

/-- True headers number the added lines as the new text does. -/
theorem addedLines_cuts {before : List Diff.Edit} {cuts : List Diff.Cut}
    (h : Diff.TrueHeaders before cuts) (path : String) :
    addedLines { path := path, hunks := cuts.map Diff.Cut.hunk } =
      (Diff.shownInsertions before cuts).map fun i => (i.number, i.line) := by
  induction cuts generalizing before with
  | nil =>
    rfl
  | cons c cuts ih =>
    have hfirst := h.1.addedLines_eq
    have hrest := ih h.2
    rw [Diff.shownInsertions, List.map_append, ← hfirst, ← hrest]
    rfl

/-- The added lines of a file are the insertions that its hunks show, numbered by the new text. -/
theorem addedLines_file (c : Diff.Change) :
    addedLines c.file = c.insertions.map fun i => (i.number, i.line) :=
  addedLines_cuts c.trueHeaders c.path

/-- In the file of a change a rule finds what it finds in the change. -/
theorem findingsInFile_file (rule : Skill.Rule) (found : String → Bool) (c : Diff.Change) :
    findingsInFile rule found c.file = findingsInChange rule found c := by
  rw [findingsInFile, addedLines_file, List.filter_map, List.map_map, findingsInChange]
  rfl

/-- So it does in several. -/
theorem findingsOf_files (rule : Skill.Rule) (found : String → Bool) (changes : List Diff.Change) :
    findingsOf rule found { files := changes.map Diff.Change.file } =
      changes.flatMap (findingsInChange rule found) := by
  rw [findingsOf, List.flatMap_map]
  exact List.flatMap_congr fun c _ => findingsInFile_file rule found c

/-- A rule whose pattern compiles tells nothing and finds what its pattern occurs in. -/
theorem checkRule_of_compiles {rule : Skill.Rule} {pattern : String} {p : Pattern}
    (hpattern : rule.pattern = some pattern) (hp : Pattern.compile pattern = .ok p) (d : Diff) :
    checkRule rule d = pure (findingsOf rule p.occursIn d) := by
  simp only [checkRule, hpattern, hp]

/-- A rule finds just the shown insertions that its pattern occurs in: in the order of files, hunks
and lines, and each at its line of the new text. -/
theorem checkRule_written {changes : List Diff.Change} {text pattern : String}
    {rule : Skill.Rule} {p : Pattern} (hchanges : ∀ c ∈ changes, c.Writable)
    (hpaths : (changes.map (·.path)).Nodup) (htext : Diff.Written (changes.map (·.file)) text)
    (hpattern : rule.pattern = some pattern) (hp : Pattern.compile pattern = .ok p) :
    (∃ d, Diff.parse text = .ok d ∧
      checkRule rule d = pure (changes.flatMap (findingsInChange rule p.occursIn))) ∧
    ∀ c ∈ changes,
      c.insertions.Pairwise (fun i j => i.number < j.number) ∧
      ∀ i ∈ c.insertions,
        (∃ after, c.script = i.before ++ .insert i.line :: after) ∧
        c.new[i.number - 1]? = some i.line := by
  have hfiles : ∀ f ∈ changes.map (·.file), f.Writable := by
    intro f hf
    rcases List.mem_map.1 hf with ⟨c, hc, rfl⟩
    exact (hchanges c hc).file
  have hpaths' : ((changes.map (·.file)).map (·.path)).Nodup := by
    rwa [List.map_map]
  constructor
  · rcases htext with ⟨marks, hwritten, hbody, hchars⟩
    refine ⟨_, hwritten.parse_eq hbody hchars hfiles hpaths', ?_⟩
    rw [checkRule_of_compiles hpattern hp, ← findingsOf_files]
  · intro c _
    refine ⟨Diff.pairwise_shownInsertions [] c.cuts, ?_⟩
    intro i hi
    exact ⟨c.exists_after hi, c.getElem?_number hi⟩

/-- A line above the hunks is new but not shown, and a line is written like a header. -/
theorem checkRule_written_below_hidden_line :
    ∃ d, Diff.parse ("diff --git a/a.py b/a.py\n" ++ "@@ -2,2 +3,2 @@\n" ++ "-b gone\n" ++
        "+++ b\n" ++ "\n" ++ "@@ -5 +5,0 @@\n" ++ "-z\n") = .ok d ∧
      checkRule ⟨"r", .warning, "m", some "b", none⟩ d =
        pure [⟨"r", "m", .warning, some "a.py", some 3⟩] := by
  have hchange : ∀ c ∈ [({
      path := "a.py"
      old := ["k", "b gone", "", "m", "z"]
      new := ["b hidden", "k", "++ b", "", "m"]
      cuts := [
        { skipped := [.insert "b hidden", .keep "k"]
          header := ⟨2, 2, 3, 2, none⟩
          shown := [.delete "b gone", .insert "++ b", .keep ""] },
        { skipped := [.keep "m"]
          header := ⟨5, 1, 5, 0, none⟩
          shown := [.delete "z"] }]
      rest := []
      old_eq := rfl
      new_eq := rfl
      trueHeaders := ⟨⟨rfl, rfl, .inl rfl, .inl rfl⟩, ⟨rfl, rfl, .inl rfl, .inr ⟨rfl, rfl⟩⟩,
        trivial⟩ } : Diff.Change)], c.Writable := by
    decide +kernel
  have hnone : ∀ line ∈ ([] : List (List Char)), Diff.IsIdle line := by
    simp
  have hpattern : (⟨"r", .warning, "m", some "b", none⟩ : Skill.Rule).pattern = some "b" := rfl
  have hcompile : Pattern.compile "b" = .ok ⟨.char (.literal .unicode 98), 1⟩ := rfl
  refine Exists.imp (fun d h => ⟨h.1, h.2.trans (congrArg pure ?_)⟩)
    (checkRule_written hchange (by decide) ?_ hpattern hcompile).1
  · apply Diff.Written.mk 0
    · apply Diff.FilesWritten.cons
      · apply Diff.FileWritten.mk hnone .modified hnone
        apply Diff.HunksWritten.cons (.mk (.full 2) (.full 2))
        · exact .line (.marked _) (.line (.marked _) (.line .bare .nil))
        · exact .cons (.mk .single (.full 0)) (.line (.marked _) .nil) .nil
      · exact .nil
    · exact .cons _ .lf (.cons _ .lf (.cons _ .lf (.cons _ .lf (.cons _ .lf (.cons _ .lf
        (.cons _ .lf .nil))))))
    · simp only [String.toList_append]
      decide +kernel
  · decide +kernel

end Engine
end PatchReview
