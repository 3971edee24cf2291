import PatchReview.Proofs.Command.Reading
import PatchReview.Proofs.Engine.Selection

/-!
# Examining a diff

What an examination has found out: the results are the outcomes of the selected skills in the diff.
The form of the report and the level from which on a check fails play no part in it: asking for
others gives the same examination with another plan.
-/

namespace PatchReview
namespace Command

variable {s : Setting}

/-! ## Other plans -/

def Examination.replan (change : CheckPlan → CheckPlan) (x : Examination) : Examination :=
  { x with plan := change x.plan }

/-- A plan with the same directory and requests leads to the same examination. -/
theorem Setting.examineText_replan (o : CheckOptions) {change : CheckPlan → CheckPlan}
    (hdirectory : ∀ plan, (change plan).directory = plan.directory)
    (hrequests : ∀ plan, (change plan).requests = plan.requests) (plan : CheckPlan)
    (text : String) :
    s.examineText o (change plan) text =
      Examination.replan change <$> s.examineText o plan text := by
  rw [examineText, examineText, hdirectory, hrequests]
  split
  · simp only [map_bind, map_pure]
    rfl
  · simp only [map_bind, map_pure]
    rfl

/-- Options that make another plan make the same examination with that plan. -/
theorem Setting.examine_replan {o o' : CheckOptions} {change : CheckPlan → CheckPlan}
    (hdirectory : ∀ plan, (change plan).directory = plan.directory)
    (hrequests : ∀ plan, (change plan).requests = plan.requests)
    (hplan : s.plan o' = Option.map change <$> s.plan o) (hpath : o'.diffPath = o.diffPath)
    (htext : ∀ plan text, s.examineText o' plan text = s.examineText o plan text) :
    s.examine o' = Option.map (Examination.replan change) <$> s.examine o := by
  -- The change goes from the plan, past the reading of the diff, to what is examined in the end.
  rw [examine, examine, hplan, hpath, bind_map_left, map_bind]
  refine bind_congr fun plan? => ?_
  cases plan? with
  | none =>
    simp
  | some plan =>
    dsimp only [Option.map_some]
    rw [map_bind]
    refine bind_congr fun text? => ?_
    cases text? with
    | none =>
      simp
    | some text =>
      dsimp only
      rw [htext, examineText_replan o hdirectory hrequests]
      simp

/-- Nor does the level from which on a check fails. -/
theorem Setting.examine_withLevel (o : CheckOptions) (level lower : Severity) :
    s.examine (o.withLevel lower) =
      Option.map (Examination.replan (.withLevel lower)) <$> s.examine (o.withLevel level) :=
  examine_replan (fun _ => rfl) (fun _ => rfl) (plan_failOn o level lower) rfl fun _ _ => rfl

/-- A check with another plan concludes what is examined for the first plan. -/
theorem Setting.runOn_check_replan {o o' : CheckOptions} {change : CheckPlan → CheckPlan}
    (hexamine : s.examine o' = Option.map (Examination.replan change) <$> s.examine o)
    (desk : Desk) :
    (s.check o').runOn desk =
      match (s.examine o).runOn desk with
      | (.ok (some x), desk) => (s.conclude o' (x.replan change)).runOn desk
      | (.ok none, desk) => (.ok .misuse, desk)
      | (.error fault, desk) => (.error fault, desk) := by
  rw [check, Work.runOn_bind, hexamine, Work.runOn_map]
  rcases (s.examine o).runOn desk with ⟨result, desk'⟩
  cases result with
  | error fault =>
    rfl
  | ok x? =>
    cases x? <;> rfl

/-! ## Results -/

/-- Sizes are printed, if they are asked for, before any skill is selected. -/
theorem Setting.examineText_eq (o : CheckOptions) (plan : CheckPlan) (text : String) :
    s.examineText o plan text =
      Work.ofExcept .digits (Diff.parse text) >>= fun d =>
        (if o.verbose || o.debug then s.printSizes plan.directory d else pure ()) >>= fun _ =>
          Engine.requested plan.directory plan.requests >>= fun selected =>
            Engine.runAll (selected.map (·.skill)) d >>= fun results =>
              pure { plan, diff := d, selected, results } := by
  rw [examineText]
  refine bind_congr fun d => ?_
  split
  · rfl
  · rw [pure_bind]

/-- The skills that are selected have their outcomes in the diff of the text. -/
theorem Setting.exists_runOn_examineText {o : CheckOptions} {plan : CheckPlan} {text : String}
    {d : Diff} {selected : List Skill.Loaded} {desk desk₁ desk₂ : Desk}
    (hparse : Diff.parse text = .ok d)
    (hsizes : (if o.verbose || o.debug then s.printSizes plan.directory d else pure ()).runOn desk =
      (.ok (), desk₁))
    (hselect : (Engine.requested plan.directory plan.requests).runOn desk₁ =
      (.ok selected, desk₂)) :
    ∃ log, (s.examineText o plan text).runOn desk =
      (.ok { plan, diff := d, selected
             results := (selected.map (·.skill)).map (Engine.outcome d) },
        { desk₂ with log }) := by
  rcases Engine.exists_runOn_runAll (Engine.compiles_of_mem_requested hselect) d desk₂ with
    ⟨log, hrun⟩
  refine ⟨log, ?_⟩
  have hdiff : (Work.ofExcept .digits (Diff.parse text)).runOn desk = (.ok d, desk) := by
    rw [hparse, Work.runOn_ofExcept, mapError_ok]
  rw [examineText_eq, Work.runOn_bind_of_ok hdiff, Work.runOn_bind_of_ok hsizes,
    Work.runOn_bind_of_ok hselect, Work.runOn_bind_of_ok hrun]
  rfl

/-- Whatever an examination has found out, its results are the outcomes of its skills in its
diff. -/
theorem Setting.results_of_examineText {o : CheckOptions} {plan : CheckPlan} {text : String}
    {x : Examination} {desk desk' : Desk}
    (h : (s.examineText o plan text).runOn desk = (.ok x, desk')) :
    x.plan = plan ∧ x.results = (x.selected.map (·.skill)).map (Engine.outcome x.diff) := by
  rw [examineText_eq] at h
  rcases Work.runOn_bind_eq_ok_iff.1 h with ⟨d, _, _, h⟩
  rcases Work.runOn_bind_eq_ok_iff.1 h with ⟨_, _, _, h⟩
  rcases Work.runOn_bind_eq_ok_iff.1 h with ⟨selected, desk₁, hselect, h⟩
  rcases Work.runOn_bind_eq_ok_iff.1 h with ⟨results, _, hresults, h⟩
  rcases Engine.exists_runOn_runAll (Engine.compiles_of_mem_requested hselect) d desk₁ with
    ⟨_, hrun⟩
  cases hrun.symm.trans hresults
  cases h
  exact ⟨rfl, rfl⟩

/-- An examination follows its plan. -/
theorem Setting.exists_of_examine {o : CheckOptions} {x : Examination} {desk desk' : Desk}
    (h : (s.examine o).runOn desk = (.ok (some x), desk')) :
    (∃ desk₁, (s.plan o).runOn desk = (.ok (some x.plan), desk₁)) ∧
      x.results = (x.selected.map (·.skill)).map (Engine.outcome x.diff) := by
  rw [examine] at h
  rcases Work.runOn_bind_eq_ok_iff.1 h with ⟨plan?, desk₁, hplan, h⟩
  cases plan? with
  | none =>
    cases h
  | some plan =>
    rcases Work.runOn_bind_eq_ok_iff.1 h with ⟨text?, _, _, h⟩
    cases text? with
    | none =>
      cases h
    | some text =>
      rcases Work.runOn_bind_eq_ok_iff.1 h with ⟨y, _, hexamine, h⟩
      cases h
      rcases results_of_examineText hexamine with ⟨rfl, hresults⟩
      exact ⟨⟨desk₁, hplan⟩, hresults⟩

/-! ## An example -/

/-- The skill of the disk, as it is loaded. -/
def noEvalLoaded : Skill.Loaded := ⟨{ parts := ["skills", "no-eval.yaml"] }, Skill.noEval⟩

/-- The only file of the disk with a skill. -/
theorem outcomes_noEvalDisk :
    Skill.outcomes noEvalDisk { parts := ["skills"] } = [.ok noEvalLoaded] := by
  have hdistinct : noEvalDisk.tree.Distinct := by
    simp [noEvalDisk, Tree.Distinct, Tree.EntriesDistinct]
  have hfind : noEvalDisk.find { parts := ["skills"] } =
      .ok (.directory [("no-eval.yaml", .file (Text.encodeUtf8 Skill.noEvalText))]) := rfl
  have hskills (bytes : List UInt8) : Skill.skillsIn (.directory [("no-eval.yaml", .file bytes)]) =
      [(["no-eval.yaml"], bytes)] := by
    have hyaml : Skill.isSkillName "no-eval.yaml" = true := by decide
    simp [Skill.skillsIn, Skill.ownSkills, Skill.skillsInside, Tree.isDirectory, hyaml,
      Skill.sortByName]
  rw [Skill.outcomes_of_find hdistinct hfind, hskills, List.map_singleton, Skill.ofBytes_noEvalText]
  rfl

theorem exists_runOn_loadAll_noEval (desk : Desk) (hdisk : desk.disk = noEvalDisk) :
    ∃ log, (Skill.loadAll { parts := ["skills"] }).runOn desk =
      (.ok [noEvalLoaded], { desk with log }) := by
  have hplace : ({ parts := ["skills"] } : DiskPath).expandHome? desk.disk.home =
      some { parts := ["skills"] } := by
    rw [hdisk]
    decide
  have hholds : desk.disk.holds { parts := ["skills"] } = true := by
    have hfind : noEvalDisk.find { parts := ["skills"] } =
        .ok (.directory [("no-eval.yaml", .file (Text.encodeUtf8 Skill.noEvalText))]) := rfl
    rw [hdisk, Disk.holds, hfind]
  rcases Skill.exists_runOn_loadAll_of_holds hplace hholds with ⟨log, hload⟩
  have hlisted : Skill.outcomes desk.disk { parts := ["skills"] } = [.ok noEvalLoaded] := by
    rw [hdisk, outcomes_noEvalDisk]
  rw [hlisted] at hload
  exact ⟨log, hload⟩

theorem exists_runOn_select_noEval (desk : Desk) (hdisk : desk.disk = noEvalDisk) :
    ∃ log, (Engine.select { parts := ["skills"] } [.name "no-eval"]).runOn desk =
      (.ok [noEvalLoaded], { desk with log }) := by
  rcases exists_runOn_loadAll_noEval desk hdisk with ⟨log₁, hload⟩
  have hfound : (Request.distinct [.name "no-eval"]).filterMap (·.find? [noEvalLoaded]) =
      [noEvalLoaded] :=
    rfl
  have husable : [Request.name "no-eval"].findSome? Request.unusable? = none := rfl
  rcases Engine.exists_runOn_select hload husable with ⟨log₂, hselect⟩
  refine ⟨log₂, ?_⟩
  rw [hselect, hfound]

/-- The skill is run against the diff that is given as input. -/
theorem Setting.exists_runOn_examine_noEval (hs : s.environment = [])
    (hbounds : s.bounds = .unreached) {text : String} (hinput : s.input = Text.encodeUtf8 text)
    {d : Diff} (hparse : Diff.parse (String.ofList (Text.normalizeLineEnds text.toList)) = .ok d)
    (f : OutputFormat) :
    ∃ log, (s.examine (noEvalOptions.withFormat f)).runOn { disk := noEvalDisk } =
      (.ok (some ⟨noEvalPlan f, d, [noEvalLoaded], [Engine.outcome d Skill.noEval]⟩),
        { disk := noEvalDisk, log }) := by
  have hbytes : s.diffBytes? (noEvalOptions.withFormat f).diffPath noEvalDisk =
      some (Text.encodeUtf8 text) :=
    congrArg some hinput
  have hread : (s.readDiff (noEvalOptions.withFormat f).diffPath).runOn
      { disk := noEvalDisk } = _ :=
    runOn_readDiff hbytes (Text.decodeUtf8?_encodeUtf8 text)
  rcases exists_runOn_select_noEval { disk := noEvalDisk } rfl with ⟨log₁, hselect⟩
  have hrequested : (Engine.requested (noEvalPlan f).directory (noEvalPlan f).requests).runOn
      { disk := noEvalDisk } = (.ok [noEvalLoaded], { disk := noEvalDisk, log := log₁ }) := by
    rw [Engine.requested, Work.runOn_bind, Work.runOn_expandHome]
    exact hselect
  rcases exists_runOn_examineText (s := s) (o := noEvalOptions.withFormat f) hparse rfl
    hrequested with
    ⟨log₂, hexamined⟩
  refine ⟨log₂, ?_⟩
  rw [examine, Work.runOn_bind_of_ok (runOn_plan_noEval hs hbounds f)]
  dsimp only
  rw [Work.runOn_bind_of_ok hread]
  dsimp only
  rw [Work.runOn_bind_of_ok hexamined]
  rfl

/-- A diff that adds a line in which the skill finds its pattern. -/
def evalDiffText : String := "diff --git a/f.py b/f.py\n@@ -0,0 +1,1 @@\n+eval(x)\n"

/-- That diff, as it is parsed. -/
def evalDiff : Diff where
  files :=
    [{ path := "f.py"
       hunks :=
        [{ header := { oldStart := 0, oldCount := 0, newStart := 1, newCount := 1, heading := none }
           lines := [{ kind := .addition, content := "eval(x)" }] }] }]

theorem parse_evalDiffText :
    Diff.parse (String.ofList (Text.normalizeLineEnds evalDiffText.toList)) = .ok evalDiff := by
  have htext : evalDiffText.toList = _ := String.toList_ofList
  unfold Diff.parse
  rw [htext, String.toList_ofList]
  rfl

theorem findings_evalDiff : allFindings [Engine.outcome evalDiff Skill.noEval] =
    [{ ruleId := "R", message := "m", severity := .critical, file := some "f.py",
        line := some 1 }] := by
  decide

end Command
end PatchReview
