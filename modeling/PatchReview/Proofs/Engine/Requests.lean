import PatchReview.Proofs.Command.Examination
import PatchReview.Proofs.Engine.Pool
import PatchReview.Proofs.Skill.Names

/-!
# Results for requested skills

The engine answers a list of names: there is one result for each name that is asked for and that a
loaded skill has, in the order in which the names are first asked for. The result for a name is that
of its skill alone, so it depends neither on the other names nor on the workers and their turns.
-/

namespace PatchReview

/-! ## Names that are asked for -/

/-- Of names that are asked for, the first of each counts. -/
theorem Request.distinct_map_name (names : List String) :
    distinct (names.map .name) = (firstOfEach id names).map .name := by
  induction names using List.reverseRecOn with
  | nil =>
    rfl
  | append_singleton names name ih =>
    have hstep : distinct ((names ++ [name]).map .name) =
        if (distinct (names.map .name)).any (same · (.name name)) then distinct (names.map .name)
        else distinct (names.map .name) ++ [.name name] := by
      rw [distinct, List.map_append, List.foldl_append]
      rfl
    have hkept : ((firstOfEach id names).map Request.name).any (same · (.name name)) = true ↔
        name ∈ names := by
      rw [List.any_map, List.any_eq_true, ← mem_firstOfEach_id]
      simp [same]
    rw [hstep, ih, firstOfEach_concat, List.map_id, id_eq]
    by_cases hold : name ∈ names
    · rw [if_pos (hkept.2 hold), if_pos hold]
    · rw [if_neg fun h => hold (hkept.1 h), if_neg hold, List.map_append]
      rfl

namespace Engine

/-- The loaded skills with names that are asked for. -/
def skillsNamed (loaded : List Skill.Loaded) (names : List String) : List Skill.Loaded :=
  (firstOfEach id names).filterMap (Skill.named? · loaded)

/-- The results for names that are asked for. -/
def resultsFor (loaded : List Skill.Loaded) (d : Diff) (names : List String) : List SkillResult :=
  (skillsNamed loaded names).map fun l => outcome d l.skill

/-- Names that are asked for again select no skill again. -/
theorem filterMap_distinct (loaded : List Skill.Loaded) (names : List String) :
    (Request.distinct (names.map .name)).filterMap (·.find? loaded) = skillsNamed loaded names := by
  rw [Request.distinct_map_name, List.filterMap_map]
  rfl

/-- The names of the results are those that are asked for, as far as there are such skills. -/
theorem map_skill_resultsFor (loaded : List Skill.Loaded) (d : Diff) (names : List String) :
    (resultsFor loaded d names).map (·.skill) =
      (firstOfEach id names).filter fun name => (Skill.named? name loaded).isSome := by
  -- A result has the name of its skill, which is the one that was looked up.
  rw [resultsFor, skillsNamed, List.map_map, List.map_filterMap, ← List.filterMap_eq_filter]
  refine List.filterMap_congr fun name _ => ?_
  cases hnamed : Skill.named? name loaded with
  | none =>
    simp [Option.guard, hnamed]
  | some l =>
    have hname : l.skill.name = name := Skill.name_of_named? hnamed
    simp [Option.guard, hnamed, skill_outcome, hname]

/-- A result is the outcome of the loaded skill with its name. -/
theorem exists_of_mem_resultsFor {loaded : List Skill.Loaded} {d : Diff} {names : List String}
    {r : SkillResult} (h : r ∈ resultsFor loaded d names) :
    ∃ l, Skill.named? r.skill loaded = some l ∧ r = outcome d l.skill := by
  rcases List.mem_map.1 h with ⟨l, hl, rfl⟩
  rcases List.mem_filterMap.1 hl with ⟨name, _, hnamed⟩
  refine ⟨l, ?_, rfl⟩
  rw [skill_outcome, Skill.name_of_named? hnamed, hnamed]

/-- The result for a name is that of its skill. -/
theorem find?_resultsFor {loaded : List Skill.Loaded} {d : Diff} {names : List String}
    {name : String} (hname : name ∈ names) :
    (resultsFor loaded d names).find? (·.skill == name) =
      (Skill.named? name loaded).map fun l => outcome d l.skill := by
  cases hnamed : Skill.named? name loaded with
  | none =>
    refine List.find?_eq_none.2 fun r hr heq => ?_
    rcases exists_of_mem_resultsFor hr with ⟨l, hl, _⟩
    rw [beq_iff_eq] at heq
    rw [heq, hnamed] at hl
    cases hl
  | some l =>
    -- All results of that name are the same, and there is one.
    have hmem : outcome d l.skill ∈ resultsFor loaded d names :=
      List.mem_map_of_mem (List.mem_filterMap.2 ⟨name, mem_firstOfEach_id.2 hname, hnamed⟩)
    have hskill : (outcome d l.skill).skill = name := by
      rw [skill_outcome, Skill.name_of_named? hnamed]
    cases hfind : (resultsFor loaded d names).find? (·.skill == name) with
    | none =>
      exact absurd (beq_iff_eq.2 hskill) (List.find?_eq_none.1 hfind _ hmem)
    | some r =>
      rcases exists_of_mem_resultsFor (List.mem_of_find?_eq_some hfind) with ⟨other, hother, rfl⟩
      have heq := List.find?_some hfind
      rw [beq_iff_eq] at heq
      rw [heq, hnamed] at hother
      cases hother
      rfl

/-! ## Answers -/

/-- If there are turns to be given, the schedule gives turns by which all skills are run. -/
def GetsThrough (maxWorkers : Int) (schedule : Pool → List Nat) (d : Diff) (skills : List Skill) :
    Prop :=
  1 < maxWorkers → 1 < skills.length →
    ((Pool.ofSkills skills).run? maxWorkers.toNat d (schedule (.ofSkills skills))).isSome = true

/-- Selected skills are run, and the messages that are told are all that changes. -/
theorem exists_runOn_execute {maxWorkers : Int} {schedule : Pool → List Nat} {directory : DiskPath}
    {requests : List Request} {d : Diff} {desk desk₁ : Desk} {selected : List Skill.Loaded}
    (hselect : (requested directory requests).runOn desk = (.ok selected, desk₁))
    (hthrough : GetsThrough maxWorkers schedule d (selected.map (·.skill))) :
    ∃ log, (execute maxWorkers schedule directory requests d).runOn desk =
      (.ok (some ((selected.map (·.skill)).map (outcome d))), { desk₁ with log }) := by
  have hschedule : 1 < workersOf maxWorkers → 1 < (selected.map (·.skill)).length →
      ∃ answer, (Pool.ofSkills (selected.map (·.skill))).run? (workersOf maxWorkers) d
        (schedule (.ofSkills (selected.map (·.skill)))) = some answer := by
    intro hworkers hskills
    rw [workersOf] at hworkers ⊢
    split at hworkers
    · rename_i hmany
      rw [if_pos hmany]
      exact Option.isSome_iff_exists.1 (hthrough hmany hskills)
    · exact absurd hworkers (Nat.lt_irrefl 1)
  rcases exists_run_runScheduled (compiles_of_mem_requested hselect) d hschedule desk₁.log with
    ⟨log, hrun⟩
  refine ⟨log, ?_⟩
  rw [execute, Work.runOn_bind_of_ok hselect, Work.runOn_get_bind, hrun]
  rfl

/-- The skills with the names that are asked for are selected. -/
theorem exists_runOn_requested {directory place : DiskPath} {desk desk₁ : Desk}
    {loaded : List Skill.Loaded} (hplace : directory.expandHome? desk.disk.home = some place)
    (hload : (Skill.loadAll place).runOn desk = (.ok loaded, desk₁)) {names : List String}
    (hnames : names ≠ []) :
    ∃ log, (requested directory (names.map .name)).runOn desk =
      (.ok (skillsNamed loaded names), { desk₁ with log }) := by
  have husable : (names.map Request.name).findSome? Request.unusable? = none := by
    rw [List.findSome?_map, List.findSome?_eq_none_iff]
    exact fun _ _ => rfl
  have hexpand : (Work.expandHome directory).runOn desk = (.ok place, desk) := by
    rw [Work.runOn_expandHome, hplace]
  rcases exists_runOn_select hload husable with ⟨log, hselect⟩
  rw [filterMap_distinct] at hselect
  refine ⟨log, ?_⟩
  rw [requested, Work.runOn_bind_of_ok hexpand, if_neg (by simpa using hnames), hselect]

/-- The engine answers requests by names alone. Of a directory whose skills can be loaded, every
schedule by which the workers get through gives the results for the names, and any turns of the
workers can be followed by others until they are through. The results have the names that are asked
for, in their order; each is that of its skill run alone, and is the same whatever else is asked
for. Where nothing is asked for, nothing is read and nothing changes. -/
theorem execute_of_loadAll {directory place : DiskPath} {desk desk₁ : Desk}
    {loaded : List Skill.Loaded} (hplace : directory.expandHome? desk.disk.home = some place)
    (hload : (Skill.loadAll place).runOn desk = (.ok loaded, desk₁)) (maxWorkers : Int) (d : Diff) :
    (∀ names : List String, names ≠ [] → ∀ schedule : Pool → List Nat,
      GetsThrough maxWorkers schedule d ((skillsNamed loaded names).map (·.skill)) →
      ∃ log, (execute maxWorkers schedule directory (names.map .name) d).runOn desk =
        (.ok (some (resultsFor loaded d names)), { desk₁ with log })) ∧
    (∀ (names : List String) (turns : List Nat) (p : Pool), 1 < maxWorkers →
      (Pool.ofSkills ((skillsNamed loaded names).map (·.skill))).play? maxWorkers.toNat d
        turns = some p →
      ∃ more, GetsThrough maxWorkers (fun _ => turns ++ more) d
        ((skillsNamed loaded names).map (·.skill))) ∧
    (loaded.map (·.skill.name)).Nodup ∧
    (∀ names : List String, (resultsFor loaded d names).map (·.skill) =
      (firstOfEach id names).filter fun name => (Skill.named? name loaded).isSome) ∧
    (∀ names : List String, ∀ r ∈ resultsFor loaded d names, ∃ l ∈ loaded, l.skill.name = r.skill ∧
      ∃ log, (executeSkill l.skill d).run.run [] = (.ok r, log)) ∧
    (∀ (names names' : List String) (name : String), name ∈ names → name ∈ names' →
      (resultsFor loaded d names).find? (·.skill == name) =
        (resultsFor loaded d names').find? (·.skill == name)) ∧
    ∀ (schedule : Pool → List Nat) (desk' : Desk), desk'.disk.home = desk.disk.home →
      (execute maxWorkers schedule directory [] d).runOn desk' = (.ok (some []), desk') := by
  refine ⟨?_, ?_, Skill.nodup_of_loadAll hload, map_skill_resultsFor loaded d, ?_, ?_, ?_⟩
  · intro names hnames schedule hthrough
    rcases exists_runOn_requested hplace hload hnames with ⟨_, hselect⟩
    rcases exists_runOn_execute hselect hthrough with ⟨log, hrun⟩
    refine ⟨log, ?_⟩
    rw [hrun, List.map_map]
    rfl
  · intro names turns p hmany hplay
    rcases Pool.exists_run?_append (by omega) hplay with ⟨more, answer, hrun⟩
    refine ⟨more, fun _ _ => ?_⟩
    rw [hrun]
    rfl
  · -- Loaded skills are valid, so running one of them comes to its outcome.
    intro names r hr
    rcases exists_of_mem_resultsFor hr with ⟨l, hnamed, rfl⟩
    have hl : l ∈ loaded := List.mem_of_find?_eq_some hnamed
    have hcompiles := Skill.compiles_of_validate (Skill.validate_of_mem_loadAll hload hl)
    rcases exists_executeSkill_eq hcompiles d with ⟨entry, _, heq⟩
    refine ⟨l, hl, (skill_outcome d l.skill).symm, [entry], ?_⟩
    rw [heq]
    rfl
  · intro names names' name hname hname'
    rw [find?_resultsFor hname, find?_resultsFor hname']
  · -- Of the desk only the home counts: it has to be known for the directory to have a place.
    intro schedule desk' hhome
    have hexpand : (Work.expandHome directory).runOn desk' = (.ok place, desk') := by
      rw [Work.runOn_expandHome, hhome, hplace]
    have hnothing : (requested directory []).runOn desk' = (.ok [], desk') := by
      rw [requested, Work.runOn_bind_of_ok hexpand]
      rfl
    have hrun : (runScheduled (workersOf maxWorkers) schedule [] d).run.run desk'.log =
        (.ok (some []), desk'.log) := by
      rw [runScheduled, if_neg (by simp)]
      rfl
    rw [execute, Work.runOn_bind_of_ok hnothing, Work.runOn_get_bind, List.map_nil, hrun]
    rfl

def pairDisk : Disk where
  tree := .directory
    [("skills", .directory
      [("no-print.yaml", .file (Text.encodeUtf8 Skill.noPrintText)),
        ("no-eval.yaml", .file (Text.encodeUtf8 Skill.noEvalText))])]
  workingDirectory := { root := "/", parts := [] }
  home := "/"

/-- The skills of that disk, as they are loaded. -/
def pairLoaded : List Skill.Loaded :=
  [⟨{ parts := ["skills", "no-eval.yaml"] }, Skill.noEval⟩,
    ⟨{ parts := ["skills", "no-print.yaml"] }, Skill.noPrint⟩]

theorem outcomes_pairDisk :
    Skill.outcomes pairDisk { parts := ["skills"] } = pairLoaded.map .ok := by
  have hdistinct : pairDisk.tree.Distinct := by
    simp [pairDisk, Tree.Distinct, Tree.EntriesDistinct]
  have hskills (a b : List UInt8) : Skill.skillsIn (.directory
      [("no-print.yaml", .file b), ("no-eval.yaml", .file a)]) =
        [(["no-eval.yaml"], a), (["no-print.yaml"], b)] := by
    have hnames : ["no-eval.yaml", "no-print.yaml"].all Skill.isSkillName = true := by decide
    simp_all [Skill.skillsIn, Skill.ownSkills, Skill.skillsInside, Tree.isDirectory,
      Skill.sortByName, List.mergeSort, List.MergeSort.Internal.splitInTwo]
  rw [Skill.outcomes_of_find hdistinct rfl, hskills, List.map_cons, List.map_singleton,
    Skill.ofBytes_noEvalText, Skill.ofBytes_noPrintText]
  rfl

theorem exists_runOn_loadAll_pairDisk : ∃ log,
    (Skill.loadAll { parts := ["skills"] }).runOn { disk := pairDisk } =
      (.ok pairLoaded, { disk := pairDisk, log }) := by
  have hplace : ({ parts := ["skills"] } : DiskPath).expandHome?
      ({ disk := pairDisk } : Desk).disk.home =
      some { parts := ["skills"] } := by
    decide
  have hholds : ({ disk := pairDisk } : Desk).disk.holds { parts := ["skills"] } = true := rfl
  rcases Skill.exists_runOn_loadAll_of_holds hplace hholds with ⟨log, hload⟩
  refine ⟨log, ?_⟩
  rw [hload, outcomes_pairDisk]
  rfl

/-- Two workers take turns, and the second skill begins. Of the names that are asked for one has no
skill, and the last was asked for before. -/
theorem execute_of_loadAll_pair : ∃ log,
    (execute 2 (fun _ => [1, 0, 1, 0, 0, 1]) { parts := ["skills"] }
        (["no-print", "x", "no-eval", "no-print"].map .name) Command.evalDiff).runOn
      { disk := pairDisk } =
        (.ok (some [outcome Command.evalDiff Skill.noPrint, outcome Command.evalDiff Skill.noEval]),
          { disk := pairDisk, log }) ∧
    (∃ more, GetsThrough 2 (fun _ => [1, 1] ++ more) Command.evalDiff
      [Skill.noPrint, Skill.noEval]) ∧
    (resultsFor pairLoaded Command.evalDiff ["no-print", "x", "no-eval", "no-print"]).find?
        (·.skill == "no-eval") =
      (resultsFor pairLoaded Command.evalDiff ["no-eval"]).find? (·.skill == "no-eval") ∧
    (execute 2 (fun _ => []) { parts := ["skills"] } [] Command.evalDiff).runOn
    { disk := pairDisk } =
      (.ok (some []), { disk := pairDisk }) := by
  have hplace : ({ parts := ["skills"] } : DiskPath).expandHome?
      ({ disk := pairDisk } : Desk).disk.home =
      some { parts := ["skills"] } := by
    decide
  have hnamed : (skillsNamed pairLoaded ["no-print", "x", "no-eval", "no-print"]).map (·.skill) =
      [Skill.noPrint, Skill.noEval] := by
    decide
  rcases exists_runOn_loadAll_pairDisk with ⟨log₁, hload⟩
  rcases execute_of_loadAll hplace hload 2 Command.evalDiff with
    ⟨hexecute, hturns, _, _, _, hothers, hnothing⟩
  have hthrough : GetsThrough 2 (fun _ => [1, 0, 1, 0, 0, 1]) Command.evalDiff
      [Skill.noPrint, Skill.noEval] :=
    fun _ _ => by decide +kernel
  rw [← hnamed] at hthrough
  rcases hexecute ["no-print", "x", "no-eval", "no-print"] (by simp) _ hthrough with ⟨log, hrun⟩
  have hbegun : ∃ p, (Pool.ofSkills [Skill.noPrint, Skill.noEval]).play? 2 Command.evalDiff [1, 1] =
      some p :=
    Option.isSome_iff_exists.1 (by decide +kernel)
  rw [← hnamed] at hbegun
  rcases hbegun with ⟨p, hp⟩
  rcases hturns ["no-print", "x", "no-eval", "no-print"] [1, 1] p (by decide) hp with ⟨more, hmore⟩
  rw [hnamed] at hmore
  have hresults : resultsFor pairLoaded Command.evalDiff ["no-print", "x", "no-eval", "no-print"] =
      [outcome Command.evalDiff Skill.noPrint, outcome Command.evalDiff Skill.noEval] := by
    have hmapped := congrArg (List.map (outcome Command.evalDiff)) hnamed
    rw [List.map_map] at hmapped
    exact hmapped
  rw [hresults] at hrun
  exact ⟨log, hrun, ⟨more, hmore⟩, hothers _ _ _ (by simp) (by simp), hnothing _ _ rfl⟩

end Engine
end PatchReview
