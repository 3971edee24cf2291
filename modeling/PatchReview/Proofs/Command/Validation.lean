import PatchReview.Command.Library
import PatchReview.Proofs.Command.Examination
import PatchReview.Proofs.Command.Reporting
import PatchReview.Proofs.Console.Screen
import PatchReview.Proofs.Skill.Listing
import PatchReview.Proofs.Skill.Names

/-!
# Validating and loading

The command that validates a directory goes through its files on its own: it marks each of them,
keeps the names that are taken and fails if a file is rejected. It accepts the skills that are
loaded from that directory, and it succeeds if no file of the directory is passed over in loading.
-/

namespace PatchReview

/-- A directory that is there is something that is there. -/
theorem Disk.holds_of_holdsDirectory {d : Disk} {p : DiskPath} (h : d.holdsDirectory p = true) :
    d.holds p = true := by
  rw [holdsDirectory] at h
  rw [holds]
  cases hfind : d.find p with
  | ok t =>
    rfl
  | error fault =>
    rw [hfind] at h
    cases h

namespace Command

/-! ## Marks -/

/-- How a file is marked. -/
inductive Mark where
  | accepted (new : Skill.Loaded)
  | rejected (path : DiskPath) (error : Skill.LoadError)
  | nameTaken (new old : Skill.Loaded)

namespace Mark

def path : Mark → DiskPath
  | .accepted new => new.source
  | .rejected path _ => path
  | .nameTaken new _ => new.source

def text : Mark → String
  | .accepted new => validText new.source new.skill
  | .rejected path error => rejectedText path error
  | .nameTaken new old => takenText new.source new.skill old

def accepted? : Mark → Option Skill.Loaded
  | .accepted new => some new
  | _ => none

def isValid (m : Mark) : Bool := m.accepted?.isSome

/-- The mark of a file, given the skills that were accepted before. Only an error of the file itself
is one to mark. -/
def ofOutcome (accepted : List Skill.Loaded) (path : DiskPath) :
    Except Skill.LoadError Skill.Loaded → Except Skill.LoadError Mark
  | .error error => if error.isOfFile then .ok (.rejected path error) else .error error
  | .ok new =>
    match Skill.named? new.skill.name accepted with
    | some old => .ok (.nameTaken new old)
    | none => .ok (.accepted new)

/-- A mark stands for what loading makes of the file. -/
theorem accept_of_ofOutcome {accepted : List Skill.Loaded} {path : DiskPath}
    {outcome : Except Skill.LoadError Skill.Loaded} {m : Mark}
    (h : ofOutcome accepted path outcome = .ok m) :
    Skill.accept accepted outcome = .ok (accepted ++ m.accepted?.toList) := by
  cases outcome with
  | error error =>
    rw [ofOutcome] at h
    rw [Skill.accept]
    split at h
    · rename_i hof
      cases h
      rw [if_pos hof]
      exact congrArg Except.ok (List.append_nil accepted).symm
    · cases h
  | ok new =>
    rw [ofOutcome] at h
    rw [Skill.accept]
    cases hnamed : Skill.named? new.skill.name accepted with
    | some old =>
      rw [hnamed] at h
      cases h
      exact congrArg Except.ok (List.append_nil accepted).symm
    | none =>
      rw [hnamed] at h
      cases h
      rfl

/-- A mark is about the path of its outcome. -/
theorem path_of_ofOutcome {accepted : List Skill.Loaded} {d : Disk} {path : DiskPath} {m : Mark}
    (h : ofOutcome accepted path (Skill.load d path) = .ok m) : m.path = path := by
  cases hload : Skill.load d path with
  | error error =>
    rw [hload, ofOutcome] at h
    split at h
    · cases h
      rfl
    · cases h
  | ok new =>
    rw [hload, ofOutcome] at h
    split at h
    · cases h
      exact Skill.source_of_load hload
    · cases h
      exact Skill.source_of_load hload

/-- The files that are marked as valid are those of the accepted skills. -/
theorem map_path_filter_isValid (marks : List Mark) :
    (marks.filter isValid).map path = (marks.filterMap accepted?).map (·.source) := by
  induction marks with
  | nil =>
    rfl
  | cons m marks ih =>
    cases m with
    | accepted new =>
      exact congrArg (new.source :: ·) ih
    | rejected path error =>
      exact ih
    | nameTaken new old =>
      exact ih

/-- Where no file is marked twice, all are valid if each is among the valid ones. -/
theorem all_isValid_iff {marks : List Mark} (h : (marks.map path).Nodup) :
    marks.all isValid = true ↔ ∀ p ∈ marks.map path, p ∈ (marks.filter isValid).map path := by
  rw [List.all_eq_true]
  constructor
  · intro hall p hp
    rcases List.mem_map.1 hp with ⟨m, hm, rfl⟩
    exact List.mem_map_of_mem (List.mem_filter.2 ⟨hm, hall m hm⟩)
  · intro hall m hm
    rcases List.mem_map.1 (hall m.path (List.mem_map_of_mem hm)) with ⟨other, hother, heq⟩
    rw [List.mem_filter] at hother
    exact List.inj_on_of_nodup_map h hother.1 hm heq ▸ hother.2

end Mark

/-! ## One file after the other -/

variable {s : Setting}

/-- What is printed for errors changes nothing else. -/
theorem Setting.exists_runOn_print (s : Setting) (text : String) (desk : Desk) :
    ∃ errors, (s.print text).runOn desk =
      (((Console.print s.columns text).run.run desk.errors).1.mapError .markup,
        { desk with errors }) :=
  ⟨_, runOn_onErrors _ _ desk⟩

/-- A text that can be shown is printed. -/
theorem Setting.exists_runOn_print_of_shown (s : Setting) {text : String}
    (h : ∃ plain, Console.renderMarkup text = .ok plain) (desk : Desk) :
    ∃ errors, (s.print text).runOn desk = (.ok (), { desk with errors }) := by
  rcases h with ⟨plain, hplain⟩
  have hprint : Console.print s.columns text =
      (Console.Layout.lines { limit := s.columns } plain).forM Console.printLine := by
    rw [Console.print, hplain]
  rcases s.exists_runOn_print text desk with ⟨errors, hrun⟩
  rw [hprint, Console.run_forM_printLine] at hrun
  exact ⟨errors, hrun⟩

/-- A file is marked, and the mark is printed. -/
theorem Setting.validateNext_eq (before : List Skill.Loaded × Bool) (path : DiskPath) :
    s.validateNext before path = do
      let d ← Work.disk
      let m ← Work.ofExcept .skill (Mark.ofOutcome before.1 path (Skill.load d path))
      s.print m.text
      return (before.1 ++ m.accepted?.toList, before.2 && m.isValid) := by
  rcases before with ⟨accepted, fine⟩
  have hnone : (accepted ++ (none : Option Skill.Loaded).toList, fine && false) =
      (accepted, false) := by
    rw [Option.toList_none, List.append_nil, Bool.and_false]
  have hsome (new : Skill.Loaded) :
      (accepted ++ (some new).toList, fine && true) = (accepted ++ [new], fine) := by
    rw [Option.toList_some, Bool.and_true]
  rw [validateNext]
  refine bind_congr fun d => ?_
  -- one case for each way a file can turn out: broken, taken or fine
  cases hload : Skill.load d path with
  | error error =>
    rw [Mark.ofOutcome]
    dsimp only
    by_cases hof : error.isOfFile = true
    · rw [if_pos hof, if_pos hof, Work.ofExcept_ok, pure_bind]
      exact bind_congr fun _ => congrArg pure hnone.symm
    · rw [if_neg hof, if_neg hof]
      rfl
  | ok new =>
    have hpath := Skill.source_of_load hload
    subst hpath
    rw [Mark.ofOutcome]
    dsimp only
    cases hnamed : Skill.named? new.skill.name accepted with
    | some old =>
      dsimp only
      rw [Work.ofExcept_ok, pure_bind]
      exact bind_congr fun _ => congrArg pure hnone.symm
    | none =>
      dsimp only
      rw [Work.ofExcept_ok, pure_bind]
      exact bind_congr fun _ => congrArg pure (hsome new).symm

/-- What a single file does to the accepted skills, to the verdict and on the desk. -/
theorem Setting.exists_of_validateNext {before after : List Skill.Loaded × Bool} {path : DiskPath}
    {desk desk' : Desk} (h : (s.validateNext before path).runOn desk = (.ok after, desk')) :
    ∃ m : Mark, m.path = path ∧ (s.print m.text).runOn desk = (.ok (), desk') ∧
      desk'.disk = desk.disk ∧
      Skill.accept before.1 (Skill.load desk.disk path) = .ok after.1 ∧
      after = (before.1 ++ m.accepted?.toList, before.2 && m.isValid) := by
  rw [validateNext_eq, Work.runOn_disk_bind] at h
  rcases Work.runOn_bind_eq_ok_iff.1 h with ⟨m, desk₁, hmark, h⟩
  rw [Work.runOn_ofExcept] at hmark
  cases hmarked : Mark.ofOutcome before.1 path (Skill.load desk.disk path) with
  | error error =>
    rw [hmarked] at hmark
    cases hmark
  | ok marked =>
    rw [hmarked] at hmark
    cases hmark
    rcases Work.runOn_bind_eq_ok_iff.1 h with ⟨_, desk₂, hprint, h⟩
    cases h
    rcases s.exists_runOn_print m.text desk with ⟨errors, hprinted⟩
    have hdisk : desk'.disk = desk.disk := congrArg (·.2.disk) (hprint.symm.trans hprinted)
    exact ⟨m, Mark.path_of_ofOutcome hmarked, hprint, hdisk, Mark.accept_of_ofOutcome hmarked, rfl⟩

/-- A file is marked if the text about it can be shown. -/
theorem Setting.exists_runOn_validateNext {before : List Skill.Loaded × Bool} {path : DiskPath}
    {m : Mark} {desk : Desk}
    (hmark : Mark.ofOutcome before.1 path (Skill.load desk.disk path) = .ok m)
    (hshown : ∃ plain, Console.renderMarkup m.text = .ok plain) :
    ∃ errors, (s.validateNext before path).runOn desk =
      (.ok (before.1 ++ m.accepted?.toList, before.2 && m.isValid), { desk with errors }) := by
  rcases s.exists_runOn_print_of_shown hshown desk with ⟨errors, hprint⟩
  refine ⟨errors, ?_⟩
  rw [validateNext_eq, Work.runOn_disk_bind, hmark, Work.ofExcept_ok, pure_bind,
    Work.runOn_bind_of_ok hprint]
  rfl

/-- Whatever is validated is marked file by file. The skills are accepted as they are in loading,
and all is fine if every mark is one of a valid file. -/
theorem Setting.exists_marks {paths : List DiskPath} {before after : List Skill.Loaded × Bool}
    {desk desk' : Desk} (h : (paths.foldlM s.validateNext before).runOn desk = (.ok after, desk')) :
    ∃ marks : List Mark, marks.map Mark.path = paths ∧
      (marks.forM fun m => s.print m.text).runOn desk = (.ok (), desk') ∧
      (paths.map (Skill.load desk.disk)).foldlM Skill.accept before.1 = .ok after.1 ∧
      after = (before.1 ++ marks.filterMap Mark.accepted?, before.2 && marks.all Mark.isValid) := by
  induction paths generalizing before desk with
  | nil =>
    cases h
    exact ⟨[], rfl, rfl, rfl, by simp⟩
  | cons path paths ih =>
    rw [List.foldlM_cons] at h
    rcases Work.runOn_bind_eq_ok_iff.1 h with ⟨between, desk₁, hfirst, hrest⟩
    rcases exists_of_validateNext hfirst with ⟨m, hpath, hprint, hdisk, haccept, hbetween⟩
    -- Printing leaves the disk, so the other files are what they were.
    rcases ih hrest with ⟨marks, hpaths, hprints, haccepts, hafter⟩
    refine ⟨m :: marks, ?_, ?_, ?_, ?_⟩
    · rw [List.map_cons, hpath, hpaths]
    · exact (Work.runOn_bind_of_ok hprint).trans hprints
    · rw [List.map_cons, List.foldlM_cons, haccept]
      rwa [hdisk] at haccepts
    · have haccepted : (m :: marks).filterMap Mark.accepted? =
          m.accepted?.toList ++ marks.filterMap Mark.accepted? := by
        cases m <;> rfl
      rw [hafter, hbetween, haccepted, List.append_assoc, List.all_cons, Bool.and_assoc]

/-! ## The whole directory -/

/-- A directory that is named is the one that is meant, whatever is configured. -/
theorem Setting.runOn_skillsDirectory_of_text {place : Place} {found : DiskPath} {desk : Desk}
    (hnamed : place.directory.isEmpty = false)
    (hfound : (DiskPath.ofText place.directory).expandHome? desk.disk.home = some found) :
    (s.skillsDirectory place).runOn desk = (.ok (some found), desk) := by
  have hexpand : (Work.expandHome (.ofText place.directory)).runOn desk = (.ok found, desk) := by
    rw [Work.runOn_expandHome, hfound]
  rw [skillsDirectory, hnamed, if_neg Bool.false_ne_true, Work.runOn_bind_of_ok hexpand]
  rfl

/-- Validating a directory and loading it agree. The loaded skills are those of the files that hold
one, in the order of the files and the first of each name; the files that are marked as valid are
theirs, and validating succeeds if these are all files of the directory. -/
theorem Setting.validate_agrees {place : Place} {directory found : DiskPath} {desk desk' : Desk}
    {ending : Ending} (hdistinct : desk.disk.tree.Distinct)
    (hplace : (s.skillsDirectory place).runOn desk = (.ok (some found), desk))
    (hdirectory : directory.expandHome? desk.disk.home = some found)
    (hholds : desk.disk.holdsDirectory found = true)
    (hvalidate : (s.validate place).runOn desk = (.ok ending, desk')) :
    ∃ (loaded : List Skill.Loaded) (log : List LogEntry) (marks : List Mark),
      (Skill.loadAll directory).runOn desk = (.ok loaded, { desk with log }) ∧
      loaded = firstOfEach (·.skill.name)
        ((Skill.filesOf desk.disk found).filterMap fun path =>
          (Skill.load desk.disk path).toOption) ∧
      (loaded.map (·.skill.name)).Nodup ∧
      marks.map Mark.path = Skill.filesOf desk.disk found ∧
      (marks.forM fun m => s.print m.text).runOn desk = (.ok (), desk') ∧
      (marks.filter Mark.isValid).map Mark.path = loaded.map (·.source) ∧
      (ending.code = 0 ↔ ∀ path ∈ Skill.filesOf desk.disk found, path ∈ loaded.map (·.source)) ∧
      (ending.code = 1 ↔ ¬∀ path ∈ Skill.filesOf desk.disk found,
        path ∈ loaded.map (·.source)) := by
  rw [validate, Work.runOn_bind_of_ok hplace] at hvalidate
  dsimp only at hvalidate
  rw [Work.runOn_disk_bind, if_pos hholds, Work.runOn_disk_bind] at hvalidate
  rcases Work.runOn_bind_eq_ok_iff.1 hvalidate with ⟨after, desk₁, hmarks, hend⟩
  rcases exists_marks hmarks with ⟨marks, hpaths, hprints, haccept, hafter⟩
  cases hend
  have hloaded : after.1 = marks.filterMap Mark.accepted? := by
    rw [hafter, List.nil_append]
  have hfine : after.2 = marks.all Mark.isValid := by
    rw [hafter, Bool.true_and]
  rcases Skill.exists_runOn_loadAll_of_holds hdirectory (Disk.holds_of_holdsDirectory hholds) with
    ⟨log, hload⟩
  rw [Skill.outcomes, haccept] at hload
  have hfirst := Skill.foldlM_accept_eq haccept
  rw [List.filterMap_map] at hfirst
  have hvalid : (marks.filter Mark.isValid).map Mark.path = after.1.map (·.source) := by
    rw [hloaded, Mark.map_path_filter_isValid]
  -- A file that stood twice in the listing would be marked as one whose name is taken by itself.
  have hall : after.2 = true ↔ ∀ path ∈ Skill.filesOf desk.disk found,
      path ∈ after.1.map (·.source) := by
    rw [hfine, Mark.all_isValid_iff (hpaths ▸ Skill.nodup_filesOf hdistinct found), hpaths, hvalid]
  refine ⟨after.1, log, marks, hload, hfirst, ?_, hpaths, hprints, hvalid, ?_, ?_⟩
  · rw [hfirst]
    exact nodup_map_firstOfEach _ _
  · rw [← hall]
    cases after.2 <;> simp [Ending.code]
  · rw [← hall]
    cases after.2 <;> simp [Ending.code]

/-- A disk with a file that is no text and with two skills of one name. -/
def crowdedDisk : Disk where
  tree := .directory
    [("skills", .directory
      [("c.yaml", .file (Text.encodeUtf8 Skill.noEvalText)), ("b.yaml", .file [0xFF]),
        ("a.yaml", .file (Text.encodeUtf8 Skill.noEvalText))])]
  workingDirectory := { root := "/", parts := [] }
  home := "/"

def crowdedFile (name : String) : DiskPath := { parts := ["skills", name] }

theorem filesOf_crowdedDisk : Skill.filesOf crowdedDisk { parts := ["skills"] } =
    [crowdedFile "a.yaml", crowdedFile "b.yaml", crowdedFile "c.yaml"] := by
  have hskills : ["a.yaml", "b.yaml", "c.yaml"].all Skill.isSkillName = true := by decide
  have hfind (a b c : List UInt8) : Skill.filesIn (.directory
      [("c.yaml", .file c), ("b.yaml", .file b), ("a.yaml", .file a)]) =
        [["a.yaml"], ["b.yaml"], ["c.yaml"]] := by
    simp_all [Skill.filesIn, Skill.filesInside, Skill.sortByName, Tree.isDirectory, List.mergeSort,
      List.MergeSort.Internal.splitInTwo]
  rw [Skill.filesOf_eq_map rfl, hfind]
  rfl

def crowdedSkill (name : String) : Skill.Loaded := ⟨crowdedFile name, Skill.noEval⟩

theorem load_crowdedDisk {name : String} (h : name = "a.yaml" ∨ name = "c.yaml") :
    Skill.load crowdedDisk (crowdedFile name) = .ok (crowdedSkill name) := by
  have hread : crowdedDisk.read (crowdedFile name) = .ok (Text.encodeUtf8 Skill.noEvalText) := by
    rcases h with rfl | rfl <;> rfl
  exact bind_eq_ok_iff.2 ⟨_, mapError_eq_ok_iff.2 hread,
    bind_eq_ok_iff.2 ⟨_, Skill.ofBytes_noEvalText _, rfl⟩⟩

theorem outcomes_crowdedDisk : Skill.outcomes crowdedDisk { parts := ["skills"] } =
    [.ok (crowdedSkill "a.yaml"), .error (.notText (crowdedFile "b.yaml")),
      .ok (crowdedSkill "c.yaml")] := by
  have hrejected : Skill.load crowdedDisk (crowdedFile "b.yaml") =
      .error (.notText (crowdedFile "b.yaml")) := rfl
  rw [Skill.outcomes, filesOf_crowdedDisk, List.map_cons, List.map_cons, List.map_singleton,
    hrejected, load_crowdedDisk (.inl rfl), load_crowdedDisk (.inr rfl)]

theorem skillsDirectory_crowdedDisk :
    (({} : Setting).skillsDirectory { directory := "skills" }).runOn { disk := crowdedDisk } =
      (.ok (some { parts := ["skills"] }), { disk := crowdedDisk }) := by
  have hfound : (DiskPath.ofText "skills").expandHome? crowdedDisk.home =
      some { parts := ["skills"] } := by
    decide
  exact Setting.runOn_skillsDirectory_of_text (by decide) hfound

/-- The first file is accepted, the second is no text, and the name of the third is taken. -/
theorem exists_runOn_validate_crowdedDisk :
    ∃ errors, (({} : Setting).validate { directory := "skills" }).runOn { disk := crowdedDisk } =
      (.ok .failure, { disk := crowdedDisk, errors }) := by
  have hfirst : ∃ errors, (({} : Setting).validateNext ([], true) (crowdedFile "a.yaml")).runOn
      { disk := crowdedDisk } =
        (.ok ([crowdedSkill "a.yaml"], true), { disk := crowdedDisk, errors }) :=
    Setting.exists_runOn_validateNext (m := .accepted (crowdedSkill "a.yaml"))
      (by rw [load_crowdedDisk (.inl rfl)]; rfl) ⟨_, rfl⟩
  rcases hfirst with ⟨errors₁, hfirst⟩
  have hsecond : ∃ errors, (({} : Setting).validateNext ([crowdedSkill "a.yaml"], true)
      (crowdedFile "b.yaml")).runOn { disk := crowdedDisk, errors := errors₁ } =
        (.ok ([crowdedSkill "a.yaml"], false), { disk := crowdedDisk, errors }) :=
    Setting.exists_runOn_validateNext
      (m := .rejected (crowdedFile "b.yaml") (.notText (crowdedFile "b.yaml"))) rfl ⟨_, rfl⟩
  rcases hsecond with ⟨errors₂, hsecond⟩
  have hthird : ∃ errors, (({} : Setting).validateNext ([crowdedSkill "a.yaml"], false)
      (crowdedFile "c.yaml")).runOn { disk := crowdedDisk, errors := errors₂ } =
        (.ok ([crowdedSkill "a.yaml"], false), { disk := crowdedDisk, errors }) :=
    Setting.exists_runOn_validateNext
      (m := .nameTaken (crowdedSkill "c.yaml") (crowdedSkill "a.yaml"))
      (by rw [load_crowdedDisk (.inr rfl)]; rfl) ⟨_, rfl⟩
  rcases hthird with ⟨errors₃, hthird⟩
  have hholds : crowdedDisk.holdsDirectory { parts := ["skills"] } = true := rfl
  refine ⟨errors₃, ?_⟩
  rw [Setting.validate, Work.runOn_bind_of_ok skillsDirectory_crowdedDisk]
  dsimp only
  rw [Work.runOn_disk_bind, if_pos hholds, Work.runOn_disk_bind, filesOf_crowdedDisk,
    List.foldlM_cons, bind_assoc, Work.runOn_bind_of_ok hfirst, List.foldlM_cons, bind_assoc,
    Work.runOn_bind_of_ok hsecond, List.foldlM_cons, bind_assoc, Work.runOn_bind_of_ok hthird]
  rfl

theorem Setting.validate_agrees_crowded :
    ∃ (desk' : Desk) (log : List LogEntry) (marks : List Mark),
    (({} : Setting).validate { directory := "skills" }).runOn { disk := crowdedDisk } =
        (.ok .failure, desk') ∧
      (Skill.loadAll { parts := ["skills"] }).runOn { disk := crowdedDisk } =
        (.ok [crowdedSkill "a.yaml"], { disk := crowdedDisk, log }) ∧
      marks.map Mark.path = [crowdedFile "a.yaml", crowdedFile "b.yaml", crowdedFile "c.yaml"] ∧
      (marks.filter Mark.isValid).map Mark.path = [crowdedFile "a.yaml"] := by
  have hdistinct : crowdedDisk.tree.Distinct := by
    simp [crowdedDisk, Tree.Distinct, Tree.EntriesDistinct]
  have hdirectory : ({ parts := ["skills"] } : DiskPath).expandHome? crowdedDisk.home =
      some { parts := ["skills"] } := by
    decide
  rcases exists_runOn_validate_crowdedDisk with ⟨errors, hvalidate⟩
  rcases validate_agrees hdistinct skillsDirectory_crowdedDisk hdirectory rfl hvalidate with
    ⟨loaded, log, marks, hloaded, hfirst, _, hpaths, _, hmarked, _⟩
  have hskills := congrArg (List.filterMap (·.toOption)) outcomes_crowdedDisk
  rw [Skill.outcomes, List.filterMap_map] at hskills
  have hone : loaded = [crowdedSkill "a.yaml"] :=
    hfirst.trans (congrArg (firstOfEach (·.skill.name)) hskills)
  rw [filesOf_crowdedDisk] at hpaths
  rw [hone] at hloaded hmarked
  exact ⟨_, log, marks, hvalidate, hloaded, hpaths, hmarked⟩

end Command
end PatchReview
