import PatchReview.Command.Reach
import PatchReview.Command.Run
import PatchReview.Proofs.Command.Planning
import PatchReview.Proofs.Config.Typing
import PatchReview.Proofs.Skill.Footprint

/-!
# The conduct of commands

Every command abides by any contract that lets the directories of skills be furnished that its place
leads to, that is lenient unless the configuration has values of the right kinds, and that lets the
report and the configuration to start with be written where these are asked for. The way through a
command is the same for all contracts, so it is gone here once.
-/

namespace PatchReview
namespace Command

/-! ## What a contract has to let happen -/

/-- A directory of skills that a place leads to on a disk: the one that is asked for, or else the
configured one, with the home directory in place of a tilde. A home directory that begins with a
tilde itself is put in again. -/
inductive Setting.SkillsDirectory (s : Setting) (d : Disk) (place : Place) : DiskPath → Prop where
  | asked {directory : DiskPath} : place.directory ≠ "" →
      (DiskPath.ofText place.directory).expandHome? d.home = some directory →
        SkillsDirectory s d place directory
  | configured {config : Config} {text : String} {directory : DiskPath} : place.directory = "" →
      Config.load s.bounds d s.environment d.workingDirectory place.config = .ok config →
        config.directory = .text text →
      (DiskPath.ofText text).expandHome? d.home = some directory →
        SkillsDirectory s d place directory
  | again {before directory : DiskPath} : SkillsDirectory s d place before →
      before.expandHome? d.home = some directory → SkillsDirectory s d place directory

/-- A contract lets a command do what its place asks for. -/
structure Setting.Permits (s : Setting) (c : Contract) (d₀ : Disk) (place : Place) : Prop where
  furnishes : ∀ directory, s.SkillsDirectory d₀ place directory → c.Furnishes d₀ directory
  configured : ∀ config,
    Config.load s.bounds d₀ s.environment d₀.workingDirectory place.config = .ok config →
    config.WellTyped ∨ c.Lenient

def CheckOptions.place (o : CheckOptions) : Place :=
  { directory := o.skillsDirectory, config := o.config }

/-- A contract lets an invocation do what it asks for. -/
structure Setting.Allows (s : Setting) (c : Contract) (d₀ : Disk) (invocation : Invocation) :
    Prop where
  permits : ∀ place, invocation.place? = some place → s.Permits c d₀ place
  reports : ∀ o, invocation = .check o → ∀ x report,
    Work.AbidesAfter c d₀ (s.writeReport o x report)
  starts : invocation = .init → d₀.holds (d₀.workingDirectory.child Config.fileName) = false →
    Work.Abides c (· = d₀) (Work.write (d₀.workingDirectory.child Config.fileName) Config.starter)
      fun _ => True

section Conduct

variable {s : Setting} {c : Contract} {d₀ : Disk} {place : Place}

/-! ## Directories of skills -/

/-- Printing changes no disk. -/
theorem Setting.abides_print (s : Setting) (text : String) : Work.AbidesAfter c d₀ (s.print text) :=
  .onErrors (fun _ => id) _

theorem abides_printOutput (text : String) : Work.AbidesAfter c d₀ (printOutput text) :=
  .onOutput (fun _ => id) _

/-- A configuration is the one that is loaded from the first disk. -/
theorem Setting.abides_loadConfig (s : Setting) (asked : String) :
    Work.Abides c (· = d₀) (s.loadConfig asked) fun config? => ∀ config, config? = some config →
      Config.load s.bounds d₀ s.environment d₀.workingDirectory asked = .ok config := by
  have hloads : Work.AbidesAfter c d₀ (s.loadConfig asked) := by
    refine .andThen .disk fun d _ => ?_
    split
    · exact .pure trivial
    · split
      · exact .andThen (s.abides_print _) fun _ _ => .pure trivial
      · exact .throw (c.other id)
  rintro desk rfl
  rcases hloads.first desk rfl with ⟨hchange, hfault, -⟩
  refine ⟨hchange, hfault, ?_⟩
  rintro _ hresult config rfl
  have hload : (s.loadConfig asked).runOn desk = (.ok (some config), _) := Prod.ext hresult rfl
  exact config_of_loadConfig hload

/-- A path is that of a text, and no fault is given up for a text. -/
theorem abides_pathOf {v : Toml.Value} (h : v.IsText ∨ c.Lenient) :
    Work.Abides c (c.change d₀) (pathOf v) fun path =>
      ∃ text, v = .text text ∧ path = .ofText text := by
  cases v with
  | text text => exact .pure ⟨text, rfl, rfl⟩
  | _ =>
    rcases h with ⟨text, htext⟩ | hlenient
    · cases htext
    · exact .throw (hlenient _)

/-- The directory of a command is one that its place leads to. -/
theorem Setting.Permits.abides_skillsDirectory (hs : s.Permits c d₀ place) :
    Work.Abides c (· = d₀) (s.skillsDirectory place) fun directory? => ∀ directory,
      directory? = some directory → s.SkillsDirectory d₀ place directory := by
  rw [skillsDirectory]
  split
  · next hempty =>
    refine .firstThen (s.abides_loadConfig place.config) fun config? hconfig => ?_
    cases config? with
    | none => exact .pure fun _ hnone => by cases hnone
    | some config =>
      have hdirectory : config.directory.IsText ∨ c.Lenient :=
        (hs.configured config (hconfig config rfl)).imp_left (·.directory)
      refine .andThen (abides_pathOf hdirectory) ?_
      rintro path ⟨text, htext, rfl⟩
      refine .andThen (.expandHome _) fun directory hexpand => .pure ?_
      rintro _ ⟨⟩
      exact .configured (String.isEmpty_iff.1 hempty) (hconfig config rfl) htext hexpand
  · next hasked =>
    refine .firstThen (Work.Abides.expandHome _).first fun directory hexpand => .pure ?_
    rintro _ ⟨⟩
    exact .asked (fun hempty => hasked (String.isEmpty_iff.2 hempty)) hexpand

/-! ## Selecting and running skills -/

section Selecting

variable {directory : DiskPath} {requests : List Request} (hs : s.Permits c d₀ place)
  (hdirectory : s.SkillsDirectory d₀ place directory)
include hs hdirectory

/-- Whatever is put for a tilde in a directory of skills, it may be furnished. -/
theorem Setting.Permits.furnishes_again {found : DiskPath}
    (hexpand : directory.expandHome? d₀.home = some found) : c.Furnishes d₀ found :=
  hs.furnishes found (.again hdirectory hexpand)

/-- Loading the skills makes their directory at most. -/
theorem Setting.Permits.abides_loadAll : Work.AbidesAfter c d₀ (Skill.loadAll directory) :=
  Skill.abides_loadAll fun _ => hs.furnishes_again hdirectory

/-- Installing makes what the contract lets be furnished. -/
theorem Setting.Permits.abides_install : Work.AbidesAfter c d₀ (Skill.install directory) :=
  Skill.abides_install fun _ => hs.furnishes_again hdirectory

/-- Skills are selected by values that can be asked for, or by any where the contract is lenient. -/
theorem Setting.Permits.abides_select
    (h : requests.findSome? Request.unusable? = none ∨ c.Lenient) :
    Work.AbidesAfter c d₀ (Engine.select directory requests) := by
  refine .andThen (hs.abides_loadAll hdirectory) fun loaded _ => ?_
  split
  · next kind hkind =>
    rcases h with hnone | hlenient
    · rw [hkind] at hnone
      cases hnone
    · exact .throw (hlenient _)
  · refine .foldlM (fun selected request _ => ?_) _
    rw [Engine.selectNext]
    split
    · exact .pure trivial
    · exact .andThen (.tell _ _) fun _ _ => .pure trivial

theorem Setting.Permits.abides_requested
    (h : requests.findSome? Request.unusable? = none ∨ c.Lenient) :
    Work.AbidesAfter c d₀ (Engine.requested directory requests) := by
  refine .andThen (.expandHome directory) fun found hexpand => ?_
  split
  · exact .pure trivial
  · exact hs.abides_select (hdirectory.again hexpand) h

theorem Setting.Permits.abides_installMissing (config : Config) :
    Work.AbidesAfter c d₀ (s.installMissing config directory) := by
  rw [installMissing]
  split
  · refine .andThen (hs.abides_install hdirectory).orFileError fun result _ => ?_
    cases result with
    | ok written => exact .andThen (.forM (fun _ => .tell _ _) written) fun _ _ => .pure trivial
    | error error => exact .andThen (s.abides_print _) fun _ _ => .pure trivial
  · exact .pure trivial

end Selecting

theorem abides_runAll (skills : List Skill) (d : Diff) :
    Work.AbidesAfter c d₀ (Engine.runAll skills d) := by
  have hpattern (error : Pattern.PatternError) : ¬ (Fault.pattern error).IsMistyped := id
  refine .of_mapError hpattern fun desk =>
    ⟨((Engine.runSkills skills d).run.run desk.log).1,
      { desk with log := ((Engine.runSkills skills d).run.run desk.log).2 }, ?_, rfl⟩
  rw [Engine.runAll, Work.runOn_get_bind]
  rcases (Engine.runSkills skills d).run.run desk.log with ⟨_ | _, log⟩ <;> rfl

/-! ## Checks -/

/-- What is asked for by texts can be asked for. -/
theorem usable_requestsOf {config : Config} (h : config.WellTyped) (o : CheckOptions) :
    (requestsOf o config).findSome? Request.unusable? = none := by
  rw [List.findSome?_eq_none_iff, requestsOf]
  intro request hrequest
  split at hrequest
  · rcases List.mem_map.1 hrequest with ⟨item, hitem, rfl⟩
    rcases h.enabled item hitem with ⟨text, rfl⟩
    rfl
  · rcases List.mem_map.1 hrequest with ⟨name, -, rfl⟩
    rfl

/-- The directory of a plan is one that the place leads to, and what it asks for can be asked for,
unless the contract is lenient. -/
structure Setting.Planned (s : Setting) (c : Contract) (d₀ : Disk) (place : Place)
    (plan : CheckPlan) : Prop where
  directory : s.SkillsDirectory d₀ place plan.directory
  requests : plan.requests.findSome? Request.unusable? = none ∨ c.Lenient

/-- To choose between an option and the configuration changes nothing. -/
theorem Setting.abides_choose {α : Type} (s : Setting) (what : String) (ofName? : String → Option α)
    (option : String) (configured : α) :
    Work.AbidesAfter c d₀ (s.choose what ofName? option configured) := by
  rw [choose]
  split
  · exact .pure trivial
  · split
    · exact .pure trivial
    · exact .andThen (s.abides_print _) fun _ _ => .pure trivial

/-- Nor does reading the diff. -/
theorem Setting.abides_readDiff (s : Setting) (path : Option String) :
    Work.AbidesAfter c d₀ (s.readDiff path) := by
  rw [readDiff]
  split
  · split
    · exact .pure trivial
    · exact .throw (c.other id)
  · refine .andThen .disk fun d _ => ?_
    split
    · exact .pure trivial
    · exact .andThen (s.abides_print _) fun _ _ => .pure trivial

section Check

variable {o : CheckOptions} (hs : s.Permits c d₀ o.place)
include hs

/-- What is prepared is planned within the contract. -/
theorem Setting.Permits.abides_prepare {config : Config}
    (hconfig : Config.load s.bounds d₀ s.environment d₀.workingDirectory o.config = .ok config)
    (format : OutputFormat) (failOn : FailOn) :
    Work.Abides c (c.change d₀) (s.prepare o config format failOn) fun plan? =>
      ∀ plan, plan? = some plan → s.Planned c d₀ o.place plan := by
  have htyped : config.WellTyped ∨ c.Lenient := hs.configured config hconfig
  have hrequests : (requestsOf o config).findSome? Request.unusable? = none ∨ c.Lenient :=
    htyped.imp_left fun h => usable_requestsOf h o
  rw [prepare]
  split
  case' isTrue hempty =>
    refine .andThen (abides_pathOf (htyped.imp_left (·.directory))) ?_
    rintro named ⟨text, htext, rfl⟩
    refine .andThen (.expandHome _) fun directory hexpand => ?_
    have hdirectory : s.SkillsDirectory d₀ o.place directory :=
      .configured (String.isEmpty_iff.1 hempty) hconfig htext hexpand
  case' isFalse hasked =>
    refine .andThen (.pure rfl) ?_
    rintro named rfl
    refine .andThen (.expandHome _) fun directory hexpand => ?_
    have hdirectory : s.SkillsDirectory d₀ o.place directory :=
      .asked (fun hempty => hasked (String.isEmpty_iff.2 hempty)) hexpand
  -- wherever the directory is named, the same follows
  all_goals
    refine .andThen (hs.abides_installMissing hdirectory config) fun installed _ => ?_
    split
    · dsimp only
      split
      · refine .andThen (s.abides_print _) fun _ _ => .pure ?_
        rintro _ ⟨⟩
        exact ⟨hdirectory, hrequests⟩
      · refine .pure ?_
        rintro _ ⟨⟩
        exact ⟨hdirectory, hrequests⟩
    · exact .pure fun _ hnone => by cases hnone

/-- So is the whole plan. -/
theorem Setting.Permits.abides_plan :
    Work.Abides c (· = d₀) (s.plan o) fun plan? =>
      ∀ plan, plan? = some plan → s.Planned c d₀ o.place plan := by
  have hnone : ∀ plan, (none : Option CheckPlan) = some plan → s.Planned c d₀ o.place plan :=
    fun _ heq => by cases heq
  refine .firstThen (s.abides_loadConfig o.config) fun config? hconfig => ?_
  cases config? with
  | none => exact .pure hnone
  | some config =>
    refine .andThen (s.abides_choose _ _ _ _) fun format? _ => ?_
    cases format? with
    | none => exact .pure hnone
    | some format =>
      refine .andThen (s.abides_choose _ _ _ _) fun failOn? _ => ?_
      cases failOn? with
      | none => exact .pure hnone
      | some failOn => exact hs.abides_prepare (hconfig config rfl) format failOn

/-- An examination keeps to its plan. -/
theorem Setting.Permits.abides_examineText {plan : CheckPlan} (hplan : s.Planned c d₀ o.place plan)
    (text : String) :
    Work.Abides c (c.change d₀) (s.examineText o plan text) fun x => x.plan = plan := by
  refine .andThen (.ofExcept (fun _ => id) _) fun diff _ => ?_
  have hsizes : Work.AbidesAfter c d₀ (s.printSizes plan.directory diff) :=
    .andThen (s.abides_print _) fun _ _ => s.abides_print _
  dsimp only
  split
  case' isTrue =>
    refine .andThen hsizes fun _ _ => ?_
  all_goals
    refine .andThen (hs.abides_requested hplan.directory hplan.requests) fun selected _ => ?_
    exact .andThen (abides_runAll _ diff) fun results _ => .pure rfl

/-- So it abides, and its plan is within the contract. -/
theorem Setting.Permits.abides_examine :
    Work.Abides c (· = d₀) (s.examine o) fun x? =>
      ∀ x, x? = some x → s.Planned c d₀ o.place x.plan := by
  refine .firstThen hs.abides_plan fun plan? hplan => ?_
  cases plan? with
  | none => exact .pure fun _ heq => by cases heq
  | some plan =>
    refine .andThen (s.abides_readDiff o.diffPath) fun text? _ => ?_
    cases text? with
    | none => exact .pure fun _ heq => by cases heq
    | some text =>
      refine .andThen (hs.abides_examineText (hplan plan rfl) text) fun x hx => .pure ?_
      rintro _ ⟨⟩
      rw [hx]
      exact hplan plan rfl

/-- The skills are selected once more where their guidelines are reported. -/
theorem Setting.Permits.abides_report {x : Examination} (hplan : s.Planned c d₀ o.place x.plan) :
    Work.AbidesAfter c d₀ (s.report x) := by
  have hshowing (error : Report.TerminalError) : ¬ (showingFault error).IsMistyped := by
    cases error <;> exact id
  have hprinted (text : String) :
      Work.AbidesAfter c d₀ (do printOutput text; return some text : Work (Option String)) :=
    .andThen (abides_printOutput _) fun _ _ => .pure trivial
  rw [report]
  split
  · exact .andThen (.onErrors hshowing _) fun _ _ => .pure trivial
  · exact .andThen (.ofExcept (fun _ => id) _) fun text _ => hprinted text
  · refine .andThen (.expandHome _) fun directory hexpand => ?_
    refine .andThen (hs.abides_select (hplan.directory.again hexpand) hplan.requests)
      fun skills _ => ?_
    exact .andThen (.ofExcept (fun _ => id) _) fun text _ => hprinted text

/-- A check abides, if its report may be written. -/
theorem Setting.Permits.abides_check
    (hreports : ∀ x report, Work.AbidesAfter c d₀ (s.writeReport o x report)) :
    Work.Abides c (· = d₀) (s.check o) fun _ => True := by
  refine .firstThen hs.abides_examine fun x? hplan => ?_
  cases x? with
  | none => exact .pure trivial
  | some x =>
    refine .andThen (hs.abides_report (hplan x rfl)) fun report _ => ?_
    exact .andThen (hreports x report) fun _ _ => .pure trivial

end Check

/-! ## Other commands -/

/-- Validating a file changes no disk. -/
theorem Setting.abides_validateNext (s : Setting) (before : List Skill.Loaded × Bool)
    (path : DiskPath) : Work.AbidesAfter c d₀ (s.validateNext before path) := by
  rw [validateNext]
  refine .andThen .disk fun d _ => ?_
  split
  · split
    · exact .andThen (s.abides_print _) fun _ _ => .pure trivial
    · exact .throw (c.other id)
  · split
    · exact .andThen (s.abides_print _) fun _ _ => .pure trivial
    · exact .andThen (s.abides_print _) fun _ _ => .pure trivial

section Place

variable (hs : s.Permits c d₀ place)
include hs

/-- Validating abides. -/
theorem Setting.Permits.abides_validate :
    Work.Abides c (· = d₀) (s.validate place) fun _ => True := by
  refine .firstThen hs.abides_skillsDirectory fun directory? _ => ?_
  cases directory? with
  | none => exact .pure trivial
  | some directory =>
    refine .andThen .disk fun d _ => ?_
    split
    · refine .andThen .disk fun d _ => ?_
      exact .andThen (.foldlM (fun before path _ => s.abides_validateNext before path) _) fun _ _ =>
        .pure trivial
    · exact .andThen (s.abides_print _) fun _ _ => .pure trivial

/-- So does listing. -/
theorem Setting.Permits.abides_list : Work.Abides c (· = d₀) (s.list place) fun _ => True := by
  refine .firstThen hs.abides_skillsDirectory fun directory? hdirectory => ?_
  cases directory? with
  | none => exact .pure trivial
  | some directory =>
    refine .andThen (hs.abides_loadAll (hdirectory directory rfl)) fun loaded _ => ?_
    dsimp only
    split
    · exact .andThen (s.abides_print _) fun _ _ => .pure trivial
    · exact .andThen (.onOutput (fun _ => id) _) fun _ _ => .pure trivial

/-- So does installing. -/
theorem Setting.Permits.abides_installation :
    Work.Abides c (· = d₀) (s.install place) fun _ => True := by
  refine .firstThen hs.abides_skillsDirectory fun directory? hdirectory => ?_
  cases directory? with
  | none => exact .pure trivial
  | some directory =>
    refine .andThen (hs.abides_install (hdirectory directory rfl)).orFileError fun result _ => ?_
    cases result with
    | error error => exact .andThen (s.abides_print _) fun _ _ => .pure trivial
    | ok written =>
      have htold : Work.AbidesAfter c d₀ (do
          written.forM fun path => s.print ("[green]✓[/green] Installed " ++ path.text)
          return Ending.success) :=
        .andThen (.forM (fun _ => s.abides_print _) written) fun _ _ => .pure trivial
      dsimp only
      split
      · exact .andThen (s.abides_print _) fun _ _ => htold
      · exact htold

end Place

/-- A configuration to start with is written only where none stands. -/
theorem Setting.abides_start (s : Setting)
    (h : d₀.holds (d₀.workingDirectory.child Config.fileName) = false →
      Work.Abides c (· = d₀) (Work.write (d₀.workingDirectory.child Config.fileName) Config.starter)
        fun _ => True) : Work.Abides c (· = d₀) s.start fun _ => True := by
  refine .diskThen ?_
  rintro _ rfl
  dsimp only
  split
  · exact .firstThen (s.abides_print _).first fun _ _ => .pure trivial
  · next hfree =>
    refine .firstThen (h (Bool.eq_false_iff.2 hfree)) fun _ _ => ?_
    exact .andThen (s.abides_print _) fun _ _ => .pure trivial

/-- Every command abides by a contract that lets it do what it asks for. -/
theorem Setting.Allows.abides_run {invocation : Invocation} (h : s.Allows c d₀ invocation) :
    Work.Abides c (· = d₀) (s.run invocation) fun _ => True := by
  cases invocation with
  | check o => exact (h.permits o.place rfl).abides_check (h.reports o rfl)
  | validate place => exact (h.permits place rfl).abides_validate
  | list place => exact (h.permits place rfl).abides_list
  | init => exact s.abides_start (h.starts rfl)
  | install place => exact (h.permits place rfl).abides_installation
  | version => exact .firstThen (abides_printOutput _).first fun _ _ => .pure trivial
  | usage asked => exact .pure trivial

end Conduct

end Command
end PatchReview
