import PatchReview.Command.Check
import PatchReview.Proofs.Skill.Isolation

/-!
# Planning a check

A check is planned by its options and the configuration. Options come first, so that the form of the
report and the level from which on a check fails can be asked for; asking for others changes nothing
else in the plan.
-/

namespace PatchReview

/-- A form of report is read by its name. -/
theorem OutputFormat.ofName?_name (f : OutputFormat) : OutputFormat.ofName? f.name = some f := by
  cases f <;> decide

/-- A level is read by its name. -/
theorem FailOn.ofName?_name (level : Severity) : FailOn.ofName? level.name = some (some level) := by
  cases level <;> decide

namespace Command

/-! ## Choices -/

variable {s : Setting}

/-- A word that names something is chosen, whatever is configured. -/
theorem Setting.choose_of_name {α : Type} (what : String) {ofName? : String → Option α}
    {option : String} (hoption : option.isEmpty = false) {a : α} (ha : ofName? option = some a)
    (configured : α) : s.choose what ofName? option configured = pure (some a) := by
  rw [choose, hoption, ha]
  rfl

/-! ## Other plans -/

def CheckPlan.withFormat (f : OutputFormat) (plan : CheckPlan) : CheckPlan :=
  { plan with format := f }

def CheckPlan.withLevel (level : Severity) (plan : CheckPlan) : CheckPlan :=
  { plan with failOn := some level }

def CheckOptions.withFormat (f : OutputFormat) (o : CheckOptions) : CheckOptions :=
  { o with format := f.name }

def CheckOptions.withLevel (level : Severity) (o : CheckOptions) : CheckOptions :=
  { o with failOn := level.name }

/-- What is prepared does not depend on the form of the report and on the level. -/
theorem Setting.prepare_replan {o o' : CheckOptions}
    (hplace : o'.skillsDirectory = o.skillsDirectory)
    (hskills : o'.skills = o.skills) (config : Config) {format format' : OutputFormat}
    {failOn failOn' : FailOn} {change : CheckPlan → CheckPlan}
    (hchange : ∀ directory requests, change { format, failOn, directory, requests } =
      { format := format', failOn := failOn', directory, requests }) :
    s.prepare o' config format' failOn' =
      Option.map change <$> s.prepare o config format failOn := by
  have hrequests : requestsOf o' config = requestsOf o config := by
    rw [requestsOf, requestsOf, hskills]
  rw [prepare, prepare, hplace, hrequests]
  split
  -- Wherever the directory is named, the same follows.
  all_goals
    rw [map_bind]
    refine bind_congr fun named => ?_
    rw [map_bind]
    refine bind_congr fun directory => ?_
    rw [map_bind]
    refine bind_congr fun installed => ?_
    cases installed with
    | false =>
      simp
    | true =>
      dsimp only
      rw [if_pos rfl, if_pos rfl]
      split
      · simp [hchange]
      · simp [hchange]

/-- The level that is asked for is planned. -/
theorem Setting.plan_failOn (o : CheckOptions) (level lower : Severity) :
    s.plan (o.withLevel lower) =
      Option.map (CheckPlan.withLevel lower) <$> s.plan (o.withLevel level) := by
  have hchoose (l : Severity) (configured : FailOn) :
      s.choose "fail-on level" FailOn.ofName? (o.withLevel l).failOn configured =
        pure (some (some l)) :=
    s.choose_of_name "fail-on level" (by cases l <;> decide) (FailOn.ofName?_name l) configured
  rw [plan, plan, map_bind]
  refine bind_congr fun config? => ?_
  cases config? with
  | none =>
    simp
  | some config =>
    dsimp only
    rw [map_bind]
    refine bind_congr fun format? => ?_
    cases format? with
    | none =>
      simp
    | some format =>
      dsimp only
      rw [hchoose lower, hchoose level, pure_bind, pure_bind]
      exact prepare_replan rfl rfl config fun _ _ => rfl

/-! ## The effective level -/

/-- The configuration of a command is the one that is loaded. -/
theorem Setting.config_of_loadConfig {asked : String} {config : Config} {desk desk' : Desk}
    (h : (s.loadConfig asked).runOn desk = (.ok (some config), desk')) :
    Config.load s.bounds desk.disk s.environment desk.disk.workingDirectory asked = .ok config := by
  rw [loadConfig, Work.runOn_disk_bind] at h
  cases hload : Config.load s.bounds desk.disk s.environment desk.disk.workingDirectory asked with
  | ok loaded =>
    rw [hload] at h
    cases h
    rfl
  | error error =>
    rw [hload] at h
    dsimp only at h
    split at h
    · rcases Work.runOn_bind_eq_ok_iff.1 h with ⟨_, _, _, hnone⟩
      cases hnone
    · cases h

/-- What is chosen is the configured value, or what the option names. -/
theorem Setting.of_choose {α : Type} {what : String} {ofName? : String → Option α}
    {option : String} {configured a : α} {desk desk' : Desk}
    (h : (s.choose what ofName? option configured).runOn desk = (.ok (some a), desk')) :
    if option = "" then a = configured else ofName? option = some a := by
  rw [choose] at h
  by_cases hoption : option = ""
  · rw [if_pos hoption]
    rw [hoption] at h
    cases h
    rfl
  · rw [if_neg hoption]
    rw [if_neg (by simpa using hoption)] at h
    cases hname : ofName? option with
    | some named =>
      rw [hname] at h
      cases h
      rfl
    | none =>
      rw [hname] at h
      rcases Work.runOn_bind_eq_ok_iff.1 h with ⟨_, _, _, hnone⟩
      cases hnone

/-- A plan has the level that it is prepared for. -/
theorem Setting.failOn_of_prepare {o : CheckOptions} {config : Config} {format : OutputFormat}
    {failOn : FailOn} {plan : CheckPlan} {desk desk' : Desk}
    (h : (s.prepare o config format failOn).runOn desk = (.ok (some plan), desk')) :
    plan.failOn = failOn := by
  -- Whatever is prepared, setting its level to the given one changes nothing.
  have hset : s.prepare o config format failOn =
      Option.map (fun plan => { plan with failOn }) <$> s.prepare o config format failOn :=
    prepare_replan rfl rfl config fun _ _ => rfl
  rw [hset, Work.runOn_map] at h
  cases hprepared : ((s.prepare o config format failOn).runOn desk).1 with
  | error fault =>
    rw [hprepared] at h
    cases h
  | ok plan? =>
    rw [hprepared] at h
    cases plan? with
    | none =>
      cases h
    | some old =>
      cases h
      rfl

/-- The level is the one that is asked for, or else the configured one. -/
theorem Setting.failOn_of_plan {o : CheckOptions} {plan : CheckPlan} {desk desk' : Desk}
    (h : (s.plan o).runOn desk = (.ok (some plan), desk')) :
    ∃ config, Config.load s.bounds desk.disk s.environment desk.disk.workingDirectory o.config =
      .ok config ∧
      if o.failOn = "" then plan.failOn = config.failOn
      else FailOn.ofName? o.failOn = some plan.failOn := by
  rw [Setting.plan] at h
  rcases Work.runOn_bind_eq_ok_iff.1 h with ⟨config?, desk₁, hconfig, h⟩
  cases config? with
  | none =>
    cases h
  | some config =>
    refine ⟨config, config_of_loadConfig hconfig, ?_⟩
    rcases Work.runOn_bind_eq_ok_iff.1 h with ⟨format?, desk₂, _, h⟩
    cases format? with
    | none =>
      cases h
    | some format =>
      rcases Work.runOn_bind_eq_ok_iff.1 h with ⟨failOn?, desk₃, hfailOn, h⟩
      cases failOn? with
      | none =>
        cases h
      | some failOn =>
        rw [failOn_of_prepare h]
        exact of_choose hfailOn

/-! ## Plans that are asked for -/

/-- A check that is asked for all it needs is planned as it is asked for, if the bundled skills need
not be installed. -/
theorem Setting.runOn_plan_of_load {o : CheckOptions} {config : Config} {format : OutputFormat}
    {failOn : FailOn} {place : DiskPath} {desk : Desk}
    (hload : Config.load s.bounds desk.disk s.environment desk.disk.workingDirectory o.config =
      .ok config)
    (hinstall : config.installDefaults.isTruthy = false) (hformat : o.format.isEmpty = false)
    (hformat' : OutputFormat.ofName? o.format = some format) (hfailOn : o.failOn.isEmpty = false)
    (hfailOn' : FailOn.ofName? o.failOn = some failOn)
    (hdirectory : o.skillsDirectory.isEmpty = false)
    (hplace : (DiskPath.ofText o.skillsDirectory).expandHome? desk.disk.home = some place)
    (hskills : o.skills.isEmpty = false) :
    (s.plan o).runOn desk =
      (.ok (some { format, failOn, directory := place, requests := o.skills.map .name }),
        desk) := by
  have hconfig : (s.loadConfig o.config).runOn desk = (.ok (some config), desk) := by
    rw [loadConfig, Work.runOn_disk_bind, hload]
    rfl
  have hexpand : (Work.expandHome (.ofText o.skillsDirectory)).runOn desk = (.ok place, desk) := by
    rw [Work.runOn_expandHome, hplace]
  have hinstalled : s.installMissing config place = pure true := by
    rw [installMissing, hinstall]
    rfl
  have hrequests : requestsOf o config = o.skills.map .name := by
    rw [requestsOf, hskills]
    rfl
  have hsome : (o.skills.map Request.name).isEmpty = false := by
    rw [List.isEmpty_map, hskills]
  -- the way through the plan is determined by what is asked for
  rw [plan, Work.runOn_bind_of_ok hconfig]
  dsimp only
  rw [s.choose_of_name "format" hformat hformat', pure_bind]
  dsimp only
  rw [s.choose_of_name "fail-on level" hfailOn hfailOn', pure_bind]
  dsimp only
  rw [prepare, hdirectory, hrequests, if_neg (by decide), pure_bind,
    Work.runOn_bind_of_ok hexpand, hinstalled, pure_bind, if_pos rfl]
  dsimp only
  rw [hsome]
  rfl

/-- A disk with a skill, and with a configuration that keeps the bundled ones away. -/
def noEvalDisk : Disk where
  tree := .directory
    [(".diffskills.toml", .file (Text.encodeUtf8 "[skills]\ninstall_defaults = false\n")),
      ("skills", .directory [("no-eval.yaml", .file (Text.encodeUtf8 Skill.noEvalText))])]
  workingDirectory := { root := "/", parts := [] }
  home := "/"

/-- Options that ask for the skill of that disk. -/
def noEvalOptions : CheckOptions :=
  { skills := ["no-eval"], skillsDirectory := "skills", failOn := "critical" }

def noEvalPlan (f : OutputFormat) : CheckPlan :=
  { format := f, failOn := some .critical, directory := { parts := ["skills"] }
    requests := [.name "no-eval"] }

theorem Setting.runOn_plan_noEval (hs : s.environment = []) (hbounds : s.bounds = .unreached)
    (f : OutputFormat) :
    (s.plan (noEvalOptions.withFormat f)).runOn { disk := noEvalDisk } =
      (.ok (some (noEvalPlan f)), { disk := noEvalDisk }) := by
  have hload : ((Config.load .unreached noEvalDisk [] noEvalDisk.workingDirectory "").toOption.map
      fun config => config.installDefaults.isTruthy) = some false := by
    decide +kernel
  have hfailOn : noEvalOptions.failOn.isEmpty = false := by decide
  have hdirectory : noEvalOptions.skillsDirectory.isEmpty = false := by decide
  have hplace : (DiskPath.ofText noEvalOptions.skillsDirectory).expandHome? noEvalDisk.home =
      some { parts := ["skills"] } := by
    decide +kernel
  cases hconfig : Config.load .unreached noEvalDisk [] noEvalDisk.workingDirectory "" with
  | error error =>
    rw [hconfig] at hload
    cases hload
  | ok config =>
    rw [hconfig] at hload
    rw [← hs, ← hbounds] at hconfig
    exact runOn_plan_of_load hconfig (Option.some.inj hload) (by cases f <;> decide)
      (OutputFormat.ofName?_name f) hfailOn (FailOn.ofName?_name .critical) hdirectory hplace rfl

end Command
end PatchReview
