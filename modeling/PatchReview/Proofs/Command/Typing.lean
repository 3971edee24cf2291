import PatchReview.Proofs.Command.Conduct
import PatchReview.Proofs.Command.Misconfiguration

/-!
# Commands with values of the right kinds

A command is given up because of the kind of a value only if the configuration that it finds has a
value of a wrong kind. Where a path belongs anything but a text stops every command that needs the
path, and where the name of a skill belongs a list or a table stops the selection of skills.
-/

namespace PatchReview

/-! ## The contract -/

/-- Nothing is given up because of the kind of a value, whatever becomes of the disk but its home
directory. -/
def Contract.typed : Contract where
  change d d' := d'.home = d.home
  fault fault := ¬ fault.IsMistyped
  refl _ := rfl
  trans h h' := h'.trans h
  home h := h
  other h := h

namespace Work

variable {start : Disk → Prop}

/-- Directories are made whatever the kinds of values. -/
theorem typed_ensureDirectories (path : DiskPath) :
    Abides .typed start (ensureDirectories path) fun _ => True := by
  have hstable : Disk.Plan.Stable fun _ _ _ => True := fun _ _ _ _ _ _ => trivial
  intro desk _
  rw [runOn_ensureDirectories]
  refine ⟨(Disk.grows_ensureDirectories hstable desk.disk fun _ _ _ _ _ _ => trivial).home, ?_,
    fun _ _ => trivial⟩
  intro fault h
  dsimp only at h
  cases hmade : (desk.disk.ensureDirectories path).1 with
  | ok _ =>
    rw [hmade] at h
    cases h
  | error error =>
    rw [hmade] at h
    cases h
    exact id

theorem typed_write (path : DiskPath) (text : String) :
    Abides .typed start (write path text) fun _ => True := by
  intro desk _
  rw [runOn_write]
  cases hwrite : desk.disk.write path (Text.encodeUtf8 text) with
  | error error =>
    refine ⟨rfl, fun fault h => ?_, fun _ _ => trivial⟩
    cases h
    exact id
  | ok d =>
    refine ⟨Disk.home_of_write hwrite, fun fault h => ?_, fun _ _ => trivial⟩
    cases h

end Work

/-- The bundled skills may be installed anywhere. -/
theorem Skill.furnishes_typed (d₀ : Disk) (directory : DiskPath) :
    Contract.typed.Furnishes d₀ directory where
  made := Work.typed_ensureDirectories directory
  filled written file _ := by
    refine .andThen .disk fun d _ => ?_
    split
    · exact .pure trivial
    · exact .andThen (Work.typed_write _ _) fun _ _ => .pure trivial

namespace Engine

/-- Nothing is selected by a value that cannot be asked for. -/
theorem runOn_requested_ne_ok {requests : List Request}
    (h : requests.findSome? Request.unusable? ≠ none) (directory : DiskPath) (desk : Desk)
    (selected : List Skill.Loaded) :
    ((requested directory requests).runOn desk).1 ≠ .ok selected := by
  intro hselected
  have hrun : (requested directory requests).runOn desk = (.ok selected, _) :=
    Prod.ext hselected rfl
  rcases Work.runOn_bind_eq_ok_iff.1 hrun with ⟨place, desk₁, -, hrun⟩
  split at hrun
  · next hempty =>
    rw [List.isEmpty_iff.1 hempty] at h
    exact h rfl
  · rcases Work.runOn_bind_eq_ok_iff.1 hrun with ⟨loaded, desk₂, -, hrun⟩
    split at hrun
    · cases hrun
    · next hnone => exact h hnone

end Engine

/-! ## Commands -/

namespace Command

/-- A list and a table cannot be asked for. -/
theorem unusable_requestsOf {config : Config} {o : CheckOptions} (ho : o.skills = [])
    {item : Toml.Value} (hitem : item ∈ config.enabled)
    (h : (∃ items, item = .list items) ∨ ∃ entries, item = .table entries) :
    (requestsOf o config).findSome? Request.unusable? ≠ none := by
  rw [ne_eq, List.findSome?_eq_none_iff, requestsOf, ho]
  intro hall
  have hnone := hall (requestOf item) (List.mem_map_of_mem hitem)
  rcases h with ⟨items, rfl⟩ | ⟨entries, rfl⟩ <;> cases hnone

/-- If the configuration that a command finds has values of the right kinds, the command may do what
it asks for without being given up because of the kind of one. -/
theorem Setting.allows_typed (s : Setting) {invocation : Invocation} {d₀ : Disk}
    (h : ∀ place, invocation.place? = some place → ∀ config,
      Config.load s.bounds d₀ s.environment d₀.workingDirectory place.config = .ok config →
      config.WellTyped) :
    s.Allows .typed d₀ invocation where
  permits place hplace :=
    { furnishes := fun directory _ => Skill.furnishes_typed d₀ directory
      configured := fun config hconfig => .inl (h place hplace config hconfig) }
  reports o _ x report := by
    have hwritten (text : String) : Work.AbidesAfter .typed d₀ (do
        Work.write (.ofText o.output) text
        if o.verbose then s.print ("[dim]Report written to " ++ o.output ++ "[/dim]")) := by
      refine .andThen (Work.typed_write _ _) fun _ _ => ?_
      split
      · exact s.abides_print _
      · exact .pure trivial
    rw [writeReport]
    split
    · cases report with
      | some text => exact .andThen (.pure rfl) fun text _ => hwritten text
      | none => exact .andThen (.ofExcept (fun _ => id) _) fun text _ => hwritten text
    · exact .pure trivial
  starts _ _ := Work.typed_write _ _

/-! ## Values of wrong kinds -/

section Mistyped

variable {s : Setting} {desk : Desk} {config : Config}

/-- A configuration that can be loaded is loaded, and nothing is told. -/
theorem Setting.runOn_loadConfig_of_ok {asked : String} (h : s.configOn desk asked = .ok config) :
    (s.loadConfig asked).runOn desk = (.ok (some config), desk) := by
  rw [configOn] at h
  rw [loadConfig, Work.runOn_disk_bind, h]
  rfl

/-- What is no text is no path. -/
theorem runOn_pathOf_of_not_isText {v : Toml.Value} (h : ¬ v.IsText) (desk : Desk) :
    (pathOf v).runOn desk = (.error (.notPath v.kind), desk) := by
  cases v with
  | text text => exact absurd ⟨text, rfl⟩ h
  | _ => rfl

/-- An option that is left out or names something. -/
def Names {α : Type} (name : α → String) (option : String) : Prop :=
  option = "" ∨ ∃ a, option = name a

/-- An option that names a value, or none, is enough to choose. -/
theorem Setting.exists_choose {α : Type} (s : Setting) (what : String) {ofName? : String → Option α}
    {name : α → String} (hname : ∀ a, ofName? (name a) = some a) {option : String}
    (h : Names name option) (configured : α) :
    ∃ a, s.choose what ofName? option configured = pure (some a) := by
  rw [choose]
  rcases h with rfl | ⟨a, rfl⟩
  · exact ⟨configured, rfl⟩
  · split
    · exact ⟨configured, rfl⟩
    · rw [hname]
      exact ⟨a, rfl⟩

/-- The options of an invocation let it come to the directory of the skills, and leave that to the
configuration. -/
def Invocation.UsesDirectory : Invocation → Prop
  | .check o => o.skillsDirectory = "" ∧ Names OutputFormat.name o.format ∧
    Names FailOn.name o.failOn
  | .validate place => place.directory = ""
  | .list place => place.directory = ""
  | .install place => place.directory = ""
  | _ => False

section Directory

variable (h : ¬ config.directory.IsText)
include h

/-- A configured directory that is no text gives the command up. -/
theorem Setting.runOn_skillsDirectory_of_not_isText {place : Place} (hplace : place.directory = "")
    (hconfig : s.configOn desk place.config = .ok config) :
    (s.skillsDirectory place).runOn desk = (.error (.notPath config.directory.kind), desk) := by
  rw [skillsDirectory, hplace]
  show (s.loadConfig place.config >>= _).runOn desk = _
  rw [Work.runOn_bind_of_ok (runOn_loadConfig_of_ok hconfig)]
  dsimp only
  rw [Work.runOn_bind, runOn_pathOf_of_not_isText h]

/-- A check that uses it is given up as well. -/
theorem Setting.runOn_check_of_not_isText {o : CheckOptions}
    (ho : (Invocation.check o).UsesDirectory) (hconfig : s.configOn desk o.config = .ok config) :
    (s.check o).runOn desk = (.error (.notPath config.directory.kind), desk) := by
  rcases ho with ⟨hdirectory, hformat, hfailOn⟩
  rcases s.exists_choose "format" OutputFormat.ofName?_name hformat config.format with
    ⟨format, hformat⟩
  rcases s.exists_choose "fail-on level" (fun level => FailOn.ofName?_eq_some_iff.2 rfl) hfailOn
    config.failOn with
    ⟨failOn, hfailOn⟩
  have hprepare : (s.prepare o config format failOn).runOn desk =
      (.error (.notPath config.directory.kind), desk) := by
    rw [prepare, hdirectory]
    show (pathOf config.directory >>= _).runOn desk = _
    rw [Work.runOn_bind, runOn_pathOf_of_not_isText h]
  have hplan : (s.plan o).runOn desk = (.error (.notPath config.directory.kind), desk) := by
    rw [plan, Work.runOn_bind_of_ok (runOn_loadConfig_of_ok hconfig)]
    dsimp only
    rw [hformat, hfailOn]
    exact hprepare
  rw [check, examine, Work.runOn_bind, Work.runOn_bind, hplan]

/-- A directory that is no text stops every command that comes to it. -/
theorem Setting.runOn_run_of_not_isText {invocation : Invocation} {place : Place}
    (hplace : invocation.place? = some place) (huses : invocation.UsesDirectory)
    (hconfig : s.configOn desk place.config = .ok config) :
    (s.run invocation).runOn desk = (.error (.notPath config.directory.kind), desk) := by
  cases invocation with
  | check o =>
    cases hplace
    exact runOn_check_of_not_isText h huses hconfig
  | validate own =>
    cases hplace
    show (s.skillsDirectory place >>= _).runOn desk = _
    rw [Work.runOn_bind, runOn_skillsDirectory_of_not_isText h huses hconfig]
  | list own =>
    cases hplace
    show (s.skillsDirectory place >>= _).runOn desk = _
    rw [Work.runOn_bind, runOn_skillsDirectory_of_not_isText h huses hconfig]
  | install own =>
    cases hplace
    show (s.skillsDirectory place >>= _).runOn desk = _
    rw [Work.runOn_bind, runOn_skillsDirectory_of_not_isText h huses hconfig]
  | init => cases hplace
  | version => cases hplace
  | usage asked => cases hplace

end Directory

end Mistyped

/-! ## What is loaded -/

/-- A configuration that is loaded has a form of the output, a severity and a number of workers,
which may be true in place of one. Its other values are of the right kinds just if those of its
document are, where no variable takes their place. If all are, no command is given up because of the
kind of a value. If the directory is no text, each command that comes to it is, and if a list or a
table stands among the enabled skills, these cannot be selected. -/
theorem Setting.loaded_typing {bounds : Config.Bounds} {d : Disk} {environment : Config.Environment}
    {base : DiskPath} {asked : String} {entries : Toml.Entries}
    (hdocument : Config.Documents bounds d base asked entries) {config : Config}
    (hload : Config.load bounds d environment base asked = .ok config) :
    config.format.name ∈ ["terminal", "json", "prompt"] ∧
      config.failOn.name ∈ ["critical", "warning", "info", "none"] ∧
      (config.maxWorkers = .bool true ∨ ∃ n : Int, 1 ≤ n ∧ config.maxWorkers = .int n) ∧
      (config.WellTyped ↔ Config.SourcesTyped environment entries) ∧
      (config.WellTyped → ∀ (s : Setting) desk invocation place, invocation.place? = some place →
        s.configOn desk place.config = .ok config →
        ∀ fault, ((s.run invocation).runOn desk).1 = .error fault → ¬ fault.IsMistyped) ∧
      (¬ config.directory.IsText → ∀ (s : Setting) desk invocation place,
        invocation.place? = some place →
        invocation.UsesDirectory → s.configOn desk place.config = .ok config →
        (s.run invocation).runOn desk = (.error (.notPath config.directory.kind), desk)) ∧
      ∀ item ∈ config.enabled, ((∃ items, item = .list items) ∨ ∃ entries, item = .table entries) →
        ∀ (o : CheckOptions) directory desk selected, o.skills = [] →
          ((Engine.requested directory (requestsOf o config)).runOn desk).1 ≠ .ok selected := by
  rcases hdocument.of_load hload with ⟨hentries, hlayers⟩
  refine ⟨?_, ?_, hlayers.maxWorkers_cases hentries, hlayers.wellTyped_iff hentries, ?_, ?_, ?_⟩
  · cases config.format <;> decide
  · rcases config.failOn with - | severity
    · decide
    · cases severity <;> decide
  · intro hconfig s desk invocation place hplace hfound fault hfault
    -- the configuration is loaded from the first disk alone, so nothing is asked of any other
    have htyped : ∀ place', invocation.place? = some place' →
        ∀ config', s.configOn desk place'.config = .ok config' → config'.WellTyped := by
      intro place' hplace' config' hfound'
      cases hplace.symm.trans hplace'
      cases hfound.symm.trans hfound'
      exact hconfig
    exact ((s.allows_typed htyped).abides_run desk rfl).2.1 fault hfault
  · intro hdirectory s desk invocation place hplace huses hfound
    exact runOn_run_of_not_isText hdirectory hplace huses hfound
  · intro item hitem hcontainer o directory desk selected ho
    exact Engine.runOn_requested_ne_ok (unusable_requestsOf ho hitem hcontainer) directory
      desk selected

/-- A disk with a configuration whose directory is a number. -/
def mistypedDisk : Disk where
  tree := .directory [(".diffskills.toml", .file
    [0x5B, 0x73, 0x6B, 0x69, 0x6C, 0x6C, 0x73, 0x5D, 0x0A, 0x64, 0x69, 0x72, 0x65, 0x63, 0x74, 0x6F,
     0x72, 0x79, 0x3D, 0x35])]
  workingDirectory := { root := "/", parts := [] }
  home := "/"

theorem Setting.loaded_typing_number :
    ∃ config, Config.load .unreached mistypedDisk [] mistypedDisk.workingDirectory "" = .ok config ∧
      ¬ config.WellTyped ∧
      (({} : Setting).run (.list {})).runOn { disk := mistypedDisk } =
        (.error (.notPath "int"), { disk := mistypedDisk }) := by
  have hfind : Config.find .unreached mistypedDisk mistypedDisk.workingDirectory "" =
      .ok (some { root := "/", parts := [".diffskills.toml"] }) := rfl
  have hdocument : Config.Documents .unreached mistypedDisk mistypedDisk.workingDirectory ""
      [("skills", .table [("directory", .int 5)])] := .file hfind rfl rfl rfl
  have hload : Config.load .unreached mistypedDisk [] mistypedDisk.workingDirectory "" =
      .ok { directory := .int 5 } := by
    rw [hdocument.load_eq]
    rfl
  have hnot : ¬ Toml.Value.IsText (.int 5) := by
    rintro ⟨text, htext⟩
    cases htext
  rcases loaded_typing hdocument hload with ⟨-, -, -, -, -, hstops, -⟩
  refine ⟨_, hload, fun htyped => hnot htyped.directory, ?_⟩
  exact hstops hnot {} { disk := mistypedDisk } (.list {}) {} rfl rfl hload

end Command
end PatchReview
