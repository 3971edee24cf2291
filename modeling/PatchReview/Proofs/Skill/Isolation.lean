import PatchReview.Proofs.Skill.Directory
import PatchReview.Proofs.Text.Utf8
import PatchReview.Proofs.Work
import PatchReview.Skill.Library

/-!
# Files without skills in a directory of skills

A file that holds no skill counts for nothing when a directory is loaded: the skills are those that
are loaded once all such files are gone. The exceptions are the errors that are not of a single
file, which stop the loading of the whole directory.
-/

namespace PatchReview
namespace Skill

/-! ## The skill of a file -/

/-- Bytes hold a skill if they are a text that is read as a valid skill. -/
theorem ofBytes_eq_ok_iff {path : DiskPath} {bytes : List UInt8} {skill : Skill} :
    ofBytes path bytes = .ok skill ↔
      ∃ text value, Text.decodeUtf8? bytes = some text ∧ Yaml.parse schemaDepth text = .ok value ∧
        ofValue value = .ok skill ∧ validate skill = .ok () := by
  rw [ofBytes]
  cases htext : Text.decodeUtf8? bytes with
  | none =>
    simp
  | some text =>
    simp only [bind_eq_ok_iff, mapError_eq_ok_iff, Option.some.injEq]
    constructor
    · rintro ⟨value, hvalue, read, hread, _, hvalid, heq⟩
      cases heq
      exact ⟨text, value, rfl, hvalue, hread, hvalid⟩
    · rintro ⟨_, value, rfl, hvalue, hread, hvalid⟩
      exact ⟨value, hvalue, skill, hread, (), hvalid, rfl⟩

/-- The path of a file is told in errors; whether its bytes hold a skill, and which, is up to the
bytes. -/
theorem toOption_ofBytes (p q : DiskPath) (bytes : List UInt8) :
    (ofBytes p bytes).toOption = (ofBytes q bytes).toOption := by
  have hiff (skill : Skill) : ofBytes p bytes = .ok skill ↔ ofBytes q bytes = .ok skill :=
    ofBytes_eq_ok_iff.trans ofBytes_eq_ok_iff.symm
  cases hq : ofBytes q bytes with
  | ok skill =>
    rw [(hiff skill).2 hq]
  | error error =>
    cases hp : ofBytes p bytes with
    | ok skill =>
      cases hq.symm.trans ((hiff skill).1 hp)
    | error error' =>
      rfl

/-- Whether bytes hold a skill. -/
def holdsSkill (bytes : List UInt8) : Bool := (ofBytes { parts := [] } bytes).toOption.isSome

/-- Bytes hold a skill wherever their file stands. -/
theorem holdsSkill_iff {bytes : List UInt8} :
    holdsSkill bytes = true ↔ ∃ path skill, ofBytes path bytes = .ok skill := by
  constructor
  · intro h
    rw [holdsSkill] at h
    cases hskill : ofBytes { parts := [] } bytes with
    | ok skill =>
      exact ⟨_, skill, hskill⟩
    | error error =>
      rw [hskill] at h
      cases h
  · rintro ⟨path, skill, h⟩
    rw [holdsSkill, toOption_ofBytes _ path, h]
    rfl

/-- A text that is read as a valid skill is a file that holds it. -/
theorem ofBytes_encodeUtf8 (text : String) (skill : Skill)
    (hread : ((Yaml.parse schemaDepth text.toList).toOption.bind fun value =>
      (ofValue value).toOption) =
      some skill)
    (hvalid : validate skill = .ok ()) (path : DiskPath) :
    ofBytes path (Text.encodeUtf8 text) = .ok skill := by
  cases hvalue : Yaml.parse schemaDepth text.toList with
  | error error =>
    rw [hvalue] at hread
    cases hread
  | ok value =>
    cases hskill : ofValue value with
    | error error =>
      simp [Except.toOption, hvalue, hskill] at hread
    | ok read =>
      have heq : read = skill := by
        simpa [Except.toOption, hvalue, hskill] using hread
      subst heq
      exact ofBytes_eq_ok_iff.2 ⟨_, value, Text.decodeUtf8?_encodeUtf8 text, hvalue, hskill, hvalid⟩

/-- A skill with a single rule, for files of a single kind. -/
def noEval : Skill :=
  { name := "no-eval", version := "1", description := "d"
    triggers := [{ fileExtensions := some [".py"], pathContains := none }]
    rules :=
      [{ id := "R", severity := .critical, message := "m", pattern := some "eval", check := none }]
    prompts := none }

def noEvalText : String :=
"name: no-eval
version: 1
description: d
triggers:
- file_extension: .py
rules:
- id: R
  severity: critical
  message: m
  pattern: eval
"

set_option maxRecDepth 4000 in
/-- The text is read as the skill. -/
theorem ofBytes_noEvalText (path : DiskPath) :
    ofBytes path (Text.encodeUtf8 noEvalText) = .ok noEval := by
  have htext : noEvalText.toList = _ := String.toList_ofList
  have hread : ((Yaml.parse schemaDepth noEvalText.toList).toOption.bind fun value =>
      (ofValue value).toOption) =
      some noEval := by
    rw [htext]
    decide +kernel
  exact ofBytes_encodeUtf8 noEvalText noEval hread (by decide +kernel) path

/-- A skill with several rules, the last of which has no pattern. -/
def noPrint : Skill :=
  { name := "no-print", version := "2", description := "d"
    triggers := [{ fileExtensions := some [".py"], pathContains := none }]
    rules := [
      { id := "P", severity := .warning, message := "p", pattern := some "print\\("
        check := none },
      { id := "E", severity := .critical, message := "e", pattern := some "eval", check := none },
      { id := "M", severity := .info, message := "m", pattern := none, check := none }]
    prompts := none }

def noPrintText : String :=
"name: no-print
version: 2
description: d
triggers: [file_extension: .py]
rules:
- id: P
  severity: warning
  message: p
  pattern: print\\(
- id: E
  severity: critical
  message: e
  pattern: eval
- id: M
  severity: info
  message: m
"

set_option maxRecDepth 8000 in
/-- The text is read as the skill. -/
theorem ofBytes_noPrintText (path : DiskPath) :
    ofBytes path (Text.encodeUtf8 noPrintText) = .ok noPrint := by
  have htext : noPrintText.toList = _ := String.toList_ofList
  have hread : ((Yaml.parse schemaDepth noPrintText.toList).toOption.bind fun value =>
      (ofValue value).toOption) = some noPrint := by
    rw [htext]
    decide +kernel
  exact ofBytes_encodeUtf8 noPrintText noPrint hread (by decide +kernel) path

/-! ## One file after the other -/

/-- What the outcome of a file makes of the loaded skills. -/
def accept (loaded : List Loaded) : Except LoadError Loaded → Except LoadError (List Loaded)
  | .error error => if error.isOfFile then .ok loaded else .error error
  | .ok new =>
    match named? new.skill.name loaded with
    | some _ => .ok loaded
    | none => .ok (loaded ++ [new])

/-- A file is accepted by its outcome; besides, messages are told. -/
theorem exists_runOn_loadNext (loaded : List Loaded) (path : DiskPath) (desk : Desk) :
    ∃ log, (loadNext loaded path).runOn desk =
      ((accept loaded (load desk.disk path)).mapError .skill, { desk with log }) := by
  rw [loadNext, Work.runOn_disk_bind]
  cases load desk.disk path with
  | error error =>
    rw [accept]
    dsimp only
    cases error.isOfFile with
    | true =>
      exact ⟨_, rfl⟩
    | false =>
      exact ⟨desk.log, rfl⟩
  | ok new =>
    rw [accept]
    dsimp only
    cases named? new.skill.name loaded with
    | some old =>
      exact ⟨_, rfl⟩
    | none =>
      exact ⟨_, rfl⟩

/-- Files are loaded one after the other; each outcome adds its skill or is passed over. -/
theorem exists_runOn_foldlM_loadNext (paths : List DiskPath) (loaded : List Loaded) (desk : Desk) :
    ∃ log, (paths.foldlM loadNext loaded).runOn desk =
      (((paths.map (load desk.disk)).foldlM accept loaded).mapError .skill, { desk with log }) := by
  induction paths generalizing loaded desk with
  | nil =>
    exact ⟨desk.log, rfl⟩
  | cons path paths ih =>
    rw [List.foldlM_cons, List.map_cons, List.foldlM_cons, Work.runOn_bind]
    rcases exists_runOn_loadNext loaded path desk with ⟨log, hstep⟩
    rw [hstep]
    cases accept loaded (load desk.disk path) with
    | error error =>
      exact ⟨log, rfl⟩
    | ok next =>
      -- The messages that were told do not change the disk that the other files are read from.
      exact ih next { desk with log }

/-- All files are accepted unless one has an error that is not of a single file. -/
theorem exists_foldlM_accept_iff (outcomes : List (Except LoadError Loaded))
    (loaded : List Loaded) :
    (∃ result, outcomes.foldlM accept loaded = .ok result) ↔
      ∀ error, .error error ∈ outcomes → error.isOfFile = true := by
  induction outcomes generalizing loaded with
  | nil =>
    simp [pure, Except.pure]
  | cons outcome outcomes ih =>
    rw [List.foldlM_cons]
    cases hstep : accept loaded outcome with
    | ok next =>
      have hhead : ∀ error, outcome = .error error → error.isOfFile = true := by
        rintro error rfl
        rw [accept] at hstep
        by_contra hof
        rw [if_neg hof] at hstep
        cases hstep
      refine (ih next).trans ⟨fun h error hmem => ?_, fun h error hmem => ?_⟩
      · rcases List.mem_cons.1 hmem with heq | hrest
        · exact hhead error heq.symm
        · exact h error hrest
      · exact h error (List.mem_cons_of_mem _ hmem)
    | error error =>
      -- The loading stops here, so this outcome is the error that may not be passed over.
      have herror : outcome = .error error ∧ error.isOfFile ≠ true := by
        cases outcome with
        | ok new =>
          rw [accept] at hstep
          split at hstep <;> cases hstep
        | error e =>
          rw [accept] at hstep
          split at hstep
          · cases hstep
          · rename_i hof
            cases hstep
            exact ⟨rfl, hof⟩
      constructor
      · rintro ⟨result, h⟩
        cases h
      · intro h
        exact absurd (h error (herror.1 ▸ List.mem_cons_self)) herror.2

/-- Files without a skill add nothing, if all are accepted. -/
theorem foldlM_accept_filter {outcomes : List (Except LoadError Loaded)}
    {loaded result : List Loaded} (h : outcomes.foldlM accept loaded = .ok result) :
    (outcomes.filter (·.toOption.isSome)).foldlM accept loaded = .ok result := by
  induction outcomes generalizing loaded with
  | nil =>
    exact h
  | cons outcome outcomes ih =>
    rw [List.foldlM_cons] at h
    rcases bind_eq_ok_iff.1 h with ⟨next, hstep, hrest⟩
    cases outcome with
    | ok new =>
      rw [List.filter_cons_of_pos rfl, List.foldlM_cons, hstep]
      exact ih hrest
    | error error =>
      rw [List.filter_cons_of_neg (by simp [Except.toOption])]
      rw [accept] at hstep
      split at hstep
      · cases hstep
        exact ih hrest
      · cases hstep

/-! ## The files of a directory -/

/-- What each file of a directory comes to. -/
def outcomes (d : Disk) (directory : DiskPath) : List (Except LoadError Loaded) :=
  (filesOf d directory).map (load d)

/-- The outcomes for a directory are those of its files with skills, each read from its bytes. -/
theorem outcomes_of_find {d : Disk} (h : d.tree.Distinct) {directory : DiskPath} {t : Tree}
    (hfind : d.find directory = .ok t) :
    outcomes d directory = (skillsIn t).map fun s =>
      (ofBytes (below directory s.1) s.2).map fun skill => ⟨below directory s.1, skill⟩ := by
  rw [outcomes, filesOf_eq_map hfind, filesIn_eq, List.map_map, List.map_map]
  apply List.map_congr_left
  rintro ⟨names, bytes⟩ hmem
  rcases find_of_mem_skillsIn (Disk.distinct_of_find h hfind) hmem with ⟨hfound, hdots⟩
  have hread : d.read (below directory names) = .ok bytes := by
    rw [Disk.read, below, Disk.find_below hfind hdots, hfound]
  show load d (below directory names) = (ofBytes (below directory names) bytes).map _
  rw [load, hread]
  show (ofBytes (below directory names) bytes).bind _ = _
  cases ofBytes (below directory names) bytes with
  | ok skill =>
    rfl
  | error error =>
    rfl

/-- A directory that is not found has no outcomes. -/
theorem outcomes_of_error {d : Disk} {directory : DiskPath} {fault : FileFault}
    (hfind : d.find directory = .error fault) : outcomes d directory = [] := by
  rw [outcomes, filesOf, hfind]
  rfl

section Thin

variable {keep : String → List UInt8 → Bool}

/-- On a disk that is rid of the files without skills, the outcomes that are skills are left. -/
theorem outcomes_thin
    (hkeep : ∀ name bytes, isSkillName name = true → keep name bytes = holdsSkill bytes)
    {d : Disk} (h : d.tree.Distinct) (directory : DiskPath) :
    outcomes (d.thin keep) directory = (outcomes d directory).filter (·.toOption.isSome) := by
  cases hfind : d.find directory with
  | error fault =>
    rw [outcomes_of_error hfind]
    cases hthin : (d.thin keep).find directory with
    | error fault' =>
      rw [outcomes_of_error hthin]
      rfl
    | ok found =>
      rcases Disk.exists_find_of_thin h hthin with ⟨old, hold, _⟩
      rw [hfind] at hold
      cases hold
  | ok t =>
    cases t with
    | file bytes =>
      -- Nothing is listed in a file, whether it is there or dropped.
      have hnone : outcomes (d.thin keep) directory = [] := by
        cases hthin : (d.thin keep).find directory with
        | error fault' =>
          exact outcomes_of_error hthin
        | ok found =>
          rcases Disk.exists_find_of_thin h hthin with ⟨old, hold, hfound⟩
          rw [hfind] at hold
          cases hold
          rw [outcomes_of_find (d := d.thin keep) h.thin hthin, ← hfound, Tree.thin, skillsIn]
          rfl
      rw [hnone, outcomes_of_find h hfind, skillsIn]
      rfl
    | directory entries =>
      have hlisted := skillsIn_thin hkeep (Disk.distinct_of_find h hfind)
      rw [Tree.thin] at hlisted
      rw [outcomes_of_find (d := d.thin keep) h.thin (Disk.find_thin_directory h hfind), hlisted,
        outcomes_of_find h hfind, List.filter_map]
      congr 1
      apply List.filter_congr
      rintro ⟨names, bytes⟩ _
      rw [holdsSkill, toOption_ofBytes _ (below directory names)]
      simp only [Function.comp_apply]
      cases ofBytes (below directory names) bytes <;> rfl

end Thin

/-! ## The whole directory -/

/-- Loading a directory accepts the outcomes of its files, one after the other; besides, messages
are told. -/
theorem exists_runOn_loadAll_of_holds {directory place : DiskPath} {desk : Desk}
    (hplace : directory.expandHome? desk.disk.home = some place)
    (hholds : desk.disk.holds place = true) :
    ∃ log, (loadAll directory).runOn desk =
      (((outcomes desk.disk place).foldlM accept []).mapError .skill, { desk with log }) := by
  rcases exists_runOn_foldlM_loadNext (filesOf desk.disk place) [] desk with ⟨log, hrun⟩
  refine ⟨log, ?_⟩
  have hexpand : (Work.expandHome directory).runOn desk = (.ok place, desk) := by
    rw [Work.runOn_expandHome, hplace]
  rw [loadAll, Work.runOn_bind_of_ok hexpand, Work.runOn_disk_bind, if_pos hholds,
    Work.runOn_disk_bind]
  exact hrun

/-- Loading a directory ends by the outcomes of its files. A directory that is not there is one
without files. -/
theorem exists_runOn_loadAll (directory : DiskPath) (desk : Desk) :
    ∃ desk', (loadAll directory).runOn desk =
      (match directory.expandHome? desk.disk.home with
        | some directory => ((outcomes desk.disk directory).foldlM accept []).mapError .skill
        | none => .error .noHome, desk') := by
  cases hplace : directory.expandHome? desk.disk.home with
  | none =>
    refine ⟨desk, ?_⟩
    rw [loadAll, Work.runOn_bind, Work.runOn_expandHome, hplace]
  | some place =>
    by_cases hholds : desk.disk.holds place = true
    · rcases exists_runOn_loadAll_of_holds hplace hholds with ⟨log, hrun⟩
      exact ⟨{ desk with log }, hrun⟩
    -- a directory that is missing is made, and nothing is in it
    · have hnone : outcomes desk.disk place = [] := by
        rw [Disk.holds] at hholds
        cases hfind : desk.disk.find place with
        | error fault =>
          exact outcomes_of_error hfind
        | ok t =>
          rw [hfind] at hholds
          exact absurd rfl hholds
      rcases Work.exists_runOn_ensureDirectories place desk with ⟨result, desk', hrun⟩
      have hexpand : (Work.expandHome directory).runOn desk = (.ok place, desk) := by
        rw [Work.runOn_expandHome, hplace]
      rw [loadAll, Work.runOn_bind_of_ok hexpand, Work.runOn_disk_bind, if_neg hholds,
        Work.runOn_bind_of_ok hrun]
      dsimp only
      rw [hnone]
      cases result with
      | ok _ =>
        exact ⟨desk', rfl⟩
      | error error =>
        exact ⟨_, rfl⟩

/-- Without the files that hold no skill, no outcome is an error. -/
theorem error_notMem_outcomes_thin {keep : String → List UInt8 → Bool}
    (hkeep : ∀ name bytes, isSkillName name = true → keep name bytes = holdsSkill bytes)
    {d : Disk} (h : d.tree.Distinct) {directory : DiskPath} {error : LoadError} :
    .error error ∉ outcomes (d.thin keep) directory := by
  rw [outcomes_thin hkeep h]
  intro hmem
  simpa [Except.toOption] using (List.mem_filter.1 hmem).2

/-- Loading a directory ends with skills if every error of a file in it is one to pass over, and
only then. Without the files that hold no skill it ends with skills in any case, and with the same
ones. -/
theorem loadAll_isolates {keep : String → List UInt8 → Bool}
    (hkeep : ∀ name bytes, isSkillName name = true →
      (keep name bytes = true ↔ ∃ path skill, ofBytes path bytes = .ok skill))
    (directory : DiskPath) {desk : Desk} (hdesk : desk.disk.tree.Distinct) :
    ((∃ loaded, ((loadAll directory).runOn desk).1 = .ok loaded) ↔
      ∃ place, directory.expandHome? desk.disk.home = some place ∧
        ∀ path ∈ filesOf desk.disk place, ∀ error,
          load desk.disk path = .error error → error.isOfFile = true) ∧
    ((directory.expandHome? desk.disk.home).isSome = true →
      ∃ loaded, ((loadAll directory).runOn { desk with disk := desk.disk.thin keep }).1 =
        .ok loaded) ∧
    ∀ loaded, ((loadAll directory).runOn desk).1 = .ok loaded →
      ((loadAll directory).runOn { desk with disk := desk.disk.thin keep }).1 = .ok loaded := by
  have hkeep' : ∀ name bytes, isSkillName name = true → keep name bytes = holdsSkill bytes := by
    intro name bytes hname
    rw [Bool.eq_iff_iff, hkeep name bytes hname, holdsSkill_iff]
  rcases exists_runOn_loadAll directory desk with ⟨desk₁, hrun⟩
  rcases exists_runOn_loadAll directory { desk with disk := desk.disk.thin keep } with
    ⟨desk₂, hthin⟩
  -- Thinning out leaves the home directory, and so the place that the directory names.
  have hhome : (desk.disk.thin keep).home = desk.disk.home := rfl
  rw [hrun, hthin]
  dsimp only
  rw [hhome]
  cases directory.expandHome? desk.disk.home with
  | none =>
    simp
  | some place =>
    have hiff := exists_foldlM_accept_iff (outcomes desk.disk place) []
    have hmem : ∀ error, .error error ∈ outcomes desk.disk place ↔
        ∃ path ∈ filesOf desk.disk place, load desk.disk path = .error error := by
      intro error
      rw [outcomes, List.mem_map]
    simp only [mapError_eq_ok_iff, Option.some.injEq, exists_eq_left', Option.isSome_some,
      forall_const]
    refine ⟨?_, ?_, ?_⟩
    · rw [hiff]
      constructor
      · intro h path hpath error herror
        exact h error ((hmem error).2 ⟨path, hpath, herror⟩)
      · intro h error herror
        rcases (hmem error).1 herror with ⟨path, hpath, hload⟩
        exact h path hpath error hload
    · -- No outcome is an error any more.
      rw [exists_foldlM_accept_iff]
      intro error herror
      exact absurd herror (error_notMem_outcomes_thin hkeep' hdesk)
    · intro loaded h
      rw [outcomes_thin hkeep' hdesk]
      exact foldlM_accept_filter h

theorem loadAll_isolates_broken_neighbour :
    let skills : Tree := .directory
      [("bad.yaml", .file [0xFF]),
       ("more", .directory [("good.yml", .file (Text.encodeUtf8 noEvalText))])]
    let desk : Desk :=
      { disk :=
          { tree := .directory [("skills", skills)]
            workingDirectory := { root := "/", parts := [] }
            home := "/" } }
    ((loadAll { parts := ["skills"] }).runOn
      { desk with disk := desk.disk.thin fun _ bytes => holdsSkill bytes }).1 =
        .ok [⟨{ parts := ["skills", "more", "good.yml"] }, noEval⟩] := by
  intro skills desk
  have hdesk : desk.disk.tree.Distinct := by
    simp [desk, skills, Tree.Distinct, Tree.EntriesDistinct]
  refine (loadAll_isolates (fun _ _ _ => holdsSkill_iff) { parts := ["skills"] } hdesk).2.2 _ ?_
  have hplace : ({ parts := ["skills"] } : DiskPath).expandHome? desk.disk.home =
      some { parts := ["skills"] } := by
    decide +kernel
  have hfind : desk.disk.find { parts := ["skills"] } = .ok skills := rfl
  have hbad (path : DiskPath) : ofBytes path [0xFF] = .error (.notText path) := by
    have hbytes : Text.decodeUtf8? [0xFF] = none := by decide +kernel
    rw [ofBytes, hbytes]
  have hskills (bad good : List UInt8) : skillsIn (.directory
      [("bad.yaml", .file bad), ("more", .directory [("good.yml", .file good)])]) =
        [(["bad.yaml"], bad), (["more", "good.yml"], good)] := by
    have hyaml : isSkillName "bad.yaml" = true := by decide +kernel
    have hyml : isSkillName "good.yml" = true := by decide +kernel
    have hmore : isHidden "more" = false := by decide +kernel
    simp [skillsIn, ownSkills, skillsInside, Tree.isDirectory, hyaml, hyml, hmore, sortByName]
  have hlisted : outcomes desk.disk { parts := ["skills"] } =
      [.error (.notText { parts := ["skills", "bad.yaml"] }),
        .ok ⟨{ parts := ["skills", "more", "good.yml"] }, noEval⟩] := by
    rw [outcomes_of_find hdesk hfind, hskills, List.map_cons, List.map_singleton, hbad,
      ofBytes_noEvalText]
    rfl
  rcases exists_runOn_loadAll { parts := ["skills"] } desk with ⟨desk', hrun⟩
  rw [hrun, hplace]
  dsimp only
  rw [hlisted]
  rfl

end Skill
end PatchReview
