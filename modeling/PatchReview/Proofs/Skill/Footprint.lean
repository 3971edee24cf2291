import PatchReview.Proofs.Contract
import PatchReview.Proofs.Files.Growth
import PatchReview.Skill.Library

/-!
# What work with skills leaves on a disk

Loading and installing skills build directories on the way to that of the skills, and in it the
bundled files that are missing. They abide by every contract that lets this be done. One such
contract is that nothing be made but what is in a plan, and that everything be kept that is there,
also where work is given up in the middle.
-/

namespace PatchReview

/-! ## Directories with bundled files -/

/-- A directory may be made, and the bundled files may be written in it where they are missing. -/
structure Contract.Furnishes (c : Contract) (d₀ : Disk) (directory : DiskPath) : Prop where
  made : Work.AbidesAfter c d₀ (Work.ensureDirectories directory)
  filled : ∀ written, ∀ file ∈ Skill.bundled,
    Work.AbidesAfter c d₀ (Skill.installNext directory written file)

namespace Skill

variable {c : Contract} {d₀ : Disk} {directory : DiskPath}

theorem abides_loadNext (loaded : List Loaded) (path : DiskPath) :
    Work.AbidesAfter c d₀ (loadNext loaded path) := by
  refine .andThen .disk fun d _ => ?_
  split
  · split
    · exact .andThen (.tell _ _) fun _ _ => .pure trivial
    · exact .throw (c.other id)
  · split
    · exact .andThen (.tell _ _) fun _ _ => .pure trivial
    · exact .andThen (.tell _ _) fun _ _ => .pure trivial

section Furnished

variable (h : ∀ place, directory.expandHome? d₀.home = some place → c.Furnishes d₀ place)
include h

/-- Loading makes the directory, if that is not there. -/
theorem abides_loadAll : Work.AbidesAfter c d₀ (loadAll directory) := by
  refine .andThen (.expandHome directory) fun place hplace => .andThen .disk fun d _ => ?_
  split
  · exact .andThen .disk fun d _ => .foldlM (fun loaded path _ => abides_loadNext loaded path) _
  · refine .andThen (h place hplace).made.orFileError fun result _ => ?_
    cases result with
    | ok _ => exact .pure trivial
    | error error => exact .andThen (.tell _ _) fun _ _ => .pure trivial

/-- Installing makes the directory and writes the bundled files that are missing there. -/
theorem abides_install : Work.AbidesAfter c d₀ (install directory) := by
  refine .andThen (.expandHome directory) fun place hplace => ?_
  exact .andThen (h place hplace).made fun _ _ => .foldlM (h place hplace).filled _

end Furnished

/-! ## Work that builds -/

/-- What is made for a directory of skills: directories on the way to it and itself, and in it the
bundled files. -/
inductive Makes (directory : DiskPath) (d : Disk) : List String → Occupant → Prop where
  | way {way : DiskPath} {place : List String} :
    way.root = directory.root → way.parts <+: directory.parts →
      d.names way = .ok place → Makes directory d place .directory
  | bundled {name text : String} {place : List String} : (name, text) ∈ Skill.bundled →
      d.names (directory.child name) = .ok place →
        Makes directory d place (.file (Text.encodeUtf8 text))

/-- What installing makes does not depend on what has been made. -/
theorem Makes.keeps {directory : DiskPath} {d d' : Disk} (h : d.Keeps d') {place : List String}
    {occupant : Occupant} (hmakes : Makes directory d place occupant) :
    Makes directory d' place occupant := by
  cases hmakes with
  | way hroot hparts hplace => exact .way hroot hparts (h.names hplace)
  | bundled hfile hplace => exact .bundled hfile (h.names hplace)

end Skill

/-- Nothing is made but what is in a plan, and everything is kept that is there. -/
def Disk.Plan.Stable.contract {plan : Disk.Plan} (hplan : plan.Stable) : Contract where
  change := Disk.Grows plan
  fault _ := True
  refl := .refl plan
  trans h h' := h.trans hplan h'
  home h := h.home
  other _ := trivial

namespace Work

variable {plan : Disk.Plan} (hplan : plan.Stable) {start : Disk → Prop}

/-- A file is written as its text in UTF-8, or the disk is left as it is. -/
theorem runOn_write (path : DiskPath) (text : String) (desk : Desk) :
    (write path text).runOn desk =
      match desk.disk.write path (Text.encodeUtf8 text) with
      | .ok disk => (.ok (), { desk with disk })
      | .error error => (.error (.file error), desk) := by
  rw [write, runOn_get_bind, runOn_bind, runOn_ofExcept]
  cases desk.disk.write path (Text.encodeUtf8 text) <;> rfl

/-- Making a directory abides by a plan that has the directories on the way to it. -/
theorem abides_ensureDirectories {path : DiskPath}
    (hnew : ∀ (d : Disk) (way : DiskPath) place, way.root = path.root → way.parts <+: path.parts →
      d.names way = .ok place → plan d place .directory) :
    Abides hplan.contract start (ensureDirectories path) fun _ => True := by
  intro desk _
  rw [runOn_ensureDirectories]
  exact ⟨Disk.grows_ensureDirectories hplan desk.disk hnew, fun _ _ => trivial, fun _ _ => trivial⟩

/-- Writing a text where nothing stands abides by a plan that has the text there. -/
theorem abides_write {path : DiskPath} {text : String} (hfree : ∀ d, start d → d.holds path = false)
    (hnew : ∀ d, start d → ∀ place, d.names path = .ok place →
      plan d place (.file (Text.encodeUtf8 text))) :
    Abides hplan.contract start (write path text) fun _ => True := by
  intro desk hdesk
  refine ⟨?_, fun _ _ => trivial, fun _ _ => trivial⟩
  rw [runOn_write]
  cases hwrite : desk.disk.write path (Text.encodeUtf8 text) with
  | error error => exact .refl plan desk.disk
  | ok d => exact Disk.grows_write hplan hwrite (hfree _ hdesk) (hnew _ hdesk)

end Work

/-- A plan that has what is made for a directory of skills lets it be furnished. -/
theorem Skill.furnishes {plan : Disk.Plan} (hplan : plan.Stable) {directory : DiskPath}
    (hnew : ∀ d site occupant, Makes directory d site occupant → plan d site occupant) (d₀ : Disk) :
    hplan.contract.Furnishes d₀ directory where
  made := Work.abides_ensureDirectories hplan fun d _ site hroot hparts hsite =>
    hnew d site _ (.way hroot hparts hsite)
  filled written file hfile := by
    refine .diskThen fun d _ => ?_
    split
    · exact .pure trivial
    · next hfree =>
      -- the disk is the one on which nothing of that name stands
      have hwrite : Work.Abides hplan.contract (· = d) (Work.write (directory.child file.1) file.2)
          fun _ => True :=
        Work.abides_write hplan (fun _ heq => heq ▸ Bool.eq_false_iff.2 hfree) fun d _ site hsite =>
          hnew d site _ (.bundled hfile hsite)
      exact .firstThen hwrite fun _ _ => .pure trivial

end PatchReview
