import PatchReview.Proofs.Files.Ways
import PatchReview.Proofs.Skill.Footprint

/-!
# Installing the bundled skills

An installation makes the directory and then writes the bundled files of whose name nothing stands
there. What stood before stands afterwards, and nothing else is new; installing again changes
nothing. It can only fail before the first file is written, with some of the directories on the way.
-/

namespace PatchReview
namespace Skill

/-! ## The disk behind an installation -/

/-- The disk behind an installation in a directory at a place, and the paths that it gives. -/
structure Installed (d : Disk) (directory : DiskPath) (site : List String) (written : List DiskPath)
    (d' : Disk) : Prop where
  workingDirectory : d'.workingDirectory = d.workingDirectory
  home : d'.home = d.home
  leads : d'.names directory = .ok site
  isDirectory : d'.tree.occupant? site = some .directory
  /-- A bundled file is what stood there, or else a directory on the way that was made, or else
  itself. -/
  file : ∀ name text, (name, text) ∈ bundled → d'.tree.occupant? (site ++ [name]) =
    some ((d.tree.occupant? (site ++ [name])).getD
      (if d'.leadsThrough directory (site ++ [name]) then .directory else .file
        (Text.encodeUtf8 text)))
  /-- Everywhere else stands what stood there, or else a directory on the way, or else nothing. -/
  elsewhere : ∀ place, (∀ file ∈ bundled, place ≠ site ++ [file.1]) → d'.tree.occupant? place =
    (d.tree.occupant? place).or (if d'.leadsThrough directory place then some .directory else none)
  written_eq : written = (bundled.filter fun file => (d.tree.occupant? (site ++ [file.1])).isNone &&
    !d'.leadsThrough directory (site ++ [file.1])).map fun file => directory.child file.1

/-- Files of whose name nothing stands in a directory. -/
def missing (site : List String) (d : Disk) (files : List (String × String)) :
    List (String × String) :=
  files.filter fun file => (d.tree.occupant? (site ++ [file.1])).isNone

/-- The disk with a file in a directory, unless something of its name stands there. -/
def putMissing (site : List String) (d : Disk) (file : String × String) : Disk :=
  if (d.tree.occupant? (site ++ [file.1])).isNone then
    { d with tree := d.tree.put (site ++ [file.1]) (.file (Text.encodeUtf8 file.2)) }
  else d

/-- The one of some files in a directory that belongs to a place. -/
def fileAt? (site : List String) (files : List (String × String)) (place : List String) :
    Option Occupant :=
  (files.find? fun file => place == site ++ [file.1]).map fun file => .file (Text.encodeUtf8 file.2)

section Disks

variable {d : Disk} {site : List String} {file : String × String} {files : List (String × String)}

theorem fileAt?_cons (site : List String) (file : String × String) (files : List (String × String))
    (place : List String) :
    fileAt? site (file :: files) place =
      (if place = site ++ [file.1] then some (.file (Text.encodeUtf8 file.2)) else none).or
        (fileAt? site files place) := by
  rw [fileAt?, fileAt?, List.find?_cons]
  by_cases hplace : place = site ++ [file.1]
  · simp [hplace]
  · have hbeq : (place == site ++ [file.1]) = false := beq_false_of_ne hplace
    rw [hbeq, if_neg hplace, Option.none_or]

/-- If names are distinct, a file stands at its own. -/
theorem fileAt?_of_mem (hnames : (files.map (·.1)).Nodup) (hfile : file ∈ files) :
    fileAt? site files (site ++ [file.1]) = some (.file (Text.encodeUtf8 file.2)) := by
  induction files with
  | nil =>
    cases hfile
  | cons first files ih =>
    rw [List.map_cons, List.nodup_cons] at hnames
    rw [fileAt?_cons]
    rcases List.mem_cons.1 hfile with rfl | hrest
    · rw [if_pos rfl, Option.some_or]
    · have hne : site ++ [file.1] ≠ site ++ [first.1] := by
        intro heq
        have hname : file.1 = first.1 := by
          simpa using heq
        exact hnames.1 (hname ▸ List.mem_map_of_mem hrest)
      rw [if_neg hne, Option.none_or, ih hnames.2 hrest]

/-- At other names stands none of the files. -/
theorem fileAt?_eq_none {place : List String} (h : ∀ file ∈ files, place ≠ site ++ [file.1]) :
    fileAt? site files place = none := by
  rw [fileAt?, Option.map_eq_none_iff, List.find?_eq_none]
  intro file hfile
  simpa using h file hfile

/-- A file is put where nothing stands. -/
theorem occupant?_putMissing (hsite : d.tree.occupant? site = some .directory)
    (file : String × String) (place : List String) :
    (putMissing site d file).tree.occupant? place = (d.tree.occupant? place).or
      (if place = site ++ [file.1] then some (.file (Text.encodeUtf8 file.2)) else none) := by
  rw [putMissing]
  cases hthere : d.tree.occupant? (site ++ [file.1]) with
  | none =>
    have hput := Tree.occupant?_put hsite hthere (.file (Text.encodeUtf8 file.2)) place
    refine hput.trans ?_
    split
    · next hplace =>
      rw [hplace, hthere, Option.none_or]
    · rw [Option.or_none]
  | some occupant =>
    show d.tree.occupant? place = _
    split
    · next hplace =>
      rw [hplace, hthere, Option.some_or]
    · rw [Option.or_none]

/-- So nothing that is there is changed. -/
theorem keeps_putMissing (hsite : d.tree.occupant? site = some .directory)
    (file : String × String) :
    d.Keeps (putMissing site d file) where
  workingDirectory := by
    rw [putMissing]
    split <;> rfl
  home := by
    rw [putMissing]
    split <;> rfl
  kept place occupant hstands := by
    rw [occupant?_putMissing hsite, hstands, Option.some_or]

theorem keeps_foldl_putMissing (hsite : d.tree.occupant? site = some .directory)
    (files : List (String × String)) : d.Keeps (files.foldl (putMissing site) d) := by
  induction files generalizing d with
  | nil => exact .refl d
  | cons file files ih =>
    have hkeeps := keeps_putMissing hsite file
    exact hkeeps.trans (ih (hkeeps.kept site _ hsite))

/-- Behind some files, everything stands that stood before, and each file where nothing did. -/
theorem occupant?_foldl_putMissing (hsite : d.tree.occupant? site = some .directory)
    (files : List (String × String)) (place : List String) :
    (files.foldl (putMissing site) d).tree.occupant? place =
      (d.tree.occupant? place).or (fileAt? site files place) := by
  induction files generalizing d with
  | nil => exact (Option.or_none).symm
  | cons file files ih =>
    rw [List.foldl_cons, ih ((keeps_putMissing hsite file).kept site _ hsite),
      occupant?_putMissing hsite, Option.or_assoc, fileAt?_cons]

/-- A file with another name is missing as before. -/
theorem missing_putMissing (hsite : d.tree.occupant? site = some .directory)
    (hnew : file.1 ∉ files.map (·.1)) :
    missing site (putMissing site d file) files = missing site d files := by
  refine List.filter_congr fun other hother => ?_
  have hne : site ++ [other.1] ≠ site ++ [file.1] := by
    intro heq
    have hname : other.1 = file.1 := by
      simpa using heq
    exact hnew (hname ▸ List.mem_map_of_mem hother)
  rw [occupant?_putMissing hsite, if_neg hne, Option.or_none]

/-- If no file is missing, nothing is put. -/
theorem foldl_putMissing_of_missing_eq_nil (h : missing site d files = []) :
    files.foldl (putMissing site) d = d := by
  induction files with
  | nil => rfl
  | cons file files ih =>
    rw [missing, List.filter_eq_nil_iff] at h
    rw [List.foldl_cons, putMissing, if_neg (h file List.mem_cons_self)]
    refine ih (List.filter_eq_nil_iff.2 fun other hother =>
      h other (List.mem_cons_of_mem file hother))

end Disks

/-! ## The work -/

section Working

variable {desk : Desk} {directory place : DiskPath} {site : List String} {file : String × String}

/-- One file is written if nothing of its name stands in the directory. -/
theorem runOn_installNext (hnames : desk.disk.names place = .ok site)
    (hsite : desk.disk.tree.occupant? site = some .directory) (hname : file.1 ≠ "..")
    (written : List DiskPath) :
    (installNext place written file).runOn desk =
      (.ok (written ++ (missing site desk.disk [file]).map fun file => place.child file.1),
        { desk with disk := putMissing site desk.disk file }) := by
  have hchild : desk.disk.names (place.child file.1) = .ok (site ++ [file.1]) :=
    Disk.names_child hname hnames
  rw [installNext, Work.runOn_disk_bind, Disk.holds_eq hchild, putMissing]
  cases hthere : desk.disk.tree.occupant? (site ++ [file.1]) with
  | some occupant =>
    have hnone : missing site desk.disk [file] = [] := by
      simp [missing, hthere]
    rw [hnone, List.map_nil, List.append_nil]
    rfl
  | none =>
    have hone : missing site desk.disk [file] = [file] := by
      simp [missing, hthere]
    rw [hone]
    show (Work.write (place.child file.1) file.2 >>= fun _ => _).runOn desk = _
    rw [Work.runOn_bind, Work.runOn_write, Disk.write_of_free hchild hsite hthere]
    rfl

/-- Files with distinct names are written one after the other, those that are missing before the
first. -/
theorem runOn_foldlM_installNext {files : List (String × String)} (hfiles : (files.map (·.1)).Nodup)
    (hdots : ∀ file ∈ files, file.1 ≠ "..") (hnames : desk.disk.names place = .ok site)
    (hsite : desk.disk.tree.occupant? site = some .directory) (written : List DiskPath) :
    (files.foldlM (installNext place) written).runOn desk =
      (.ok (written ++ (missing site desk.disk files).map fun file => place.child file.1),
        { desk with disk := files.foldl (putMissing site) desk.disk }) := by
  induction files generalizing desk written with
  | nil =>
    simp [missing]
  | cons file files ih =>
    rw [List.map_cons, List.nodup_cons] at hfiles
    have hkeeps := keeps_putMissing hsite file
    have hfirst := runOn_installNext hnames hsite (hdots file List.mem_cons_self) written
    have hmissing : missing site desk.disk (file :: files) =
        missing site desk.disk [file] ++ missing site (putMissing site desk.disk file) files := by
      rw [missing_putMissing hsite hfiles.1]
      exact List.filter_append [file] files
    rw [List.foldlM_cons, Work.runOn_bind_of_ok hfirst]
    rw [ih hfiles.2 (fun other hother => hdots other (List.mem_cons_of_mem file hother))
      (hkeeps.names hnames) (hkeeps.kept site _ hsite),
      hmissing, List.map_append, List.append_assoc]
    rfl

/-- The bundled files have distinct names. -/
theorem nodup_bundled : (bundled.map (·.1)).Nodup := by
  decide

/-- None of them leads out of its directory. -/
theorem ne_dots_of_bundled : ∀ file ∈ bundled, file.1 ≠ ".." := by
  simp [bundled]

/-- The directory is made first. -/
theorem runOn_install (hplace : directory.expandHome? desk.disk.home = some place) :
    (install directory).runOn desk =
      match desk.disk.ensureDirectories place with
      | (.ok _, d) => (bundled.foldlM (installNext place) []).runOn { desk with disk := d }
      | (.error error, d) => (.error (.file error), { desk with disk := d }) := by
  rw [install, Work.runOn_bind, Work.runOn_expandHome, hplace]
  dsimp only
  rw [Work.runOn_bind, Work.runOn_ensureDirectories]
  rcases desk.disk.ensureDirectories place with ⟨_ | _, d⟩ <;> rfl

/-- An installation in a directory that is made writes the files that are missing then. -/
theorem runOn_install_of_made {d : Disk}
    (hplace : directory.expandHome? desk.disk.home = some place)
    (hmake : desk.disk.ensureDirectories place = (.ok (), d)) (hnames : d.names place = .ok site)
    (hsite : d.tree.occupant? site = some .directory) :
    (install directory).runOn desk =
      (.ok ((missing site d bundled).map fun file => place.child file.1),
        { desk with disk := bundled.foldl (putMissing site) d }) := by
  rw [runOn_install hplace, hmake]
  exact runOn_foldlM_installNext nodup_bundled ne_dots_of_bundled hnames hsite []

/-- What an installation comes to if it has a result. -/
theorem of_runOn_install {written : List DiskPath} {desk' : Desk}
    (h : (install directory).runOn desk = (.ok written, desk')) :
    ∃ place d site, directory.expandHome? desk.disk.home = some place ∧
      desk.disk.ensureDirectories place = (.ok (), d) ∧ d.names place = .ok site ∧
      d.tree.occupant? site = some .directory ∧
      written = (missing site d bundled).map (fun file => place.child file.1) ∧
      desk' = { desk with disk := bundled.foldl (putMissing site) d } := by
  cases hplace : directory.expandHome? desk.disk.home with
  | none =>
    rw [install, Work.runOn_bind, Work.runOn_expandHome, hplace] at h
    cases h
  | some place =>
    rcases hmake : desk.disk.ensureDirectories place with ⟨_ | ⟨⟨⟩⟩, d⟩
    · rw [runOn_install hplace, hmake] at h
      cases h
    · have hholds := Disk.holdsDirectory_ensureDirectories (congrArg Prod.fst hmake)
      rw [hmake] at hholds
      rcases Disk.holdsDirectory_iff.1 hholds with ⟨site, hnames, hsite⟩
      rw [runOn_install_of_made hplace hmake hnames hsite] at h
      cases h
      exact ⟨place, d, site, rfl, hmake, hnames, hsite, rfl, rfl⟩

end Working

/-! ## Installations -/

/-- The files that are missing behind the directory, put into it. -/
theorem installed_of_made {d d₁ : Disk} {directory : DiskPath} {site : List String}
    (hmake : d.ensureDirectories directory = (.ok (), d₁)) (hnames : d₁.names directory = .ok site)
    (hsite : d₁.tree.occupant? site = some .directory) :
    Installed d directory site ((missing site d₁ bundled).map fun file => directory.child file.1)
      (bundled.foldl (putMissing site) d₁) := by
  have hways := Disk.occupant?_ensureDirectories (congrArg Prod.fst hmake)
  have hgrows := Disk.grows_ways d directory
  rw [hmake] at hways hgrows
  have hkeeps : d₁.Keeps (bundled.foldl (putMissing site) d₁) :=
    keeps_foldl_putMissing hsite bundled
  have hthrough : ∀ place, (bundled.foldl (putMissing site) d₁).leadsThrough directory place =
      d₁.leadsThrough directory place :=
    hkeeps.leadsThrough_eq (Disk.holdsDirectory_iff.2 ⟨site, hnames, hsite⟩)
  have hstands := occupant?_foldl_putMissing hsite bundled
  refine {
    workingDirectory := hkeeps.workingDirectory.trans hgrows.workingDirectory
    home := hkeeps.home.trans hgrows.home
    leads := hkeeps.names hnames
    isDirectory := hkeeps.kept site _ hsite
    file := ?file
    elsewhere := ?elsewhere
    written_eq := ?written }
  case file =>
    intro name text hfile
    rw [hstands, hways, hthrough, fileAt?_of_mem nodup_bundled hfile]
    cases d.tree.occupant? (site ++ [name]) with
    | some occupant => rfl
    | none =>
      rw [Option.none_or]
      split <;> rfl
  case elsewhere =>
    intro place hplace
    rw [hstands, hways, hthrough, fileAt?_eq_none hplace, Option.or_none]
  case written =>
    -- missing behind the directory is what was missing before and did not become a directory on the
    -- way
    have hfree : ∀ file ∈ bundled, (d₁.tree.occupant? (site ++ [file.1])).isNone =
        ((d.tree.occupant? (site ++ [file.1])).isNone &&
          !(bundled.foldl (putMissing site) d₁).leadsThrough directory (site ++ [file.1])) := by
      intro file _
      rw [hways, hthrough]
      cases d.tree.occupant? (site ++ [file.1]) with
      | some occupant => rfl
      | none =>
        cases d₁.leadsThrough directory (site ++ [file.1]) <;> rfl
    rw [missing, List.filter_congr hfree]

/-- Nothing is missing behind an installation. -/
theorem Installed.missing_eq_nil {d d' : Disk} {directory : DiskPath} {site : List String}
    {written : List DiskPath} (h : Installed d directory site written d') :
    missing site d' bundled = [] := by
  rw [missing, List.filter_eq_nil_iff]
  rintro ⟨name, text⟩ hfile
  simp [h.file name text hfile]

/-- Installing leaves the disk that has the missing files, and tells what was written. -/
theorem Installed.runOn_install {desk : Desk} {d : Disk} {directory place : DiskPath}
    {site : List String} {written : List DiskPath} (h : Installed d place site written desk.disk)
    (hplace : directory.expandHome? d.home = some place) :
    (install directory).runOn desk = (.ok [], desk) := by
  have hhome : directory.expandHome? desk.disk.home = some place := by
    rw [h.home, hplace]
  have hmade : desk.disk.ensureDirectories place = (.ok (), desk.disk) :=
    Disk.ensureDirectories_of_holdsDirectory
      (Disk.holdsDirectory_iff.2 ⟨site, h.leads, h.isDirectory⟩)
  rw [runOn_install_of_made hhome hmade h.leads h.isDirectory, h.missing_eq_nil,
    foldl_putMissing_of_missing_eq_nil h.missing_eq_nil]
  rfl

/-- An installation leaves the directory with the bundled files in it, of which it keeps what stood
there before and leaves what it made a directory on the way; it gives the paths of the files that it
wrote, in their order, and makes nothing else but directories on the way. Installing again does
nothing. An installation that is given up has kept what stood before, and made nothing but
directories on the way. -/
theorem install_exact (directory : DiskPath) (desk : Desk) :
    (∀ written desk', (install directory).runOn desk = (.ok written, desk') →
      desk' = { desk with disk := desk'.disk } ∧
      (∃ place site, directory.expandHome? desk.disk.home = some place ∧
        Installed desk.disk place site written desk'.disk) ∧
      (install directory).runOn desk' = (.ok [], desk')) ∧
    ∀ fault desk', (install directory).runOn desk = (.error fault, desk') →
      desk' = { desk with disk := desk'.disk } ∧
      ∀ place occupant, (desk.disk.tree.occupant? place = some occupant →
          desk'.disk.tree.occupant? place = some occupant) ∧
        (desk'.disk.tree.occupant? place = some occupant → desk.disk.tree.occupant? place = none →
          occupant = .directory ∧ ∃ target, directory.expandHome? desk.disk.home = some target ∧
            desk'.disk.leadsThrough target place = true) := by
  constructor
  · intro written desk' h
    rcases of_runOn_install h with ⟨place, d, site, hplace, hmake, hnames, hsite, rfl, rfl⟩
    have hinstalled := installed_of_made hmake hnames hsite
    exact ⟨rfl, ⟨place, site, hplace, hinstalled⟩, hinstalled.runOn_install hplace⟩
  · intro fault desk' h
    cases hplace : directory.expandHome? desk.disk.home with
    | none =>
      rw [install, Work.runOn_bind, Work.runOn_expandHome, hplace] at h
      cases h
      refine ⟨rfl, fun place occupant => ⟨id, fun hstands hfree => ?_⟩⟩
      rw [hfree] at hstands
      cases hstands
    | some target =>
      have hgrows := Disk.grows_ways desk.disk target
      rw [Skill.runOn_install hplace] at h
      rcases hmake : desk.disk.ensureDirectories target with ⟨_ | ⟨⟨⟩⟩, d⟩
      · rw [hmake] at h hgrows
        cases h
        refine ⟨rfl, fun place occupant => ⟨hgrows.kept place occupant, fun hstands hfree => ?_⟩⟩
        rcases hgrows.made place occupant hstands with hold | ⟨hkind, hthrough⟩
        · rw [hfree] at hold
          cases hold
        · exact ⟨hkind, target, rfl, hthrough⟩
      · -- once the directory is there, nothing fails any more
        have hholds := Disk.holdsDirectory_ensureDirectories (congrArg Prod.fst hmake)
        rw [hmake] at h hholds
        rcases Disk.holdsDirectory_iff.1 hholds with ⟨site, hnames, hsite⟩
        dsimp only at h
        rw [runOn_foldlM_installNext nodup_bundled ne_dots_of_bundled hnames hsite] at h
        cases h

/-- A directory in which one of the bundled files stands, changed by hand. -/
def changedDisk : Disk where
  tree := .directory [("skills", .directory [("security.yaml", .file [35, 10])])]
  workingDirectory := { root := "/", parts := [] }
  home := "/home"

/-- The file that was changed is kept, the other is written, and installing again does nothing;
below the file, where no directory can be made, an installation is given up and the file is kept as
well. -/
theorem install_exact_changed :
    (∃ desk', (install { parts := ["skills"] }).runOn { disk := changedDisk } =
        (.ok [{ parts := ["skills", "best-practices.yaml"] }], desk') ∧
      desk'.disk.tree.occupant? ["skills", "security.yaml"] = some (.file [35, 10]) ∧
      (install { parts := ["skills"] }).runOn desk' = (.ok [], desk')) ∧
    ∃ fault desk', (install { parts := ["skills", "security.yaml", "more"] }).runOn
      { disk := changedDisk } =
        (.error fault, desk') ∧
      desk'.disk.tree.occupant? ["skills", "security.yaml"] = some (.file [35, 10]) := by
  have hmade : changedDisk.ensureDirectories { parts := ["skills"] } = (.ok (), changedDisk) := rfl
  have hwritten : (install { parts := ["skills"] }).runOn { disk := changedDisk } =
      (.ok [{ parts := ["skills", "best-practices.yaml"] }],
        { disk := bundled.foldl (putMissing ["skills"]) changedDisk }) :=
    (runOn_install_of_made rfl hmade rfl rfl).trans rfl
  have hrefused : changedDisk.ensureDirectories { parts := ["skills", "security.yaml", "more"] } =
      (.error ⟨.notDirectory, { parts := ["skills", "security.yaml", "more"] }⟩, changedDisk) := rfl
  have hgivenUp : (install { parts := ["skills", "security.yaml", "more"] }).runOn
      { disk := changedDisk } =
      (.error (.file ⟨.notDirectory, { parts := ["skills", "security.yaml", "more"] }⟩),
        { disk := changedDisk }) := by
    rw [runOn_install rfl, hrefused]
  constructor
  · rcases (install_exact _ _).1 _ _ hwritten with ⟨-, ⟨place, site, hplace, hinstalled⟩, hagain⟩
    refine ⟨_, hwritten, ?_, hagain⟩
    cases hplace
    cases hinstalled.leads
    exact hinstalled.file "security.yaml" securityAudit (by simp [bundled])
  · exact ⟨_, _, hgivenUp, (((install_exact _ _).2 _ _ hgivenUp).2 _ _).1 rfl⟩

/-! ### Ways that bear the name of a file -/

/-- An empty disk, on which paths start at the root. -/
def emptyDisk : Disk where
  tree := .directory []
  workingDirectory := { root := "/", parts := [] }
  home := "/home"

/-- A way to the working directory, through a directory named like a bundled file. -/
def roundabout : DiskPath := { parts := ["security.yaml", ".."] }

def roundaboutDisk : Disk :=
  { emptyDisk with tree := .directory [("security.yaml", .directory [])] }

/-- The directory on the way takes the place of the file, which is not written. -/
theorem install_roundabout :
    emptyDisk.tree.occupant? ["security.yaml"] = none ∧
    ∃ desk', (install roundabout).runOn { disk := emptyDisk } =
        (.ok [roundabout.child "best-practices.yaml"], desk') ∧
      desk'.disk.names roundabout = .ok [] ∧
        desk'.disk.tree.occupant? ["security.yaml"] = some .directory ∧
      desk'.disk.tree.occupant? ["security.yaml"] ≠
        some (.file (Text.encodeUtf8 securityAudit)) := by
  have hmade : emptyDisk.ensureDirectories roundabout = (.ok (), roundaboutDisk) := rfl
  have hwritten : (install roundabout).runOn { disk := emptyDisk } =
      (.ok [roundabout.child "best-practices.yaml"],
        { disk := bundled.foldl (putMissing []) roundaboutDisk }) :=
    (runOn_install_of_made rfl hmade rfl rfl).trans rfl
  have hkeeps : roundaboutDisk.Keeps (bundled.foldl (putMissing []) roundaboutDisk) :=
    keeps_foldl_putMissing rfl bundled
  have hfile := hkeeps.kept ["security.yaml"] .directory rfl
  refine ⟨rfl, _, hwritten, hkeeps.names rfl, hfile, ?_⟩
  rw [hfile]
  intro h
  cases h

end Skill
end PatchReview
