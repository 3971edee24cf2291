import Mathlib.Data.List.Infix
import PatchReview.Proofs.Files.Growth

/-!
# Directories on the way

A path leads to its place through others, those of the paths in front of it. If it leads to a
directory, all of them are directories, and what is kept on a disk is reached through the same
places. Making a directory makes exactly the places it leads through that were free, and where the
directory is there already, nothing.
-/

namespace PatchReview

/-! ## Places below others -/

namespace Tree

/-- Something stands below a name only in a directory. -/
theorem occupant?_eq_directory_of_concat {t : Tree} {place : List String} {name : String}
    {occupant : Occupant} (h : t.occupant? (place ++ [name]) = some occupant) :
    t.occupant? place = some .directory := by
  rw [occupant?, find_append] at h
  cases hfind : t.find place with
  | error fault =>
    rw [hfind] at h
    cases h
  | ok found =>
    rw [hfind] at h
    cases found with
    | file bytes =>
      cases h
    | directory entries =>
      exact occupant?_eq_directory_iff.2 ⟨entries, hfind⟩

/-- Names that lead on to a directory are read from a directory. -/
theorem occupant?_of_resolve {t : Tree} {done names place : List String}
    (h : t.resolve done names = .ok place) (hplace : t.occupant? place = some .directory) :
    t.occupant? done = some .directory := by
  induction names generalizing done with
  | nil =>
    cases h
    exact hplace
  | cons name names ih =>
    rw [resolve] at h
    split at h
    · -- two dots are read from a directory anyway
      cases hfind : t.find done with
      | error fault =>
        rw [hfind] at h
        cases h
      | ok found =>
        rw [hfind] at h
        cases found with
        | file bytes =>
          cases h
        | directory entries =>
          exact occupant?_eq_directory_iff.2 ⟨entries, hfind⟩
    · exact occupant?_eq_directory_of_concat (ih h)

end Tree

/-- The paths in front of a path, and the path itself. -/
def DiskPath.ways (p : DiskPath) : List DiskPath := p.parts.inits.map fun parts => { p with parts }

/-- The ways of a path are its starts. -/
theorem DiskPath.mem_ways_iff {p way : DiskPath} :
    way ∈ p.ways ↔ way.root = p.root ∧ way.parts <+: p.parts := by
  simp only [ways, List.mem_map, List.mem_inits]
  constructor
  · rintro ⟨parts, hparts, rfl⟩
    exact ⟨rfl, hparts⟩
  · rintro ⟨hroot, hparts⟩
    exact ⟨way.parts, hparts, by rw [← hroot]⟩

namespace Disk

variable {d d' : Disk} {p way : DiskPath} {place site : List String}

/-- Names behind a path are read from its place. -/
theorem names_append (d : Disk) (p : DiskPath) (names : List String) :
    d.names { p with parts := p.parts ++ names } = (d.names p).bind fun place =>
      d.tree.resolve place names := by
  have hparts : (d.workingDirectory.join { p with parts := p.parts ++ names }).parts =
      (d.workingDirectory.join p).parts ++ names := by
    simp only [DiskPath.join]
    split <;> simp
  rw [Disk.names, hparts, Tree.resolve_append, Disk.names]

/-- A child is at the place of its parent, with its name behind. -/
theorem names_child {name : String} (hname : name ≠ "..") (h : d.names p = .ok site) :
    d.names (p.child name) = .ok (site ++ [name]) := by
  have hnames := names_append d p [name]
  rw [h] at hnames
  exact hnames.trans (Tree.resolve_of_ne (by simpa using hname) site)

/-- A path holds something if its place does. -/
theorem holds_eq (h : d.names p = .ok place) : d.holds p = (d.tree.occupant? place).isSome := by
  have hfind : d.find p = d.tree.find place := by
    rw [find, h]
    rfl
  rw [holds, hfind, Tree.occupant?]
  cases d.tree.find place <;> rfl

/-- A path holds a directory if its place does. -/
theorem holdsDirectory_iff :
    d.holdsDirectory p = true ↔ ∃ site, d.names p = .ok site ∧
      d.tree.occupant? site = some .directory := by
  rw [holdsDirectory]
  cases hfind : d.find p with
  | error fault =>
    constructor
    · intro h
      cases h
    · rintro ⟨site, hsite, hstands⟩
      rcases Tree.occupant?_eq_directory_iff.1 hstands with ⟨entries, hfound⟩
      rw [find_eq_ok_iff.2 ⟨site, hsite, hfound⟩] at hfind
      cases hfind
  | ok found =>
    rcases find_eq_ok_iff.1 hfind with ⟨site, hsite, hfound⟩
    have hstands : d.tree.occupant? site = some found.occupant := by
      rw [Tree.occupant?, hfound]
    have hkind : found.isDirectory = true ↔ found.occupant = .directory := by
      cases found <;> simp [Tree.isDirectory, Tree.occupant]
    dsimp only
    rw [hkind]
    constructor
    · intro h
      exact ⟨site, hsite, h ▸ hstands⟩
    · rintro ⟨other, hother, h⟩
      cases hsite.symm.trans hother
      exact Option.some.inj (hstands.symm.trans h)

/-! ## Ways -/

/-- Whether a path leads to a place or through it. -/
def leadsThrough (d : Disk) (p : DiskPath) (place : List String) : Bool :=
  p.ways.any fun way => (d.names way).toOption == some place

/-- A path leads through the places of its ways. -/
theorem leadsThrough_iff :
    d.leadsThrough p place = true ↔ ∃ way ∈ p.ways, d.names way = .ok place := by
  have hnames (way : DiskPath) :
      ((d.names way).toOption == some place) = true ↔ d.names way = .ok place := by
    cases d.names way <;> simp [Except.toOption]
  simp only [leadsThrough, List.any_eq_true, hnames]

/-- It leads through its own place. -/
theorem leadsThrough_self (h : d.names p = .ok place) : d.leadsThrough p place = true :=
  leadsThrough_iff.2 ⟨p, DiskPath.mem_ways_iff.2 ⟨rfl, List.prefix_refl _⟩, h⟩

/-- The names behind a way lead on from its place. -/
theorem exists_names_way (hsite : d.names p = .ok site) (hway : way ∈ p.ways) :
    ∃ place names, d.names way = .ok place ∧ d.tree.resolve place names = .ok site := by
  rcases DiskPath.mem_ways_iff.1 hway with ⟨hroot, names, hparts⟩
  have hnames := names_append d way names
  have hp : { way with parts := way.parts ++ names } = p := by
    rw [hroot, hparts]
  rw [hp, hsite] at hnames
  cases hplace : d.names way with
  | error fault =>
    rw [hplace] at hnames
    cases hnames
  | ok place =>
    rw [hplace] at hnames
    exact ⟨place, names, rfl, hnames.symm⟩

/-- A path to a directory leads through directories. -/
theorem occupant?_of_leadsThrough (h : d.holdsDirectory p = true)
    (hplace : d.leadsThrough p place = true) : d.tree.occupant? place = some .directory := by
  rcases holdsDirectory_iff.1 h with ⟨site, hsite, hstands⟩
  rcases leadsThrough_iff.1 hplace with ⟨way, hway, hat⟩
  rcases exists_names_way hsite hway with ⟨other, names, hother, hon⟩
  cases hat.symm.trans hother
  exact Tree.occupant?_of_resolve hon hstands

/-- A path leads through the same places after a change that keeps all there was. -/
theorem Keeps.leadsThrough_of (hkeeps : d.Keeps d') (h : d.leadsThrough p place = true) :
    d'.leadsThrough p place = true := by
  rcases leadsThrough_iff.1 h with ⟨way, hway, hat⟩
  exact leadsThrough_iff.2 ⟨way, hway, hkeeps.names hat⟩

/-- Where a path leads to a directory, it goes on to lead through the same places. -/
theorem Keeps.leadsThrough_eq (hkeeps : d.Keeps d') (h : d.holdsDirectory p = true)
    (place : List String) : d'.leadsThrough p place = d.leadsThrough p place := by
  rw [Bool.eq_iff_iff]
  constructor
  · intro hplace
    rcases leadsThrough_iff.1 hplace with ⟨way, hway, hat⟩
    rcases holdsDirectory_iff.1 h with ⟨site, hsite, -⟩
    rcases exists_names_way hsite hway with ⟨other, _, hother, -⟩
    cases (hkeeps.names hother).symm.trans hat
    exact leadsThrough_iff.2 ⟨way, hway, hother⟩
  · exact hkeeps.leadsThrough_of

/-! ## Making directories -/

/-- The directories that a path leads through. -/
def waysPlan (p : DiskPath) : Plan :=
  fun d place occupant => occupant = .directory ∧ d.leadsThrough p place = true

/-- What may be made on a path does not depend on what has been made. -/
theorem waysPlan_stable (p : DiskPath) : (waysPlan p).Stable :=
  fun _ _ _ _ hkeeps h => ⟨h.1, hkeeps.leadsThrough_of h.2⟩

/-- Making a directory makes nothing but places that its path leads through, also where it fails. -/
theorem grows_ways (d : Disk) (p : DiskPath) : Grows (waysPlan p) d (d.ensureDirectories p).2 := by
  apply grows_ensureDirectories (waysPlan_stable p) d
  intro d way place hroot hparts hplace
  exact ⟨rfl, leadsThrough_iff.2 ⟨way, DiskPath.mem_ways_iff.2 ⟨hroot, hparts⟩, hplace⟩⟩

/-- A directory that is made is there. -/
theorem holdsDirectory_makeDirectory (h : d.makeDirectory p = .ok d') :
    d'.holdsDirectory p = true := by
  have hkeeps : d.Keeps d' :=
    (grows_makeDirectory (waysPlan_stable p) h fun place hplace =>
      ⟨rfl, leadsThrough_self hplace⟩).toKeeps
  rw [makeDirectory] at h
  rcases bind_eq_ok_iff.1 h with ⟨place, hplace, hrest⟩
  have hnames : d.names p = .ok place := mapError_eq_ok_iff.1 hplace
  cases hfound : d.tree.find place with
  | ok found =>
    rw [hfound] at hrest
    cases hrest
  | error fault =>
    rw [hfound] at hrest
    rcases bind_eq_ok_iff.1 hrest with ⟨⟨⟩, hparent, hd'⟩
    have hfree : d.tree.occupant? place = none := Tree.occupant?_eq_none_iff.2 ⟨fault, hfound⟩
    refine holdsDirectory_iff.2 ⟨place, hkeeps.names hnames, ?_⟩
    cases hd'
    rcases List.eq_nil_or_concat place with rfl | ⟨front, name, rfl⟩
    · simp at hfree
    · rw [List.concat_eq_append] at *
      have hdirectory := occupant?_of_checkParent hparent
      rw [List.dropLast_concat] at hdirectory
      exact (Tree.occupant?_put hdirectory hfree .directory _).trans (if_pos rfl)

/-- So is one that was made sure of. -/
theorem holdsDirectory_ensureDirectory (h : (d.ensureDirectory p).1 = .ok ()) :
    (d.ensureDirectory p).2.holdsDirectory p = true := by
  rw [ensureDirectory] at h ⊢
  cases hmake : d.makeDirectory p with
  | ok d' =>
    exact holdsDirectory_makeDirectory hmake
  | error e =>
    rw [hmake] at h
    dsimp only at h ⊢
    split at h
    · next hthere =>
      rw [if_pos hthere]
      exact hthere
    · cases h

/-- A path of directories that was made sure of leads to a directory. -/
theorem holdsDirectory_ensureDirectoriesAt {root : String} {names : List String}
    (h : (ensureDirectoriesAt root names d).1 = .ok ()) :
    (ensureDirectoriesAt root names d).2.holdsDirectory { root := root, parts := names.reverse } =
      true := by
  cases names with
  | nil =>
    exact holdsDirectory_ensureDirectory h
  | cons name names =>
    rw [ensureDirectoriesAt] at h ⊢
    cases hmake : d.makeDirectory { root := root, parts := (name :: names).reverse } with
    | ok d' =>
      exact holdsDirectory_makeDirectory hmake
    | error e =>
      rw [hmake] at h
      dsimp only at h ⊢
      split at h
      · next hmissing =>
        -- the directory itself is made once those around it are there
        rw [if_pos hmissing]
        rcases hrest : ensureDirectoriesAt root names d with ⟨_ | _, d₁⟩
        · rw [hrest] at h
          cases h
        · rw [hrest] at h
          exact holdsDirectory_ensureDirectory h
      · next hmissing =>
        rw [if_neg hmissing]
        split at h
        · next hthere =>
          rw [if_pos hthere]
          exact hthere
        · cases h

/-- A directory that is made is there. -/
theorem holdsDirectory_ensureDirectories (h : (d.ensureDirectories p).1 = .ok ()) :
    (d.ensureDirectories p).2.holdsDirectory p = true := by
  have hmade := holdsDirectory_ensureDirectoriesAt h
  rwa [List.reverse_reverse] at hmade

/-- A directory that is there is not made. -/
theorem makeDirectory_of_holdsDirectory (h : d.holdsDirectory p = true) :
    d.makeDirectory p = .error ⟨.occupied, p⟩ := by
  rcases holdsDirectory_iff.1 h with ⟨site, hsite, hstands⟩
  rcases Tree.occupant?_eq_directory_iff.1 hstands with ⟨entries, hfound⟩
  rw [makeDirectory, hsite, mapError_ok]
  dsimp only [bind, Except.bind]
  rw [hfound]

theorem ensureDirectoriesAt_of_holdsDirectory {root : String} {names : List String}
    (h : d.holdsDirectory { root := root, parts := names.reverse } = true) :
    ensureDirectoriesAt root names d = (.ok (), d) := by
  have hmake := makeDirectory_of_holdsDirectory h
  cases names with
  | nil =>
    show d.ensureDirectory _ = _
    rw [ensureDirectory]
    rw [List.reverse_nil] at hmake
    rw [hmake]
    exact if_pos h
  | cons name names =>
    rw [ensureDirectoriesAt, hmake]
    exact if_pos h

/-- To make sure of a directory that is there changes nothing. -/
theorem ensureDirectories_of_holdsDirectory (h : d.holdsDirectory p = true) :
    d.ensureDirectories p = (.ok (), d) := by
  apply ensureDirectoriesAt_of_holdsDirectory
  rwa [List.reverse_reverse]

/-- Where a directory is made, everything stands that stood before, and a directory at each place
that the path leads through. -/
theorem occupant?_ensureDirectories (h : (d.ensureDirectories p).1 = .ok ()) (place : List String) :
    (d.ensureDirectories p).2.tree.occupant? place =
      (d.tree.occupant? place).or
        (if (d.ensureDirectories p).2.leadsThrough p place then some .directory else none) := by
  have hgrows := grows_ways d p
  cases hbefore : d.tree.occupant? place with
  | some occupant =>
    exact hgrows.kept place occupant hbefore
  | none =>
    rw [Option.none_or]
    split
    · next hway =>
      exact occupant?_of_leadsThrough (holdsDirectory_ensureDirectories h) hway
    · next hway =>
      rw [Option.eq_none_iff_forall_ne_some]
      intro occupant hafter
      rcases hgrows.made place occupant hafter with hold | ⟨-, hthrough⟩
      · rw [hbefore] at hold
        cases hold
      · exact hway hthrough

/-! ## Writing where nothing stands -/

/-- A file that is written where nothing stands is put there. -/
theorem write_of_free {bytes : List UInt8} {name : String}
    (hnames : d.names p = .ok (site ++ [name])) (hsite : d.tree.occupant? site = some .directory)
    (hfree : d.tree.occupant? (site ++ [name]) = none) :
    d.write p bytes = .ok { d with tree := d.tree.put (site ++ [name]) (.file bytes) } := by
  rcases Tree.occupant?_eq_none_iff.1 hfree with ⟨fault, hmissing⟩
  rcases Tree.occupant?_eq_directory_iff.1 hsite with ⟨entries, hfound⟩
  have hparent : d.checkParent p (site ++ [name]) = .ok () := by
    rw [checkParent, List.dropLast_concat, hfound]
  rw [write, hnames, mapError_ok]
  dsimp only [bind, Except.bind]
  rw [hmissing]
  dsimp only
  rw [hparent]
  rfl

end Disk
end PatchReview
