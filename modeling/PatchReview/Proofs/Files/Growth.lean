import PatchReview.Proofs.Files.Tree
import PatchReview.Proofs.Work

/-!
# Disks that grow

Making a directory and writing a file where nothing stands add one thing to a tree and leave all
others as they are. A disk grows by a plan if what stood on it still stands, unchanged, and whatever
is new is in the plan. Making a directory with those on the way to it grows a disk step by step,
also where it fails in the middle.
-/

namespace PatchReview

/-! ## What stands at a place -/

/-- A file with its bytes, or a directory regardless of what it holds. -/
inductive Occupant where
  | file (bytes : List UInt8)
  | directory
  deriving DecidableEq, Repr

/-- The least tree of its kind. -/
def Occupant.tree : Occupant → Tree
  | .file bytes => .file bytes
  | .directory => .directory []

namespace Tree

/-- The tree without what it holds as a directory. -/
def occupant : Tree → Occupant
  | .file bytes => .file bytes
  | .directory _ => .directory

/-- What stands at the end of a list of names, if something does. -/
def occupant? (t : Tree) (place : List String) : Option Occupant :=
  match t.find place with
  | .ok found => some found.occupant
  | .error _ => none

/-- At no name stands the thing itself. -/
@[simp] theorem occupant?_nil (t : Tree) : t.occupant? [] = some t.occupant := by
  cases t <;> rfl

/-- Nothing stands inside a file. -/
@[simp] theorem occupant?_file_cons (bytes : List UInt8) (name : String) (place : List String) :
    (file bytes).occupant? (name :: place) = none :=
  rfl

/-- What stands inside a directory stands inside its entry of that name. -/
@[simp] theorem occupant?_directory_cons (entries : List (String × Tree)) (name : String)
    (place : List String) :
    (directory entries).occupant? (name :: place) =
      (entries.lookup name).bind (·.occupant? place) := by
  rw [occupant?, find]
  cases entries.lookup name <;> rfl

/-- A place holds a directory if a directory is found there. -/
theorem occupant?_eq_directory_iff {t : Tree} {place : List String} :
    t.occupant? place = some .directory ↔ ∃ entries, t.find place = .ok (.directory entries) := by
  rw [occupant?]
  cases t.find place with
  | error fault =>
    simp
  | ok found =>
    cases found <;> simp [occupant]

/-- A place is free if nothing is found there. -/
theorem occupant?_eq_none_iff {t : Tree} {place : List String} :
    t.occupant? place = none ↔ ∃ fault, t.find place = .error fault := by
  rw [occupant?]
  cases t.find place <;> simp

/-- Setting an entry changes what has its name, and nothing else. -/
theorem lookup_setEntry (name : String) (t : Tree) (entries : List (String × Tree))
    (other : String) :
    (setEntry name t entries).lookup other =
      if other = name then some t else entries.lookup other := by
  induction entries with
  | nil =>
    by_cases h : other = name <;> simp [setEntry, h]
  | cons entry rest ih =>
    rcases entry with ⟨n, old⟩
    rw [setEntry]
    by_cases hother : other = n
    · subst hother
      by_cases hn : other = name <;> simp [hn]
    · have hbeq : (other == n) = false := by
        simpa using hother
      by_cases hn : n = name
      · subst hn
        simp [List.lookup_cons, hbeq, hother]
      · simp [List.lookup_cons, hbeq, hn, ih]

/-- Behind a new thing, in a directory where its name is free, every other place is as it was. -/
theorem occupant?_put {t : Tree} {front : List String} {name : String}
    (hparent : t.occupant? front = some .directory) (hfree : t.occupant? (front ++ [name]) = none)
    (new : Occupant) (place : List String) :
    (t.put (front ++ [name]) new.tree).occupant? place =
      if place = front ++ [name] then some new else t.occupant? place := by
  induction front generalizing t place with
  | nil =>
    rcases t with bytes | entries
    · simp [occupant] at hparent
    · have hname : entries.lookup name = none := by
        rw [List.nil_append, occupant?_directory_cons, Option.bind_eq_none_iff] at hfree
        rw [Option.eq_none_iff_forall_ne_some]
        intro inner hinner
        simpa using hfree inner hinner
      rw [List.nil_append, put]
      rcases place with _ | ⟨first, rest⟩
      · simp [occupant]
      · rw [occupant?_directory_cons, lookup_setEntry, occupant?_directory_cons]
        by_cases hfirst : first = name
        · -- nothing stood below the free name, and nothing stands below the new thing
          rw [if_pos hfirst, hfirst, hname]
          rcases rest with _ | ⟨second, rest⟩
          · cases new <;> simp [Occupant.tree, occupant]
          · cases new <;> simp [Occupant.tree]
        · simp [hfirst]
  | cons step front ih =>
    rcases t with bytes | entries
    · simp at hparent
    · cases hstep : entries.lookup step with
      | none =>
        simp [hstep] at hparent
      | some inner =>
        rw [occupant?_directory_cons, hstep, Option.bind_some] at hparent
        rw [List.cons_append, occupant?_directory_cons, hstep, Option.bind_some] at hfree
        have hput : (directory entries).put (step :: front ++ [name]) new.tree =
            directory (setEntry step (inner.put (front ++ [name]) new.tree) entries) := by
          rcases front with _ | ⟨second, front⟩ <;> simp [put, hstep]
        rw [hput]
        rcases place with _ | ⟨first, rest⟩
        · simp [occupant]
        · rw [occupant?_directory_cons, lookup_setEntry, occupant?_directory_cons]
          by_cases hfirst : first = step
          · rw [if_pos hfirst, Option.bind_some, ih hparent hfree, hfirst, hstep]
            simp
          · simp [hfirst]

end Tree

/-! ## Disks -/

namespace Disk

/-- What stands on a disk stands on another, at the same places and unchanged. -/
structure Keeps (d d' : Disk) : Prop where
  workingDirectory : d'.workingDirectory = d.workingDirectory
  home : d'.home = d.home
  kept : ∀ place occupant, d.tree.occupant? place = some occupant →
    d'.tree.occupant? place = some occupant

/-- What may be made on a disk: a thing at a place. -/
abbrev Plan := Disk → List String → Occupant → Prop

/-- Whether what is in a plan stays in it while disks keep what they have. -/
def Plan.Stable (plan : Plan) : Prop :=
  ∀ d d' place occupant, Keeps d d' → plan d place occupant → plan d' place occupant

/-- A disk becomes another on which all is kept, and everything else is in a plan. -/
structure Grows (plan : Plan) (d d' : Disk) : Prop extends Keeps d d' where
  made : ∀ place occupant, d'.tree.occupant? place = some occupant →
    d.tree.occupant? place = some occupant ∨ plan d' place occupant

variable {plan : Plan} {d d' : Disk}

theorem Keeps.refl (d : Disk) : Keeps d d :=
  ⟨rfl, rfl, fun _ _ h => h⟩

/-- What is kept by one change and by the next is kept by both. -/
theorem Keeps.trans {d'' : Disk} (h : Keeps d d') (h' : Keeps d' d'') : Keeps d d'' where
  workingDirectory := h'.workingDirectory.trans h.workingDirectory
  home := h'.home.trans h.home
  kept place occupant hstands := h'.kept place occupant (h.kept place occupant hstands)

/-- A disk that does not change grows by any plan. -/
theorem Grows.refl (plan : Plan) (d : Disk) : Grows plan d d :=
  ⟨.refl d, fun _ _ h => .inl h⟩

/-- Growing by a plan twice is growing by it, if what may be made does not depend on what is new. -/
theorem Grows.trans (hplan : plan.Stable) {d'' : Disk} (h : Grows plan d d')
    (h' : Grows plan d' d'') : Grows plan d d'' := by
  refine ⟨h.toKeeps.trans h'.toKeeps, ?_⟩
  intro place occupant hstands
  rcases h'.made place occupant hstands with hbefore | hmade
  · rcases h.made place occupant hbefore with hfirst | hmade
    · exact .inl hfirst
    · exact .inr (hplan d' d'' place occupant h'.toKeeps hmade)
  · exact .inr hmade

/-- A disk that grows by a plan grows by any plan that allows more. -/
theorem Grows.mono {plan' : Plan} (h : Grows plan d d')
    (hplan : ∀ place occupant, plan d' place occupant → plan' d' place occupant) :
    Grows plan' d d' :=
  ⟨h.toKeeps, fun place occupant hstands =>
    (h.made place occupant hstands).imp_right (hplan place occupant)⟩

/-- A path leads to the same place after a change that keeps all there was. -/
theorem Keeps.resolve (h : Keeps d d') {done names place : List String}
    (hplace : d.tree.resolve done names = .ok place) : d'.tree.resolve done names = .ok place := by
  induction names generalizing done with
  | nil =>
    exact hplace
  | cons name names ih =>
    rw [Tree.resolve] at hplace ⊢
    split
    · next hdots =>
      rw [if_pos hdots] at hplace
      -- two dots lead up from a directory, which is still there
      cases hfound : d.tree.find done with
      | error fault =>
        rw [hfound] at hplace
        cases hplace
      | ok found =>
        rw [hfound] at hplace
        cases found with
        | file bytes =>
          cases hplace
        | directory entries =>
          rcases Tree.occupant?_eq_directory_iff.1
            (h.kept done _ (Tree.occupant?_eq_directory_iff.2 ⟨_, hfound⟩))
            with ⟨entries', hfound'⟩
          rw [hfound']
          exact ih hplace
    · next hname =>
      rw [if_neg hname] at hplace
      exact ih hplace

/-- The way to a place stays the same. -/
theorem Keeps.names (h : Keeps d d') {p : DiskPath} {place : List String}
    (hplace : d.names p = .ok place) : d'.names p = .ok place := by
  rw [Disk.names] at hplace ⊢
  rw [h.workingDirectory]
  exact h.resolve hplace

/-! ## Making and writing -/

/-- One new thing, in a directory that is there. -/
theorem grows_put {names : List String} {new : Occupant} (hplan : plan.Stable)
    (hparent : d.tree.occupant? names.dropLast = some .directory)
    (hfree : d.tree.occupant? names = none) (hnew : plan d names new) :
    Grows plan d { d with tree := d.tree.put names new.tree } := by
  rcases List.eq_nil_or_concat names with rfl | ⟨front, name, rfl⟩
  · simp at hfree
  · rw [List.concat_eq_append] at *
    rw [List.dropLast_concat] at hparent
    have hput := Tree.occupant?_put hparent hfree new
    -- nothing stood at the place, so all that stood elsewhere is kept
    have hkeeps : Keeps d { d with tree := d.tree.put (front ++ [name]) new.tree } := by
      refine ⟨rfl, rfl, ?_⟩
      intro place occupant hstands
      rw [hput]
      split
      · next hplace =>
        rw [hplace, hfree] at hstands
        cases hstands
      · exact hstands
    refine ⟨hkeeps, ?_⟩
    intro place occupant hstands
    rw [hput] at hstands
    split at hstands
    · next hplace =>
      cases hstands
      right
      rw [hplace]
      exact hplan _ _ _ _ hkeeps hnew
    · exact .inl hstands

/-- A path whose parent is fine has a directory above its last name. -/
theorem occupant?_of_checkParent {p : DiskPath} {names : List String}
    (h : d.checkParent p names = .ok ()) : d.tree.occupant? names.dropLast = some .directory := by
  rw [checkParent] at h
  cases hfound : d.tree.find names.dropLast with
  | error fault =>
    rw [hfound] at h
    cases h
  | ok found =>
    rw [hfound] at h
    cases found with
    | file bytes =>
      cases h
    | directory entries =>
      exact Tree.occupant?_eq_directory_iff.2 ⟨entries, hfound⟩

/-- Making a directory adds that directory. -/
theorem grows_makeDirectory (hplan : plan.Stable) {p : DiskPath}
    (hmake : d.makeDirectory p = .ok d')
    (hnew : ∀ place, d.names p = .ok place → plan d place .directory) : Grows plan d d' := by
  rw [makeDirectory] at hmake
  rcases bind_eq_ok_iff.1 hmake with ⟨place, hplace, hrest⟩
  cases hfound : d.tree.find place with
  | ok found =>
    rw [hfound] at hrest
    cases hrest
  | error fault =>
    rw [hfound] at hrest
    rcases bind_eq_ok_iff.1 hrest with ⟨⟨⟩, hparent, hd'⟩
    cases hd'
    exact grows_put hplan (occupant?_of_checkParent hparent)
      (Tree.occupant?_eq_none_iff.2 ⟨fault, hfound⟩)
      (hnew place (mapError_eq_ok_iff.1 hplace))

/-- Writing leaves the home directory, also over what stands there. -/
theorem home_of_write {p : DiskPath} {bytes : List UInt8} (hwrite : d.write p bytes = .ok d') :
    d'.home = d.home := by
  rw [write] at hwrite
  rcases bind_eq_ok_iff.1 hwrite with ⟨place, _, hrest⟩
  split at hrest
  · cases hrest
  · rcases bind_eq_ok_iff.1 hrest with ⟨_, _, heq⟩
    cases heq
    rfl

/-- Writing where nothing stands. -/
theorem grows_write (hplan : plan.Stable) {p : DiskPath} {bytes : List UInt8}
    (hwrite : d.write p bytes = .ok d') (hfree : d.holds p = false)
    (hnew : ∀ place, d.names p = .ok place → plan d place (.file bytes)) : Grows plan d d' := by
  rw [write] at hwrite
  rcases bind_eq_ok_iff.1 hwrite with ⟨place, hplace, hrest⟩
  have hnames : d.names p = .ok place := mapError_eq_ok_iff.1 hplace
  cases hfound : d.tree.find place with
  | ok found =>
    have hstands : d.find p = .ok found := find_eq_ok_iff.2 ⟨place, hnames, hfound⟩
    rw [holds, hstands] at hfree
    cases hfree
  | error fault =>
    rw [hfound] at hrest
    rcases bind_eq_ok_iff.1 hrest with ⟨⟨⟩, hparent, hd'⟩
    cases hd'
    exact grows_put hplan (occupant?_of_checkParent hparent)
      (Tree.occupant?_eq_none_iff.2 ⟨fault, hfound⟩)
      (hnew place hnames)

/-- Making sure of a directory adds that directory at most. -/
theorem grows_ensureDirectory (hplan : plan.Stable) {p : DiskPath}
    (hnew : ∀ place, d.names p = .ok place → plan d place .directory) :
    Grows plan d (d.ensureDirectory p).2 := by
  rw [ensureDirectory]
  cases hmake : d.makeDirectory p with
  | ok d' =>
    exact grows_makeDirectory hplan hmake hnew
  | error e =>
    dsimp only
    split <;> exact .refl plan d

/-- Making sure of a path of directories adds some of those on its way. -/
theorem grows_ensureDirectoriesAt (hplan : plan.Stable) {root : String} {names : List String}
    (d : Disk)
    (hnew : ∀ (d : Disk) (way : DiskPath) place, way.root = root → way.parts <+: names.reverse →
      d.names way = .ok place → plan d place .directory) :
    Grows plan d (ensureDirectoriesAt root names d).2 := by
  -- the names come in reverse, so the recursion is on the directory around, which is made first
  induction names with
  | nil =>
    exact grows_ensureDirectory hplan fun place => hnew d _ place rfl (List.prefix_refl _)
  | cons name names ih =>
    have hhere : ∀ (d : Disk) place,
        d.names { root := root, parts := (name :: names).reverse } = .ok place →
        plan d place .directory := fun d place => hnew d _ place rfl (List.prefix_refl _)
    have haround : Grows plan d (ensureDirectoriesAt root names d).2 := by
      apply ih
      intro d way place hroot hparts
      apply hnew d way place hroot
      rw [List.reverse_cons]
      exact hparts.trans (List.prefix_append _ _)
    rw [ensureDirectoriesAt]
    cases hmake : d.makeDirectory { root := root, parts := (name :: names).reverse } with
    | ok d' =>
      exact grows_makeDirectory hplan hmake (hhere d)
    | error e =>
      dsimp only
      split
      · rcases hrest : ensureDirectoriesAt root names d with ⟨_ | _, d₁⟩
        · rw [hrest] at haround
          exact haround
        · rw [hrest] at haround
          exact haround.trans hplan (grows_ensureDirectory hplan (hhere d₁))
      · split <;> exact .refl plan d

/-- Making a directory makes nothing but directories on the way to it, also where it fails. -/
theorem grows_ensureDirectories (hplan : plan.Stable) {p : DiskPath} (d : Disk)
    (hnew : ∀ (d : Disk) (way : DiskPath) place, way.root = p.root → way.parts <+: p.parts →
      d.names way = .ok place → plan d place .directory) :
        Grows plan d (d.ensureDirectories p).2 := by
  apply grows_ensureDirectoriesAt hplan
  rwa [List.reverse_reverse]

end Disk
end PatchReview
