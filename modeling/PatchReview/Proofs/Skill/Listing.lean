import Mathlib.Data.List.Nodup
import PatchReview.Proofs.Skill.Directory

/-!
# The order of a directory of skills

The listing of a directory gives its own files by their names and then what is in its directories by
theirs. In a tree with distinct names that leaves nothing open, so that no file is listed twice.
-/

namespace PatchReview
namespace Skill

/-- Distinct names are distinct when they are sorted. -/
theorem nodup_map_sortByName {α : Type} {entries : List (String × α)}
    (h : (entries.map (·.1)).Nodup) : ((sortByName entries).map (·.1)).Nodup :=
  ((List.mergeSort_perm _ _).map _).nodup_iff.2 h

/-- There is a name on the way to every listed file. -/
theorem ne_nil_of_mem_filesIn {t : Tree} {names : List String} (h : names ∈ filesIn t) :
    names ≠ [] := by
  cases t with
  | file bytes =>
    rw [filesIn] at h
    cases h
  | directory entries =>
    rw [filesIn] at h
    rcases List.mem_append.1 h with hown | hinside
    · rcases List.mem_map.1 hown with ⟨_, _, rfl⟩
      exact List.cons_ne_nil _ _
    · rcases List.mem_flatMap.1 hinside with ⟨_, _, hfile⟩
      rcases List.mem_map.1 hfile with ⟨_, _, rfl⟩
      exact List.cons_ne_nil _ _

theorem names_filesInside (entries : List (String × Tree)) :
    ((filesInside entries).map (·.1)).Sublist (entries.map (·.1)) := by
  induction entries with
  | nil =>
    rw [filesInside]
    exact .slnil
  | cons entry rest ih =>
    rcases entry with ⟨name, t⟩
    rw [filesInside]
    split
    · exact ih.cons_cons name
    · exact ih.cons name

/-- What is listed inside are the files of each directory that is not hidden. -/
theorem mem_filesInside_iff {entries : List (String × Tree)} {name : String}
    {files : List (List String)} :
    (name, files) ∈ filesInside entries ↔
      ∃ t, (name, t) ∈ entries ∧ (t.isDirectory && !isHidden name) = true ∧ filesIn t = files := by
  induction entries with
  | nil =>
    simp [filesInside]
  | cons entry rest ih =>
    rcases entry with ⟨n, t⟩
    rw [filesInside]
    split
    · next hdirectory =>
      rw [List.mem_cons, ih]
      constructor
      · rintro (heq | ⟨u, hu, hrest⟩)
        · cases heq
          exact ⟨t, List.mem_cons_self, hdirectory, rfl⟩
        · exact ⟨u, List.mem_cons_of_mem _ hu, hrest⟩
      · rintro ⟨u, hu, hshown, rfl⟩
        rcases List.mem_cons.1 hu with heq | hu
        · cases heq
          exact .inl rfl
        · exact .inr ⟨u, hu, hshown, rfl⟩
    · next hdirectory =>
      rw [ih]
      constructor
      · rintro ⟨u, hu, hrest⟩
        exact ⟨u, List.mem_cons_of_mem _ hu, hrest⟩
      · rintro ⟨u, hu, hshown, rfl⟩
        rcases List.mem_cons.1 hu with heq | hu
        · cases heq
          exact absurd hshown hdirectory
        · exact ⟨u, hu, hshown, rfl⟩

theorem ne_nil_of_mem_filesInside {entries : List (String × Tree)} {name : String}
    {files : List (List String)} (h : (name, files) ∈ filesInside entries) {names : List String}
    (hnames : names ∈ files) : names ≠ [] := by
  rcases mem_filesInside_iff.1 h with ⟨t, -, -, rfl⟩
  exact ne_nil_of_mem_filesIn hnames

/-! ## The order of the listing -/

/-- The order of the names on the way to files: the own files of a directory stand before what is in
its directories, both by their names. -/
inductive Precedes : List String → List String → Prop where
  | files {a b : String} (h : a < b) : Precedes [a] [b]
  | fileFirst {a b : String} {rest : List String} (h : rest ≠ []) : Precedes [a] (b :: rest)
  | directories {a b : String} {rest rest' : List String} (h : a < b) (hrest : rest ≠ [])
    (hrest' : rest' ≠ []) :
      Precedes (a :: rest) (b :: rest')
  | inside {name : String} {rest rest' : List String} (h : Precedes rest rest') :
      Precedes (name :: rest) (name :: rest')

theorem Precedes.ne_nil {names names' : List String} (h : Precedes names names') :
    names ≠ [] ∧ names' ≠ [] := by
  cases h <;> exact ⟨List.cons_ne_nil _ _, List.cons_ne_nil _ _⟩

/-- No two paths precede each other. -/
theorem Precedes.asymm {names names' : List String} (h : Precedes names names') :
    ¬ Precedes names' names := by
  induction h with
  | files h =>
    intro hback
    -- the paths begin alike, so only one rule can lead back
    cases hback with
    | files hback => exact String.lt_asymm h hback
    | fileFirst hback => exact hback rfl
    | directories _ hback => exact hback rfl
    | inside hback => exact hback.ne_nil.1 rfl
  | fileFirst h =>
    intro hback
    cases hback with
    | files => exact h rfl
    | fileFirst => exact h rfl
    | directories _ _ hback => exact hback rfl
    | inside hback => exact hback.ne_nil.2 rfl
  | directories h hrest hrest' =>
    intro hback
    cases hback with
    | files => exact hrest rfl
    | fileFirst => exact hrest' rfl
    | directories hback => exact String.lt_asymm h hback
    | inside => exact String.lt_irrefl _ h
  | inside h ih =>
    intro hback
    cases hback with
    | files hback => exact String.lt_irrefl _ hback
    | fileFirst => exact h.ne_nil.2 rfl
    | directories hback => exact String.lt_irrefl _ hback
    | inside hback => exact ih hback

/-- Distinct names stand in strictly ascending order. -/
theorem pairwise_lt_sortByName {α : Type} {entries : List (String × α)}
    (h : (entries.map (·.1)).Nodup) : (sortByName entries).Pairwise fun a b => a.1 < b.1 := by
  have hne := List.pairwise_map.1 (nodup_map_sortByName h)
  refine ((pairwise_sortByName entries).and hne).imp fun {a b} hab => ?_
  exact Std.lt_of_le_of_ne (of_decide_eq_true hab.1) hab.2

/-- The listing is in order. -/
theorem pairwise_filesIn {t : Tree} (h : t.Distinct) : (filesIn t).Pairwise Precedes := by
  induction t using Tree.induction with
  | file bytes =>
    rw [filesIn]
    exact .nil
  | directory entries ih =>
    rw [Tree.Distinct, Tree.entriesDistinct_iff] at h
    rw [filesIn]
    dsimp only
    rw [filterMap_own]
    refine List.pairwise_append.2 ⟨?_, ?_, ?_⟩
    · have hnames : (((ownSkills entries).map fun e => (e.1, ())).map (·.1)).Nodup := by
        rw [List.map_map]
        exact h.1.sublist (names_ownSkills entries)
      exact List.pairwise_map.2 ((pairwise_lt_sortByName hnames).imp .files)
    -- What is in one directory is in order there; of two directories the names decide.
    · refine List.pairwise_flatMap.2 ⟨?_, ?_⟩
      · rintro ⟨name, files⟩ hmem
        rcases mem_filesInside_iff.1 (List.mem_mergeSort.1 hmem) with ⟨t, hentry, -, rfl⟩
        exact List.pairwise_map.2 ((ih _ hentry (h.2 _ hentry)).imp .inside)
      · have hsorted := pairwise_lt_sortByName (h.1.sublist (names_filesInside entries))
        refine hsorted.imp_of_mem fun {a b} ha hb hlt names hnames names' hnames' => ?_
        rcases List.mem_map.1 hnames with ⟨rest, hrest, rfl⟩
        rcases List.mem_map.1 hnames' with ⟨rest', hrest', rfl⟩
        exact .directories hlt (ne_nil_of_mem_filesInside (List.mem_mergeSort.1 ha) hrest)
          (ne_nil_of_mem_filesInside (List.mem_mergeSort.1 hb) hrest')
    -- An own file stands before everything further inside, whatever the names are.
    · intro names hown names' hinside
      rcases List.mem_map.1 hown with ⟨_, _, rfl⟩
      rcases List.mem_flatMap.1 hinside with ⟨⟨name, files⟩, hmem, hfile⟩
      rcases List.mem_map.1 hfile with ⟨rest, hrest, rfl⟩
      exact .fileFirst (ne_nil_of_mem_filesInside (List.mem_mergeSort.1 hmem) hrest)

/-- No file of a directory is listed twice, as none stands before itself. -/
theorem nodup_filesIn {t : Tree} (h : t.Distinct) : (filesIn t).Nodup := by
  refine (pairwise_filesIn h).imp fun hbefore => ?_
  rintro rfl
  exact hbefore.asymm hbefore

/-- No file is listed twice in a directory of a disk with distinct names. -/
theorem nodup_filesOf {d : Disk} (h : d.tree.Distinct) (directory : DiskPath) :
    (filesOf d directory).Nodup := by
  rw [filesOf]
  cases hfind : d.find directory with
  | error fault =>
    exact List.nodup_nil
  | ok t =>
    refine (nodup_filesIn (Disk.distinct_of_find h hfind)).map fun names names' heq => ?_
    exact List.append_cancel_left (congrArg DiskPath.parts heq)

end Skill
end PatchReview
