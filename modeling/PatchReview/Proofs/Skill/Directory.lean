import Mathlib.Data.List.Nodup
import PatchReview.Proofs.Files.Tree
import PatchReview.Skill.Directory

/-!
# The files of a directory of skills

The files with skills are listed together with their bytes. In a tree with distinct names each is
found at its names, and thinning out the tree leaves, in the same order, those of the list that pass
the test.
-/

namespace PatchReview
namespace Skill

/-! ## Orders -/

/-- Sorting looks at the names only. -/
theorem sortByName_map {α β : Type} (f : α → β) (entries : List (String × α)) :
    sortByName (entries.map fun e => (e.1, f e.2)) = (sortByName entries).map fun e =>
      (e.1, f e.2) := by
  symm
  apply List.map_mergeSort
  intro a _ b _
  rfl

/-- Sorted entries stand in the order of their names. -/
theorem pairwise_sortByName {α : Type} (entries : List (String × α)) :
    (sortByName entries).Pairwise fun a b => decide (a.1 ≤ b.1) = true := by
  apply List.pairwise_mergeSort
  · intro a b c hab hbc
    simp only [decide_eq_true_eq] at hab hbc ⊢
    exact String.le_trans hab hbc
  · intro a b
    simp only [Bool.or_eq_true, decide_eq_true_eq]
    exact String.le_total a.1 b.1

/-- Entries with distinct names have one order only, so what passes a test can be sorted by
itself. -/
theorem filter_sortByName {α : Type} (p : String × α → Bool) {entries : List (String × α)}
    (h : (entries.map (·.1)).Nodup) :
    (sortByName entries).filter p = sortByName (entries.filter p) := by
  have hperm : ((sortByName entries).filter p).Perm (sortByName (entries.filter p)) :=
    ((List.mergeSort_perm _ _).filter p).trans (List.mergeSort_perm _ _).symm
  -- Both lists are sorted; two entries that could stand either way have the same name, and are the
  -- same.
  apply List.Perm.eq_of_pairwise ?_ ((pairwise_sortByName entries).filter p)
    (pairwise_sortByName _) hperm
  intro a b ha hb hab hba
  have hname : a.1 = b.1 := String.le_antisymm (by simpa using hab) (by simpa using hba)
  have ha' : a ∈ entries := List.mem_mergeSort.1 (List.mem_filter.1 ha).1
  have hb' : b ∈ entries := (List.mem_filter.1 (List.mem_mergeSort.1 hb)).1
  exact List.inj_on_of_nodup_map h ha' hb' hname

/-! ## The files with their bytes -/

/-- The files with skills among some entries. -/
def ownSkills : List (String × Tree) → List (String × List UInt8)
  | [] => []
  | (name, .file bytes) :: rest =>
    if isSkillName name then (name, bytes) :: ownSkills rest else ownSkills rest
  | (_, .directory _) :: rest => ownSkills rest

mutual

/-- The names on the way to each file with a skill, and its bytes. -/
def skillsIn : Tree → List (List String × List UInt8)
  | .file _ => []
  | .directory entries =>
    (sortByName (ownSkills entries)).map (fun (name, bytes) => ([name], bytes)) ++
      (sortByName (skillsInside entries)).flatMap fun (name, files) =>
        files.map fun (names, bytes) => (name :: names, bytes)

/-- The same in the directories among some entries. -/
def skillsInside : List (String × Tree) → List (String × List (List String × List UInt8))
  | [] => []
  | (name, t) :: rest =>
    if t.isDirectory && !isHidden name then (name, skillsIn t) :: skillsInside rest
    else skillsInside rest

end

theorem filterMap_own (entries : List (String × Tree)) :
    (entries.filterMap fun (name, t) =>
      if !t.isDirectory && isSkillName name then some (name, ()) else none) =
      (ownSkills entries).map fun e => (e.1, ()) := by
  induction entries with
  | nil =>
    rfl
  | cons entry rest ih =>
    rcases entry with ⟨name, t⟩
    rw [List.filterMap_cons]
    cases t with
    | file bytes =>
      cases hname : isSkillName name with
      | true =>
        rw [ih, ownSkills, if_pos hname, List.map_cons]
        simp [Tree.isDirectory, hname]
      | false =>
        rw [ih, ownSkills, if_neg (by simp [hname])]
        simp [Tree.isDirectory, hname]
    | directory inner =>
      rw [ih, ownSkills]
      simp [Tree.isDirectory]

mutual

/-- The files of a listing are those of the walk. -/
theorem filesIn_eq (t : Tree) : filesIn t = (skillsIn t).map (·.1) := by
  cases t with
  | file bytes =>
    rw [filesIn, skillsIn, List.map_nil]
  | directory entries =>
    rw [filesIn, skillsIn]
    dsimp only
    rw [filterMap_own, filesInside_eq entries, sortByName_map fun _ => (), sortByName_map]
    simp [List.map_flatMap, List.flatMap_map, Function.comp_def]

theorem filesInside_eq (entries : List (String × Tree)) :
    filesInside entries = (skillsInside entries).map fun e => (e.1, e.2.map (·.1)) := by
  cases entries with
  | nil =>
    rw [filesInside, skillsInside, List.map_nil]
  | cons entry rest =>
    rcases entry with ⟨name, t⟩
    rw [filesInside, skillsInside, filesIn_eq t, filesInside_eq rest]
    split <;> rfl

end

/-! ## Paths -/

def below (directory : DiskPath) (names : List String) : DiskPath :=
  { directory with parts := directory.parts ++ names }

/-- The files of a directory are those of what is found at its path. -/
theorem filesOf_eq_map {d : Disk} {directory : DiskPath} {t : Tree}
    (hfind : d.find directory = .ok t) :
    filesOf d directory = (filesIn t).map (below directory) := by
  rw [filesOf, hfind]
  rfl

/-! ## Names -/

theorem names_ownSkills (entries : List (String × Tree)) :
    ((ownSkills entries).map (·.1)).Sublist (entries.map (·.1)) := by
  induction entries with
  | nil =>
    exact .slnil
  | cons entry rest ih =>
    rcases entry with ⟨name, t⟩
    cases t with
    | file bytes =>
      cases hname : isSkillName name with
      | true =>
        simpa [ownSkills, hname] using ih
      | false =>
        simpa [ownSkills, hname] using ih.cons name
    | directory inner =>
      simpa [ownSkills] using ih.cons name

/-- A skill file of a directory is one of its entries and has the name of a skill. -/
theorem of_mem_ownSkills {entries : List (String × Tree)} {name : String} {bytes : List UInt8}
    (h : (name, bytes) ∈ ownSkills entries) :
    isSkillName name = true ∧ (name, Tree.file bytes) ∈ entries := by
  induction entries with
  | nil =>
    cases h
  | cons entry rest ih =>
    rcases entry with ⟨n, t⟩
    have hrest : (name, bytes) ∈ ownSkills rest →
        isSkillName name = true ∧ (name, Tree.file bytes) ∈ (n, t) :: rest := by
      intro hmem
      exact (ih hmem).imp_right (List.mem_cons_of_mem _)
    cases t with
    | directory inner =>
      exact hrest h
    | file inner =>
      rw [ownSkills] at h
      split at h
      · rename_i hname
        rcases List.mem_cons.1 h with heq | hmem
        · cases heq
          exact ⟨hname, List.mem_cons_self⟩
        · exact hrest hmem
      · exact hrest h

/-- A hidden name is none of the two dots, nor is any other name that is not hidden. -/
theorem ne_dots_of_not_hidden {name : String} (h : isHidden name = false) : name ≠ ".." := by
  rintro rfl
  cases h

/-! ## Finding -/

mutual

/-- The names of each listed file lead downwards to its bytes. -/
theorem find_of_mem_skillsIn {t : Tree} (h : t.Distinct) {names : List String} {bytes : List UInt8}
    (hmem : (names, bytes) ∈ skillsIn t) :
    t.find names = .ok (.file bytes) ∧ ∀ name ∈ names, name ≠ ".." := by
  cases t with
  | file inner =>
    rw [skillsIn] at hmem
    cases hmem
  | directory entries =>
    rw [Tree.Distinct] at h
    rw [skillsIn, List.mem_append] at hmem
    rcases hmem with hown | hinside
    -- A file of the directory itself, or one further inside.
    · rcases List.mem_map.1 hown with ⟨⟨name, own⟩, hsorted, heq⟩
      simp only [Prod.mk.injEq] at heq
      rcases heq with ⟨rfl, rfl⟩
      rcases of_mem_ownSkills (List.mem_mergeSort.1 hsorted) with ⟨hname, hentry⟩
      have hlookup : entries.lookup name = some (.file own) := Tree.lookup_of_mem h.1 hentry
      have hhidden : isHidden name = false := by
        simp only [isSkillName, Bool.and_eq_true, Bool.not_eq_true'] at hname
        exact hname.1
      constructor
      · rw [Tree.find, hlookup]
        rfl
      · simpa using ne_dots_of_not_hidden hhidden
    · rcases List.mem_flatMap.1 hinside with ⟨⟨name, files⟩, hsorted, hfile⟩
      rcases List.mem_map.1 hfile with ⟨⟨inner, own⟩, hin, heq⟩
      simp only [Prod.mk.injEq] at heq
      rcases heq with ⟨rfl, rfl⟩
      rcases find_of_mem_skillsInside h.2 (List.mem_mergeSort.1 hsorted) with
        ⟨hhidden, t, hentry, hfind⟩
      rcases hfind inner own hin with ⟨hfound, hdots⟩
      constructor
      · rw [Tree.find, Tree.lookup_of_mem h.1 hentry]
        exact hfound
      · intro n hn
        rcases List.mem_cons.1 hn with rfl | hn
        · exact ne_dots_of_not_hidden hhidden
        · exact hdots n hn

/-- What is walked inside a directory is found below it, and is not hidden. -/
theorem find_of_mem_skillsInside {entries : List (String × Tree)} (h : Tree.EntriesDistinct entries)
    {name : String} {files : List (List String × List UInt8)}
    (hmem : (name, files) ∈ skillsInside entries) :
    isHidden name = false ∧ ∃ t, (name, t) ∈ entries ∧
      ∀ names bytes, (names, bytes) ∈ files →
        t.find names = .ok (.file bytes) ∧ ∀ name ∈ names, name ≠ ".." := by
  cases entries with
  | nil =>
    rw [skillsInside] at hmem
    cases hmem
  | cons entry rest =>
    rcases entry with ⟨n, t⟩
    rw [Tree.EntriesDistinct] at h
    rw [skillsInside] at hmem
    split at hmem
    · rename_i hdir
      rcases List.mem_cons.1 hmem with heq | hrest
      · simp only [Prod.mk.injEq] at heq
        rcases heq with ⟨rfl, rfl⟩
        refine ⟨by simpa using (Bool.and_eq_true_iff.1 hdir).2, t, List.mem_cons_self, ?_⟩
        intro names bytes hfile
        exact find_of_mem_skillsIn h.1 hfile
      · rcases find_of_mem_skillsInside h.2 hrest with ⟨hhidden, u, hu, hfind⟩
        exact ⟨hhidden, u, List.mem_cons_of_mem _ hu, hfind⟩
    · rcases find_of_mem_skillsInside h.2 hmem with ⟨hhidden, u, hu, hfind⟩
      exact ⟨hhidden, u, List.mem_cons_of_mem _ hu, hfind⟩

end

/-! ## Thinning out -/

section Thin

variable {keep : String → List UInt8 → Bool} {test : List UInt8 → Bool}

/-- Thinning leaves the skill files that pass the test. -/
theorem ownSkills_thinEntries
    (hkeep : ∀ name bytes, isSkillName name = true → keep name bytes = test bytes)
    (entries : List (String × Tree)) :
    ownSkills (Tree.thinEntries keep entries) = (ownSkills entries).filter fun e => test e.2 := by
  induction entries with
  | nil =>
    rfl
  | cons entry rest ih =>
    rcases entry with ⟨name, t⟩
    cases t with
    | file bytes =>
      cases hname : isSkillName name with
      | true =>
        cases htest : test bytes with
        | true =>
          simp [Tree.thinEntries, Tree.passes, Tree.thin, ownSkills, hname, hkeep, htest, ih]
        | false =>
          simp [Tree.thinEntries, Tree.passes, ownSkills, hname, hkeep, htest, ih]
      | false =>
        cases hpass : keep name bytes with
        | true =>
          simp [Tree.thinEntries, Tree.passes, Tree.thin, ownSkills, hname, hpass, ih]
        | false =>
          simp [Tree.thinEntries, Tree.passes, ownSkills, hname, hpass, ih]
    | directory inner =>
      simp [Tree.thinEntries, Tree.passes, Tree.thin, ownSkills, ih]

mutual

/-- Thinning out leaves the files of the list that pass the test, in their order. -/
theorem skillsIn_thin (hkeep : ∀ name bytes, isSkillName name = true → keep name bytes = test bytes)
    {t : Tree} (h : t.Distinct) :
    skillsIn (t.thin keep) = (skillsIn t).filter fun s => test s.2 := by
  cases t with
  | file bytes =>
    simp [Tree.thin, skillsIn]
  | directory entries =>
    rw [Tree.Distinct] at h
    -- The own files are sorted after they are tested, or before.
    have hown := filter_sortByName (fun e => test e.2) (h.1.sublist (names_ownSkills entries))
    rw [Tree.thin, skillsIn, skillsIn, ownSkills_thinEntries hkeep, ← hown,
      skillsInside_thin hkeep h.2, sortByName_map]
    simp [List.filter_append, List.filter_flatMap, List.filter_map, List.flatMap_map,
      Function.comp_def]

/-- So it does further inside, since directories stay. -/
theorem skillsInside_thin
    (hkeep : ∀ name bytes, isSkillName name = true → keep name bytes = test bytes)
    {entries : List (String × Tree)} (h : Tree.EntriesDistinct entries) :
    skillsInside (Tree.thinEntries keep entries) =
      (skillsInside entries).map fun e => (e.1, e.2.filter fun s => test s.2) := by
  cases entries with
  | nil =>
    simp [Tree.thinEntries, skillsInside]
  | cons entry rest =>
    rcases entry with ⟨name, t⟩
    rw [Tree.EntriesDistinct] at h
    have hrest := skillsInside_thin hkeep h.2
    cases t with
    | file bytes =>
      cases hpass : keep name bytes with
      | true =>
        simpa [Tree.thinEntries, Tree.passes, Tree.thin, skillsInside, Tree.isDirectory,
          hpass] using hrest
      | false =>
        simpa [Tree.thinEntries, Tree.passes, skillsInside, Tree.isDirectory, hpass] using hrest
    | directory inner =>
      have hinner := skillsIn_thin hkeep h.1
      rw [Tree.thin] at hinner
      -- what is hidden is left out before and after
      cases hhidden : isHidden name with
      | true =>
        simpa [Tree.thinEntries, Tree.passes, Tree.thin, skillsInside, hhidden] using hrest
      | false =>
        simpa [Tree.thinEntries, Tree.passes, Tree.thin, skillsInside, Tree.isDirectory, hhidden,
          hinner]
          using hrest

end

end Thin

end Skill
end PatchReview
