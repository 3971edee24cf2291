import PatchReview.Proofs.Diff.Path
import PatchReview.Proofs.Files.Order
import PatchReview.Proofs.Skill.Listing
import PatchReview.Proofs.Text.CaseMap

/-!
# The walk through a directory of skills

The listing of a directory holds the files with skills that can be reached without a hidden name,
each once. Each directory gives its own files by their names and then what is in its directories by
theirs, so that the listing does not depend on the order in which the entries stand on the disk.
-/

namespace PatchReview

namespace Skill

/-! ## Names of files -/

/-- A name ends in the extension of a file with a skill, in whatever case. -/
def HasSkillExtension (name : String) : Prop :=
  ∃ stem ext, name.toList = stem ++ '.' :: ext ∧
    (ext.map Char.toLower = ['y', 'a', 'm', 'l'] ∨ ext.map Char.toLower = ['y', 'm', 'l'])

/-- A name is hidden if it begins with a dot. -/
theorem isHidden_eq_false_iff {name : String} :
    isHidden name = false ↔ name.toList.head? ≠ some '.' := by
  rw [isHidden, beq_eq_false_iff_ne]

theorem isPlainLetter_of_mem {letter : Char} (h : letter ∈ ['y', 'a', 'm', 'l']) :
    Text.IsPlainLetter letter := by
  simp only [List.mem_cons, List.not_mem_nil, or_false] at h
  rcases h with rfl | rfl | rfl | rfl <;> exact ⟨by decide, by decide, by decide⟩

/-- The two extensions are asked for in any case of their letters. -/
theorem contains_lower_iff {ext : List Char} :
    ["yaml", "yml"].contains (String.ofList (Text.lower ext)) = true ↔
      ext.map Char.toLower = ['y', 'a', 'm', 'l'] ∨ ext.map Char.toLower = ['y', 'm', 'l'] := by
  have hlong : Text.lower ext = ['y', 'a', 'm', 'l'] ↔
      ext.map Char.toLower = ['y', 'a', 'm', 'l'] :=
    Text.lower_eq_iff fun _ => isPlainLetter_of_mem
  have hshort : Text.lower ext = ['y', 'm', 'l'] ↔ ext.map Char.toLower = ['y', 'm', 'l'] :=
    Text.lower_eq_iff fun _ h =>
      isPlainLetter_of_mem ((List.Sublist.cons_cons 'y' (.cons 'a' (.refl _))).mem h)
  rw [← hlong, ← hshort, List.contains_iff_mem, List.mem_pair, ← String.toList_inj,
    ← String.toList_inj, String.toList_ofList]
  rfl

/-- Neither word has a dot in it. -/
theorem dot_not_mem_of_map_toLower {ext : List Char}
    (h : ext.map Char.toLower = ['y', 'a', 'm', 'l'] ∨ ext.map Char.toLower = ['y', 'm', 'l']) :
    '.' ∉ ext := by
  intro hmem
  have hlower : '.' ∈ ext.map Char.toLower := List.mem_map.2 ⟨'.', hmem, rfl⟩
  rcases h with heq | heq
  · rw [heq] at hlower
    exact absurd hlower (by decide)
  · rw [heq] at hlower
    exact absurd hlower (by decide)

/-- A name is that of a skill if it is not hidden and has one of the extensions. -/
theorem isSkillName_iff {name : String} :
    isSkillName name = true ↔ isHidden name = false ∧ HasSkillExtension name := by
  rw [isSkillName, Bool.and_eq_true, Bool.not_eq_true']
  refine and_congr_right fun hshown => ?_
  rw [isHidden_eq_false_iff] at hshown
  constructor
  · intro h
    cases hext : Path.extension? name.toList with
    | none =>
      rw [hext] at h
      cases h
    | some ext =>
      rw [hext] at h
      rcases Path.extension?_eq_some_iff.1 hext with ⟨stem, hname, -, -⟩
      exact ⟨stem, ext, hname, contains_lower_iff.1 h⟩
  · rintro ⟨stem, ext, hname, hext⟩
    -- a name that is not hidden does not start with the dot of its extension
    have hstem : ∃ c ∈ stem, c ≠ '.' := by
      rw [hname] at hshown
      cases stem with
      | nil =>
        exact absurd rfl hshown
      | cons c cs =>
        exact ⟨c, List.mem_cons_self, fun hc => hshown (congrArg some hc)⟩
    rw [Path.extension?_eq_some_iff.2 ⟨stem, hname, dot_not_mem_of_map_toLower hext, hstem⟩]
    exact contains_lower_iff.2 hext

/-! ## The files of the listing -/

/-- Names of directories and then that of a file lead down a tree to a file with a skill, and no
name on the way starts with a dot. -/
structure LeadsToSkill (t : Tree) (directories : List String) (name : String) : Prop where
  found : ∃ bytes, t.find (directories ++ [name]) = .ok (.file bytes)
  shown : ∀ part ∈ directories ++ [name], part.toList.head? ≠ some '.'
  extension : HasSkillExtension name

theorem mem_ownSkills_of_mem {entries : List (String × Tree)} {name : String} {bytes : List UInt8}
    (hname : isSkillName name = true) (h : (name, Tree.file bytes) ∈ entries) :
    (name, bytes) ∈ ownSkills entries := by
  induction entries with
  | nil =>
    cases h
  | cons entry rest ih =>
    rcases entry with ⟨n, t⟩
    rcases List.mem_cons.1 h with heq | hrest
    · cases heq
      rw [ownSkills, if_pos hname]
      exact List.mem_cons_self
    · cases t with
      | file other =>
        rw [ownSkills]
        split
        · exact List.mem_cons_of_mem _ (ih hrest)
        · exact ih hrest
      | directory inner =>
        rw [ownSkills]
        exact ih hrest

/-- The skill files of a directory are its files with the name of a skill. -/
theorem mem_ownSkills_iff {entries : List (String × Tree)} {name : String} {bytes : List UInt8} :
    (name, bytes) ∈ ownSkills entries ↔ isSkillName name = true ∧
      (name, Tree.file bytes) ∈ entries :=
  ⟨of_mem_ownSkills, fun h => mem_ownSkills_of_mem h.1 h.2⟩

/-- The own files of a directory, and those further inside. -/
theorem mem_filesIn_directory_iff {entries : List (String × Tree)} {names : List String} :
    names ∈ filesIn (.directory entries) ↔
      (∃ name bytes, names = [name] ∧ isSkillName name = true ∧ (name, Tree.file bytes) ∈ entries) ∨
        ∃ name t rest, names = name :: rest ∧ (t.isDirectory && !isHidden name) = true ∧
          (name, t) ∈ entries ∧
          rest ∈ filesIn t := by
  rw [filesIn]
  dsimp only
  rw [filterMap_own, List.mem_append]
  -- own files come first, then those further inside
  refine or_congr ?_ ?_
  · constructor
    · intro h
      rcases List.mem_map.1 h with ⟨⟨name, _⟩, hsorted, rfl⟩
      rcases List.mem_map.1 (List.mem_mergeSort.1 hsorted) with ⟨⟨own, bytes⟩, hown, heq⟩
      cases heq
      exact ⟨own, bytes, rfl, mem_ownSkills_iff.1 hown⟩
    · rintro ⟨name, bytes, rfl, hown⟩
      refine List.mem_map.2 ⟨(name, ()), List.mem_mergeSort.2 ?_, rfl⟩
      exact List.mem_map.2 ⟨(name, bytes), mem_ownSkills_iff.2 hown, rfl⟩
  · constructor
    · intro h
      rcases List.mem_flatMap.1 h with ⟨⟨name, files⟩, hsorted, hfile⟩
      rcases List.mem_map.1 hfile with ⟨rest, hrest, rfl⟩
      rcases mem_filesInside_iff.1 (List.mem_mergeSort.1 hsorted) with ⟨t, hentry, hshown, rfl⟩
      exact ⟨name, t, rest, rfl, hshown, hentry, hrest⟩
    · rintro ⟨name, t, rest, rfl, hshown, hentry, hrest⟩
      refine List.mem_flatMap.2
        ⟨(name, filesIn t), List.mem_mergeSort.2 ?_, List.mem_map_of_mem hrest⟩
      exact mem_filesInside_iff.2 ⟨t, hentry, hshown, rfl⟩

/-- If names are distinct, a file is found by the name of its entry. -/
theorem find_singleton_iff {entries : List (String × Tree)} (h : (entries.map (·.1)).Nodup)
    {name : String} {bytes : List UInt8} :
    Tree.find (.directory entries) [name] = .ok (.file bytes) ↔
      (name, Tree.file bytes) ∈ entries := by
  rw [← Tree.lookup_eq_some_iff_mem h, Tree.find]
  cases entries.lookup name with
  | none =>
    simp
  | some t =>
    cases t <;> simp [Tree.find]

/-- No directory leads to the skill files of the root itself. -/
theorem leadsToSkill_nil_iff {entries : List (String × Tree)} (h : (entries.map (·.1)).Nodup)
    {name : String} :
    LeadsToSkill (.directory entries) [] name ↔
      ∃ bytes, isSkillName name = true ∧ (name, Tree.file bytes) ∈ entries := by
  constructor
  · rintro ⟨⟨bytes, hfound⟩, hshown, hextension⟩
    have hname := isHidden_eq_false_iff.2 (hshown name List.mem_cons_self)
    exact ⟨bytes, isSkillName_iff.2 ⟨hname, hextension⟩, (find_singleton_iff h).1 hfound⟩
  · rintro ⟨bytes, hname, hentry⟩
    rcases isSkillName_iff.1 hname with ⟨hshown, hextension⟩
    exact ⟨⟨bytes, (find_singleton_iff h).2 hentry⟩, by simpa using isHidden_eq_false_iff.1 hshown,
      hextension⟩

/-- A directory leads to the skills that its entry has inside, unless it is hidden. -/
theorem leadsToSkill_cons_iff {entries : List (String × Tree)} (h : (entries.map (·.1)).Nodup)
    {directory name : String} {directories : List String} :
    LeadsToSkill (.directory entries) (directory :: directories) name ↔
      ∃ t, (t.isDirectory && !isHidden directory) = true ∧ (directory, t) ∈ entries ∧
        LeadsToSkill t directories name := by
  constructor
  · rintro ⟨⟨bytes, hfound⟩, hshown, hextension⟩
    rw [List.cons_append, Tree.find] at hfound
    cases hlookup : entries.lookup directory with
    | none =>
      rw [hlookup] at hfound
      cases hfound
    | some t =>
      simp only [hlookup] at hfound
      rcases List.forall_mem_cons.1 hshown with ⟨hdirectory, hrest⟩
      refine ⟨t, ?_, (Tree.lookup_eq_some_iff_mem h).1 hlookup, ⟨bytes, hfound⟩, hrest, hextension⟩
      rw [isHidden_eq_false_iff.2 hdirectory]
      -- more names lead on from a directory alone
      cases t with
      | file own =>
        cases directories <;> cases hfound
      | directory inner =>
        rfl
  · rintro ⟨t, ht, hentry, ⟨bytes, hfound⟩, hshown, hextension⟩
    rw [Bool.and_eq_true, Bool.not_eq_true'] at ht
    refine ⟨⟨bytes, ?_⟩, List.forall_mem_cons.2 ⟨isHidden_eq_false_iff.1 ht.2, hshown⟩, hextension⟩
    rw [List.cons_append, Tree.find, (Tree.lookup_eq_some_iff_mem h).2 hentry]
    exact hfound

/-- The listing holds all the files with skills that can be reached without a hidden name, and
nothing else. -/
theorem mem_filesIn_iff {t : Tree} (h : t.Distinct) {names : List String} :
    names ∈ filesIn t ↔ ∃ directories name, names = directories ++ [name] ∧
      LeadsToSkill t directories name := by
  -- by induction on the names: the first is that of an own file, or of a directory in which the
  -- others lead on
  induction names generalizing t with
  | nil =>
    refine iff_of_false (fun hmem => ne_nil_of_mem_filesIn hmem rfl) ?_
    rintro ⟨directories, name, heq, -⟩
    exact List.append_ne_nil_of_right_ne_nil _ (List.cons_ne_nil name []) heq.symm
  | cons first rest ih =>
    cases t with
    | file bytes =>
      rw [filesIn]
      refine iff_of_false List.not_mem_nil ?_
      rintro ⟨directories, name, -, ⟨own, hfound⟩, -, -⟩
      cases directories <;> cases hfound
    | directory entries =>
      rw [Tree.Distinct] at h
      have hinner {name : String} {t : Tree} (hentry : (name, t) ∈ entries) : t.Distinct :=
        Tree.entriesDistinct_iff.1 h.2 _ hentry
      rw [mem_filesIn_directory_iff]
      constructor
      · rintro (⟨name, bytes, heq, hown⟩ | ⟨name, t, inner, heq, hshown, hentry, hmem⟩)
        · exact ⟨[], name, heq, (leadsToSkill_nil_iff h.1).2 ⟨bytes, hown⟩⟩
        · cases heq
          rcases (ih (hinner hentry)).1 hmem with ⟨directories, name, rfl, hleads⟩
          exact ⟨first :: directories, name, rfl,
            (leadsToSkill_cons_iff h.1).2 ⟨t, hshown, hentry, hleads⟩⟩
      · rintro ⟨directories, name, heq, hleads⟩
        cases directories with
        | nil =>
          rcases (leadsToSkill_nil_iff h.1).1 hleads with ⟨bytes, hown⟩
          exact .inl ⟨name, bytes, heq, hown⟩
        | cons directory directories =>
          cases heq
          rcases (leadsToSkill_cons_iff h.1).1 hleads with ⟨t, hshown, hentry, hleads⟩
          have hmem := (ih (hinner hentry)).2 ⟨directories, name, rfl, hleads⟩
          exact .inr ⟨first, t, _, rfl, hshown, hentry, hmem⟩

/-! ## The order of the entries -/

/-- Reordering changes nothing about where skills are. -/
theorem leadsToSkill_reordered {t u : Tree} (horder : t.Reordered u) (h : t.Distinct)
    {directories : List String} {name : String} :
    LeadsToSkill u directories name ↔ LeadsToSkill t directories name := by
  constructor
  · rintro ⟨⟨bytes, hfound⟩, hshown, hextension⟩
    exact ⟨⟨bytes, (horder.find_file_iff h).1 hfound⟩, hshown, hextension⟩
  · rintro ⟨⟨bytes, hfound⟩, hshown, hextension⟩
    exact ⟨⟨bytes, (horder.find_file_iff h).2 hfound⟩, hshown, hextension⟩

/-- The order of the entries makes no difference: two listings in order of the same files are the
same. -/
theorem filesIn_reordered {t u : Tree} (horder : t.Reordered u) (h : t.Distinct) :
    filesIn u = filesIn t := by
  have hu : u.Distinct := horder.distinct h
  -- no file is listed twice, so the listings hold the same files just as often
  have hperm : (filesIn u).Perm (filesIn t) := by
    rw [List.perm_ext_iff_of_nodup (nodup_filesIn hu) (nodup_filesIn h)]
    intro names
    simp only [mem_filesIn_iff hu, mem_filesIn_iff h, leadsToSkill_reordered horder h]
  refine hperm.eq_of_pairwise ?_ (pairwise_filesIn hu) (pairwise_filesIn h)
  intro names names' _ _ hbefore hafter
  exact absurd hafter hbefore.asymm

/-- So the files are the same, and in the same order. -/
theorem filesOf_reordered {d : Disk} {tree : Tree} (horder : d.tree.Reordered tree)
    (h : d.tree.Distinct) (directory : DiskPath) :
    filesOf { d with tree } directory = filesOf d directory := by
  rw [filesOf, filesOf]
  have halike := Disk.find_reordered horder h directory
  cases hfind : d.find directory with
  | error fault =>
    rw [hfind] at halike
    generalize ({ d with tree } : Disk).find directory = found at halike ⊢
    cases halike with
    | fault fault => rfl
  | ok t =>
    rw [hfind] at halike
    generalize ({ d with tree } : Disk).find directory = found at halike ⊢
    cases halike with
    | found hreordered =>
      dsimp only
      rw [filesIn_reordered hreordered (Disk.distinct_of_find h hfind)]

/-! ## The paths of the listing -/

/-- The files are those that directories lead to from the root. -/
theorem mem_filesOf_iff {d : Disk} (h : d.tree.Distinct) {directory path : DiskPath} :
    path ∈ filesOf d directory ↔
      ∃ root directories name, d.find directory = .ok root ∧ LeadsToSkill root directories name ∧
        path = below directory (directories ++ [name]) := by
  cases hfind : d.find directory with
  | error fault =>
    rw [filesOf, hfind]
    simp
  | ok t =>
    rw [filesOf_eq_map hfind, List.mem_map]
    constructor
    · rintro ⟨names, hnames, rfl⟩
      rcases (mem_filesIn_iff (Disk.distinct_of_find h hfind)).1 hnames with
        ⟨directories, name, rfl, hleads⟩
      exact ⟨t, directories, name, rfl, hleads, rfl⟩
    · rintro ⟨root, directories, name, heq, hleads, rfl⟩
      cases heq
      exact ⟨_,
        (mem_filesIn_iff (Disk.distinct_of_find h hfind)).2 ⟨directories, name, rfl, hleads⟩, rfl⟩

/-- The paths stand in the order of the names on the way to them. -/
theorem pairwise_filesOf {d : Disk} (h : d.tree.Distinct) (directory : DiskPath) :
    (filesOf d directory).Pairwise fun path path' =>
      ∃ names names', path = below directory names ∧ path' = below directory names' ∧
        Precedes names names' := by
  cases hfind : d.find directory with
  | error fault =>
    rw [filesOf, hfind]
    exact .nil
  | ok t =>
    rw [filesOf_eq_map hfind, List.pairwise_map]
    exact (pairwise_filesIn (Disk.distinct_of_find h hfind)).imp fun hbefore =>
      ⟨_, _, rfl, rfl, hbefore⟩

/-- Whatever the order of the entries on the disk, the walk gives the same list of paths. It holds
the paths of the files that names lead to from the directory if none of them starts with a dot and
the last has the extension of a skill, each once, and the own files of each directory stand before
those in its directories, both in ascending order of names.
-/
theorem filesOf_walk {d : Disk} (h : d.tree.Distinct) {tree : Tree} (horder : d.tree.Reordered tree)
    (directory : DiskPath) :
    filesOf { d with tree } directory = filesOf d directory ∧
      (∀ path, path ∈ filesOf d directory ↔
        ∃ root directories name, d.find directory = .ok root ∧ LeadsToSkill root directories name ∧
          path = below directory (directories ++ [name])) ∧
      (filesOf d directory).Nodup ∧
      (filesOf d directory).Pairwise fun path path' =>
        ∃ names names', path = below directory names ∧ path' = below directory names' ∧
          Precedes names names' :=
  ⟨filesOf_reordered horder h directory, fun _ => mem_filesOf_iff h, nodup_filesOf h directory,
    pairwise_filesOf h directory⟩

/-- Entries with an extension in upper case, a directory named like a file, and names that are
hidden. -/
def walkedEntries : List (String × Tree) :=
  [("b.YAML", .file []), (".c.yaml", .file []), ("z.yml", .directory [("d.yml", .file [])]),
    (".git", .directory [("e.yaml", .file [])]), ("a.yml", .file []), ("f.txt", .file [])]

def walkedDisk : Disk where
  tree := .directory [("skills", .directory walkedEntries)]
  workingDirectory := { root := "/", parts := [] }
  home := ""

theorem filesOf_walk_reverse :
    walkedDisk.tree.Distinct ∧
      walkedDisk.tree.Reordered (.directory [("skills", .directory walkedEntries.reverse)]) ∧
      filesOf { walkedDisk with tree := .directory [("skills", .directory walkedEntries.reverse)] }
          { parts := ["skills"] } =
        [{ parts := ["skills", "a.yml"] }, { parts := ["skills", "b.YAML"] },
          { parts := ["skills", "z.yml", "d.yml"] }] := by
  have hdistinct : walkedDisk.tree.Distinct := by
    simp [walkedDisk, walkedEntries, Tree.Distinct, Tree.EntriesDistinct]
  have horder : walkedDisk.tree.Reordered
      (.directory [("skills", .directory walkedEntries.reverse)]) := by
    have hentries : Tree.EntriesReordered walkedEntries walkedEntries := by
      simp [walkedEntries, Tree.EntriesReordered, Tree.Reordered]
    simp only [walkedDisk, Tree.Reordered, Tree.EntriesReordered]
    exact ⟨_, _, rfl, .refl _, _, _, rfl, ⟨_, walkedEntries, rfl, List.reverse_perm _, hentries⟩,
      rfl⟩
  refine ⟨hdistinct, horder, ?_⟩
  have hfiles : [".c.yaml", "f.txt"].all (isSkillName · == false) = true := by decide
  have hskills : ["a.yml", "b.YAML", "d.yml"].all isSkillName = true := by decide
  have hdirectories : isHidden "z.yml" = false ∧ isHidden ".git" = true := by decide
  have hfind : walkedDisk.find { parts := ["skills"] } = .ok (.directory walkedEntries) := rfl
  rw [(filesOf_walk hdistinct horder _).1, filesOf, hfind]
  simp_all [walkedEntries, filesIn, filesInside, sortByName, Tree.isDirectory, List.mergeSort,
    List.MergeSort.Internal.splitInTwo]

end Skill
end PatchReview
