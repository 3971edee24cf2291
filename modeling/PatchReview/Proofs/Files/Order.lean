import PatchReview.Proofs.Files.Tree

/-!
# The order of entries

A directory may give its entries in any order. Trees that differ in that alone hold the same files
and directories under the same names, so every path leads to the same place in both.
-/

namespace PatchReview
namespace Tree

mutual

/-- Trees that differ only in the order in which the entries of their directories stand. -/
def Reordered : Tree → Tree → Prop
  | .file bytes, other => other = .file bytes
  | .directory entries, other =>
    ∃ others arranged, other = .directory others ∧ others.Perm arranged ∧
      EntriesReordered entries arranged

/-- Entries of the same names in the same order, whose trees may differ in the order of their
entries. -/
def EntriesReordered : List (String × Tree) → List (String × Tree) → Prop
  | [], others => others = []
  | (name, t) :: rest, others =>
    ∃ u tail, others = (name, u) :: tail ∧ t.Reordered u ∧ EntriesReordered rest tail

end

/-! ## Names -/

/-- Where no name stands twice, an entry is looked up by its name, and nothing else is found. -/
theorem lookup_eq_some_iff_mem {entries : List (String × Tree)} (h : (entries.map (·.1)).Nodup)
    {name : String} {t : Tree} : entries.lookup name = some t ↔ (name, t) ∈ entries := by
  constructor
  · intro hlookup
    rcases List.lookup_eq_some_iff.1 hlookup with ⟨before, after, heq, -⟩
    rw [heq]
    exact List.mem_append_right before List.mem_cons_self
  · exact lookup_of_mem h

/-- If names are distinct, the order of the entries plays no part in looking one up. -/
theorem lookup_perm {entries others : List (String × Tree)} (h : (entries.map (·.1)).Nodup)
    (hperm : entries.Perm others) (name : String) : entries.lookup name = others.lookup name := by
  have hothers : (others.map (·.1)).Nodup := (hperm.map (·.1)).nodup_iff.1 h
  refine Option.ext fun t => ?_
  rw [lookup_eq_some_iff_mem h, lookup_eq_some_iff_mem hothers, hperm.mem_iff]

namespace EntriesReordered

/-- Entries that are reordered further inside keep their names. -/
theorem names {entries others : List (String × Tree)} (h : EntriesReordered entries others) :
    others.map (·.1) = entries.map (·.1) := by
  induction entries generalizing others with
  | nil =>
    rw [EntriesReordered] at h
    rw [h]
  | cons entry rest ih =>
    rw [EntriesReordered] at h
    rcases h with ⟨u, tail, rfl, -, hrest⟩
    rw [List.map_cons, List.map_cons, ih hrest]

/-- Under each name there stand reordered trees, or nothing at all. -/
theorem lookup {entries others : List (String × Tree)} (h : EntriesReordered entries others)
    (name : String) :
    (entries.lookup name = none ∧ others.lookup name = none) ∨
      ∃ t u, entries.lookup name = some t ∧ others.lookup name = some u ∧ t.Reordered u := by
  induction entries generalizing others with
  | nil =>
    rw [EntriesReordered] at h
    rw [h]
    exact .inl ⟨rfl, rfl⟩
  | cons entry rest ih =>
    rw [EntriesReordered] at h
    rcases h with ⟨u, tail, rfl, ht, hrest⟩
    rw [List.lookup_cons, List.lookup_cons]
    cases name == entry.1 with
    | true => exact .inr ⟨entry.2, u, rfl, rfl, ht⟩
    | false => exact ih hrest

end EntriesReordered

/-! ## Distinct names -/

mutual

/-- Reordering keeps the names of each directory distinct. -/
theorem Reordered.distinct {t u : Tree} (h : t.Reordered u) (ht : t.Distinct) : u.Distinct := by
  cases t with
  | file bytes =>
    rw [Reordered] at h
    rwa [h]
  | directory entries =>
    rw [Reordered] at h
    rcases h with ⟨others, arranged, rfl, hperm, harranged⟩
    rw [Distinct] at ht ⊢
    have hnames : (others.map (·.1)).Perm (entries.map (·.1)) := harranged.names ▸ hperm.map (·.1)
    refine ⟨hnames.nodup_iff.2 ht.1, entriesDistinct_iff.2 fun entry hentry => ?_⟩
    exact entriesDistinct_iff.1 (harranged.distinct ht.2) entry (hperm.mem_iff.1 hentry)

theorem EntriesReordered.distinct {entries others : List (String × Tree)}
    (h : EntriesReordered entries others) (hentries : EntriesDistinct entries) :
    EntriesDistinct others := by
  cases entries with
  | nil =>
    rw [EntriesReordered] at h
    rwa [h]
  | cons entry rest =>
    rw [EntriesReordered] at h
    rcases h with ⟨u, tail, rfl, ht, hrest⟩
    rw [EntriesDistinct] at hentries ⊢
    exact ⟨ht.distinct hentries.1, hrest.distinct hentries.2⟩

end

/-! ## Finding -/

/-- Two searches come to reordered trees, or to the same fault. -/
inductive FoundAlike : Except FileFault Tree → Except FileFault Tree → Prop where
  | found {t u : Tree} (h : t.Reordered u) : FoundAlike (.ok t) (.ok u)
  | fault (fault : FileFault) : FoundAlike (.error fault) (.error fault)

/-- Names lead to reordered trees in reordered trees. -/
theorem Reordered.find {t u : Tree} (h : t.Reordered u) (ht : t.Distinct) (names : List String) :
    FoundAlike (t.find names) (u.find names) := by
  induction names generalizing t u with
  | nil =>
    cases t <;> cases u <;> exact .found h
  | cons name names ih =>
    cases t with
    | file bytes =>
      rw [Reordered] at h
      rw [h]
      exact .fault .notDirectory
    | directory entries =>
      rw [Reordered] at h
      rcases h with ⟨others, arranged, rfl, hperm, harranged⟩
      rw [Distinct] at ht
      have hnodup : (others.map (·.1)).Nodup := by
        rw [(hperm.map (·.1)).nodup_iff, harranged.names]
        exact ht.1
      rw [Tree.find, Tree.find, lookup_perm hnodup hperm]
      -- the name is missing in both, or leads to trees that are reordered themselves
      rcases harranged.lookup name with
        ⟨hnone, hnone'⟩ | ⟨inner, inner', hinner, hinner', hreordered⟩
      · rw [hnone, hnone']
        exact .fault .missing
      · rw [hinner, hinner']
        exact ih hreordered (ht.2.of_lookup hinner)

/-- Names lead to the same fault in both trees, to the same file, or to a directory. -/
theorem Reordered.find_cases {t u : Tree} (h : t.Reordered u) (ht : t.Distinct)
    (names : List String) :
    (∃ fault, t.find names = .error fault ∧ u.find names = .error fault) ∨
      (∃ bytes, t.find names = .ok (.file bytes) ∧ u.find names = .ok (.file bytes)) ∨
      ∃ entries others, t.find names = .ok (.directory entries) ∧
        u.find names = .ok (.directory others) := by
  have halike := h.find ht names
  generalize t.find names = found at halike ⊢
  generalize u.find names = found' at halike ⊢
  cases halike with
  | fault fault => exact .inl ⟨fault, rfl, rfl⟩
  | @found a b hreordered =>
    cases a with
    | file bytes =>
      rw [Reordered] at hreordered
      exact .inr (.inl ⟨bytes, rfl, congrArg Except.ok hreordered⟩)
    | directory entries =>
      rw [Reordered] at hreordered
      rcases hreordered with ⟨others, -, rfl, -, -⟩
      exact .inr (.inr ⟨entries, others, rfl, rfl⟩)

/-- A file is found in both trees or in none. -/
theorem Reordered.find_file_iff {t u : Tree} (h : t.Reordered u) (ht : t.Distinct)
    {names : List String} {bytes : List UInt8} :
    u.find names = .ok (.file bytes) ↔ t.find names = .ok (.file bytes) := by
  rcases h.find_cases ht names with ⟨fault, ht, hu⟩ | ⟨bytes', ht, hu⟩ | ⟨entries, others, ht, hu⟩
  · simp [ht, hu]
  · simp [ht, hu]
  · simp [ht, hu]

/-- The names on the way to a place are the same. -/
theorem Reordered.resolve {t u : Tree} (h : t.Reordered u) (ht : t.Distinct)
    (done names : List String) : u.resolve done names = t.resolve done names := by
  induction names generalizing done with
  | nil =>
    rw [Tree.resolve, Tree.resolve]
  | cons name names ih =>
    rw [Tree.resolve, Tree.resolve]
    split
    -- two dots lead up from a directory, and that is a directory in both trees
    · rcases h.find_cases ht done with ⟨fault, ht, hu⟩ | ⟨bytes, ht, hu⟩ | ⟨entries, others, ht, hu⟩
      · rw [ht, hu]
      · rw [ht, hu]
      · rw [ht, hu]
        exact ih _
    · exact ih _

end Tree

/-- A path leads to reordered trees on disks whose trees are reordered. -/
theorem Disk.find_reordered {d : Disk} {tree : Tree} (h : d.tree.Reordered tree)
    (hd : d.tree.Distinct) (p : DiskPath) :
    Tree.FoundAlike (d.find p) (({ d with tree } : Disk).find p) := by
  have hnames : ({ d with tree } : Disk).names p = d.names p := h.resolve hd [] _
  rw [Disk.find, Disk.find, hnames]
  cases d.names p with
  | error fault => exact .fault fault
  | ok names => exact h.find hd names

end PatchReview
