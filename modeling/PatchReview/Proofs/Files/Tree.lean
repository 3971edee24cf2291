import PatchReview.Files.Disk

/-!
# Trees with distinct names, and thinning them out

In a directory no name stands twice. A tree is thinned out by a test of files: those that fail it
are dropped, and every directory stays. What is found in a thinned tree was there before, and
directories are found where they were, so that the names on the way to a place stay the same.
-/

namespace PatchReview
namespace Tree

/-! ## Induction -/

mutual

/-- What holds of files, and of directories if it holds of their entries, holds of all trees. -/
@[elab_as_elim]
theorem induction {P : Tree → Prop} (file : ∀ bytes, P (.file bytes))
    (directory : ∀ entries : List (String × Tree), (∀ entry ∈ entries, P entry.2) →
      P (.directory entries))
    (t : Tree) : P t := by
  cases t with
  | file bytes => exact file bytes
  | directory entries => exact directory entries (forall_entries file directory entries)

/-- Induction on a tree, for all entries of a directory at once. -/
theorem forall_entries {P : Tree → Prop} (file : ∀ bytes, P (.file bytes))
    (directory : ∀ entries : List (String × Tree), (∀ entry ∈ entries, P entry.2) →
      P (.directory entries))
    (entries : List (String × Tree)) : ∀ entry ∈ entries, P entry.2 := by
  cases entries with
  | nil => exact List.forall_mem_nil _
  | cons entry rest =>
    exact List.forall_mem_cons.2
      ⟨induction file directory entry.2, forall_entries file directory rest⟩

end

/-! ## Distinct names -/

mutual

/-- No directory of the tree holds a name twice. -/
def Distinct : Tree → Prop
  | .file _ => True
  | .directory entries => (entries.map (·.1)).Nodup ∧ EntriesDistinct entries

/-- No directory in the trees of some entries holds a name twice. -/
def EntriesDistinct : List (String × Tree) → Prop
  | [] => True
  | (_, t) :: rest => t.Distinct ∧ EntriesDistinct rest

end

/-- Below distinct names all names are distinct. -/
theorem EntriesDistinct.of_lookup {entries : List (String × Tree)} (h : EntriesDistinct entries)
    {name : String} {t : Tree} (ht : entries.lookup name = some t) : t.Distinct := by
  induction entries with
  | nil =>
    cases ht
  | cons entry rest ih =>
    rcases entry with ⟨n, u⟩
    rw [EntriesDistinct] at h
    rw [List.lookup_cons] at ht
    cases hn : name == n with
    | true =>
      rw [hn] at ht
      cases ht
      exact h.1
    | false =>
      rw [hn] at ht
      exact ih h.2 ht

theorem entriesDistinct_iff {entries : List (String × Tree)} :
    EntriesDistinct entries ↔ ∀ entry ∈ entries, entry.2.Distinct := by
  induction entries with
  | nil => simp [EntriesDistinct]
  | cons entry rest ih => rw [EntriesDistinct, ih, List.forall_mem_cons]

/-- An entry is looked up by its name. -/
theorem lookup_of_mem {entries : List (String × Tree)} (h : (entries.map (·.1)).Nodup)
    {name : String} {t : Tree} (hmem : (name, t) ∈ entries) : entries.lookup name = some t := by
  induction entries with
  | nil =>
    cases hmem
  | cons entry rest ih =>
    rcases entry with ⟨n, u⟩
    simp only [List.map_cons, List.nodup_cons] at h
    rcases List.mem_cons.1 hmem with heq | hrest
    · cases heq
      simp
    · have hne : name ≠ n := by
        rintro rfl
        exact h.1 (List.mem_map_of_mem hrest)
      have hn : (name == n) = false := by simpa using hne
      rw [List.lookup_cons, hn]
      exact ih h.2 hrest

/-! ## Thinning out -/

def passes (keep : String → List UInt8 → Bool) (name : String) : Tree → Bool
  | .file bytes => keep name bytes
  | .directory _ => true

mutual

/-- The tree with the files in its directories that pass a test. -/
def thin (keep : String → List UInt8 → Bool) : Tree → Tree
  | .file bytes => .file bytes
  | .directory entries => .directory (thinEntries keep entries)

/-- The entries that pass a test of files, thinned out themselves. -/
def thinEntries (keep : String → List UInt8 → Bool) : List (String × Tree) → List (String × Tree)
  | [] => []
  | (name, t) :: rest =>
    if t.passes keep name then (name, t.thin keep) :: thinEntries keep rest
    else thinEntries keep rest

end

variable {keep : String → List UInt8 → Bool}

/-- Thinning leaves some of the names, in their order. -/
theorem names_thinEntries (entries : List (String × Tree)) :
    ((thinEntries keep entries).map (·.1)).Sublist (entries.map (·.1)) := by
  induction entries with
  | nil =>
    exact .slnil
  | cons entry rest ih =>
    rw [thinEntries]
    split
    · exact ih.cons_cons _
    · exact ih.cons _

mutual

/-- Thinning out keeps the names distinct. -/
theorem Distinct.thin {t : Tree} (h : t.Distinct) : (t.thin keep).Distinct := by
  cases t with
  | file bytes =>
    trivial
  | directory entries =>
    rw [Tree.Distinct] at h
    rw [Tree.thin, Tree.Distinct]
    exact ⟨h.1.sublist (names_thinEntries entries), h.2.thin⟩

theorem EntriesDistinct.thin {entries : List (String × Tree)} (h : EntriesDistinct entries) :
    EntriesDistinct (thinEntries keep entries) := by
  cases entries with
  | nil =>
    trivial
  | cons entry rest =>
    rw [EntriesDistinct] at h
    rw [thinEntries]
    split
    · exact ⟨h.1.thin, h.2.thin⟩
    · exact h.2.thin

end

/-- A name leads to what it led to, thinned out, unless that was a file that is dropped. -/
theorem lookup_thinEntries {entries : List (String × Tree)} (h : (entries.map (·.1)).Nodup)
    (name : String) :
    (thinEntries keep entries).lookup name =
      ((entries.lookup name).filter (·.passes keep name)).map (·.thin keep) := by
  induction entries with
  | nil =>
    rfl
  | cons entry rest ih =>
    rcases entry with ⟨n, t⟩
    simp only [List.map_cons, List.nodup_cons] at h
    rw [thinEntries, List.lookup_cons]
    cases hn : name == n with
    | true =>
      have hname : name = n := by simpa using hn
      subst hname
      cases hp : t.passes keep name with
      | true =>
        simp [Option.filter_some, hp]
      | false =>
        -- The name does not come again, so nothing takes the place of the dropped file.
        have habsent : rest.lookup name = none := by
          rw [List.lookup_eq_none_iff]
          intro entry hentry
          have hne : name ≠ entry.1 := by
            rintro rfl
            exact h.1 (List.mem_map_of_mem hentry)
          simpa using hne
        simp [Option.filter_some, hp, ih h.2, habsent]
    | false =>
      cases hp : t.passes keep n with
      | true =>
        simp [List.lookup_cons, hn, ih h.2]
      | false =>
        simp [ih h.2]

/-! ## Finding -/

/-- Whatever is found in a tree with distinct names has distinct names. -/
theorem Distinct.find {t : Tree} (h : t.Distinct) {names : List String} {found : Tree}
    (hfind : t.find names = .ok found) : found.Distinct := by
  induction names generalizing t with
  | nil =>
    cases t <;> cases hfind <;> exact h
  | cons name names ih =>
    cases t with
    | file bytes =>
      cases hfind
    | directory entries =>
      rw [Tree.Distinct] at h
      rw [Tree.find] at hfind
      cases hlookup : entries.lookup name with
      | none =>
        rw [hlookup] at hfind
        cases hfind
      | some inner =>
        rw [hlookup] at hfind
        exact ih (h.2.of_lookup hlookup) hfind

/-- What is found in a thinned tree was there before. -/
theorem Distinct.exists_find_of_thin {t : Tree} (h : t.Distinct) {names : List String}
    {found : Tree} (hfind : (t.thin keep).find names = .ok found) :
    ∃ old, t.find names = .ok old ∧ old.thin keep = found := by
  induction names generalizing t with
  | nil =>
    refine ⟨t, ?_, ?_⟩
    · cases t <;> rfl
    · cases t <;> cases hfind <;> rfl
  | cons name names ih =>
    cases t with
    | file bytes =>
      cases hfind
    | directory entries =>
      rw [Tree.Distinct] at h
      rw [Tree.thin, Tree.find, lookup_thinEntries h.1] at hfind
      rw [Tree.find]
      cases hlookup : entries.lookup name with
      | none =>
        simp [hlookup] at hfind
      | some inner =>
        cases hp : inner.passes keep name with
        | true =>
          refine ih (h.2.of_lookup hlookup) ?_
          simpa [hlookup, Option.filter_some, hp] using hfind
        | false =>
          simp [hlookup, Option.filter_some, hp] at hfind

/-- Directories are found where they were. -/
theorem Distinct.find_thin_directory {t : Tree} (h : t.Distinct) {names : List String}
    {entries : List (String × Tree)} (hfind : t.find names = .ok (.directory entries)) :
    (t.thin keep).find names = .ok (.directory (thinEntries keep entries)) := by
  induction names generalizing t with
  | nil =>
    cases t with
    | file bytes =>
      cases hfind
    | directory inner =>
      cases hfind
      rfl
  | cons name names ih =>
    cases t with
    | file bytes =>
      cases hfind
    | directory inner =>
      rw [Tree.Distinct] at h
      rw [Tree.find] at hfind
      rw [Tree.thin, Tree.find, lookup_thinEntries h.1]
      cases hlookup : inner.lookup name with
      | none =>
        simp [hlookup] at hfind
      | some next =>
        have hnext : next.find names = .ok (.directory entries) := by
          simpa [hlookup] using hfind
        have hp : next.passes keep name = true := by
          -- A file leads to a directory on no names at all.
          cases next with
          | file bytes =>
            cases names <;> cases hnext
          | directory _ =>
            rfl
        simpa [Option.filter_some, hp] using ih (h.2.of_lookup hlookup) hnext

/-- The names on the way to a place are the same in a thinned tree. -/
theorem Distinct.resolve_thin {t : Tree} (h : t.Distinct) (done names place : List String) :
    (t.thin keep).resolve done names = .ok place ↔ t.resolve done names = .ok place := by
  induction names generalizing done with
  | nil =>
    rw [Tree.resolve, Tree.resolve]
  | cons name names ih =>
    rw [Tree.resolve, Tree.resolve]
    split
    -- Two dots lead up from a directory alone, and that is found before just if it is found
    -- afterwards.
    · cases hthin : (t.thin keep).find done with
      | ok found =>
        rcases h.exists_find_of_thin hthin with ⟨old, hold, rfl⟩
        rw [hold]
        cases old with
        | file bytes =>
          simp [Tree.thin]
        | directory entries =>
          exact ih _
      | error e =>
        cases hold : t.find done with
        | error e' =>
          simp
        | ok old =>
          cases old with
          | file bytes =>
            simp
          | directory entries =>
            rw [h.find_thin_directory hold] at hthin
            cases hthin
    · exact ih _

/-- Names are resolved part by part. -/
theorem resolve_append (t : Tree) (done names more : List String) :
    t.resolve done (names ++ more) = (t.resolve done names).bind fun place =>
      t.resolve place more := by
  induction names generalizing done with
  | nil =>
    rfl
  | cons name names ih =>
    rw [List.cons_append, Tree.resolve, Tree.resolve]
    split
    · cases t.find done with
      | error e =>
        rfl
      | ok found =>
        cases found with
        | file bytes =>
          rfl
        | directory entries =>
          exact ih _
    · exact ih _

/-- Names without two dots lead to themselves. -/
theorem resolve_of_ne {t : Tree} {names : List String} (h : ∀ name ∈ names, name ≠ "..")
    (done : List String) : t.resolve done names = .ok (done ++ names) := by
  induction names generalizing done with
  | nil =>
    simp [Tree.resolve]
  | cons name names ih =>
    have hname : (name == "..") = false := by
      simpa using h name List.mem_cons_self
    rw [Tree.resolve, hname, if_neg Bool.false_ne_true]
    rw [ih fun n hn => h n (List.mem_cons_of_mem _ hn)]
    simp

/-- What stands below more names is found below what stands at the first. -/
theorem find_append (t : Tree) (names more : List String) :
    t.find (names ++ more) = (t.find names).bind fun found => found.find more := by
  induction names generalizing t with
  | nil =>
    cases t <;> rfl
  | cons name names ih =>
    cases t with
    | file bytes =>
      rfl
    | directory entries =>
      rw [List.cons_append, Tree.find, Tree.find]
      cases entries.lookup name with
      | none =>
        rfl
      | some inner =>
        exact ih inner

end Tree

/-! ## Disks -/

namespace Disk

def thin (keep : String → List UInt8 → Bool) (d : Disk) : Disk :=
  { d with tree := d.tree.thin keep }

variable {keep : String → List UInt8 → Bool}

/-- A path leads to a thing if the path has a place and the thing stands there. -/
theorem find_eq_ok_iff {d : Disk} {p : DiskPath} {found : Tree} :
    d.find p = .ok found ↔ ∃ place, d.names p = .ok place ∧ d.tree.find place = .ok found := by
  rw [find]
  cases d.names p with
  | error e =>
    simp [bind, Except.bind]
  | ok place =>
    simp [bind, Except.bind]

/-- A path leads to the same place after thinning, because directories stay. -/
theorem names_thin {d : Disk} (h : d.tree.Distinct) {p : DiskPath} {place : List String} :
    (d.thin keep).names p = .ok place ↔ d.names p = .ok place :=
  h.resolve_thin [] _ place

/-- What is found on a thinned disk was there before. -/
theorem exists_find_of_thin {d : Disk} (h : d.tree.Distinct) {p : DiskPath} {found : Tree}
    (hfind : (d.thin keep).find p = .ok found) :
    ∃ old, d.find p = .ok old ∧ old.thin keep = found := by
  rcases find_eq_ok_iff.1 hfind with ⟨place, hplace, hfound⟩
  rcases h.exists_find_of_thin hfound with ⟨old, hold, hthin⟩
  exact ⟨old, find_eq_ok_iff.2 ⟨place, (names_thin h).1 hplace, hold⟩, hthin⟩

/-- Directories are found where they were. -/
theorem find_thin_directory {d : Disk} (h : d.tree.Distinct) {p : DiskPath}
    {entries : List (String × Tree)} (hfind : d.find p = .ok (.directory entries)) :
    (d.thin keep).find p = .ok (.directory (Tree.thinEntries keep entries)) := by
  rcases find_eq_ok_iff.1 hfind with ⟨place, hplace, hfound⟩
  exact find_eq_ok_iff.2 ⟨place, (names_thin h).2 hplace, h.find_thin_directory hfound⟩

/-- What stands at a path is distinct if the whole tree is. -/
theorem distinct_of_find {d : Disk} (h : d.tree.Distinct) {p : DiskPath} {found : Tree}
    (hfind : d.find p = .ok found) : found.Distinct := by
  rcases find_eq_ok_iff.1 hfind with ⟨place, _, hfound⟩
  exact h.find hfound

/-- Names that lead downwards are looked up in what stands at the path before them. -/
theorem find_below {d : Disk} {p : DiskPath} {t : Tree} (hfind : d.find p = .ok t)
    {names : List String} (hnames : ∀ name ∈ names, name ≠ "..") :
    d.find { p with parts := p.parts ++ names } = t.find names := by
  rcases find_eq_ok_iff.1 hfind with ⟨place, hplace, hfound⟩
  have hparts : (d.workingDirectory.join { p with parts := p.parts ++ names }).parts =
      (d.workingDirectory.join p).parts ++ names := by
    simp only [DiskPath.join]
    split <;> simp
  have hbelow : d.names { p with parts := p.parts ++ names } = .ok (place ++ names) := by
    rw [Disk.names] at hplace
    rw [Disk.names, hparts, Tree.resolve_append, hplace]
    exact Tree.resolve_of_ne hnames place
  rw [Disk.find, hbelow]
  show d.tree.find (place ++ names) = t.find names
  rw [Tree.find_append, hfound]
  rfl

end Disk
end PatchReview
