import PatchReview.Proofs.Diff.Lines
import PatchReview.Proofs.Diff.Run

/-!
# Diffs one behind the other

Reading two diff texts one behind the other merges what is read from each of them, whatever the
first text holds. The second text begins with a file header, so nothing of the first is left open
there; behind it, the two runs differ only in the files that the first text left in the table.
-/

namespace PatchReview
namespace Diff

/-! ## Merging -/

/-- A file with what a later diff says about it. -/
def File.andThen (earlier later : File) : File :=
  { earlier with
    status := if later.status = .modified then earlier.status else later.status
    oldPath := later.oldPath.or earlier.oldPath
    hunks := earlier.hunks ++ later.hunks }

/-- A file with what the file of the same path in a later table says about it. -/
def File.andThenIn (later : List File) (f : File) : File :=
  match later.find? (·.path == f.path) with
  | some g => f.andThen g
  | none => f

/-- The files of an earlier table, and behind them those that only a later one has. -/
def mergeFiles (earlier later : List File) : List File :=
  earlier.map (File.andThenIn later) ++ later.filter fun g => !earlier.any (·.path == g.path)

/-- The files of an earlier diff, and behind them those that only a later one has. -/
def merge (earlier later : Diff) : Diff := { files := mergeFiles earlier.files later.files }

/-- A file keeps its path when later ones are added to it. -/
@[simp] theorem File.andThenIn_path (later : List File) (f : File) :
    (f.andThenIn later).path = f.path := by
  rw [andThenIn]
  split <;> rfl

/-- A file that was only named says nothing. -/
@[simp] theorem File.andThen_new (f : File) (path : String) : f.andThen { path := path } = f := by
  simp [andThen]

theorem mergeFiles_nil (files : List File) : mergeFiles files [] = files := by
  have hsame : File.andThenIn [] = id := by
    funext f
    rfl
  simp [mergeFiles, hsame]

/-- The merged files have the paths of both. -/
theorem mem_paths_mergeFiles {earlier later : List File} {path : String} :
    path ∈ (mergeFiles earlier later).map (·.path) ↔
      path ∈ earlier.map (·.path) ∨ path ∈ later.map (·.path) := by
  constructor
  · intro h
    rw [mergeFiles, List.map_append, List.map_map, List.mem_append] at h
    rcases h with h | h
    · left
      simpa using h
    · right
      rcases List.mem_map.1 h with ⟨g, hg, rfl⟩
      exact List.mem_map_of_mem (List.mem_of_mem_filter hg)
  · intro h
    rw [mergeFiles, List.map_append, List.map_map, List.mem_append]
    by_cases hpath : path ∈ earlier.map (·.path)
    · left
      simpa using hpath
    · right
      rcases List.mem_map.1 (h.resolve_left hpath) with ⟨g, hg, rfl⟩
      refine List.mem_map_of_mem (List.mem_filter.2 ⟨hg, ?_⟩)
      rw [Bool.not_eq_true', ← Bool.not_eq_true, any_path_iff]
      exact hpath

/-! ## Merging commutes with changes of the later table -/

theorem find?_path_eq_none {files : List File} {path : String}
    (h : path ∉ files.map (·.path)) : files.find? (·.path == path) = none := by
  rw [List.find?_eq_none]
  intro f hf hpath
  exact h (List.mem_map.2 ⟨f, hf, by simpa using hpath⟩)

/-- A file that the later table only names is as it was. -/
theorem File.andThenIn_named (later : List File) (path : String) (f : File) :
    f.andThenIn (later ++ [{ path := path }]) = f.andThenIn later := by
  rw [andThenIn, andThenIn, List.find?_append]
  cases hfind : later.find? (·.path == f.path) with
  | some g =>
    rfl
  | none =>
    by_cases hpath : path = f.path
    · simp [hpath]
    · simp [hpath]

/-- A file may be made sure of before or after the merge. -/
theorem mergeFiles_ensureFile (earlier later : List File) (path : String) :
    mergeFiles earlier (ensureFile path later) = ensureFile path (mergeFiles earlier later) := by
  by_cases hlater : path ∈ later.map (·.path)
  · rw [ensureFile_of_mem hlater, ensureFile_of_mem (mem_paths_mergeFiles.2 (.inr hlater))]
  · have hmap : earlier.map (File.andThenIn (later ++ [{ path := path }])) =
        earlier.map (File.andThenIn later) :=
      List.map_congr_left fun f _ => File.andThenIn_named later path f
    rw [ensureFile_of_not_mem hlater, mergeFiles, hmap, List.filter_append, ← List.append_assoc]
    by_cases hearlier : path ∈ earlier.map (·.path)
    · -- the new file is not seen, because the earlier table has one of its path
      rw [ensureFile_of_mem (mem_paths_mergeFiles.2 (.inl hearlier)), List.filter_singleton,
        any_path_iff.2 hearlier]
      simp [mergeFiles]
    · have hnew : path ∉ (mergeFiles earlier later).map (·.path) := by
        rw [mem_paths_mergeFiles]
        rintro (h | h)
        · exact hearlier h
        · exact hlater h
      have hany : earlier.any (·.path == path) = false := by
        rwa [← Bool.not_eq_true, any_path_iff]
      rw [ensureFile_of_not_mem hnew, List.filter_singleton, hany]
      rfl

section Update

variable {path : String} {change : File → File}

/-- An update changes the file of its path, and no other. -/
theorem find?_updateFile (hpath : ∀ f, (change f).path = f.path) (files : List File)
    (other : String) :
    (updateFile path change files).find? (·.path == other) =
      (files.find? (·.path == other)).map fun f => if f.path == path then change f else f := by
  have hsame : (fun f : File => (if f.path == path then change f else f).path == other) =
      fun f => f.path == other := by
    funext f
    split
    · rw [hpath]
    · rfl
  rw [updateFile, List.find?_map, Function.comp_def, hsame]

/-- A change of a file in the later table changes the merged file alike. -/
theorem File.andThenIn_updateFile (hpath : ∀ f, (change f).path = f.path)
    (hchange : ∀ a b : File, change (a.andThen b) = a.andThen (change b)) {later : List File}
    (hmem : path ∈ later.map (·.path)) (f : File) :
    f.andThenIn (updateFile path change later) =
      if (f.andThenIn later).path == path then change (f.andThenIn later)
      else f.andThenIn later := by
  rw [andThenIn_path, andThenIn, find?_updateFile hpath, andThenIn]
  -- without a later file of its path the file is not the one that is changed: that one is in the
  -- table
  cases hfind : later.find? (·.path == f.path) with
  | none =>
    have hne : f.path ≠ path := by
      rintro rfl
      rcases List.mem_map.1 hmem with ⟨g, hg, hgp⟩
      simpa [hgp] using List.find?_eq_none.1 hfind g hg
    simp [hne]
  | some g =>
    have hg : g.path = f.path := by
      simpa using List.find?_some hfind
    by_cases hf : f.path = path
    · simp [hg, hf, hchange]
    · simp [hg, hf]

/-- A change of later files may be made after the merge, if it does not look at what is earlier. -/
theorem mergeFiles_updateFile (hpath : ∀ f, (change f).path = f.path)
    (hchange : ∀ a b : File, change (a.andThen b) = a.andThen (change b)) (earlier : List File)
    {later : List File} (hmem : path ∈ later.map (·.path)) :
    mergeFiles earlier (updateFile path change later) =
      updateFile path change (mergeFiles earlier later) := by
  have hmap : earlier.map (File.andThenIn (updateFile path change later)) =
      updateFile path change (earlier.map (File.andThenIn later)) := by
    conv_rhs => rw [updateFile, List.map_map]
    exact List.map_congr_left fun f _ => File.andThenIn_updateFile hpath hchange hmem f
  have hfilter : (updateFile path change later).filter
      (fun g => !earlier.any (·.path == g.path)) =
      updateFile path change (later.filter fun g => !earlier.any (·.path == g.path)) := by
    rw [updateFile, List.filter_map, updateFile]
    congr 2
    funext g
    dsimp only [Function.comp_apply]
    split
    · rw [hpath]
    · rfl
  rw [mergeFiles, hmap, hfilter, mergeFiles]
  exact (List.map_append).symm

end Update

/-! ## A run behind an earlier table -/

/-- The four things that an extended header can say. -/
theorem ExtendedHeader.ofLine?_cases {line : List Char} {header : ExtendedHeader}
    (h : ofLine? line = some header) :
    header = .status .added ∨ header = .status .deleted ∨
      (∃ old, header = .origin .renamed old) ∨ (∃ old, header = .origin .copied old) ∨
      header = .ignored := by
  rw [ofLine?] at h
  split at h
  · cases h
    exact .inl rfl
  · split at h
    · cases h
      exact .inr (.inl rfl)
    · split at h
      · cases h
        exact .inr (.inr (.inl ⟨_, rfl⟩))
      · split at h
        · cases h
          exact .inr (.inr (.inr (.inl ⟨_, rfl⟩)))
        · split at h
          · cases h
            exact .inr (.inr (.inr (.inr rfl)))
          · cases h

/-- What is noted is an extended header. -/
theorem Focus.note?_eq_some {focus : Focus} {line : List Char} {header : ExtendedHeader}
    (h : focus.note? line = some header) : ExtendedHeader.ofLine? line = some header := by
  rw [note?] at h
  split at h
  · cases h
  · exact h

/-- No line makes a file modified again, so what it says of the later file it says of both. -/
theorem record_andThen (focus : Focus) (line : List Char) (a b : File) :
    record (focus.note? line) (a.andThen b) = a.andThen (record (focus.note? line) b) := by
  cases hnote : focus.note? line with
  | none =>
    rfl
  | some header =>
    rcases ExtendedHeader.ofLine?_cases (Focus.note?_eq_some hnote) with
      rfl | rfl | ⟨old, rfl⟩ | ⟨old, rfl⟩ | rfl <;> rfl

/-- A state of reading with the files of an earlier diff in front of its own. -/
def ReadState.behind (earlier : List File) (s : ReadState) : ReadState :=
  { s with files := mergeFiles earlier s.files }

/-- A hunk that is closed behind earlier files is added to the merged ones. -/
theorem ReadState.flush_behind (earlier : List File) {s : ReadState} (hs : s.Valid) :
    (s.behind earlier).flush.files = mergeFiles earlier s.flush.files := by
  rw [flush_files, flush_files]
  dsimp only [behind]
  split
  · next path hunk hfocus =>
    have hpath : ∀ f, (File.addHunk hunk.close f).path = f.path := fun _ => rfl
    refine (mergeFiles_updateFile hpath ?_ earlier (hs.focus_mem _ hfocus)).symm
    intro a b
    rw [File.addHunk, File.andThen, List.append_assoc]
    rfl
  · rfl

/-- A step behind an earlier table is the step, behind that table. -/
theorem ReadState.next_behind (earlier : List File) {s : ReadState} (hs : s.Valid)
    (line : List Char) : (s.behind earlier).next line = (s.next line).behind earlier := by
  have hfiles : (s.behind earlier).nextFiles line = mergeFiles earlier (s.nextFiles line) := by
    rw [nextFiles, nextFiles, flush_behind earlier hs]
    split
    · split
      · rw [mergeFiles_ensureFile]
      · rfl
    · split
      · rfl
      · dsimp only [behind]
        split
        · next focus hfocus =>
          exact (mergeFiles_updateFile (fun f => record_path _ f) (record_andThen focus line)
            earlier (hs.focus_mem focus hfocus)).symm
        · rfl
  rw [next, hfiles]
  rfl

/-- Reading behind earlier files is reading, and then merging. -/
theorem ReadState.after_behind (earlier : List File) {s : ReadState} (hs : s.Valid)
    (lines : List (List Char)) :
    (s.behind earlier).after lines = (s.after lines).behind earlier := by
  -- the two runs keep the same file at hand, and validity carries the step to every state
  induction lines generalizing s with
  | nil =>
    rfl
  | cons line lines ih =>
    rw [after_cons, after_cons, next_behind earlier hs, ih (hs.next line)]

/-! ## Lines one behind the other -/

/-- At a file header nothing counts but the files so far. -/
theorem ReadState.next_of_fileHeader (s : ReadState) {line : List Char}
    (h : isFileHeader line = true) :
    s.next line = (({} : ReadState).behind s.flush.files).next line := by
  have hflush : (({} : ReadState).behind s.flush.files).flush.files = s.flush.files :=
    mergeFiles_nil s.flush.files
  rw [next, next, nextFiles_of_fileHeader _ h, nextFiles_of_fileHeader _ h, hflush,
    nextFocus_of_fileHeader _ h, nextFocus_of_fileHeader _ h]

/-- A file header makes the state before it of no account for refusals. -/
theorem refusalIn?_of_fileHeader (focus : Option Focus) {line : List Char}
    (lines : List (List Char)) (h : isFileHeader line = true) :
    refusalIn? focus (line :: lines) = refusalIn? none (line :: lines) := by
  have hrefusal : refusal? line = none := by
    simp [refusal?, h]
  simp [refusalIn?, hrefusal, nextFocus_of_fileHeader _ h]

/-- Lines behind others merge, if the later ones begin with a file header. -/
theorem ofLines_append (a : List (List Char)) {line : List Char} (lines : List (List Char))
    (h : isFileHeader line = true) :
    ofLines (a ++ line :: lines) = do
      let x ← ofLines a
      let y ← ofLines (line :: lines)
      return x.merge y := by
  have hafter : (ReadState.after {} (a ++ line :: lines)).flush.files =
      mergeFiles (ReadState.after {} a).flush.files
        (ReadState.after {} (line :: lines)).flush.files := by
    rw [ReadState.after_append, ReadState.after_cons, ReadState.next_of_fileHeader _ h,
      ← ReadState.after_cons, ReadState.after_behind _ ReadState.valid_empty,
      ReadState.flush_behind _ (ReadState.valid_empty.after _)]
  rw [ofLines_eq, ofLines_eq, ofLines_eq, refusalIn?_append, refusalIn?_of_fileHeader _ _ h, hafter]
  cases refusalIn? none a with
  | some e =>
    rfl
  | none =>
    cases refusalIn? none (line :: lines) with
    | some e =>
      rfl
    | none =>
      rfl

/-! ## Texts one behind the other -/

/-- A text that begins with a file header gives a first line that is one. -/
theorem textLines_of_fileHeader (rest : List Char) :
    ∃ line lines, textLines ("diff --git".toList ++ rest) = line :: lines ∧
      isFileHeader line = true := by
  have hmark : "diff --git".toList = 'd' :: "iff --git".toList := rfl
  rw [hmark]
  rcases textLines_of_front (c := 'd') "iff --git".toList (by decide) (by decide) (by decide) rest
    with ⟨line, lines, heq, hhead⟩
  exact ⟨line, lines, heq, Text.startsWith_iff.2 hhead⟩

/-- Reading two texts one behind the other, errors included. -/
theorem parse_append {a : String} (ha : a = "" ∨ ∃ front, a = front ++ "\n") (rest : String) :
    parse (a ++ ("diff --git" ++ rest)) = do
      let x ← parse a
      let y ← parse ("diff --git" ++ rest)
      return x.merge y := by
  have hends : a.toList = [] ∨ ∃ front, a.toList = front ++ ['\n'] := by
    rcases ha with rfl | ⟨front, rfl⟩
    · exact .inl rfl
    · exact .inr ⟨front.toList, String.toList_append⟩
  have hbegins : ∃ c tail, "diff --git".toList ++ rest.toList = c :: tail ∧ c ≠ '\ufeff' :=
    ⟨'d', "iff --git".toList ++ rest.toList, rfl, by decide⟩
  rcases textLines_of_fileHeader rest.toList with ⟨line, lines, hlines, hheader⟩
  simp only [parse, String.toList_append]
  rw [textLines_append hends hbegins, hlines, ofLines_append _ lines hheader]

/-- Whatever a text holds, it leaves the files of a text behind it as they are read alone. -/
theorem parse_concat {a b : String} {x y : Diff} (ha : a = "" ∨ ∃ front, a = front ++ "\n")
    (hb : ∃ rest, b = "diff --git" ++ rest) (hx : parse a = .ok x) (hy : parse b = .ok y) :
    parse (a ++ b) = .ok (x.merge y) := by
  rcases hb with ⟨rest, rfl⟩
  rw [parse_append ha rest, hx, hy]
  rfl

/-- A hunk that is cut short, and behind it its file once more under another status. -/
theorem parse_concat_cut_short :
    parse ("diff --git a/x b/x\nnew file mode 100644\n@@ -0,0 +1,9 @@\n+one\n" ++
        "diff --git a/w b/x\nrename from w\n@@ -1 +1 @@\n-one\n+two\n") =
      .ok { files := [{
        path := "x"
        status := .renamed
        oldPath := some "w"
        hunks := [⟨⟨0, 0, 1, 9, none⟩, [⟨.addition, "one"⟩]⟩,
          ⟨⟨1, 1, 1, 1, none⟩, [⟨.deletion, "one"⟩, ⟨.addition, "two"⟩]⟩] }] } := by
  have hearlier : parse "diff --git a/x b/x\nnew file mode 100644\n@@ -0,0 +1,9 @@\n+one\n" =
      .ok { files := [{
        path := "x"
        status := .added
        hunks := [⟨⟨0, 0, 1, 9, none⟩, [⟨.addition, "one"⟩]⟩] }] } := by
    decide +kernel
  have hlater : parse "diff --git a/w b/x\nrename from w\n@@ -1 +1 @@\n-one\n+two\n" =
      .ok { files := [{
        path := "x"
        status := .renamed
        oldPath := some "w"
        hunks := [⟨⟨1, 1, 1, 1, none⟩, [⟨.deletion, "one"⟩, ⟨.addition, "two"⟩]⟩] }] } := by
    decide +kernel
  have hfront : "diff --git a/x b/x\nnew file mode 100644\n@@ -0,0 +1,9 @@\n+one\n" =
      "diff --git a/x b/x\nnew file mode 100644\n@@ -0,0 +1,9 @@\n+one" ++ "\n" := by
    decide
  have hrest : "diff --git a/w b/x\nrename from w\n@@ -1 +1 @@\n-one\n+two\n" =
      "diff --git" ++ " a/w b/x\nrename from w\n@@ -1 +1 @@\n-one\n+two\n" := by
    decide
  exact parse_concat (.inr ⟨_, hfront⟩) ⟨_, hrest⟩ hearlier hlater

end Diff
end PatchReview
