import PatchReview.Proofs.Diff.FileHeader
import PatchReview.Proofs.Diff.Lookalikes

/-!
# What holds of every diff that is read

Whatever a text says, and in whatever order, the files of its diff have distinct paths, in the order
in which file headers first name them, and can be looked up by path. A file comes from an old path
just because a line says so: one below a header of that file, where no hunk expects it as content.
No text that a diff holds goes over the end of the line it was read from. Reading keeps each of
these line by line.
-/

namespace PatchReview
namespace Diff

/-! ## The invariant -/

/-- The paths that the file headers among some lines yield, one for each header that yields a
path. -/
def headerPaths (lines : List (List Char)) : List String :=
  (lines.filter isFileHeader).filterMap filePath?

/-- A line below others that names the old path of a file: the nearest file header above is one of
that file, and an open hunk has all the lines that it declares. -/
structure NamesOrigin (above : List (List Char)) (line : List Char) (path old : String) : Prop where
  owner : owner? above = some path
  words : line = "rename from ".toList ++ old.toList ∨ line = "copy from ".toList ++ old.toList
  outside : ∀ header taken, OpenBelow above header taken → header.usedUp taken = true

/-- One of some lines names the old path of a file. -/
def OriginNamed (lines : List (List Char)) (path old : String) : Prop :=
  ∃ above line below, lines = above ++ line :: below ∧ NamesOrigin above line path old

/-- A file as it is read from some lines. -/
structure File.WellFormed (lines : List (List Char)) (f : File) : Prop where
  path_ne_empty : f.path ≠ ""
  path_noFeed : '\n' ∉ f.path.toList
  origin_of_status : f.status = .renamed ∨ f.status = .copied → ∃ old, f.oldPath = some old
  origin_of_modified : f.status = .modified → f.oldPath = none
  origin_fits : ∀ old, f.oldPath = some old → FitsLine old.toList
  origin_named : ∀ old, f.oldPath = some old → OriginNamed lines f.path old
  heading : ∀ h ∈ f.hunks, ∀ text, h.header.heading = some text → text ≠ "" ∧ FitsLine text.toList
  content : ∀ h ∈ f.hunks, ∀ line ∈ h.lines, FitsLine line.content.toList

/-- A diff as it is read from some lines. -/
structure WellFormed (lines : List (List Char)) (d : Diff) : Prop where
  nodup : d.paths.Nodup
  order : d.paths = (headerPaths lines).eraseDups
  get?_iff : ∀ path f, d.get? path = some f ↔ f ∈ d.files ∧ f.path = path
  isSome_get?_iff : ∀ path, (d.get? path).isSome ↔ path ∈ d.paths
  files : ∀ f ∈ d.files, f.WellFormed lines

/-! ## Looking up -/

/-- If paths are distinct, the file that is looked up by a path is the one that has it. -/
theorem get?_eq_some_iff {d : Diff} (hnodup : d.paths.Nodup) {path : String} {f : File} :
    d.get? path = some f ↔ f ∈ d.files ∧ f.path = path := by
  constructor
  · intro h
    exact ⟨List.mem_of_find?_eq_some h, by simpa using List.find?_some h⟩
  · rintro ⟨hf, rfl⟩
    cases hget : d.get? f.path with
    | none =>
      simpa using List.find?_eq_none.1 hget f hf
    | some g =>
      have hpath : g.path = f.path := by
        simpa using List.find?_some hget
      rw [List.inj_on_of_nodup_map hnodup (List.mem_of_find?_eq_some hget) hf hpath]

/-- There is a file for each path of the diff, and for no other. -/
theorem isSome_get?_iff (d : Diff) (path : String) : (d.get? path).isSome ↔ path ∈ d.paths := by
  simp [get?, paths]

/-! ## The order of the paths -/

/-- A line more adds its path, if it is a file header with one. -/
theorem headerPaths_concat (lines : List (List Char)) (line : List Char) :
    headerPaths (lines ++ [line]) =
      headerPaths lines ++ if isFileHeader line then (filePath? line).toList else [] := by
  rw [headerPaths, headerPaths, List.filter_append, List.filterMap_append]
  cases hfile : isFileHeader line with
  | true =>
    cases hpath : filePath? line <;> simp [hfile, hpath]
  | false =>
    simp [hfile]

/-- One more item is kept if it is new. -/
theorem eraseDups_concat (names : List String) (name : String) :
    (names ++ [name]).eraseDups = if name ∈ names then names.eraseDups else names.eraseDups ++
      [name] := by
  rw [List.eraseDups_append]
  split
  · next hold =>
    simp [List.removeAll, hold]
  · next hnew =>
    simp [List.removeAll, hnew, List.eraseDups_cons]

/-- The paths behind one more line: a file header puts its path at the end if it is new. -/
theorem ReadState.paths_next (s : ReadState) (line : List Char) :
    (s.next line).files.map (·.path) =
      if isFileHeader line then
        match filePath? line with
        | some path => (ensureFile path s.flush.files).map (·.path)
        | none => s.files.map (·.path)
      else s.files.map (·.path) := by
  cases hfile : isFileHeader line with
  | true =>
    rw [next_files, s.nextFiles_of_fileHeader hfile]
    cases filePath? line with
    | some path => rfl
    | none => exact s.paths_flush
  | false =>
    have hlines : ∀ other ∈ [line], isFileHeader other = false := by
      simpa using hfile
    exact paths_after_of_not_fileHeader hlines

/-- The paths stand in the order of their first headers. -/
theorem ReadState.paths_after (lines : List (List Char)) :
    (ReadState.after {} lines).files.map (·.path) = (headerPaths lines).eraseDups := by
  -- from the end, since a path is new with respect to the headers above its own
  induction lines using List.reverseRecOn with
  | nil =>
    rfl
  | append_singleton lines line ih =>
    rw [after_append, after_cons, after_nil, paths_next, headerPaths_concat]
    cases isFileHeader line with
    | false =>
      simp [ih]
    | true =>
      cases filePath? line with
      | none =>
        simp [ih]
      | some path =>
        have hmem : path ∈ (ReadState.after {} lines).flush.files.map (·.path) ↔
            path ∈ headerPaths lines := by
          rw [paths_flush, ih, List.mem_eraseDups]
        rw [if_pos rfl, if_pos rfl, Option.toList_some, eraseDups_concat]
        dsimp only
        split
        · next hold =>
          rw [ensureFile_of_mem (hmem.2 hold), paths_flush, ih]
        · next hnew =>
          rw [ensureFile_of_not_mem (mt hmem.1 hnew), List.map_append, paths_flush, ih]
          rfl

/-! ## Old paths -/

/-- An old path is told by a line about a rename or a copy. -/
theorem ExtendedHeader.words_of_origin {line : List Char} {status : Status} {old : String}
    (h : ofLine? line = some (.origin status old)) :
    line = "rename from ".toList ++ old.toList ∨ line = "copy from ".toList ++ old.toList := by
  rw [ofLine?] at h
  split at h
  · cases h
  · split at h
    · cases h
    · split at h
      · next path hpath =>
        cases h
        have hold : (String.ofList path).toList = path := String.toList_ofList
        rw [hold]
        exact .inl (Text.afterStart?_eq_some_iff.1 hpath)
      · split at h
        · next path hpath =>
          cases h
          have hold : (String.ofList path).toList = path := String.toList_ofList
          rw [hold]
          exact .inr (Text.afterStart?_eq_some_iff.1 hpath)
        · split at h
          · cases h
          · cases h

/-- What a line says about the origin of the file at hand. -/
theorem namesOrigin_of_note? {above : List (List Char)} {focus : Focus} {line : List Char}
    {status : Status} {old : String} (hfocus : focusAfter none above = some focus)
    (hnote : focus.note? line = some (.origin status old)) :
    NamesOrigin above line focus.path old := by
  rw [Focus.note?] at hnote
  split at hnote
  · cases hnote
  · next hroom =>
    refine ⟨?_, ExtendedHeader.words_of_origin hnote, ?_⟩
    · rw [← focusPath_focusAfter, hfocus]
      rfl
    · intro header taken hopen
      -- the hunk that is open there is the one of the file at hand, which expects no more
      rcases hopen.focusAfter with ⟨path, h, hrun, hcounted, rfl, rfl⟩
      obtain rfl := Option.some.inj (hfocus.symm.trans hrun)
      rw [Option.any_some, hcounted.expectsMore_eq] at hroom
      simpa using hroom

/-- What is named above stays named with a line more. -/
theorem OriginNamed.concat {lines : List (List Char)} {path old : String}
    (h : OriginNamed lines path old) (line : List Char) :
    OriginNamed (lines ++ [line]) path old := by
  rcases h with ⟨above, here, below, rfl, hnames⟩
  exact ⟨above, here, below ++ [line], by simp, hnames⟩

/-- A note gives a file the old path that it names, and leaves the old path as it is if it names
none. -/
theorem oldPath_record {note : Option ExtendedHeader} {f : File} {old : String}
    (h : (record note f).oldPath = some old) :
    f.oldPath = some old ∨ ∃ status, note = some (.origin status old) := by
  rcases note with _ | header
  · exact .inl h
  · cases header with
    | status new => exact .inl h
    | origin new other =>
      obtain rfl := Option.some.inj h
      exact .inr ⟨new, rfl⟩
    | ignored => exact .inl h

/-- The lines that a state has read name the old path of each of its files. -/
def ReadState.OriginsNamed (lines : List (List Char)) (s : ReadState) : Prop :=
  ∀ f ∈ s.files, ∀ old, f.oldPath = some old → OriginNamed lines f.path old

/-- Closing a hunk changes no old path. -/
theorem ReadState.OriginsNamed.flush {lines : List (List Char)} {s : ReadState}
    (h : s.OriginsNamed lines) : s.flush.OriginsNamed lines := by
  rw [OriginsNamed, s.flush_files]
  split
  · exact forall_mem_updateFile h fun _ hf => hf
  · exact h

/-- A line may set the old path that it names, below the header of its file. -/
theorem ReadState.OriginsNamed.next {lines : List (List Char)} {s : ReadState}
    (h : s.OriginsNamed lines) (hfocus : s.focus = focusAfter none lines) (line : List Char) :
    (s.next line).OriginsNamed (lines ++ [line]) := by
  intro f hf old hold
  rw [next_files] at hf
  cases hboundary : isBoundary line with
  | true =>
    have hflush : ∀ g ∈ s.flush.files, g.oldPath = some old →
        OriginNamed (lines ++ [line]) g.path old :=
      fun g hg hg' => (h.flush g hg old hg').concat line
    cases hfile : isFileHeader line with
    | true =>
      rw [s.nextFiles_of_fileHeader hfile] at hf
      split at hf
      · next path hpath =>
        rw [ensureFile] at hf
        split at hf
        · exact hflush f hf hold
        · rcases List.mem_append.1 hf with hknown | hnew
          · exact hflush f hknown hold
          · -- a new file comes from nowhere
            obtain rfl := List.mem_singleton.1 hnew
            cases hold
      · exact hflush f hf hold
    | false =>
      rw [s.nextFiles_of_hunkMark hfile (isHunkMark_of_boundary hboundary hfile)] at hf
      exact hflush f hf hold
  | false =>
    rw [s.nextFiles_of_body hboundary] at hf
    split at hf
    · next focus hat =>
      rcases List.mem_map.1 hf with ⟨g, hg, rfl⟩
      split at hold
      · next hpath =>
        rw [if_pos hpath, record_path, eq_of_beq hpath]
        rcases oldPath_record hold with hbefore | ⟨status, hnote⟩
        · rw [← eq_of_beq hpath]
          exact (h g hg old hbefore).concat line
        · exact ⟨lines, line, [], rfl, namesOrigin_of_note? (hfocus.symm.trans hat) hnote⟩
      · next hpath =>
        rw [if_neg hpath]
        exact (h g hg old hold).concat line
    · exact (h f hf old hold).concat line

/-- Every old path is named by a line below the header of its file. -/
theorem ReadState.originsNamed_after (lines : List (List Char)) :
    (ReadState.after {} lines).OriginsNamed lines := by
  induction lines using List.reverseRecOn with
  | nil =>
    intro f hf
    cases hf
  | append_singleton lines line ih =>
    rw [after_append, after_cons, after_nil]
    exact ih.next (after_focus {} lines) line

/-! ## Texts -/

/-- A readable file with a named origin is well formed. -/
theorem File.Readable.wellFormed {lines : List (List Char)} {f : File} (hf : f.Readable)
    (hnamed : ∀ old, f.oldPath = some old → OriginNamed lines f.path old) : f.WellFormed lines where
  path_ne_empty hempty := hf.path.ne_nil (by rw [hempty]; rfl)
  path_noFeed := hf.path.noFeed
  origin_of_status := hf.origin
  origin_of_modified := hf.modified
  origin_fits old hold := hf.oldPath_fits old hold
  origin_named := hnamed
  heading h hh text htext := by
    have hheader := (hf.hunks h hh).header
    refine ⟨?_, hheader.heading_fits text htext⟩
    rintro rfl
    exact hheader.heading_ne_empty htext
  content h hh := (hf.hunks h hh).content

/-- The diff of a text, whatever the text says: its files have distinct paths that are not empty, in
the order of the first file header of each, and are found by them; those that are renamed or copied
come from an old path, modified ones do not, and where there is an old path a line of the file names
it; no path goes over the end of a line, and neither does a heading, the content of a line or an old
path, which do not end in a carriage return. -/
theorem wellFormed_of_parse {text : String} {d : Diff} (h : parse text = .ok d) :
    d.WellFormed (textLines text.toList) := by
  have hnodup : d.paths.Nodup := nodup_paths_of_parse h
  have hreadable : ∀ f ∈ d.files, f.Readable := readable_of_parse h
  rcases ofLines_eq_ok_iff.1 h with ⟨-, rfl⟩
  exact {
    nodup := hnodup
    order := by rw [paths, ReadState.paths_flush, ReadState.paths_after]
    get?_iff := fun _ _ => get?_eq_some_iff hnodup
    isSome_get?_iff := isSome_get?_iff _
    files := fun f hf => (hreadable f hf).wellFormed ((ReadState.originsNamed_after _).flush f hf) }

/-- A file that turns out to be copied behind its hunk; some lines end in carriage returns. -/
def copiedText : String := "diff --git a/x b/x\n@@ -1 +1 @@ f\r\n-a\n+b\r\ncopy from o\r\n"

/-- A file that is renamed, a header without a path, and the first file once more with an empty
heading. -/
def renamedText : String :=
  "diff --git a/y b/y\nrename from p\ndiff --git\n+lost\ndiff --git a/x b/x\n@@ -5,0 +5 @@ \n+c\n"

/-- Both, one behind the other. -/
def reopenedText : String := copiedText ++ renamedText

def reopenedDiff : Diff where
  files := [
    { path := "x"
      status := .copied
      oldPath := some "o"
      hunks := [
        ⟨⟨1, 1, 1, 1, some "f"⟩, [⟨.deletion, "a"⟩, ⟨.addition, "b"⟩]⟩,
        ⟨⟨5, 0, 5, 1, none⟩, [⟨.addition, "c"⟩]⟩] },
    { path := "y"
      status := .renamed
      oldPath := some "p" }]

theorem wellFormed_of_parse_reopened :
    parse reopenedText = .ok reopenedDiff ∧
      reopenedDiff.WellFormed (textLines reopenedText.toList) := by
  have hparse : parse reopenedText = .ok reopenedDiff := by
    have hcopied : copiedText.toList = _ := String.toList_ofList
    have hrenamed : renamedText.toList = _ := String.toList_ofList
    unfold parse
    rw [reopenedText, String.toList_append, hcopied, hrenamed]
    rfl
  exact ⟨hparse, wellFormed_of_parse hparse⟩

end Diff
end PatchReview
