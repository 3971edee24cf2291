import PatchReview.Proofs.Diff.Lines
import PatchReview.Proofs.Diff.Run

/-!
# Where the hunks of a diff stand

Which hunks a text holds can be said without reading it from the top: a hunk begins at each line
that is a hunk header, it belongs to the file of the nearest file header above, and its body are the
lines below it up to the next header. This module states that layout by positions and shows that
reading finds exactly those hunks, on any text.
-/

namespace PatchReview
namespace Diff

/-! ## The layout -/

/-- The path that the nearest file header above a place yields. -/
def owner? (above : List (List Char)) : Option String :=
  (above.reverse.find? isFileHeader).bind filePath?

/-- A line of a hunk by its marker; a line without a marker is context as it stands. -/
def classify : List Char → Line
  | '+' :: s => ⟨.addition, String.ofList s⟩
  | '-' :: s => ⟨.deletion, String.ofList s⟩
  | ' ' :: s => ⟨.context, String.ofList s⟩
  | s => ⟨.context, String.ofList s⟩

/-- Whether some lines are all that a header declares. -/
def Header.usedUp (h : Header) (taken : List Line) : Bool :=
  h.oldCount ≤ taken.countP Line.inOld && h.newCount ≤ taken.countP Line.inNew

/-- How the lines begin that are no content behind the lines that a header declares. -/
def extendedMarks : List String :=
  ["new file mode", "deleted file mode", "rename from ", "copy from ", "index ", "---", "+++"]

/-- Whether a line is no content of a hunk that has taken some lines already. -/
def Header.passesOver (h : Header) (taken : List Line) (line : List Char) : Bool :=
  Text.startsWith "\\" line ||
    (h.usedUp taken && (line.isEmpty || extendedMarks.any (Text.startsWith · line)))

/-- The lines that a hunk has taken behind one more line. -/
def Header.take (h : Header) (taken : List Line) (line : List Char) : List Line :=
  if h.passesOver taken line then taken else taken ++ [classify line]

/-- The lines up to the next header. -/
def bodyBelow (below : List (List Char)) : List (List Char) :=
  below.takeWhile fun line => !isBoundary line

/-- The hunk that begins at a line, with the file that it belongs to. -/
def hunkFrom? (owner : Option String) (line : List Char) (below : List (List Char)) :
    Option (String × Hunk) := do
  let path ← owner
  let header ← hunkHeader? line
  return (path, { header, lines := (bodyBelow below).foldl header.take [] })

/-- The hunk that begins at a place of a text, with the file that it belongs to. -/
def hunkAt? (lines : List (List Char)) (i : Nat) : Option (String × Hunk) := do
  let line ← lines[i]?
  hunkFrom? (owner? (lines.take i)) line (lines.drop (i + 1))

def ownedBy (path : String) (hunks : List (String × Hunk)) : List Hunk :=
  (hunks.filter (·.1 == path)).map (·.2)

/-- The hunks of a file, by the places where they begin. -/
def hunksOf (lines : List (List Char)) (path : String) : List Hunk :=
  ownedBy path ((List.range lines.length).filterMap (hunkAt? lines))

/-! ## The layout from the top -/

/-- The owner of the lines below a line. -/
def ownerBelow (owner : Option String) (line : List Char) : Option String :=
  if isFileHeader line then filePath? line else owner

/-- The hunks of some lines below a place, by recursion. -/
def hunksBelow (owner : Option String) : List (List Char) → List (String × Hunk)
  | [] => []
  | line :: below =>
    (hunkFrom? owner line below).toList ++ hunksBelow (ownerBelow owner line) below

/-- A line changes the owner of what is below it in its own way. -/
theorem owner?_concat (above : List (List Char)) (line : List Char) :
    owner? (above ++ [line]) = ownerBelow (owner? above) line := by
  rw [owner?, List.reverse_concat, List.find?_cons, ownerBelow]
  cases isFileHeader line <;> rfl

/-- The places of a text give the hunks in the order of the recursion. -/
theorem filterMap_hunkAt? (above below : List (List Char)) :
    (List.range below.length).filterMap (fun i => hunkAt? (above ++ below) (above.length + i)) =
      hunksBelow (owner? above) below := by
  -- the places are counted from the top, so the lines above grow while the lines below shrink
  induction below generalizing above with
  | nil =>
    rfl
  | cons line below ih =>
    have hfirst : hunkAt? (above ++ line :: below) (above.length + 0) =
        hunkFrom? (owner? above) line below := by
      simp [hunkAt?]
    have hshift : (fun i => hunkAt? (above ++ line :: below) (above.length + (i + 1))) =
        fun i => hunkAt? ((above ++ [line]) ++ below) ((above ++ [line]).length + i) := by
      funext i
      rw [List.length_append, List.length_singleton, List.append_assoc, List.singleton_append,
        Nat.add_assoc, Nat.add_comm 1 i]
    have hrest := ih (above ++ [line])
    rw [← hshift, owner?_concat] at hrest
    rw [List.length_cons, List.range_succ_eq_map, List.filterMap_cons, List.filterMap_map,
      Function.comp_def, hrest, hfirst, hunksBelow]
    cases hunkFrom? (owner? above) line below <;> rfl

/-- The hunks of a path are those that it owns, from the start of the text. -/
theorem hunksOf_eq (lines : List (List Char)) (path : String) :
    hunksOf lines path = ownedBy path (hunksBelow none lines) := by
  have h := filterMap_hunkAt? [] lines
  simp only [List.nil_append, List.length_nil, Nat.zero_add] at h
  rw [hunksOf, h]
  rfl

/-! ## Lines of a hunk -/

theorem startsWith_backslash_cons (c : Char) (s : List Char) :
    Text.startsWith "\\" (c :: s) = (c == '\\') := by
  have hmark : "\\".toList = ['\\'] := rfl
  by_cases hc : c = '\\'
  · simp [Text.startsWith, hmark, Text.afterStart?, hc]
  · simp [Text.startsWith, hmark, Text.afterStart?, hc, Ne.symm hc]

/-- A line is content unless it stands behind a backslash, or is empty where nothing is expected. -/
theorem bodyLine?_eq (expected : Bool) (line : List Char) :
    bodyLine? expected line =
      if Text.startsWith "\\" line || (!expected && line.isEmpty) then none
      else some (classify line) := by
  cases line with
  | nil =>
    cases expected <;> rfl
  | cons c s =>
    rw [startsWith_backslash_cons]
    unfold bodyLine? classify
    split <;> simp_all

/-- A line is an extended header if it begins with one of the marks. -/
theorem isSome_ofLine?_eq (line : List Char) :
    (ExtendedHeader.ofLine? line).isSome = extendedMarks.any (Text.startsWith · line) := by
  have hrename : Text.startsWith "rename from " line =
      (Text.afterStart? "rename from ".toList line).isSome := rfl
  have hcopy : Text.startsWith "copy from " line =
      (Text.afterStart? "copy from ".toList line).isSome := rfl
  simp only [extendedMarks, List.any_cons, List.any_nil, hrename, hcopy]
  -- the marks are tried in the order of the list
  rw [ExtendedHeader.ofLine?]
  cases Text.startsWith "new file mode" line with
  | true =>
    rfl
  | false =>
    cases Text.startsWith "deleted file mode" line with
    | true =>
      rfl
    | false =>
      cases Text.afterStart? "rename from ".toList line with
      | some path =>
        rfl
      | none =>
        cases Text.afterStart? "copy from ".toList line with
        | some path =>
          rfl
        | none =>
          cases Text.startsWith "index " line <;> cases Text.startsWith "---" line <;>
            cases Text.startsWith "+++" line <;> rfl

/-- An open hunk expects more until its lines use up what its header declares. -/
theorem OpenHunk.Counted.expectsMore_eq {h : OpenHunk} (hc : h.Counted) :
    h.expectsMore = !h.header.usedUp h.lines.toList := by
  rw [OpenHunk.expectsMore, hc.oldRoom, hc.newRoom, Header.usedUp, Bool.eq_iff_iff]
  simp only [Bool.or_eq_true, decide_eq_true_eq, Bool.not_eq_true', Bool.and_eq_false_iff,
    decide_eq_false_iff_not]
  omega

/-- An open hunk takes the lines that its header does not pass over. -/
theorem OpenHunk.Counted.content?_eq {h : OpenHunk} (hc : h.Counted) (line : List Char) :
    h.content? line =
      if h.header.passesOver h.lines.toList line then none else some (classify line) := by
  rw [OpenHunk.content?, hc.expectsMore_eq, isSome_ofLine?_eq, bodyLine?_eq, bodyLine?_eq,
    Header.passesOver]
  cases h.header.usedUp h.lines.toList with
  | false =>
    simp
  | true =>
    cases extendedMarks.any (Text.startsWith · line) with
    | false =>
      simp
    | true =>
      simp

/-- A hunk takes a line as the layout says that its header does. -/
theorem OpenHunk.Counted.read_lines {h : OpenHunk} (hc : h.Counted) (line : List Char) :
    (h.read line).lines.toList = h.header.take h.lines.toList line := by
  rw [OpenHunk.read, hc.content?_eq, Header.take]
  cases h.header.passesOver h.lines.toList line with
  | true =>
    rfl
  | false =>
    simp [OpenHunk.add]

/-! ## The hunks of a table -/

/-- The hunks that a table has under a path. -/
def hunksIn (path : String) (files : List File) : List Hunk :=
  (files.filter (·.path == path)).flatMap (·.hunks)

/-- The hunks at a path are gathered file by file. -/
theorem hunksIn_append (path : String) (xs ys : List File) :
    hunksIn path (xs ++ ys) = hunksIn path xs ++ hunksIn path ys := by
  simp [hunksIn]

theorem hunksIn_cons (path : String) (f : File) (files : List File) :
    hunksIn path (f :: files) = (if f.path = path then f.hunks else []) ++ hunksIn path files := by
  by_cases h : f.path = path
  · simp [hunksIn, h]
  · simp [hunksIn, h]

/-- There are none at a path without a file. -/
theorem hunksIn_of_not_mem {path : String} {files : List File}
    (h : path ∉ files.map (·.path)) : hunksIn path files = [] := by
  induction files with
  | nil =>
    rfl
  | cons f files ih =>
    rw [List.map_cons, List.mem_cons, not_or] at h
    rw [hunksIn_cons, ih h.2, if_neg (Ne.symm h.1)]
    rfl

/-- If paths are distinct, the hunks at the path of a file are its own. -/
theorem hunksIn_of_mem {files : List File} (hnodup : (files.map (·.path)).Nodup) {f : File}
    (hf : f ∈ files) : hunksIn f.path files = f.hunks := by
  induction files with
  | nil =>
    cases hf
  | cons g files ih =>
    rw [List.map_cons, List.nodup_cons] at hnodup
    rw [hunksIn_cons]
    rcases List.mem_cons.1 hf with rfl | hrest
    · rw [if_pos rfl, hunksIn_of_not_mem hnodup.1, List.append_nil]
    · have hne : g.path ≠ f.path := by
        intro heq
        rw [heq] at hnodup
        exact hnodup.1 (List.mem_map_of_mem hrest)
      rw [if_neg hne, ih hnodup.2 hrest]
      rfl

/-- A file that is new has no hunks. -/
theorem hunksIn_ensureFile (path other : String) (files : List File) :
    hunksIn path (ensureFile other files) = hunksIn path files := by
  by_cases h : other ∈ files.map (·.path)
  · rw [ensureFile_of_mem h]
  · have hnew : hunksIn path [{ path := other }] = [] := by
      rw [hunksIn_cons]
      split <;> rfl
    rw [ensureFile_of_not_mem h, hunksIn_append, hnew, List.append_nil]

/-- A change that keeps paths and hunks keeps the hunks of every path. -/
theorem hunksIn_updateFile {change : File → File} (hpath : ∀ f, (change f).path = f.path)
    (hhunks : ∀ f, (change f).hunks = f.hunks) (path other : String) (files : List File) :
    hunksIn path (updateFile other change files) = hunksIn path files := by
  induction files with
  | nil =>
    rfl
  | cons f files ih =>
    rw [updateFile, List.map_cons, hunksIn_cons, hunksIn_cons, ← ih]
    split <;> simp [hpath, hhunks, updateFile]

/-- A hunk that is added comes last among the hunks of its path. -/
theorem hunksIn_addHunk {files : List File} (hnodup : (files.map (·.path)).Nodup)
    {other : String} (hmem : other ∈ files.map (·.path)) (hunk : Hunk) (path : String) :
    hunksIn path (updateFile other (File.addHunk hunk) files) =
      hunksIn path files ++ ownedBy path [(other, hunk)] := by
  induction files with
  | nil =>
    cases hmem
  | cons f files ih =>
    rw [List.map_cons, List.nodup_cons] at hnodup
    by_cases hf : f.path = other
    · -- no file below has the path again, so the hunk is added once
      subst hf
      have hupdate : updateFile f.path (File.addHunk hunk) (f :: files) =
          f.addHunk hunk :: updateFile f.path (File.addHunk hunk) files := by
        simp [updateFile]
      have hrest : hunksIn f.path files = [] := hunksIn_of_not_mem hnodup.1
      rw [hupdate, updateFile_of_not_mem hnodup.1, hunksIn_cons, hunksIn_cons]
      by_cases hpath : f.path = path
      · subst hpath
        simp [File.addHunk, ownedBy, hrest]
      · simp [File.addHunk, ownedBy, hpath]
    · have hupdate : updateFile other (File.addHunk hunk) (f :: files) =
          f :: updateFile other (File.addHunk hunk) files := by
        simp [updateFile, hf]
      have hrest : other ∈ files.map (·.path) := by
        rcases List.mem_cons.1 hmem with heq | hrest
        · exact absurd heq.symm hf
        · exact hrest
      rw [hupdate, hunksIn_cons, hunksIn_cons, ih hnodup.2 hrest, List.append_assoc]

/-! ## Reading finds the layout -/

/-- The open hunk with the lines that some lines below add to it. -/
def pending (focus : Option Focus) (below : List (List Char)) : List (String × Hunk) :=
  match focus with
  | some { path, hunk := some h } =>
    [(path, { header := h.header, lines := (bodyBelow below).foldl h.header.take h.lines.toList })]
  | _ => []

/-- The hunks of a path behind the open one of a state, and of that state itself. -/
theorem hunksIn_flush {s : ReadState} (hs : s.Valid) (path : String) :
    hunksIn path s.flush.files = hunksIn path s.files ++ ownedBy path (pending s.focus []) := by
  rw [s.flush_files]
  split
  · next other h hfocus =>
    rw [hfocus, hunksIn_addHunk hs.nodup (hs.focus_mem _ hfocus)]
    rfl
  · next hclosed =>
    have hnone : pending s.focus [] = [] := by
      rcases hfocus : s.focus with _ | ⟨other, _ | h⟩
      · rfl
      · rfl
      · exact absurd hfocus (hclosed other h)
    simp [hnone, ownedBy]

/-- At a boundary the open hunk ends. -/
theorem pending_of_boundary (focus : Option Focus) {line : List Char} (h : isBoundary line = true)
    (below : List (List Char)) : pending focus (line :: below) = pending focus [] := by
  have hbody : bodyBelow (line :: below) = bodyBelow [] := by
    simp [bodyBelow, h]
  rcases focus with _ | ⟨path, _ | hunk⟩
  · rfl
  · rfl
  · simp only [pending, hbody]

/-- A body line goes into the open hunk. -/
theorem pending_read {focus : Option Focus} {line : List Char}
    (hcounted : ∀ f h, focus = some f → f.hunk = some h → h.Counted)
    (h : isBoundary line = false) (below : List (List Char)) :
    pending (focus.map (·.read line)) below = pending focus (line :: below) := by
  have hbody : bodyBelow (line :: below) = line :: bodyBelow below := by
    simp [bodyBelow, h]
  rcases focus with _ | ⟨path, _ | hunk⟩
  · rfl
  · rfl
  · have hc : hunk.Counted := hcounted _ _ rfl rfl
    simp [pending, Focus.read, hbody, hc.read_lines]

/-- What spells a hunk header begins with its mark, and is no file header. -/
theorem isHunkMark_of_spells {t : HeaderText} {line : List Char} (h : t.Spells line) :
    isHunkMark line = true ∧ isFileHeader line = false := by
  rcases h.line_eq with ⟨tail, rfl, -⟩
  constructor <;> rfl

/-- Only a line that begins a hunk is a hunk header. -/
theorem hunkHeader?_eq_none {line : List Char}
    (h : isHunkMark line = false ∨ isFileHeader line = true) : hunkHeader? line = none := by
  rw [hunkHeader?, Option.map_eq_none_iff]
  cases hread : HeaderText.read? line with
  | none =>
    rfl
  | some t =>
    rcases isHunkMark_of_spells (HeaderText.read?_eq_some_iff.1 hread) with ⟨hmark, hfile⟩
    simp [hmark, hfile] at h

/-- No hunk begins at another line than a hunk header. -/
theorem hunkFrom?_eq_none {owner : Option String} {line : List Char} {below : List (List Char)}
    (h : isHunkMark line = false ∨ isFileHeader line = true) :
    hunkFrom? owner line below = none := by
  cases owner <;> simp [hunkFrom?, hunkHeader?_eq_none h]

def focusPath (focus : Option Focus) : Option String := focus.map (·.path)

/-- The file at hand is the owner of the lines below. -/
theorem focusPath_nextFocus (focus : Option Focus) (line : List Char) :
    focusPath (nextFocus focus line) = ownerBelow (focusPath focus) line := by
  rw [nextFocus, ownerBelow, focusPath, focusPath]
  split
  · rw [Option.map_map]
    exact Option.map_id'
  · split
    · rw [Option.map_map]
      rfl
    · rw [Option.map_map]
      rfl

/-- The file at hand is the owner of the lines below. -/
theorem focusPath_focusAfter (above : List (List Char)) :
    focusPath (focusAfter none above) = owner? above := by
  induction above using List.reverseRecOn with
  | nil =>
    rfl
  | append_singleton above line ih =>
    rw [focusAfter_concat, focusPath_nextFocus, ih, owner?_concat]

/-- A header that is read opens the hunk that the layout has there. -/
theorem pending_nextFocus_of_hunkMark (focus : Option Focus) {line : List Char}
    (hfile : isFileHeader line = false) (hmark : isHunkMark line = true)
    (below : List (List Char)) :
    pending (nextFocus focus line) below = (hunkFrom? (focusPath focus) line below).toList := by
  rw [nextFocus_of_hunkMark focus hfile hmark]
  cases focus with
  | none =>
    rfl
  | some focus =>
    cases hheader : hunkHeader? line <;>
      simp [hheader, focusPath, hunkFrom?, pending, OpenHunk.ofHeader]

/-- What one line moves from below into the table. -/
theorem hunksIn_next {s : ReadState} (hs : s.Valid) (path : String) (line : List Char)
    (below : List (List Char)) :
    hunksIn path (s.next line).files ++ ownedBy path (pending (s.next line).focus below) =
      hunksIn path s.files ++ ownedBy path (pending s.focus (line :: below)) ++
        ownedBy path (hunkFrom? (focusPath s.focus) line below).toList := by
  rw [ReadState.next_files, ReadState.next_focus]
  cases hboundary : isBoundary line with
  | true =>
    -- the open hunk ends here and goes into the table
    rw [pending_of_boundary _ hboundary, ← hunksIn_flush hs]
    cases hfile : isFileHeader line with
    | true =>
      have hfiles : hunksIn path (s.nextFiles line) = hunksIn path s.flush.files := by
        rw [s.nextFiles_of_fileHeader hfile]
        split
        · exact hunksIn_ensureFile path _ s.flush.files
        · rfl
      have hpending : pending (nextFocus s.focus line) below = [] := by
        rw [nextFocus_of_fileHeader _ hfile]
        cases filePath? line <;> rfl
      rw [hfiles, hpending, hunkFrom?_eq_none (.inr hfile)]
      rfl
    | false =>
      have hmark : isHunkMark line = true := isHunkMark_of_boundary hboundary hfile
      rw [s.nextFiles_of_hunkMark hfile hmark, pending_nextFocus_of_hunkMark _ hfile hmark]
  | false =>
    -- no hunk of the table changes, and the open one is the same seen from one line further down
    have hmark : isHunkMark line = false := (isBoundary_eq_false_iff.1 hboundary).2
    have hfiles : hunksIn path (s.nextFiles line) = hunksIn path s.files := by
      rw [s.nextFiles_of_body hboundary]
      split
      · exact hunksIn_updateFile (record_path _) (record_hunks _) path _ s.files
      · rfl
    rw [hfiles, nextFocus_of_body _ hboundary, pending_read hs.counted hboundary,
      hunkFrom?_eq_none (.inl hmark)]
    simp [ownedBy]

/-- Behind some lines a path has the hunks it had, those of the open one, and those of the lines. -/
theorem hunksIn_after {s : ReadState} (hs : s.Valid) (path : String) (lines : List (List Char)) :
    hunksIn path (s.after lines).flush.files =
      hunksIn path s.files ++ ownedBy path (pending s.focus lines) ++
        ownedBy path (hunksBelow (focusPath s.focus) lines) := by
  induction lines generalizing s with
  | nil =>
    rw [ReadState.after_nil, hunksIn_flush hs]
    simp [hunksBelow, ownedBy]
  | cons line lines ih =>
    have hbelow : hunksBelow (focusPath s.focus) (line :: lines) =
        (hunkFrom? (focusPath s.focus) line lines).toList ++
          hunksBelow (focusPath (s.next line).focus) lines := by
      rw [hunksBelow, ReadState.next_focus, focusPath_nextFocus]
    rw [ReadState.after_cons, ih (hs.next line), hunksIn_next hs, hbelow]
    simp [ownedBy]

/-! ## The layout of a text -/

/-- A line is a hunk header exactly when it has the shape of one. -/
theorem hunkHeader?_eq_some_iff {line : List Char} {header : Header} :
    hunkHeader? line = some header ↔ ∃ t : HeaderText, t.Spells line ∧ t.header = header := by
  simp only [hunkHeader?, Option.map_eq_some_iff, HeaderText.read?_eq_some_iff]

/-- The files of a text that is read are those that its file headers yield, and the hunks of each
are those of the layout: nothing is lost, invented or moved. -/
theorem parse_layout {text : String} {d : Diff} (h : parse text = .ok d) :
    (∀ path, path ∈ d.paths ↔
      ∃ line ∈ textLines text.toList, isFileHeader line = true ∧ filePath? line = some path) ∧
    d.paths.Nodup ∧
    (∀ f ∈ d.files, f.hunks = hunksOf (textLines text.toList) f.path) ∧
    ∀ line header, hunkHeader? line = some header ↔
      ∃ t : HeaderText, t.Spells line ∧ t.header = header := by
  rcases ofLines_eq_ok_iff.1 h with ⟨-, rfl⟩
  have hvalid : (ReadState.after {} (textLines text.toList)).Valid := ReadState.valid_empty.after _
  have hnodup : ((ReadState.after {} (textLines text.toList)).flush.files.map (·.path)).Nodup := by
    rw [ReadState.paths_flush]
    exact hvalid.nodup
  refine ⟨?_, hnodup, ?_, fun _ _ => hunkHeader?_eq_some_iff⟩
  · intro path
    rw [paths, ReadState.paths_flush, ReadState.mem_paths_after]
    simp
  · intro f hf
    have hhunks := hunksIn_after ReadState.valid_empty f.path (textLines text.toList)
    rw [hunksIn_of_mem hnodup hf] at hhunks
    rw [hhunks, hunksOf_eq]
    rfl

/-- Lines that look like headers inside of a hunk and behind it, a header that is malformed, one
without a file, and a file that is named once more. -/
theorem parse_layout_hostile :
    ∃ d, parse ("diff --git a/x b/x\n@@ -1,2 +1,2 @@ f\n--- a\n+++ b\n\n+++ c\n+d\n" ++
        "@@ bad\n+lost\ndiff --git\n@@ -1 +1 @@\n+none\ndiff --git a/x b/x\n@@ -9 +9 @@\n+e\n") =
        .ok d ∧ d.paths = ["x"] ∧
      ∀ f ∈ d.files, f.hunks = hunksOf (textLines
        ("diff --git a/x b/x\n@@ -1,2 +1,2 @@ f\n--- a\n+++ b\n\n+++ c\n+d\n" ++
        "@@ bad\n+lost\ndiff --git\n@@ -1 +1 @@\n+none\ndiff --git a/x b/x\n@@ -9 +9 @@\n+e\n"
        ).toList) f.path := by
  have hparse : parse ("diff --git a/x b/x\n@@ -1,2 +1,2 @@ f\n--- a\n+++ b\n\n+++ c\n+d\n" ++
      "@@ bad\n+lost\ndiff --git\n@@ -1 +1 @@\n+none\ndiff --git a/x b/x\n@@ -9 +9 @@\n+e\n") =
      .ok { files := [{
        path := "x"
        hunks := [
          ⟨⟨1, 2, 1, 2, some "f"⟩,
            [⟨.deletion, "-- a"⟩, ⟨.addition, "++ b"⟩, ⟨.context, ""⟩, ⟨.addition, "d"⟩]⟩,
          ⟨⟨9, 1, 9, 1, none⟩, [⟨.addition, "e"⟩]⟩] }] } := by
    decide +kernel
  exact ⟨_, hparse, rfl, (parse_layout hparse).2.2.1⟩

end Diff
end PatchReview
