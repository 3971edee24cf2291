import Mathlib.Data.List.Basic
import Mathlib.Data.List.Nodup
import PatchReview.Diff.Parser
import PatchReview.Proofs.Diff.Header
import PatchReview.Proofs.Text.Pieces

/-!
# What one line of a diff does

A line that begins a file or a hunk first closes the open hunk; any other line adds to the open hunk
or tells something about the file at hand. This module says once what each of the three does to the
table and to the file at hand, and when the numbers of a line are refused.
-/

namespace PatchReview
namespace Diff

/-! ## Kinds of lines -/

def isFileHeader (line : List Char) : Bool := Text.startsWith "diff --git" line

/-- A line that begins a hunk, or ends one if it is malformed. -/
def isHunkMark (line : List Char) : Bool := Text.startsWith "@@" line

/-- A line at which every hunk ends. -/
def isBoundary (line : List Char) : Bool := isFileHeader line || isHunkMark line

/-- The path that a file header yields. -/
def filePath? (line : List Char) : Option String := (headerPath? line).map String.ofList

/-! ## The table of files -/

section Table

variable {path : String} {change : File → File} {files : List File}

/-- Changing nothing changes no file. -/
@[simp] theorem updateFile_id : updateFile path (fun f => f) files = files := by
  simp [updateFile]

/-- A change that keeps the path of a file keeps all paths. -/
theorem paths_updateFile (h : ∀ f, (change f).path = f.path) :
    (updateFile path change files).map (·.path) = files.map (·.path) := by
  rw [updateFile, List.map_map]
  apply List.map_congr_left
  intro f _
  by_cases hf : f.path = path
  · simp [hf, h]
  · simp [hf]

/-- Without a file of the path there is nothing to change. -/
theorem updateFile_of_not_mem (h : path ∉ files.map (·.path)) :
    updateFile path change files = files := by
  conv_rhs => rw [← List.map_id files]
  apply List.map_congr_left
  intro f hf
  have hne : f.path ≠ path := fun heq => h (heq ▸ List.mem_map_of_mem hf)
  simp [hne]

theorem any_path_iff : files.any (·.path == path) = true ↔ path ∈ files.map (·.path) := by
  simp

/-- A file that is there is not made again. -/
theorem ensureFile_of_mem (h : path ∈ files.map (·.path)) : ensureFile path files = files := by
  rw [ensureFile, any_path_iff.2 h, if_pos rfl]

/-- A file that is not there is made at the end. -/
theorem ensureFile_of_not_mem (h : path ∉ files.map (·.path)) :
    ensureFile path files = files ++ [{ path := path }] := by
  rw [ensureFile, if_neg (mt any_path_iff.1 h)]

/-- One path more is there afterwards, at most. -/
theorem mem_paths_ensureFile {other : String} :
    other ∈ (ensureFile path files).map (·.path) ↔
      other ∈ files.map (·.path) ∨ other = path := by
  by_cases h : path ∈ files.map (·.path)
  · rw [ensureFile_of_mem h]
    constructor
    · exact Or.inl
    · rintro (hmem | rfl)
      · exact hmem
      · exact h
  · simp [ensureFile_of_not_mem h]

/-- Making sure of a file keeps the paths distinct. -/
theorem nodup_paths_ensureFile (h : (files.map (·.path)).Nodup) :
    ((ensureFile path files).map (·.path)).Nodup := by
  by_cases hmem : path ∈ files.map (·.path)
  · rwa [ensureFile_of_mem hmem]
  · rw [ensureFile_of_not_mem hmem, List.map_append, List.nodup_append]
    refine ⟨h, by simp, ?_⟩
    intro a ha b hb
    obtain rfl : b = path := by simpa using hb
    rintro rfl
    exact hmem ha

end Table

/-! ## Lines below a header -/

/-- No extended header changes the path. -/
@[simp] theorem ExtendedHeader.apply_path (header : ExtendedHeader) (f : File) :
    (header.apply f).path = f.path := by
  cases header <;> rfl

/-- Nor does it change the hunks. -/
@[simp] theorem ExtendedHeader.apply_hunks (header : ExtendedHeader) (f : File) :
    (header.apply f).hunks = f.hunks := by
  cases header <;> rfl

/-- What a line below the headers says about its file: nothing while a hunk expects it as
content. -/
def Focus.note? (focus : Focus) (line : List Char) : Option ExtendedHeader :=
  if focus.hunk.any (·.expectsMore) then none else ExtendedHeader.ofLine? line

/-- Records what a line says about a file. -/
def record (note : Option ExtendedHeader) (f : File) : File :=
  match note with
  | some header => header.apply f
  | none => f

@[simp] theorem record_path (note : Option ExtendedHeader) (f : File) :
    (record note f).path = f.path := by
  cases note <;> simp [record]

@[simp] theorem record_hunks (note : Option ExtendedHeader) (f : File) :
    (record note f).hunks = f.hunks := by
  cases note <;> simp [record]

/-- The line of content that an open hunk finds in a line. -/
def OpenHunk.content? (h : OpenHunk) (line : List Char) : Option Line :=
  if h.expectsMore then bodyLine? true line
  else if (ExtendedHeader.ofLine? line).isSome then none
  else bodyLine? false line

/-- The open hunk behind one more line. -/
def OpenHunk.read (h : OpenHunk) (line : List Char) : OpenHunk :=
  match h.content? line with
  | some content => h.add content
  | none => h

@[simp] theorem OpenHunk.read_header (h : OpenHunk) (line : List Char) :
    (h.read line).header = h.header := by
  rw [read]
  split <;> rfl

/-- The file at hand behind one more line of its hunk. -/
def Focus.read (focus : Focus) (line : List Char) : Focus :=
  { focus with hunk := focus.hunk.map (·.read line) }

/-- A line of content is added to the open hunk; another ends it when its room is used up. -/
theorem Focus.addLine_eq (focus : Focus) (h : OpenHunk) (hopen : focus.hunk = some h)
    (content : Option Line) :
    focus.addLine h content = { focus with
      hunk := some (match content with
        | some line => h.add line
        | none => h) } := by
  cases content with
  | none =>
    rw [addLine, ← hopen]
  | some line =>
    rfl

/-- A line below the headers is noted in its file and read into the open hunk. -/
theorem ReadState.readBody_eq (s : ReadState) (focus : Focus) (line : List Char)
    (hfocus : s.focus = some focus) :
    s.readBody focus line =
      { files := updateFile focus.path (record (focus.note? line)) s.files
        focus := some (focus.read line) } := by
  have hclosed : record none = fun f => f := rfl
  rcases s with ⟨files, _⟩
  cases hfocus
  rw [readBody]
  cases hopen : focus.hunk with
  | none =>
    have hsame : focus.read line = focus := by
      rw [Focus.read, hopen, Option.map_none, ← hopen]
    cases hnote : ExtendedHeader.ofLine? line with
    | none =>
      simp [Focus.note?, hopen, hnote, hsame, hclosed]
    | some header =>
      simp only [Focus.note?, hopen, hnote, hsame, Option.any_none, Bool.false_eq_true, if_false]
      rfl
  | some h =>
    -- a hunk with room takes the line for content; without room the line may be a header
    by_cases hmore : h.expectsMore = true
    · simp [Focus.note?, hopen, hmore, hclosed, Focus.addLine_eq focus h hopen, Focus.read,
        OpenHunk.read, OpenHunk.content?]
    · cases hnote : ExtendedHeader.ofLine? line with
      | none =>
        simp [Focus.note?, hopen, hmore, hnote, hclosed, Focus.addLine_eq focus h hopen, Focus.read,
          OpenHunk.read, OpenHunk.content?]
      | some header =>
        have hread : h.read line = h := by
          simp [OpenHunk.read, OpenHunk.content?, hmore, hnote]
        have hsame : focus.read line = focus := by
          rw [Focus.read, hopen, Option.map_some, hread, ← hopen]
        simp only [Focus.note?, hopen, hmore, hnote, hsame, Option.any_some, Bool.false_eq_true,
          if_false]
        rfl

/-! ## Headers -/

def File.addHunk (hunk : Hunk) (f : File) : File := { f with hunks := f.hunks ++ [hunk] }

/-- The table with the open hunk in its file. -/
theorem ReadState.flush_files (s : ReadState) :
    s.flush.files = match s.focus with
      | some { path, hunk := some h } => updateFile path (File.addHunk h.close) s.files
      | _ => s.files := by
  rcases s with ⟨files, focus⟩
  cases focus with
  | none =>
    rfl
  | some focus =>
    rcases focus with ⟨path, hunk⟩
    cases hunk <;> rfl

/-- Closing a hunk leaves its file at hand. -/
theorem ReadState.flush_focus (s : ReadState) :
    s.flush.focus = s.focus.map fun focus => { path := focus.path } := by
  rcases s with ⟨files, focus⟩
  cases focus with
  | none =>
    rfl
  | some focus =>
    rcases focus with ⟨path, hunk⟩
    cases hunk <;> rfl

def hunkHeader? (line : List Char) : Option Header := (HeaderText.read? line).map HeaderText.header

/-- Why the numbers of a line are refused, if it is a hunk header with too many digits. -/
def refusal? (line : List Char) : Option Decimal.LimitError :=
  if !isFileHeader line && isHunkMark line then
    match (HeaderText.read? line).map HeaderText.toHeader with
    | some (.error e) => some e
    | _ => none
  else none

/-! ## One step -/

def ReadState.nextFiles (s : ReadState) (line : List Char) : List File :=
  if isFileHeader line then
    match filePath? line with
    | some path => ensureFile path s.flush.files
    | none => s.flush.files
  else if isHunkMark line then s.flush.files
  else match s.focus with
    | some focus => updateFile focus.path (record (focus.note? line)) s.files
    | none => s.files

/-- The file at hand behind one more line. -/
def nextFocus (focus : Option Focus) (line : List Char) : Option Focus :=
  if isFileHeader line then (filePath? line).map fun path => { path := path }
  else if isHunkMark line then
    focus.map fun focus => { path := focus.path, hunk := (hunkHeader? line).map .ofHeader }
  else focus.map (·.read line)

/-- The state behind one more line whose numbers are not refused. -/
def ReadState.next (s : ReadState) (line : List Char) : ReadState :=
  { files := s.nextFiles line, focus := nextFocus s.focus line }

/-- The files after a line. -/
@[simp] theorem ReadState.next_files (s : ReadState) (line : List Char) :
    (s.next line).files = s.nextFiles line :=
  rfl

/-- The focus after a line, which does not depend on the files. -/
@[simp] theorem ReadState.next_focus (s : ReadState) (line : List Char) :
    (s.next line).focus = nextFocus s.focus line :=
  rfl

section Kinds

variable {line : List Char}

theorem isBoundary_eq_false_iff :
    isBoundary line = false ↔ isFileHeader line = false ∧ isHunkMark line = false := by
  simp [isBoundary]

/-- Numbers are read, and refused, in headers only. -/
theorem refusal?_of_body (h : isBoundary line = false) : refusal? line = none := by
  simp [refusal?, (isBoundary_eq_false_iff.1 h).2]

theorem isHunkMark_of_boundary (h : isBoundary line = true) (hfile : isFileHeader line = false) :
    isHunkMark line = true := by
  simpa [isBoundary, hfile] using h

/-- A file header closes the open hunk and makes sure of its file. -/
theorem ReadState.nextFiles_of_fileHeader (s : ReadState) (h : isFileHeader line = true) :
    s.nextFiles line = match filePath? line with
      | some path => ensureFile path s.flush.files
      | none => s.flush.files := by
  rw [nextFiles, if_pos h]

/-- A hunk header closes the open hunk. -/
theorem ReadState.nextFiles_of_hunkMark (s : ReadState) (hfile : isFileHeader line = false)
    (hmark : isHunkMark line = true) : s.nextFiles line = s.flush.files := by
  simp [nextFiles, hfile, hmark]

/-- Another line may tell something about the file at hand. -/
theorem ReadState.nextFiles_of_body (s : ReadState) (h : isBoundary line = false) :
    s.nextFiles line = match s.focus with
      | some focus => updateFile focus.path (record (focus.note? line)) s.files
      | none => s.files := by
  rw [isBoundary_eq_false_iff] at h
  simp [nextFiles, h.1, h.2]

/-- A file header puts its file at hand, or none if it has no path. -/
theorem nextFocus_of_fileHeader (focus : Option Focus) (h : isFileHeader line = true) :
    nextFocus focus line = (filePath? line).map fun path => { path := path } := by
  rw [nextFocus, if_pos h]

/-- A hunk header opens a hunk of the file at hand, if there is one. -/
theorem nextFocus_of_hunkMark (focus : Option Focus) (hfile : isFileHeader line = false)
    (hmark : isHunkMark line = true) :
    nextFocus focus line = focus.map fun focus =>
      { path := focus.path, hunk := (hunkHeader? line).map .ofHeader } := by
  simp [nextFocus, hfile, hmark]

/-- Another line is read by the file at hand. -/
theorem nextFocus_of_body (focus : Option Focus) (h : isBoundary line = false) :
    nextFocus focus line = focus.map (·.read line) := by
  rw [isBoundary_eq_false_iff] at h
  simp [nextFocus, h.1, h.2]

end Kinds

/-- Opening a file is a step of the state. -/
theorem ReadState.openFile_eq (s : ReadState) {line : List Char} (h : isFileHeader line = true) :
    s.openFile line = s.next line := by
  rw [openFile, next, s.nextFiles_of_fileHeader h, nextFocus_of_fileHeader _ h, filePath?]
  cases headerPath? line <;> rfl

/-- Without a file at hand a line changes nothing unless it begins a file. -/
theorem ReadState.next_eq_self (s : ReadState) {line : List Char} (hfocus : s.focus = none)
    (hfile : isFileHeader line = false) : s.next line = s := by
  have hflush : s.flush = s := by
    simp [flush, hfocus]
  rcases s with ⟨files, focus⟩
  cases hfocus
  simp [next, nextFiles, nextFocus, hfile, hflush]

/-- Opening a hunk is a step, unless a number is refused. -/
theorem ReadState.openHunk_eq (s : ReadState) {line : List Char}
    (hfile : isFileHeader line = false) (hmark : isHunkMark line = true) :
    s.openHunk line = match s.focus.bind fun _ => refusal? line with
      | some e => .error e
      | none => .ok (s.next line) := by
  rw [openHunk, flush_focus]
  cases hfocus : s.focus with
  | none =>
    have hflush : s.flush = s := by
      simp [flush, hfocus]
    simp [s.next_eq_self hfocus hfile, hflush]
  | some focus =>
    -- both the old and the new state have closed the open hunk
    have hnext : s.next line =
        { files := s.flush.files
          focus := some { path := focus.path, hunk := (hunkHeader? line).map .ofHeader } } := by
      rw [next, s.nextFiles_of_hunkMark hfile hmark, nextFocus_of_hunkMark _ hfile hmark, hfocus,
        Option.map_some]
    cases hread : HeaderText.read? line with
    | none =>
      have hsame : s.next line = s.flush := by
        rw [hnext, hunkHeader?, hread, Option.map_none, Option.map_none]
        have hflush : s.flush.focus = some { path := focus.path } := by
          rw [flush_focus, hfocus, Option.map_some]
        rw [← hflush]
      simp [refusal?, hread, hsame]
    | some text =>
      cases hheader : text.toHeader with
      | error e =>
        simp [refusal?, hread, hheader, hfile, hmark, bind, Except.bind]
      | ok header =>
        obtain rfl := HeaderText.eq_header_of_toHeader hheader
        simp [refusal?, hread, hheader, hnext, hunkHeader?, bind, Except.bind, pure, Except.pure]

/-- Reading a line of a body is a step. -/
theorem ReadState.readBody_eq_next (s : ReadState) {focus : Focus} {line : List Char}
    (hfocus : s.focus = some focus) (h : isBoundary line = false) :
    s.readBody focus line = s.next line := by
  rw [readBody_eq s focus line hfocus, next, s.nextFiles_of_body h, nextFocus_of_body _ h, hfocus]
  rfl

/-- A step leads to the next state, unless the file at hand has a hunk header with too many
digits. -/
theorem ReadState.step_eq (s : ReadState) (line : List Char) :
    s.step line = match s.focus.bind fun _ => refusal? line with
      | some e => .error e
      | none => .ok (s.next line) := by
  -- the three kinds of lines, in the order in which they are told apart
  cases hfile : isFileHeader line with
  | true =>
    have hstep : s.step line = .ok (s.openFile line) := if_pos hfile
    have hrefusal : refusal? line = none := by
      simp [refusal?, hfile]
    simp [hstep, hrefusal, s.openFile_eq hfile]
  | false =>
    have hother : ¬ Text.startsWith "diff --git" line = true := Bool.eq_false_iff.1 hfile
    cases hmark : isHunkMark line with
    | true =>
      have hstep : s.step line = s.openHunk line := by
        rw [step, if_neg hother]
        exact if_pos hmark
      rw [hstep, s.openHunk_eq hfile hmark]
    | false =>
      have hrefusal : refusal? line = none := by
        simp [refusal?, hmark]
      have hbody : ¬ Text.startsWith "@@" line = true := Bool.eq_false_iff.1 hmark
      rw [step, if_neg hother, if_neg hbody]
      cases hfocus : s.focus with
      | none =>
        simp [s.next_eq_self hfocus hfile]
      | some focus =>
        simp [hrefusal, s.readBody_eq_next hfocus (isBoundary_eq_false_iff.2 ⟨hfile, hmark⟩)]

end Diff
end PatchReview
