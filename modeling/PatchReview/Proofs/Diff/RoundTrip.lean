import PatchReview.Proofs.Diff.Format
import PatchReview.Proofs.Diff.Layout
import PatchReview.Proofs.Diff.Merge

/-!
# Reading what was written

A text that was written for some files is read as those files. One file is followed through its
header, the lines above its hunks, and its hunks; several files are put together by merging, where
files of different paths do not touch each other.
-/

namespace PatchReview
namespace Diff

/-! ## Headers -/

/-- A range that was written is a range of digits with its two numbers. -/
theorem RangeWritten.exists_text {start count : Nat} {text : List Char}
    (h : RangeWritten start count text) (hstart : start < Decimal.numberLimit)
    (hcount : count < Decimal.numberLimit) :
    ∃ r : RangeText, r.text = text ∧ r.IsNumeric ∧ Decimal.readDigits r.start = .ok start ∧
      r.readCount = .ok count := by
  have hdigits (n : Nat) : IsDigits (Nat.toDigits 10 n) :=
    ⟨Nat.toDigits_ne_nil, fun _ hc => Decimal.isDecimalDigit_of_mem_toDigits hc⟩
  cases h with
  | full =>
    refine ⟨⟨Nat.toDigits 10 start, some (Nat.toDigits 10 count)⟩, rfl, ⟨hdigits start, ?_⟩,
      Decimal.readDigits_toDigits hstart, Decimal.readDigits_toDigits hcount⟩
    rintro ds ⟨⟩
    exact hdigits count
  | single =>
    refine ⟨⟨Nat.toDigits 10 start, none⟩, rfl, ⟨hdigits start, ?_⟩,
      Decimal.readDigits_toDigits hstart, rfl⟩
    rintro ds ⟨⟩

/-- A hunk header that was written is read as the header. -/
theorem HeaderWritten.exists_text {h : Header} {line : List Char} (hw : HeaderWritten h line)
    (hh : h.Writable) : ∃ t : HeaderText, t.Spells line ∧ t.toHeader = .ok h := by
  rcases hw with ⟨hold, hnew⟩
  rcases hold.exists_text hh.oldStart hh.oldCount with ⟨old, rfl, hold, holdStart, holdCount⟩
  rcases hnew.exists_text hh.newStart hh.newCount with ⟨new, rfl, hnew, hnewStart, hnewCount⟩
  cases hheading : h.heading with
  | none =>
    refine ⟨⟨old, new, []⟩, ⟨hold, hnew, _, rfl, .inr ⟨rfl, by simp⟩⟩, ?_⟩
    simp only [HeaderText.toHeader, holdCount, hnewCount, holdStart, hnewStart, bind, Except.bind,
      pure, Except.pure]
    rw [List.isEmpty_nil, if_pos rfl, ← hheading]
  | some s =>
    have hs : s ≠ "" := by
      rintro rfl
      exact hh.heading_ne_empty hheading
    have hempty : s.toList.isEmpty = false := by
      simpa using hs
    refine ⟨⟨old, new, s.toList⟩, ⟨hold, hnew, _, rfl, .inl rfl⟩, ?_⟩
    simp only [HeaderText.toHeader, holdCount, hnewCount, holdStart, hnewStart, bind, Except.bind,
      pure, Except.pure, hempty]
    rw [if_neg Bool.false_ne_true, String.ofList_toList, ← hheading]

section WrittenHeader

variable {h : Header} {line : List Char}

/-- A header is read as what it was written for. -/
theorem HeaderWritten.hunkHeader?_eq (hw : HeaderWritten h line) (hh : h.Writable) :
    hunkHeader? line = some h := by
  rcases hw.exists_text hh with ⟨t, hspells, hread⟩
  exact hunkHeader?_eq_some_iff.2 ⟨t, hspells, (HeaderText.eq_header_of_toHeader hread).symm⟩

/-- None of its numbers is refused. -/
theorem HeaderWritten.refusal?_eq (hw : HeaderWritten h line) (hh : h.Writable) :
    refusal? line = none := by
  rcases hw.exists_text hh with ⟨t, hspells, hread⟩
  simp [refusal?, HeaderText.read?_eq_some_iff.2 hspells, hread]

/-- It begins a hunk, and no file. -/
theorem HeaderWritten.isHunkMark_eq (hw : HeaderWritten h line) :
    isHunkMark line = true ∧ isFileHeader line = false := by
  cases hw
  constructor <;> rfl

end WrittenHeader

/-- A plain header yields what stands behind its last mark, if that is something. -/
theorem headerPath?_mark (front : List Char) {path : List Char} (hmark : ¬ " b/".toList <:+: path)
    (hquote : path.getLast? ≠ some '"') :
    headerPath? (front ++ ' ' :: 'b' :: '/' :: path) = someUnlessEmpty path := by
  have hsplit : front ++ ' ' :: 'b' :: '/' :: path = (front ++ [' ', 'b', '/']) ++ path := by
    simp
  have hlast : (front ++ ' ' :: 'b' :: '/' :: path).getLast? ≠ some '"' := by
    rcases path with _ | ⟨c, path⟩
    · simp
    · rw [hsplit, List.getLast?_append_of_ne_nil _ (List.cons_ne_nil c path)]
      exact hquote
  -- the mark does not start again inside of itself, so a later one would lie in the path
  have hlater : ¬ [' ', 'b', '/'] <:+: ['b', '/'] ++ path := by
    rw [List.cons_append, List.cons_append, List.infix_cons_iff, List.infix_cons_iff]
    rintro (hhead | hhead | hlater)
    · simp at hhead
    · simp at hhead
    · exact hmark hlater
  have hcut : Text.cutLast? " b/".toList (front ++ ' ' :: 'b' :: '/' :: path) =
      some (front, path) := by
    simpa using Text.cutLast?_append_mark front hlater
  rw [headerPath?, if_neg (by simpa using hlast), plainPath?, hcut]

/-- The path behind the last mark is the one that is read. -/
theorem headerPath?_of_mark (front : List Char) {path : List Char} (hpath : path ≠ [])
    (hmark : ¬ " b/".toList <:+: path) (hquote : path.getLast? ≠ some '"') :
    headerPath? (front ++ ' ' :: 'b' :: '/' :: path) = some path := by
  rw [headerPath?_mark front hmark hquote]
  simp [someUnlessEmpty, hpath]

/-- The header of a file names its path. -/
theorem filePath?_fileHeader {f : File} (hf : f.Writable) :
    filePath? (fileHeader f) = some f.path := by
  have hsplit : fileHeader f = ("diff --git a/".toList ++ (f.oldPath.getD f.path).toList) ++
      ' ' :: 'b' :: '/' :: f.path.toList :=
    List.append_assoc _ [' ', 'b', '/'] f.path.toList
  have hchars : f.path.toList ≠ [] := by
    simpa using hf.path.ne_empty
  have hquote : f.path.toList.getLast? ≠ some '"' := fun hlast =>
    hf.path.noQuote (List.mem_of_getLast? hlast)
  rw [filePath?, hsplit, headerPath?_of_mark _ hchars hf.path.noMark hquote, Option.map_some,
    String.ofList_toList]

theorem isFileHeader_fileHeader (f : File) : isFileHeader (fileHeader f) = true :=
  rfl

/-! ## Bodies -/

/-- A written line begins neither a file nor a hunk. -/
theorem LineWritten.not_boundary {line : Line} {text : List Char} (h : LineWritten line text) :
    isBoundary text = false := by
  cases h with
  | marked =>
    cases line.kind <;> rfl
  | bare =>
    rfl

/-- Where there is room for content, a written line is read as the line. -/
theorem LineWritten.bodyLine?_eq {line : Line} {text : List Char} (h : LineWritten line text) :
    bodyLine? true text = some line := by
  cases h with
  | marked =>
    rcases line with ⟨kind, content⟩
    cases kind <;> simp [LineKind.marker, bodyLine?]
  | bare =>
    rfl

theorem note_not_boundary (s : List Char) : isBoundary ('\\' :: s) = false :=
  rfl

/-- A note about a missing line end is no content. -/
theorem OpenHunk.content?_note (h : OpenHunk) (s : List Char) : h.content? ('\\' :: s) = none := by
  rw [content?]
  cases h.expectsMore <;> rfl

/-- Nor does it tell anything about the file. -/
theorem Focus.note?_note (focus : Focus) (s : List Char) : focus.note? ('\\' :: s) = none := by
  rw [note?]
  split <;> rfl

/-- A line below an open hunk goes into the hunk and changes no file, if it is written content. -/
theorem ReadState.next_of_content {files : List File} {path : String} {h : OpenHunk}
    {text : List Char} (hbody : isBoundary text = false)
    (hnote : Focus.note? { path := path, hunk := some h } text = none) :
    ReadState.next { files := files, focus := some { path := path, hunk := some h } } text =
      { files := files, focus := some { path := path, hunk := some (h.read text) } } := by
  have hrecord : record none = fun f => f := rfl
  rw [next, nextFiles_of_body _ hbody, nextFocus_of_body _ hbody]
  simp only [hnote, hrecord, updateFile_id]
  rfl

/-- While its lines are still to come a hunk expects more, and afterwards it has just them. -/
theorem ReadState.after_body (files : List File) (path : String) {lines : List Line}
    {texts : List (List Char)} (hw : BodyWritten lines texts) {h : OpenHunk}
    (hold : h.oldRoom = lines.countP Line.inOld) (hnew : h.newRoom = lines.countP Line.inNew) :
    ∃ h' : OpenHunk, h'.close = { header := h.header, lines := h.lines.toList ++ lines } ∧
      ReadState.after { files := files, focus := some { path := path, hunk := some h } } texts =
        { files := files, focus := some { path := path, hunk := some h' } } := by
  -- the room of the hunk is just what the lines still to come take up
  induction hw generalizing h with
  | nil =>
    refine ⟨h, ?_, rfl⟩
    simp [OpenHunk.close]
  | @line line lines text texts hline _ ih =>
    -- so the line is read as content, whatever header it may look like
    have hmore : h.expectsMore = true := by
      rw [OpenHunk.expectsMore, hold, hnew]
      rcases line with ⟨kind, content⟩
      cases kind <;> simp [List.countP_cons, Line.inOld, Line.inNew]
    have hread : h.read text = h.add line := by
      rw [OpenHunk.read, OpenHunk.content?, if_pos hmore, hline.bodyLine?_eq]
    have hnote : Focus.note? { path := path, hunk := some h } text = none := by
      simp [Focus.note?, hmore]
    have holdRoom : (h.add line).oldRoom = lines.countP Line.inOld := by
      rcases line with ⟨kind, content⟩
      cases kind <;> simp [OpenHunk.add, List.countP_cons, Line.inOld, hold]
    have hnewRoom : (h.add line).newRoom = lines.countP Line.inNew := by
      rcases line with ⟨kind, content⟩
      cases kind <;> simp [OpenHunk.add, List.countP_cons, Line.inNew, hnew]
    rcases ih holdRoom hnewRoom with ⟨h', hclose, hafter⟩
    refine ⟨h', ?_, ?_⟩
    · rw [hclose]
      simp [OpenHunk.add]
    · rw [after_cons, next_of_content hline.not_boundary hnote, hread, hafter]
  | note s _ _ ih =>
    have hread : h.read ('\\' :: s) = h := by
      rw [OpenHunk.read, h.content?_note]
    rcases ih hold hnew with ⟨h', hclose, hafter⟩
    refine ⟨h', hclose, ?_⟩
    rw [after_cons, next_of_content (note_not_boundary s) (Focus.note?_note _ s), hread, hafter]

/-! ## Lines above the hunks -/

/-- An idle line begins neither a file nor a hunk. -/
theorem IsIdle.not_boundary {line : List Char} (h : IsIdle line) : isBoundary line = false := by
  rcases h with ⟨⟨mark, hmark, rest, rfl⟩, -⟩
  simp only [idleMarks, List.mem_cons, List.not_mem_nil, or_false] at hmark
  rcases hmark with rfl | rfl | rfl | rfl | rfl | rfl | rfl | rfl <;> rfl

/-- Only lines of four beginnings say anything about their file. -/
theorem record_ofLine?_eq {line : List Char} (hnew : Text.startsWith "new file mode" line = false)
    (hdeleted : Text.startsWith "deleted file mode" line = false)
    (hrename : Text.afterStart? "rename from ".toList line = none)
    (hcopy : Text.afterStart? "copy from ".toList line = none) (f : File) :
    record (ExtendedHeader.ofLine? line) f = f := by
  rw [ExtendedHeader.ofLine?, hnew, hdeleted, hrename, hcopy]
  simp only [Bool.false_eq_true, if_false]
  split <;> rfl

/-- An idle line changes nothing about a file. -/
theorem IsIdle.record_eq {line : List Char} (h : IsIdle line) (f : File) :
    record (ExtendedHeader.ofLine? line) f = f := by
  rcases h with ⟨⟨mark, hmark, rest, rfl⟩, -⟩
  simp only [idleMarks, List.mem_cons, List.not_mem_nil, or_false] at hmark
  rcases hmark with rfl | rfl | rfl | rfl | rfl | rfl | rfl | rfl <;>
    exact record_ofLine?_eq rfl rfl rfl rfl f

/-- A line above the hunks is noted in the file at hand. -/
theorem ReadState.next_above {f : File} {line : List Char} (h : isBoundary line = false) :
    ReadState.next { files := [f], focus := some { path := f.path } } line =
      { files := [record (ExtendedHeader.ofLine? line) f], focus := some { path := f.path } } := by
  rw [next, nextFiles_of_body _ h, nextFocus_of_body _ h]
  simp [updateFile, Focus.note?, Focus.read]

/-- Idle lines leave a file as it is. -/
theorem ReadState.after_idle {f : File} {lines : List (List Char)}
    (h : ∀ line ∈ lines, IsIdle line) :
    ReadState.after { files := [f], focus := some { path := f.path } } lines =
      { files := [f], focus := some { path := f.path } } := by
  induction lines with
  | nil =>
    rfl
  | cons line lines ih =>
    have hline : IsIdle line := h line (by simp)
    rw [after_cons, next_above hline.not_boundary, hline.record_eq]
    exact ih fun other hother => h other (by simp [hother])

/-- What happens to a file is read from the line that says it. -/
theorem ReadState.after_status {path : String} {status : Status} {oldPath : Option String}
    {lines : List (List Char)} (h : StatusWritten status oldPath lines) :
    ReadState.after { files := [{ path := path }], focus := some { path := path } } lines =
      { files := [{ path := path, status := status, oldPath := oldPath }]
        focus := some { path := path } } := by
  cases h with
  | modified =>
    rfl
  | added _ =>
    exact next_above (f := { path := path }) rfl
  | deleted _ =>
    exact next_above (f := { path := path }) rfl
  | renamed old =>
    rw [after_cons, next_above (f := { path := path }) rfl]
    have hnote : ExtendedHeader.ofLine? ("rename from ".toList ++ old.toList) =
        some (.origin .renamed (String.ofList old.toList)) := rfl
    rw [hnote, String.ofList_toList]
    rfl
  | copied old =>
    rw [after_cons, next_above (f := { path := path }) rfl]
    have hnote : ExtendedHeader.ofLine? ("copy from ".toList ++ old.toList) =
        some (.origin .copied (String.ofList old.toList)) := rfl
    rw [hnote, String.ofList_toList]
    rfl

/-! ## Hunks -/

/-- A hunk header closes the open hunk and opens the one that it begins. -/
theorem ReadState.next_header {s : ReadState} {path : String} {h : Header} {line : List Char}
    (hfocus : focusPath s.focus = some path) (hw : HeaderWritten h line) (hh : h.Writable) :
    s.next line =
      { files := s.flush.files, focus := some { path := path, hunk := some (.ofHeader h) } } := by
  rcases hw.isHunkMark_eq with ⟨hmark, hfile⟩
  rcases Option.map_eq_some_iff.1 hfocus with ⟨focus, heq, rfl⟩
  rw [next, nextFiles_of_hunkMark _ hfile hmark, nextFocus_of_hunkMark _ hfile hmark, heq,
    hw.hunkHeader?_eq hh]
  rfl

/-- A hunk whose body was read is added to its file once it is closed. -/
theorem ReadState.after_hunk {s : ReadState} {f : File} {hunk : Hunk} {header : List Char}
    {body : List (List Char)} (hfocus : focusPath s.focus = some f.path)
    (hfiles : s.flush.files = [f])
    (hw : HeaderWritten hunk.header header) (hh : hunk.header.Writable)
    (hbody : ∃ h : OpenHunk, h.close = hunk ∧
      ReadState.after
          { files := [f]
            focus := some { path := f.path, hunk := some (.ofHeader hunk.header) } } body =
        { files := [f], focus := some { path := f.path, hunk := some h } }) :
    focusPath (s.after (header :: body)).focus = some f.path ∧
      (s.after (header :: body)).flush.files = [f.addHunk hunk] := by
  rcases hbody with ⟨h, hclose, hafter⟩
  rw [after_cons, next_header hfocus hw hh, hfiles, hafter]
  refine ⟨rfl, ?_⟩
  simp [flush_files, updateFile, hclose]

/-- Hunks that were written are added to the file at hand, in their order. -/
theorem ReadState.after_hunks {f : File} {hunks : List Hunk} {lines : List (List Char)}
    (hw : HunksWritten hunks lines) (hhunks : ∀ h ∈ hunks, h.Writable) {s : ReadState}
    (hfocus : focusPath s.focus = some f.path) (hfiles : s.flush.files = [f]) :
    (s.after lines).flush.files = [{ f with hunks := f.hunks ++ hunks }] := by
  -- the hunks so far are in the table once the open hunk is closed
  induction hw generalizing s f with
  | nil =>
    simpa using hfiles
  | @cons hunk hunks header body rest hheader hbody _ ih =>
    have hhunk : hunk.Writable := hhunks hunk (by simp)
    have hread := ReadState.after_body [f] f.path hbody (h := .ofHeader hunk.header) hhunk.oldCount
      hhunk.newCount
    rcases after_hunk hfocus hfiles hheader hhunk.header hread with ⟨hfocus', hfiles'⟩
    have hrest := ih (fun other hother => hhunks other (by simp [hother])) (f := f.addHunk hunk)
      hfocus' hfiles'
    rw [← List.cons_append, after_append, hrest]
    simp [File.addHunk]

/-! ## Refusals -/

/-- Nothing is refused if no line is. -/
theorem refusalIn?_eq_none {lines : List (List Char)} (h : ∀ line ∈ lines, refusal? line = none)
    (focus : Option Focus) : refusalIn? focus lines = none := by
  induction lines generalizing focus with
  | nil =>
    rfl
  | cons line lines ih =>
    have hline : refusal? line = none := h line (by simp)
    have hrest := ih (fun other hother => h other (by simp [hother])) (nextFocus focus line)
    simp [refusalIn?, hline, hrest]

/-- A written body begins neither a file nor a hunk. -/
theorem BodyWritten.not_boundary {lines : List Line} {texts : List (List Char)}
    (h : BodyWritten lines texts) : ∀ text ∈ texts, isBoundary text = false := by
  induction h with
  | nil =>
    simp
  | line hline _ ih =>
    simpa [hline.not_boundary] using ih
  | note s _ _ ih =>
    simpa [note_not_boundary s] using ih

theorem StatusWritten.not_boundary {status : Status} {oldPath : Option String}
    {lines : List (List Char)} (h : StatusWritten status oldPath lines) :
    ∀ line ∈ lines, isBoundary line = false := by
  cases h with
  | modified =>
    simp
  | added _ =>
    exact List.forall_mem_singleton.2 rfl
  | deleted _ =>
    exact List.forall_mem_singleton.2 rfl
  | renamed _ =>
    exact List.forall_mem_singleton.2 rfl
  | copied _ =>
    exact List.forall_mem_singleton.2 rfl

/-- No number in written hunks is refused. -/
theorem HunksWritten.refusal?_eq {hunks : List Hunk} {lines : List (List Char)}
    (h : HunksWritten hunks lines) (hhunks : ∀ hunk ∈ hunks, hunk.Writable) :
    ∀ line ∈ lines, refusal? line = none := by
  intro line hline
  rcases h.header_or_body hline with ⟨hunk, hhunk, hheader | ⟨body, hbody, hmem⟩⟩
  · exact hheader.refusal?_eq (hhunks hunk hhunk).header
  · exact refusal?_of_body (hbody.not_boundary line hmem)

/-- Nor is any in a written file. -/
theorem FileWritten.refusal?_eq {f : File} {lines : List (List Char)} (h : FileWritten f lines)
    (hf : f.Writable) : ∀ line ∈ lines, refusal? line = none := by
  rcases h with ⟨hbefore, hstatus, hafter, hhunks⟩
  intro line hline
  simp only [List.mem_cons, List.mem_append] at hline
  rcases hline with rfl | ((hline | hline) | hline) | hline
  · simp [refusal?, isFileHeader_fileHeader]
  · exact refusal?_of_body (hbefore line hline).not_boundary
  · exact refusal?_of_body (hstatus.not_boundary line hline)
  · exact refusal?_of_body (hafter line hline).not_boundary
  · exact hhunks.refusal?_eq hf.hunks line hline

/-! ## Files -/

/-- A file header alone names its file. -/
theorem ReadState.next_fileHeader {f : File} (hf : f.Writable) :
    ReadState.next {} (fileHeader f) =
      { files := [{ path := f.path }], focus := some { path := f.path } } := by
  rw [next, nextFiles_of_fileHeader _ (isFileHeader_fileHeader f),
    nextFocus_of_fileHeader _ (isFileHeader_fileHeader f), filePath?_fileHeader hf]
  rfl

/-- The lines of a file are read as the file. -/
theorem FileWritten.ofLines_eq {f : File} {lines : List (List Char)} (h : FileWritten f lines)
    (hf : f.Writable) : ofLines lines = .ok { files := [f] } := by
  have hrefusal : refusalIn? none lines = none := refusalIn?_eq_none (h.refusal?_eq hf) none
  rcases h with ⟨hbefore, hstatus, hafter, hhunks⟩
  rename_i before status after hunks
  -- above the hunks the file has everything but its hunks, and no hunk is open
  let bare : File := { path := f.path, status := f.status, oldPath := f.oldPath }
  let top : ReadState := { files := [bare], focus := some { path := f.path } }
  have htop : ReadState.after {} (fileHeader f :: (before ++ status ++ after)) = top := by
    rw [ReadState.after_cons, ReadState.next_fileHeader hf, ReadState.after_append,
      ReadState.after_append, ReadState.after_idle (f := { path := f.path }) hbefore,
      ReadState.after_status hstatus]
    exact ReadState.after_idle (f := bare) hafter
  have hfiles : (top.after hunks).flush.files = [{ bare with hunks := bare.hunks ++ f.hunks }] :=
    ReadState.after_hunks (f := bare) hhunks hf.hunks rfl rfl
  rw [ofLines_eq_ok_iff]
  refine ⟨hrefusal, ?_⟩
  rw [← List.cons_append, ReadState.after_append, htop, hfiles]
  rfl

/-- Files of other paths are put behind the earlier ones. -/
theorem mergeFiles_of_disjoint {earlier later : List File}
    (h : ∀ f ∈ earlier, f.path ∉ later.map (·.path)) :
    mergeFiles earlier later = earlier ++ later := by
  have hmap : earlier.map (File.andThenIn later) = earlier := by
    conv_rhs => rw [← List.map_id earlier]
    apply List.map_congr_left
    intro f hf
    rw [File.andThenIn, find?_path_eq_none (h f hf)]
    rfl
  have hfilter : (later.filter fun g => !earlier.any (·.path == g.path)) = later := by
    rw [List.filter_eq_self]
    intro g hg
    rw [Bool.not_eq_true', ← Bool.not_eq_true, any_path_iff]
    intro hmem
    rcases List.mem_map.1 hmem with ⟨f, hf, hpath⟩
    exact h f hf (hpath ▸ List.mem_map_of_mem hg)
  rw [mergeFiles, hmap, hfilter]

/-- Lines of one file in front of those of other files. -/
theorem ofLines_file_append {f : File} {files : List File} {lines tail : List (List Char)}
    {line : List Char}
    (h : isFileHeader line = true) (hone : ofLines lines = .ok { files := [f] })
    (hmany : ofLines (line :: tail) = .ok { files := files }) (hnew : f.path ∉ files.map (·.path)) :
    ofLines (lines ++ line :: tail) = .ok { files := f :: files } := by
  -- the rest begins with a file header, so it is merged, and the paths keep the files apart
  have hdisjoint : ∀ other ∈ [f], other.path ∉ files.map (·.path) := by
    simpa using hnew
  have hmerge : Diff.merge { files := [f] } { files := files } = { files := f :: files } := by
    rw [Diff.merge, mergeFiles_of_disjoint hdisjoint]
    rfl
  rw [ofLines_append lines tail h, hone, hmany, ← hmerge]
  rfl

/-- Lines that are written for some files begin with a file header. -/
theorem FilesWritten.eq_nil_or_cons {files : List File} {lines : List (List Char)}
    (h : FilesWritten files lines) :
    lines = [] ∧ files = [] ∨ ∃ f rest, lines = fileHeader f :: rest := by
  cases h with
  | nil =>
    exact .inl ⟨rfl, rfl⟩
  | @cons f files lines rest hfile _ =>
    rcases hfile with ⟨_, _, _, _⟩
    exact .inr ⟨f, _, rfl⟩

/-- Files with distinct paths are read from the lines that they are written as. -/
theorem FilesWritten.ofLines_eq {files : List File} {lines : List (List Char)}
    (h : FilesWritten files lines) (hfiles : ∀ f ∈ files, f.Writable)
    (hpaths : (files.map (·.path)).Nodup) : ofLines lines = .ok { files := files } := by
  induction h with
  | nil =>
    rfl
  | @cons f files lines rest hfile hrest ih =>
    have hone : ofLines lines = .ok { files := [f] } := hfile.ofLines_eq (hfiles f (by simp))
    rw [List.map_cons, List.nodup_cons] at hpaths
    have hmany : ofLines rest = .ok { files := files } :=
      ih (fun other hother => hfiles other (by simp [hother])) hpaths.2
    rcases hrest.eq_nil_or_cons with ⟨rfl, rfl⟩ | ⟨g, tail, rfl⟩
    · simpa using hone
    · exact ofLines_file_append (isFileHeader_fileHeader g) hone hmany hpaths.1

/-! ## Texts -/

/-- Written files begin with a header, so with no mark of the order of bytes. -/
theorem FilesWritten.head?_ne_mark {files : List File} {lines : List (List Char)}
    (h : FilesWritten files lines) {text : List Char} (htext : Holds text lines) :
    text.head? ≠ some '\ufeff' := by
  rcases h.eq_nil_or_cons with ⟨rfl, -⟩ | ⟨f, rest, rfl⟩
  · cases htext
    simp
  · rcases htext with _ | ⟨_, lineEnd, htext⟩
    rename_i text
    have hhead : (fileHeader f ++ lineEnd.returns ++ '\n' :: text).head? = some 'd' := rfl
    rw [hhead]
    decide

/-- The text is read as the files, whatever marks stand at its start. -/
theorem FilesWritten.parse_eq {files : List File} {lines : List (List Char)} {body : List Char}
    {text : String} {marks : Nat} (h : FilesWritten files lines) (hbody : Holds body lines)
    (htext : text.toList = List.replicate marks '\ufeff' ++ body)
    (hfiles : ∀ f ∈ files, f.Writable) (hpaths : (files.map (·.path)).Nodup) :
    parse text = .ok { files := files } := by
  rw [parse, htext, hbody.textLines_eq marks (h.fits hfiles) (h.head?_ne_mark hbody),
    h.ofLines_eq hfiles hpaths]

/-- Every text that some files of different paths may be written as is read as those files. -/
theorem parse_written {files : List File} {text : String} (hfiles : ∀ f ∈ files, f.Writable)
    (hpaths : (files.map (·.path)).Nodup) (h : Written files text) :
    parse text = .ok { files := files } := by
  rcases h with ⟨marks, hwritten, hbody, htext⟩
  exact hwritten.parse_eq hbody htext hfiles hpaths

/-- Content that looks like headers, line ends of both kinds, and an old path with a mark in it. -/
theorem parse_written_lookalikes :
    parse ("\ufeffdiff --git a/lib b/x b/src/x\r\n" ++ "similarity index 90%\n" ++
        "rename from lib b/x\n" ++ "rename to src/x\r\n" ++ "--- a/lib b/x\n" ++
        "@@ -1,2 +1,2 @@ def f\n" ++ "\r\n" ++ "--- a\n" ++ "\\ No newline\n" ++ "+++ b\n" ++
        "@@ -9 +9,0 @@\n" ++ "-diff --git a/x b/x\n" ++ "diff --git a/y b/y\n" ++
        "new file mode 100644\n" ++ "@@ -0,0 +1 @@\n" ++ "+@@ -1 +1 @@\n") =
      .ok { files := [
        { path := "src/x"
          status := .renamed
          oldPath := some "lib b/x"
          hunks := [
            ⟨⟨1, 2, 1, 2, some "def f"⟩,
              [⟨.context, ""⟩, ⟨.deletion, "-- a"⟩, ⟨.addition, "++ b"⟩]⟩,
            ⟨⟨9, 1, 9, 0, none⟩, [⟨.deletion, "diff --git a/x b/x"⟩]⟩] },
        { path := "y"
          status := .added
          hunks := [⟨⟨0, 0, 1, 1, none⟩, [⟨.addition, "@@ -1 +1 @@"⟩]⟩] }] } := by
  have hbefore : ∀ line ∈ ["similarity index 90%".toList], IsIdle line := by
    decide +kernel
  have hafter : ∀ line ∈ ["rename to src/x".toList, "--- a/lib b/x".toList], IsIdle line := by
    decide +kernel
  have hnone : ∀ line ∈ ([] : List (List Char)), IsIdle line := by
    simp
  have hnote : FitsLine " No newline".toList := by
    decide +kernel
  have hmode : FitsLine " 100644".toList := by
    decide +kernel
  apply parse_written (by decide +kernel) (by decide)
  apply Written.mk 1
  · apply FilesWritten.cons
    · apply FileWritten.mk hbefore (.renamed _) hafter
      apply HunksWritten.cons (.mk (.full 2) (.full 2))
      · exact .line .bare (.line (.marked _) (.note _ hnote (.line (.marked _) .nil)))
      · exact .cons (.mk .single (.full 0)) (.line (.marked _) .nil) .nil
    · apply FilesWritten.cons
      · apply FileWritten.mk hnone (.added hmode) hnone
        exact .cons (.mk (.full 0) .single) (.line (.marked _) .nil) .nil
      · exact .nil
  · exact .cons _ .crlf (.cons _ .lf (.cons _ .lf (.cons _ .crlf (.cons _ .lf (.cons _ .lf
      (.cons _ .crlf (.cons _ .lf (.cons _ .lf (.cons _ .lf (.cons _ .lf (.cons _ .lf (.cons _ .lf
      (.cons _ .lf (.cons _ .lf (.cons _ .lf .nil)))))))))))))))
  · simp only [String.toList_append]
    decide +kernel

end Diff
end PatchReview
