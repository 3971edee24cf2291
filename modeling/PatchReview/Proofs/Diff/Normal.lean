import PatchReview.Proofs.Diff.Rendering

/-!
# Every diff that is read can be read back

Whatever text a diff was read from, the text that is written for it is read as the same diff.
Reading keeps an invariant: the files so far and the open hunk have a written form. A path of a file
header fits one of the two forms of headers, the numbers of a hunk header are within the limit, and
a line that a hunk has taken would be taken again behind its marker.
-/

namespace PatchReview
namespace Diff

/-! ## Paths -/

theorem someUnlessEmpty_eq_some_iff {s t : List Char} :
    someUnlessEmpty s = some t ↔ s = t ∧ t ≠ [] := by
  cases s with
  | nil =>
    constructor
    · intro h
      cases h
    · rintro ⟨rfl, hne⟩
      exact absurd rfl hne
  | cons c s =>
    constructor
    · intro h
      cases h
      exact ⟨rfl, List.cons_ne_nil c s⟩
    · rintro ⟨rfl, -⟩
      rfl

/-- A path behind the last mark of a line ends the line and has no mark of its own. -/
theorem of_plainPath? {line path : List Char} (h : plainPath? line = some path) :
    path ≠ [] ∧ path <:+ line ∧ ¬ " b/".toList <:+: path := by
  rw [plainPath?] at h
  split at h
  · next before after hcut =>
    rcases someUnlessEmpty_eq_some_iff.1 h with ⟨rfl, hne⟩
    rcases Text.eq_append_of_cutLast? (by decide) hcut with ⟨rfl, hlast⟩
    exact ⟨hne, List.suffix_append _ _, hlast⟩
  · split at h
    · next before after hcut =>
      rcases someUnlessEmpty_eq_some_iff.1 h with ⟨rfl, hne⟩
      rcases Text.eq_append_of_cutLast? (by decide) hcut with ⟨rfl, hlast⟩
      -- the longer mark holds the shorter one, which does not occur behind its last place
      have hshort : "b/".toList <:+: " b/".toList := ⟨[' '], [], rfl⟩
      exact ⟨hne, List.suffix_append _ _, fun hlong => hlast (hshort.trans hlong)⟩
    · cases h

/-- What is read as the path of a header can be written in one. -/
theorem HeaderPath.of_headerPath? {line path : List Char} (hline : FitsLine line)
    (h : headerPath? line = some path) : HeaderPath path := by
  have hplain (hread : plainPath? line = some path)
      (hquoted : " \"b/".toList <:+: line → line.getLast? ≠ some '"') : HeaderPath path := by
    rcases of_plainPath? hread with ⟨hne, hsuffix, hmark⟩
    refine ⟨hne, (hline.of_suffix hsuffix).noFeed, ?_⟩
    by_cases hin : " \"b/".toList <:+: path
    · refine .inr ⟨hmark, ?_, (hline.of_suffix hsuffix).noReturn⟩
      intro hquote
      rcases hsuffix with ⟨front, rfl⟩
      apply hquoted (hin.trans (List.suffix_append front path).isInfix)
      rw [List.getLast?_append_of_ne_nil front hne, hquote]
    · exact .inl hin
  rw [headerPath?] at h
  split at h
  · next hlast =>
    split at h
    · next before after hcut =>
      -- the path ends in front of the closing quote
      rcases someUnlessEmpty_eq_some_iff.1 h with ⟨rfl, hne⟩
      rcases Text.eq_append_of_cutLast? (by decide) hcut with ⟨rfl, hmark⟩
      have hinit : after.dropLast <+: after := List.dropLast_prefix after
      refine ⟨hne, ?_, .inl fun hin => hmark (hin.trans hinit.isInfix)⟩
      intro hfeed
      exact hline.noFeed (List.mem_append_right _ (hinit.subset hfeed))
    · next hcut =>
      exact hplain h fun hin => absurd hin (Text.cutLast?_eq_none_iff.1 hcut)
  · next hlast =>
    exact hplain h fun _ heq => hlast (by simp [heq])

/-- So can the path of a file that is read. -/
theorem HeaderPath.of_filePath? {line : List Char} {path : String} (hline : FitsLine line)
    (h : filePath? line = some path) : HeaderPath path.toList := by
  rcases Option.map_eq_some_iff.1 h with ⟨chars, hread, rfl⟩
  rw [String.toList_ofList]
  exact .of_headerPath? hline hread

/-! ## Hunk headers -/

/-- The heading stands at the end of the header. -/
theorem HeaderText.Spells.heading_suffix {t : HeaderText} {line : List Char} (h : t.Spells line) :
    t.heading <:+ line := by
  rcases h.line_eq with ⟨tail, rfl, rfl | ⟨rfl, -⟩⟩
  · exact (List.suffix_cons ' ' t.heading).trans (List.suffix_append _ _)
  · exact List.suffix_append _ _

/-- A hunk header that is not refused can be written. -/
theorem Header.Writable.of_hunkHeader? {line : List Char} {header : Header} (hline : FitsLine line)
    (hrefusal : refusal? line = none) (h : hunkHeader? line = some header) : header.Writable := by
  rcases Option.map_eq_some_iff.1 h with ⟨t, hread, rfl⟩
  have hspells : t.Spells line := HeaderText.read?_eq_some_iff.1 hread
  rcases isHunkMark_of_spells hspells with ⟨hmark, hfile⟩
  cases hheader : t.toHeader with
  | error e =>
    simp [refusal?, hmark, hfile, hread, hheader] at hrefusal
  | ok header =>
    rw [← HeaderText.eq_header_of_toHeader hheader]
    rcases HeaderText.reads_of_toHeader hheader with
      ⟨holdCount, hnewCount, holdStart, hnewStart, hheading⟩
    -- the numbers were read, so none of them is too large to be written
    refine ⟨Decimal.lt_numberLimit_of_readDigits holdStart,
      RangeText.lt_numberLimit_of_readCount holdCount,
      Decimal.lt_numberLimit_of_readDigits hnewStart,
      RangeText.lt_numberLimit_of_readCount hnewCount, ?_, ?_⟩
    · rw [hheading]
      split
      · simp
      · next hempty =>
        simpa using hempty
    · intro s hs
      rw [hheading] at hs
      split at hs
      · cases hs
      · cases hs
        rw [String.toList_ofList]
        exact hline.of_suffix hspells.heading_suffix

/-! ## Lines of a hunk -/

/-- The text behind the marker of a line is the line, or what stands behind its first character. -/
theorem classify_text_eq (line : List Char) :
    (classify line).text = line ∨ (classify line).text = ' ' :: line := by
  unfold classify
  split
  · exact .inl (by simp [Line.text, LineKind.marker])
  · exact .inl (by simp [Line.text, LineKind.marker])
  · exact .inl (by simp [Line.text, LineKind.marker])
  · exact .inr (by simp [Line.text, LineKind.marker])

/-- The content of a line is one line. -/
theorem fits_classify {line : List Char} (h : FitsLine line) :
    FitsLine (classify line).content.toList := by
  have hsuffix : (classify line).content.toList <:+ line := by
    unfold classify
    split
    · simp
    · simp
    · simp
    · simp
  exact h.of_suffix hsuffix

/-- A context line is never passed over. -/
theorem Header.passesOver_blank (h : Header) (taken : List Line) (s : List Char) :
    h.passesOver taken (' ' :: s) = false := by
  have hmarks : extendedMarks.any (Text.startsWith · (' ' :: s)) = false := rfl
  have hnote : Text.startsWith "\\" (' ' :: s) = false := rfl
  rw [passesOver, hnote, hmarks, List.isEmpty_cons, Bool.or_false, Bool.and_false, Bool.or_false]

/-- A line that is taken is taken again behind its marker. -/
theorem Header.passesOver_text {h : Header} {taken : List Line} {line : List Char}
    (hline : h.passesOver taken line = false) :
    h.passesOver taken (classify line).text = false := by
  rcases classify_text_eq line with hsame | hblank
  · rw [hsame, hline]
  · rw [hblank]
    exact h.passesOver_blank taken line

/-- Lines are read again one after the other. -/
theorem Header.replays_concat {h : Header} {taken lines : List Line} {line : Line} :
    h.Replays taken (lines ++ [line]) ↔
      h.Replays taken lines ∧ h.passesOver (taken ++ lines) line.text = false := by
  induction lines generalizing taken with
  | nil =>
    simp [Replays]
  | cons first lines ih =>
    simp [Replays, ih, and_assoc]

/-- An open hunk stays readable with another line. -/
theorem OpenHunk.Counted.readable_read {h : OpenHunk} (hc : h.Counted) (hh : h.close.Readable)
    {line : List Char} (hline : FitsLine line) : (h.read line).close.Readable := by
  -- a line that is passed over leaves the hunk as it is; any other stands behind its lines
  cases hpass : h.header.passesOver h.lines.toList line with
  | true =>
    have hclose : (h.read line).close = h.close := by
      rw [close, close, read_header, hc.read_lines, Header.take, if_pos hpass]
    rwa [hclose]
  | false =>
    have hclose : (h.read line).close =
        { header := h.header, lines := h.lines.toList ++ [classify line] } := by
      rw [close, read_header, hc.read_lines, Header.take, if_neg (Bool.eq_false_iff.1 hpass)]
    rw [hclose]
    refine ⟨hh.header, ?_, ?_⟩
    · intro content hcontent
      rcases List.mem_append.1 hcontent with hold | hnew
      · exact hh.content content hold
      · obtain rfl := List.mem_singleton.1 hnew
        exact fits_classify hline
    · exact Header.replays_concat.2 ⟨hh.replays, Header.passesOver_text hpass⟩

/-! ## Files -/

/-- A file without anything is readable if its path can be written. -/
theorem File.readable_bare {path : String} (h : HeaderPath path.toList) :
    File.Readable { path := path } where
  path := h
  oldPath_fits := by simp
  modified := fun _ => rfl
  origin := by simp
  hunks := by simp

/-- A readable hunk may be added. -/
theorem File.Readable.addHunk {f : File} (hf : f.Readable) {hunk : Hunk} (hhunk : hunk.Readable) :
    (f.addHunk hunk).Readable where
  path := hf.path
  oldPath_fits := hf.oldPath_fits
  modified := hf.modified
  origin := hf.origin
  hunks := by
    intro h hmem
    rcases List.mem_append.1 hmem with hold | hnew
    · exact hf.hunks h hold
    · obtain rfl := List.mem_singleton.1 hnew
      exact hhunk

/-- An origin gives its own status, and its path ends the line; any other status is one without
origin. -/
theorem ExtendedHeader.of_ofLine? {line : List Char} {header : ExtendedHeader}
    (h : ofLine? line = some header) : match header with
      | .status new => new = .added ∨ new = .deleted
      | .origin new old => (new = .renamed ∨ new = .copied) ∧ old.toList <:+ line
      | .ignored => True := by
  rw [ofLine?] at h
  split at h
  · cases h
    exact .inl rfl
  · split at h
    · cases h
      exact .inr rfl
    · split at h
      · next path hpath =>
        cases h
        obtain rfl := Text.afterStart?_eq_some_iff.1 hpath
        refine ⟨.inl rfl, ?_⟩
        rw [String.toList_ofList]
        exact List.suffix_append _ path
      · split at h
        · next path hpath =>
          cases h
          obtain rfl := Text.afterStart?_eq_some_iff.1 hpath
          refine ⟨.inr rfl, ?_⟩
          rw [String.toList_ofList]
          exact List.suffix_append _ path
        · split at h
          · cases h
            trivial
          · cases h

/-- An extended header leaves a file readable. -/
theorem File.Readable.apply {f : File} (hf : f.Readable) {line : List Char} (hline : FitsLine line)
    {header : ExtendedHeader} (h : ExtendedHeader.ofLine? line = some header) :
    (header.apply f).Readable := by
  have hheader := ExtendedHeader.of_ofLine? h
  cases header with
  | status new =>
    refine ⟨hf.path, hf.oldPath_fits, ?_, ?_, hf.hunks⟩
    · rintro rfl
      simp at hheader
    · rintro (rfl | rfl)
      · simp at hheader
      · simp at hheader
  | origin new old =>
    -- an earlier status gives way, so a modified file never has an origin
    refine ⟨hf.path, ?_, ?_, fun _ => ⟨old, rfl⟩, hf.hunks⟩
    · rintro other ⟨⟩
      exact hline.of_suffix hheader.2
    · rintro rfl
      simp at hheader
  | ignored =>
    exact hf

/-- So does whatever is noted of a line. -/
theorem File.Readable.record {f : File} (hf : f.Readable) (focus : Focus) {line : List Char}
    (hline : FitsLine line) : (record (focus.note? line) f).Readable := by
  cases hnote : focus.note? line with
  | none =>
    exact hf
  | some header =>
    rw [Focus.note?] at hnote
    split at hnote
    · cases hnote
    · exact hf.apply hline hnote

/-! ## States -/

/-- A state whose files and open hunk have a written form. -/
structure ReadState.Readable (s : ReadState) : Prop where
  files : ∀ f ∈ s.files, f.Readable
  hunk : ∀ focus h, s.focus = some focus → focus.hunk = some h → h.close.Readable

theorem ReadState.readable_empty : ReadState.Readable {} where
  files := by simp
  hunk := by simp

/-- What holds of all files still does after an update that keeps it. -/
theorem forall_mem_updateFile {P : File → Prop} {path : String} {change : File → File}
    {files : List File} (hfiles : ∀ f ∈ files, P f) (hchange : ∀ f, P f → P (change f)) :
    ∀ f ∈ updateFile path change files, P f := by
  intro f hf
  rcases List.mem_map.1 hf with ⟨g, hg, rfl⟩
  split
  · exact hchange g (hfiles g hg)
  · exact hfiles g hg

/-- Closing a hunk leaves the files readable. -/
theorem ReadState.Readable.flush {s : ReadState} (hs : s.Readable) :
    ∀ f ∈ s.flush.files, f.Readable := by
  rw [s.flush_files]
  split
  · next path h hfocus =>
    exact forall_mem_updateFile hs.files fun f hf => hf.addHunk (hs.hunk _ h hfocus rfl)
  · exact hs.files

/-- A new file with a path that can be written is readable. -/
theorem forall_mem_ensureFile {path : String} (hpath : HeaderPath path.toList) {files : List File}
    (hfiles : ∀ f ∈ files, f.Readable) : ∀ f ∈ ensureFile path files, f.Readable := by
  rw [ensureFile]
  split
  · exact hfiles
  · intro f hf
    rcases List.mem_append.1 hf with hold | hnew
    · exact hfiles f hold
    · obtain rfl := List.mem_singleton.1 hnew
      exact File.readable_bare hpath

/-- A line leaves the state readable, if no number in it is refused. -/
theorem ReadState.Readable.next {s : ReadState} (hs : s.Readable) (hv : s.Valid) {line : List Char}
    (hline : FitsLine line) (hrefusal : (s.focus.bind fun _ => refusal? line) = none) :
    (s.next line).Readable := by
  cases hboundary : isBoundary line with
  | true =>
    cases hfile : isFileHeader line with
    | true =>
      constructor
      · rw [next_files, s.nextFiles_of_fileHeader hfile]
        split
        · next path hpath =>
          exact forall_mem_ensureFile (.of_filePath? hline hpath) hs.flush
        · exact hs.flush
      · intro focus h hfocus hhunk
        rw [next_focus, nextFocus_of_fileHeader _ hfile] at hfocus
        rcases Option.map_eq_some_iff.1 hfocus with ⟨path, -, rfl⟩
        cases hhunk
    | false =>
      have hmark : isHunkMark line = true := isHunkMark_of_boundary hboundary hfile
      constructor
      · rw [next_files, s.nextFiles_of_hunkMark hfile hmark]
        exact hs.flush
      · intro focus h hfocus hhunk
        rw [next_focus, nextFocus_of_hunkMark _ hfile hmark] at hfocus
        rcases Option.map_eq_some_iff.1 hfocus with ⟨before, hbefore, rfl⟩
        rcases Option.map_eq_some_iff.1 hhunk with ⟨header, hheader, rfl⟩
        -- a hunk below its header has no lines yet, so only the header counts
        rw [hbefore, Option.bind_some] at hrefusal
        exact ⟨.of_hunkHeader? hline hrefusal hheader, by simp [OpenHunk.close, OpenHunk.ofHeader],
          trivial⟩
  | false =>
    constructor
    · rw [next_files, s.nextFiles_of_body hboundary]
      split
      · next focus hfocus =>
        exact forall_mem_updateFile hs.files fun f hf => hf.record focus hline
      · exact hs.files
    · intro focus h hfocus hhunk
      rw [next_focus, nextFocus_of_body _ hboundary] at hfocus
      rcases Option.map_eq_some_iff.1 hfocus with ⟨before, hbefore, rfl⟩
      rcases Option.map_eq_some_iff.1 hhunk with ⟨old, hold, rfl⟩
      exact (hv.counted before old hbefore hold).readable_read
        (hs.hunk before old hbefore hold) hline

/-- So do several lines, one by one. -/
theorem ReadState.Readable.after {s : ReadState} (hs : s.Readable) (hv : s.Valid)
    {lines : List (List Char)} (hlines : ∀ line ∈ lines, FitsLine line)
    (hrefusal : refusalIn? s.focus lines = none) : (s.after lines).Readable := by
  induction lines generalizing s with
  | nil =>
    exact hs
  | cons line lines ih =>
    rw [refusalIn?, Option.or_eq_none_iff] at hrefusal
    have hnext : (s.next line).Readable := hs.next hv (hlines line List.mem_cons_self) hrefusal.1
    exact ih hnext (hv.next line)
      (fun other hother => hlines other (List.mem_cons_of_mem line hother)) hrefusal.2

/-! ## Texts -/

/-- Every file of a parsed diff can be written and read again. -/
theorem readable_of_parse {text : String} {d : Diff} (h : parse text = .ok d) :
    ∀ f ∈ d.files, f.Readable := by
  rcases ofLines_eq_ok_iff.1 h with ⟨hrefusal, rfl⟩
  have hlines : ∀ line ∈ textLines text.toList, FitsLine line := fun _ => fits_of_mem_textLines
  have hafter : (ReadState.after {} (textLines text.toList)).Readable :=
    ReadState.readable_empty.after ReadState.valid_empty hlines hrefusal
  exact hafter.flush

/-- Writing a diff that was read, whatever the text, gives a text that is read as the same diff. -/
theorem parse_render_of_parse {text : String} {d : Diff} (h : parse text = .ok d) :
    parse (render d) = .ok d :=
  parse_render (readable_of_parse h) (nodup_paths_of_parse h)

/-- A path in quotes, and a hunk with fewer lines than declared. -/
def quotedText : String := "diff --git \"a/p\" \"b/p \"q b/r\r\"\n@@ -1,9 +1 @@ f\n-a\n"

/-- An added file that comes from another, with the mark of a path in quotes, and a hunk with more
lines than declared. -/
def addedText : String :=
  "diff --git a/y b/y \"b/z\nrename from o \"\nnew file mode\n@@ -1 +1 @@\n-a\n+b\n+c\n\nstray\n"

/-- A path without a mark, and the added file once more. -/
def againText : String :=
  "diff --git x/b/w\ndiff --git a/y b/y \"b/z\n@@ -5,0 +5,0 @@\n--- x\n\\ note\n+e\n"

/-- All three, one behind the other. -/
def hostileText : String := quotedText ++ addedText ++ againText

/-- What is read from this text. -/
def hostileDiff : Diff where
  files := [
    { path := "p \"q b/r\r"
      hunks := [⟨⟨1, 9, 1, 1, some "f"⟩, [⟨.deletion, "a"⟩]⟩] },
    { path := "y \"b/z"
      status := .added
      oldPath := some "o \""
      hunks := [
        ⟨⟨1, 1, 1, 1, none⟩, [⟨.deletion, "a"⟩, ⟨.addition, "b"⟩, ⟨.addition, "c"⟩,
          ⟨.context, "stray"⟩]⟩,
        ⟨⟨5, 0, 5, 0, none⟩, [⟨.addition, "e"⟩]⟩] },
    { path := "w" }]

theorem parse_hostileText : parse hostileText = .ok hostileDiff := by
  have hquoted : quotedText.toList = _ := String.toList_ofList
  have hadded : addedText.toList = _ := String.toList_ofList
  have hagain : againText.toList = _ := String.toList_ofList
  unfold parse
  rw [hostileText, String.toList_append, String.toList_append, hquoted, hadded, hagain]
  rfl

theorem parse_render_of_parse_hostile :
    parse hostileText = .ok hostileDiff ∧ parse (render hostileDiff) = .ok hostileDiff :=
  ⟨parse_hostileText, parse_render_of_parse parse_hostileText⟩

end Diff
end PatchReview
