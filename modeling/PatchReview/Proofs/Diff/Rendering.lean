import PatchReview.Proofs.Diff.RoundTrip

/-!
# A written form for every diff

One text for each diff that can be read: a file header, plain or in quotes, the path that the file
comes from, what else happens to it, and its hunks with their markers put back. A hunk may have more
lines than its header declares, or fewer; what counts is that reading, line by line, passes over
none of them.
-/

namespace PatchReview
namespace Diff

/-! ## Writing -/

def Line.text (line : Line) : List Char := line.kind.marker :: line.content.toList

/-- A hunk header with both counts. -/
def Header.text (h : Header) : List Char :=
  "@@ -".toList ++ (Nat.toDigits 10 h.oldStart ++ ',' :: Nat.toDigits 10 h.oldCount) ++
    " +".toList ++
    (Nat.toDigits 10 h.newStart ++ ',' :: Nat.toDigits 10 h.newCount) ++ " @@".toList ++
      headingText h.heading

def Hunk.texts (h : Hunk) : List (List Char) := h.header.text :: h.lines.map Line.text

/-- A file header with a path on both of its sides. -/
def plainHeader (path : List Char) : List Char :=
  "diff --git a/".toList ++ path ++ ' ' :: 'b' :: '/' :: path

/-- A file header with a path in quotes on both of its sides. -/
def quotedHeader (path : List Char) : List Char :=
  "diff --git \"a/".toList ++ (path ++ ['"']) ++ " \"b/".toList ++ (path ++ ['"'])

/-- The header of a file: in quotes if its path is odd, unless the path holds what ends a quoted
one. -/
def pathHeader (path : String) : List Char :=
  if PlainPath path ∨ " \"b/".toList <:+: path.toList then plainHeader path.toList
  else quotedHeader path.toList

/-- The line that says where a file comes from. -/
def originText (status : Status) (old : String) : List Char :=
  (if status = .copied then "copy from " else "rename from ").toList ++ old.toList

/-- The line that says what else happens to a file, if that is something. -/
def changeTexts : Status → List (List Char)
  | .added => ["new file mode 100644".toList]
  | .deleted => ["deleted file mode 100644".toList]
  | _ => []

/-- Where a file comes from, and below what else happens to it. -/
def statusTexts (status : Status) (oldPath : Option String) : List (List Char) :=
  (oldPath.map (originText status)).toList ++ changeTexts status

def File.texts (f : File) : List (List Char) :=
  pathHeader f.path :: (statusTexts f.status f.oldPath ++ f.hunks.flatMap Hunk.texts)

/-- A text of a diff. -/
def render (d : Diff) : String := String.ofList ((d.files.flatMap File.texts).flatMap (· ++ ['\n']))

/-! ## What can be read back -/

/-- A path that one of the two forms of file headers can name. -/
@[mk_iff]
structure HeaderPath (path : List Char) : Prop where
  ne_nil : path ≠ []
  noFeed : '\n' ∉ path
  named : ¬ " \"b/".toList <:+: path ∨
    (¬ " b/".toList <:+: path ∧ path.getLast? ≠ some '"' ∧ path.getLast? ≠ some '\r')

/-- Lines of a hunk none of which is passed over, behind some lines that the hunk has taken. -/
def Header.Replays (h : Header) : (taken : List Line) → List Line → Prop
  | _, [] => True
  | taken, line :: lines => h.passesOver taken line.text = false ∧ h.Replays (taken ++ [line]) lines

/-- A hunk whose lines are taken when they are read. -/
structure Hunk.Readable (h : Hunk) : Prop where
  header : h.header.Writable
  content : ∀ line ∈ h.lines, FitsLine line.content.toList
  replays : h.header.Replays [] h.lines

/-- A file whose header, status and hunks can be read back. -/
structure File.Readable (f : File) : Prop where
  path : HeaderPath f.path.toList
  oldPath_fits : ∀ old ∈ f.oldPath, FitsLine old.toList
  modified : f.status = .modified → f.oldPath = none
  origin : f.status = .renamed ∨ f.status = .copied → ∃ old, f.oldPath = some old
  hunks : ∀ h ∈ f.hunks, h.Readable

/-! ## File headers -/

/-- A quoted header ends with the quotation mark. -/
theorem getLast?_quotedHeader (path : List Char) : (quotedHeader path).getLast? = some '"' := by
  have hne : path ++ ['"'] ≠ [] := by simp
  exact (List.getLast?_append_of_ne_nil _ hne).trans List.getLast?_concat

/-- The path of a quoted header is read from it, unless the mark of the second path is inside. -/
theorem headerPath?_quotedHeader {path : List Char} (hpath : path ≠ [])
    (hmark : ¬ " \"b/".toList <:+: path) : headerPath? (quotedHeader path) = some path := by
  -- the closing quote cannot end a mark, and the mark does not start again inside of itself
  have hlater : ¬ [' ', '"', 'b', '/'] <:+: ['"', 'b', '/'] ++ (path ++ ['"']) := by
    rw [List.cons_append, List.cons_append, List.cons_append, List.infix_cons_iff,
      List.infix_cons_iff, List.infix_cons_iff]
    rintro (hhead | hhead | hhead | hlater)
    · simp at hhead
    · simp at hhead
    · simp at hhead
    · rw [List.nil_append, List.infix_concat_iff] at hlater
      rcases hlater with hend | hinside
      · rcases hend with ⟨front, hfront⟩
        have hquote := congrArg List.getLast? hfront
        simp at hquote
      · exact hmark hinside
  have hcut : Text.cutLast? " \"b/".toList (quotedHeader path) =
      some ("diff --git \"a/".toList ++ (path ++ ['"']), path ++ ['"']) := by
    exact Text.cutLast?_append_mark _ hlater
  rw [headerPath?, if_pos (by simp [getLast?_quotedHeader]), hcut]
  simp [someUnlessEmpty, hpath]

/-- So is that of a plain one, unless it has the mark inside or ends with a quotation mark. -/
theorem headerPath?_plainHeader {path : List Char} (hpath : path ≠ [])
    (hmark : ¬ " b/".toList <:+: path) (hquote : path.getLast? ≠ some '"') :
    headerPath? (plainHeader path) = some path := by
  exact headerPath?_of_mark _ hpath hmark hquote

/-- The header of a file names its path. -/
theorem filePath?_pathHeader {path : String} (h : HeaderPath path.toList) :
    filePath? (pathHeader path) = some path := by
  have hread : headerPath? (pathHeader path) = some path.toList := by
    rw [pathHeader]
    by_cases hplain : PlainPath path
    · have hquote : path.toList.getLast? ≠ some '"' := fun hlast =>
        hplain.noQuote (List.mem_of_getLast? hlast)
      rw [if_pos (.inl hplain)]
      exact headerPath?_plainHeader h.ne_nil hplain.noMark hquote
    · by_cases hmark : " \"b/".toList <:+: path.toList
      · rcases h.named with hno | ⟨hb, hquote, -⟩
        · exact absurd hmark hno
        · rw [if_pos (.inr hmark)]
          exact headerPath?_plainHeader h.ne_nil hb hquote
      · rw [if_neg (not_or.2 ⟨hplain, hmark⟩)]
        exact headerPath?_quotedHeader h.ne_nil hmark
  rw [filePath?, hread, Option.map_some, String.ofList_toList]

/-- Whatever form is chosen for a path, the line is a file header. -/
theorem isFileHeader_pathHeader (path : String) : isFileHeader (pathHeader path) = true := by
  rw [pathHeader]
  split <;> rfl

/-! ## Lines -/

/-- A line is read as what it was written for. -/
@[simp] theorem Line.classify_text (line : Line) : classify line.text = line := by
  rcases line with ⟨kind, content⟩
  cases kind <;> simp [text, LineKind.marker, classify]

/-- What a line is written as begins neither a file nor a hunk. -/
theorem Line.not_boundary (line : Line) : isBoundary line.text = false :=
  (LineWritten.marked line).not_boundary

/-- Of lines that are not passed over, none says anything about its file. -/
theorem Focus.note?_of_not_passesOver {h : OpenHunk} (hc : h.Counted) (path : String)
    {text : List Char} (htext : h.header.passesOver h.lines.toList text = false) :
    Focus.note? { path := path, hunk := some h } text = none := by
  have hnote : Focus.note? { path := path, hunk := some h } text =
      if h.expectsMore = true then none else ExtendedHeader.ofLine? text := rfl
  rw [hnote, hc.expectsMore_eq]
  rw [Header.passesOver, Bool.or_eq_false_iff, Bool.and_eq_false_iff, Bool.or_eq_false_iff] at htext
  cases hused : h.header.usedUp h.lines.toList with
  | false =>
    rfl
  | true =>
    rw [if_neg (by decide)]
    rcases htext.2 with hfree | ⟨-, hmarks⟩
    · rw [hused] at hfree
      cases hfree
    · rw [← isSome_ofLine?_eq] at hmarks
      exact Option.not_isSome_iff_eq_none.1 (Bool.eq_false_iff.1 hmarks)

/-- Lines that are not passed over are read into the open hunk, and change nothing else. -/
theorem ReadState.after_texts (files : List File) (path : String) {lines : List Line} {h : OpenHunk}
    (hc : h.Counted) (hlines : h.header.Replays h.lines.toList lines) :
    ∃ h' : OpenHunk, h'.close = { header := h.header, lines := h.lines.toList ++ lines } ∧
      ReadState.after { files := files, focus := some { path := path, hunk := some h } }
        (lines.map Line.text) =
        { files := files, focus := some { path := path, hunk := some h' } } := by
  induction lines generalizing h with
  | nil =>
    refine ⟨h, ?_, rfl⟩
    simp [OpenHunk.close]
  | cons line lines ih =>
    rcases hlines with ⟨hline, hrest⟩
    -- the line is no note on the file, and the hunk takes it as it was written
    have hnote : Focus.note? { path := path, hunk := some h } line.text = none :=
      Focus.note?_of_not_passesOver hc path hline
    have htaken : (h.read line.text).lines.toList = h.lines.toList ++ [line] := by
      rw [hc.read_lines, Header.take, hline, Line.classify_text]
      rfl
    have hrest' : (h.read line.text).header.Replays (h.read line.text).lines.toList lines := by
      rwa [OpenHunk.read_header, htaken]
    rcases ih (hc.read line.text) hrest' with ⟨h', hclose, hafter⟩
    refine ⟨h', ?_, ?_⟩
    · rw [hclose, OpenHunk.read_header, htaken, List.append_assoc]
      rfl
    · rw [List.map_cons, after_cons, next_of_content line.not_boundary hnote, hafter]

/-! ## Hunks -/

/-- The text of a hunk header is one of the ways to write it. -/
theorem Header.written_text (h : Header) : HeaderWritten h h.text :=
  .mk (.full _) (.full _)

/-- Hunks are read back into the file at hand, in their order. -/
theorem ReadState.after_hunkTexts {f : File} {hunks : List Hunk} (hhunks : ∀ h ∈ hunks, h.Readable)
    {s : ReadState} (hfocus : focusPath s.focus = some f.path) (hfiles : s.flush.files = [f]) :
    (s.after (hunks.flatMap Hunk.texts)).flush.files = [{ f with hunks := f.hunks ++ hunks }] := by
  induction hunks generalizing s f with
  | nil =>
    simpa using hfiles
  | cons hunk hunks ih =>
    have hhunk : hunk.Readable := hhunks hunk List.mem_cons_self
    -- the header opens the hunk, its lines fill it, and the next header or the end closes it
    have hread := ReadState.after_texts [f] f.path (OpenHunk.counted_ofHeader hunk.header)
      hhunk.replays
    rcases after_hunk hfocus hfiles hunk.header.written_text hhunk.header hread with
      ⟨hfocus', hfiles'⟩
    have hrest := ih (fun other hother => hhunks other (List.mem_cons_of_mem _ hother))
      (f := f.addHunk hunk)
      hfocus' hfiles'
    rw [List.flatMap_cons, after_append]
    exact hrest.trans (by simp [File.addHunk])

/-! ## Status -/

/-- A line about the old path is read as such. -/
theorem ofLine?_originText (status : Status) (old : String) :
    ExtendedHeader.ofLine? (originText status old) =
      some (.origin (if status = .copied then .copied else .renamed) old) := by
  have hcopied : ExtendedHeader.ofLine? ("copy from ".toList ++ old.toList) =
      some (.origin .copied (String.ofList old.toList)) := rfl
  have hrenamed : ExtendedHeader.ofLine? ("rename from ".toList ++ old.toList) =
      some (.origin .renamed (String.ofList old.toList)) := rfl
  rw [originText]
  split
  · rw [hcopied, String.ofList_toList]
  · rw [hrenamed, String.ofList_toList]

/-- The lines for a status begin neither a file nor a hunk. -/
theorem not_boundary_of_mem_statusTexts {status : Status} {oldPath : Option String}
    {line : List Char} (h : line ∈ statusTexts status oldPath) : isBoundary line = false := by
  rcases List.mem_append.1 h with horigin | hchange
  · rcases oldPath with _ | old
    · cases horigin
    · obtain rfl := List.mem_singleton.1 horigin
      cases status <;> rfl
  · cases status with
    | added =>
      obtain rfl := List.mem_singleton.1 hchange
      rfl
    | deleted =>
      obtain rfl := List.mem_singleton.1 hchange
      rfl
    | modified => cases hchange
    | renamed => cases hchange
    | copied => cases hchange

/-- A file behind what some lines say about it. -/
def File.noted (f : File) (lines : List (List Char)) : File :=
  lines.foldl (fun f line => record (ExtendedHeader.ofLine? line) f) f

/-- Lines above the hunks are noted in the file at hand, one after the other. -/
theorem ReadState.after_above {f : File} {lines : List (List Char)}
    (h : ∀ line ∈ lines, isBoundary line = false) :
    ReadState.after { files := [f], focus := some { path := f.path } } lines =
      { files := [f.noted lines], focus := some { path := f.path } } := by
  induction lines generalizing f with
  | nil =>
    rfl
  | cons line lines ih =>
    have hrest := ih (f := record (ExtendedHeader.ofLine? line) f)
      fun other hother => h other (List.mem_cons_of_mem _ hother)
    rw [record_path] at hrest
    rw [after_cons, next_above (h line List.mem_cons_self), hrest, File.noted, File.noted,
      List.foldl_cons]

/-- Noting the old path sets the path and the status that goes with it. -/
theorem File.noted_originText (f : File) (status : Status) (old : String) :
    f.noted [originText status old] =
      { f with status := if status = .copied then .copied else .renamed, oldPath := some old } := by
  rw [noted, List.foldl_cons, List.foldl_nil, ofLine?_originText]
  rfl

/-- Noting an addition or a deletion sets that status. -/
theorem File.noted_changeTexts (f : File) (status : Status) :
    f.noted (changeTexts status) =
      { f with status := if status = .added ∨ status = .deleted then status else f.status } := by
  cases status <;> rfl

/-- The origin gives the status that goes with it, and a line below may give another. -/
theorem File.Readable.noted_statusTexts {f : File} (hf : f.Readable) :
    File.noted { path := f.path } (statusTexts f.status f.oldPath) =
      { path := f.path, status := f.status, oldPath := f.oldPath } := by
  have hmodified := hf.modified
  have horigin := hf.origin
  have hsplit : File.noted { path := f.path } (statusTexts f.status f.oldPath) =
      (File.noted { path := f.path } (f.oldPath.map (originText f.status)).toList).noted
        (changeTexts f.status) :=
    List.foldl_append
  rw [hsplit, File.noted_changeTexts]
  cases hold : f.oldPath with
  | none =>
    -- a renamed or copied file has an origin, so the status below is all there is
    cases hstatus : f.status with
    | added => rfl
    | deleted => rfl
    | modified => rfl
    | renamed => simp [hstatus, hold] at horigin
    | copied => simp [hstatus, hold] at horigin
  | some old =>
    rw [Option.map_some, Option.toList_some, File.noted_originText]
    cases hstatus : f.status with
    | added => rfl
    | deleted => rfl
    | modified => simp [hstatus, hold] at hmodified
    | renamed => rfl
    | copied => rfl

/-! ## Files -/

/-- What holds of each kind of line holds of every line of a file. -/
theorem File.forall_mem_texts {f : File} {P : List Char → Prop} (hheader : P (pathHeader f.path))
    (hstatus : ∀ line ∈ statusTexts f.status f.oldPath, P line)
    (hhunk : ∀ h ∈ f.hunks, P h.header.text ∧ ∀ line ∈ h.lines, P line.text) :
    ∀ line ∈ f.texts, P line := by
  intro line hline
  rcases List.mem_cons.1 hline with rfl | hline
  · exact hheader
  · rcases List.mem_append.1 hline with hline | hline
    · exact hstatus line hline
    · rcases List.mem_flatMap.1 hline with ⟨h, hh, hmem⟩
      rcases List.mem_cons.1 hmem with rfl | hmem
      · exact (hhunk h hh).1
      · rcases List.mem_map.1 hmem with ⟨content, hcontent, rfl⟩
        exact (hhunk h hh).2 content hcontent

theorem File.Readable.refusal?_eq {f : File} (hf : f.Readable) :
    ∀ line ∈ f.texts, refusal? line = none := by
  apply File.forall_mem_texts
  · simp [refusal?, isFileHeader_pathHeader]
  · intro line hline
    exact refusal?_of_body (not_boundary_of_mem_statusTexts hline)
  · intro h hh
    refine ⟨h.header.written_text.refusal?_eq (hf.hunks h hh).header, ?_⟩
    intro line _
    exact refusal?_of_body line.not_boundary

theorem fits_quotedHeader {path : List Char} (h : '\n' ∉ path) : FitsLine (quotedHeader path) := by
  have hopen : FitsLine "diff --git \"a/".toList := by decide
  have hmark : FitsLine " \"b/".toList := by decide
  have hquoted : FitsLine (path ++ ['"']) := by
    constructor
    · simp [h]
    · simp
  exact ((hopen.append hquoted).append hmark).append hquoted

theorem fits_plainHeader {path : List Char} (h : FitsLine path) : FitsLine (plainHeader path) := by
  have hopen : FitsLine "diff --git a/".toList := by decide
  have hmark : FitsLine (' ' :: 'b' :: '/' :: path) :=
    .cons (by decide) (.cons (by decide) (.cons (by decide) h))
  exact (hopen.append h).append hmark

/-- The header of a path that can be written is one line. -/
theorem HeaderPath.fits_pathHeader {path : String} (h : HeaderPath path.toList) :
    FitsLine (pathHeader path) := by
  rw [pathHeader]
  split
  · next hplain =>
    apply fits_plainHeader
    refine ⟨h.noFeed, ?_⟩
    rcases hplain with hplain | hmark
    · exact hplain.fits.noReturn
    · rcases h.named with hno | ⟨-, -, hreturn⟩
      · exact absurd hmark hno
      · exact hreturn
  · exact fits_quotedHeader h.noFeed

/-- So is each line for a status. -/
theorem fits_of_mem_statusTexts {status : Status} {oldPath : Option String}
    (hold : ∀ old ∈ oldPath, FitsLine old.toList) :
    ∀ line ∈ statusTexts status oldPath, FitsLine line := by
  intro line hline
  rcases List.mem_append.1 hline with horigin | hchange
  · rcases oldPath with _ | old
    · cases horigin
    · obtain rfl := List.mem_singleton.1 horigin
      have hcopy : FitsLine "copy from ".toList := by decide
      have hrename : FitsLine "rename from ".toList := by decide
      rw [originText]
      split
      · exact hcopy.append (hold old rfl)
      · exact hrename.append (hold old rfl)
  · have hfits : ∀ line ∈ changeTexts status, FitsLine line := by
      cases status <;> decide
    exact hfits line hchange

/-- All that is written for a readable file are lines. -/
theorem File.Readable.fits {f : File} (hf : f.Readable) : ∀ line ∈ f.texts, FitsLine line := by
  apply File.forall_mem_texts hf.path.fits_pathHeader (fits_of_mem_statusTexts hf.oldPath_fits)
  intro h hh
  refine ⟨h.header.written_text.fits (hf.hunks h hh).header, ?_⟩
  intro line hline
  have hmarker : line.kind.marker ≠ '\n' ∧ line.kind.marker ≠ '\r' := by
    cases line.kind <;> decide
  exact .cons hmarker ((hf.hunks h hh).content line hline)

/-- The lines of a file are read as the file. -/
theorem File.Readable.ofLines_texts {f : File} (hf : f.Readable) :
    ofLines f.texts = .ok { files := [f] } := by
  let bare : File := { path := f.path, status := f.status, oldPath := f.oldPath }
  let top : ReadState := { files := [bare], focus := some { path := f.path } }
  -- the header opens the file, the lines above its hunks give the status, and the hunks follow
  have hheader : ReadState.next {} (pathHeader f.path) =
      { files := [{ path := f.path }], focus := some { path := f.path } } := by
    rw [ReadState.next, ReadState.nextFiles_of_fileHeader _ (isFileHeader_pathHeader f.path),
      nextFocus_of_fileHeader _ (isFileHeader_pathHeader f.path), filePath?_pathHeader hf.path]
    rfl
  have htop : ReadState.after {} (pathHeader f.path :: statusTexts f.status f.oldPath) = top := by
    have hnoted := hf.noted_statusTexts
    rw [ReadState.after_cons, hheader]
    have hbody : ∀ line ∈ statusTexts f.status f.oldPath, isBoundary line = false :=
      fun _ => not_boundary_of_mem_statusTexts
    have habove := ReadState.after_above (f := { path := f.path }) hbody
    rwa [hnoted] at habove
  have hfiles : (top.after (f.hunks.flatMap Hunk.texts)).flush.files =
      [{ bare with hunks := bare.hunks ++ f.hunks }] :=
    ReadState.after_hunkTexts (f := bare) hf.hunks rfl rfl
  rw [ofLines_eq_ok_iff]
  refine ⟨refusalIn?_eq_none hf.refusal?_eq none, ?_⟩
  rw [File.texts, ← List.cons_append, ReadState.after_append, htop, hfiles]
  rfl

/-- Readable files with distinct paths are read again as they were, file by file. -/
theorem ofLines_flatMap_texts {files : List File} (hfiles : ∀ f ∈ files, f.Readable)
    (hpaths : (files.map (·.path)).Nodup) :
    ofLines (files.flatMap File.texts) = .ok { files := files } := by
  induction files with
  | nil =>
    rfl
  | cons f files ih =>
    rw [List.map_cons, List.nodup_cons] at hpaths
    have hone : ofLines f.texts = .ok { files := [f] } :=
      (hfiles f List.mem_cons_self).ofLines_texts
    have hmany := ih (fun other hother => hfiles other (List.mem_cons_of_mem f hother)) hpaths.2
    rw [List.flatMap_cons]
    rcases files with _ | ⟨g, files⟩
    · simpa using hone
    · exact ofLines_file_append (isFileHeader_pathHeader g.path) hone hmany hpaths.1

/-! ## Texts -/

/-- Lines that each end with a line feed are the lines of the text. -/
theorem Holds.flatMap (lines : List (List Char)) : Holds (lines.flatMap (· ++ ['\n'])) lines := by
  induction lines with
  | nil =>
    exact .nil
  | cons line lines ih =>
    have hline : (line :: lines).flatMap (· ++ ['\n']) =
        line ++ LineEnd.lf.returns ++ '\n' :: lines.flatMap (· ++ ['\n']) := by
      simp [LineEnd.returns]
    rw [hline]
    exact .cons line .lf ih

/-- A readable diff is read from what is written for it. -/
theorem parse_render {d : Diff} (hfiles : ∀ f ∈ d.files, f.Readable) (hpaths : d.paths.Nodup) :
    parse (render d) = .ok d := by
  have hfits : ∀ line ∈ d.files.flatMap File.texts, FitsLine line := by
    intro line hline
    rcases List.mem_flatMap.1 hline with ⟨f, hf, hmem⟩
    exact (hfiles f hf).fits line hmem
  have hmark : ((d.files.flatMap File.texts).flatMap (· ++ ['\n'])).head? ≠ some '\ufeff' := by
    rcases d with ⟨_ | ⟨f, files⟩⟩
    · simp
    · have hhead : (pathHeader f.path).head? = some 'd' := by
        rw [pathHeader]
        split <;> rfl
      rcases List.head?_eq_some_iff.1 hhead with ⟨rest, hrest⟩
      simp [File.texts, hrest]
  have hlines := (Holds.flatMap (d.files.flatMap File.texts)).textLines_eq 0 hfits hmark
  rw [List.replicate_zero, List.nil_append] at hlines
  rw [parse, render, String.toList_ofList, hlines, ofLines_flatMap_texts hfiles hpaths]

end Diff
end PatchReview
