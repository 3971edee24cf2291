import PatchReview.Proofs.Diff.Step

/-!
# Reading many lines

Reading a list of lines is a fold over the states of `ReadState.next`, unless one of the lines is
refused. Every state that is reached is valid: a path is in the table once, the file at hand is in
the table, and an open hunk has as much room as its lines leave.
-/

namespace PatchReview
namespace Diff

/-! ## Runs -/

/-- The file at hand behind some lines. -/
def focusAfter (focus : Option Focus) (lines : List (List Char)) : Option Focus :=
  lines.foldl nextFocus focus

/-- The state behind some lines, none of which is refused. -/
def ReadState.after (s : ReadState) (lines : List (List Char)) : ReadState :=
  lines.foldl next s

/-- The first refusal among some lines. -/
def refusalIn? (focus : Option Focus) : List (List Char) → Option Decimal.LimitError
  | [] => none
  | line :: lines => (focus.bind fun _ => refusal? line).or
    (refusalIn? (nextFocus focus line) lines)

@[simp] theorem ReadState.after_nil (s : ReadState) : s.after [] = s :=
  rfl

@[simp] theorem ReadState.after_cons (s : ReadState) (line : List Char) (lines : List (List Char)) :
    s.after (line :: lines) = (s.next line).after lines :=
  rfl

/-- Reading on is reading one part after the other. -/
theorem ReadState.after_append (s : ReadState) (a b : List (List Char)) :
    s.after (a ++ b) = (s.after a).after b :=
  List.foldl_append

/-- The file at hand depends on the lines, and not on the files so far. -/
theorem ReadState.after_focus (s : ReadState) (lines : List (List Char)) :
    (s.after lines).focus = focusAfter s.focus lines := by
  induction lines generalizing s with
  | nil =>
    rfl
  | cons line lines ih =>
    exact ih (s.next line)

/-- A line more moves the focus by one step. -/
theorem focusAfter_concat (focus : Option Focus) (lines : List (List Char)) (line : List Char) :
    focusAfter focus (lines ++ [line]) = nextFocus (focusAfter focus lines) line :=
  List.foldl_concat nextFocus focus line lines

/-- The first refusal is in the first part, or else in the second one below it. -/
theorem refusalIn?_append (focus : Option Focus) (a b : List (List Char)) :
    refusalIn? focus (a ++ b) = (refusalIn? focus a).or (refusalIn? (focusAfter focus a) b) := by
  induction a generalizing focus with
  | nil =>
    simp [refusalIn?, focusAfter]
  | cons line a ih =>
    simp only [List.cons_append, refusalIn?, ih, Option.or_assoc]
    rfl

/-- A run of steps stops at the first refusal, or reaches the state behind all lines. -/
theorem ReadState.foldlM_step_eq (s : ReadState) (lines : List (List Char)) :
    lines.foldlM step s = match refusalIn? s.focus lines with
      | some e => .error e
      | none => .ok (s.after lines) := by
  induction lines generalizing s with
  | nil =>
    rfl
  | cons line lines ih =>
    rw [List.foldlM_cons, step_eq, refusalIn?]
    cases hrefusal : s.focus.bind fun _ => refusal? line with
    | some e =>
      rfl
    | none =>
      exact ih (s.next line)

/-- Reading lines gives the files of the state behind them. -/
theorem ofLines_eq (lines : List (List Char)) :
    ofLines lines = match refusalIn? none lines with
      | some e => .error e
      | none => .ok { files := (ReadState.after {} lines).flush.files } := by
  rw [ofLines, ReadState.foldlM_step_eq]
  cases refusalIn? none lines <;> rfl

/-- A diff is read if nothing is refused, and it has the files that all lines leave. -/
theorem ofLines_eq_ok_iff {lines : List (List Char)} {d : Diff} :
    ofLines lines = .ok d ↔
      refusalIn? none lines = none ∧ d = { files := (ReadState.after {} lines).flush.files } := by
  rw [ofLines_eq]
  cases refusalIn? none lines with
  | some e =>
    simp
  | none =>
    simp [eq_comm]

/-! ## Room -/

def Line.inOld (line : Line) : Bool := line.kind != .addition

def Line.inNew (line : Line) : Bool := line.kind != .deletion

/-- An open hunk expects as many lines as its header declares beyond those it has. -/
structure OpenHunk.Counted (h : OpenHunk) : Prop where
  oldRoom : h.oldRoom = h.header.oldCount - h.lines.toList.countP Line.inOld
  newRoom : h.newRoom = h.header.newCount - h.lines.toList.countP Line.inNew

/-- At its header a hunk expects all that the header counts. -/
theorem OpenHunk.counted_ofHeader (header : Header) : (OpenHunk.ofHeader header).Counted :=
  ⟨rfl, rfl⟩

/-- A line that is added takes up its room. -/
theorem OpenHunk.Counted.add {h : OpenHunk} (hc : h.Counted) (line : Line) :
    (h.add line).Counted := by
  rcases hc with ⟨hold, hnew⟩
  rcases line with ⟨kind, content⟩
  constructor
  · cases kind <;> simp [OpenHunk.add, Line.inOld, hold, Nat.sub_sub]
  · cases kind <;> simp [OpenHunk.add, Line.inNew, hnew, Nat.sub_sub]

/-- Whatever is read, the room is what the header leaves. -/
theorem OpenHunk.Counted.read {h : OpenHunk} (hc : h.Counted) (line : List Char) :
    (h.read line).Counted := by
  rw [OpenHunk.read]
  split
  · exact hc.add _
  · exact hc

/-! ## Valid states -/

/-- What holds of every state that reading reaches. -/
structure ReadState.Valid (s : ReadState) : Prop where
  nodup : (s.files.map (·.path)).Nodup
  focus_mem : ∀ focus, s.focus = some focus → focus.path ∈ s.files.map (·.path)
  counted : ∀ focus h, s.focus = some focus → focus.hunk = some h → h.Counted

theorem ReadState.valid_empty : ReadState.Valid {} where
  nodup := by simp
  focus_mem := by simp
  counted := by simp

/-- Closing a hunk changes no path. -/
theorem ReadState.paths_flush (s : ReadState) :
    s.flush.files.map (·.path) = s.files.map (·.path) := by
  rw [flush_files]
  split
  · exact paths_updateFile fun _ => rfl
  · rfl

/-- No line makes a second file of one path. -/
theorem ReadState.Valid.nodup_next {s : ReadState} (h : s.Valid) (line : List Char) :
    ((s.next line).files.map (·.path)).Nodup := by
  rw [next_files, nextFiles]
  split
  · split
    · apply nodup_paths_ensureFile
      rw [s.paths_flush]
      exact h.nodup
    · rw [s.paths_flush]
      exact h.nodup
  · split
    · rw [s.paths_flush]
      exact h.nodup
    · split
      · rw [paths_updateFile fun f => record_path _ f]
        exact h.nodup
      · exact h.nodup

/-- A line adds the path that it yields as a file header, and takes none away. -/
theorem ReadState.mem_paths_next {s : ReadState} {line : List Char} {path : String} :
    path ∈ (s.next line).files.map (·.path) ↔
      path ∈ s.files.map (·.path) ∨ isFileHeader line = true ∧ filePath? line = some path := by
  -- closing a hunk and noting a header keep the paths; only a file header adds one
  cases hboundary : isBoundary line with
  | true =>
    cases hfile : isFileHeader line with
    | true =>
      rw [next_files, s.nextFiles_of_fileHeader hfile]
      cases hpath : filePath? line with
      | none =>
        simp only [s.paths_flush]
        simp
      | some other =>
        simp only [mem_paths_ensureFile, s.paths_flush, Option.some.injEq]
        simp [eq_comm]
    | false =>
      rw [next_files, s.nextFiles_of_hunkMark hfile (isHunkMark_of_boundary hboundary hfile),
        s.paths_flush]
      simp
  | false =>
    have hfile : isFileHeader line = false := (isBoundary_eq_false_iff.1 hboundary).1
    rw [next_files, s.nextFiles_of_body hboundary, hfile]
    cases s.focus with
    | none =>
      simp
    | some focus =>
      simp only [paths_updateFile (record_path _)]
      simp

/-- The paths are those that were there and those of the file headers. -/
theorem ReadState.mem_paths_after {s : ReadState} {lines : List (List Char)} {path : String} :
    path ∈ (s.after lines).files.map (·.path) ↔
      path ∈ s.files.map (·.path) ∨
        ∃ line ∈ lines, isFileHeader line = true ∧ filePath? line = some path := by
  induction lines generalizing s with
  | nil =>
    simp
  | cons line lines ih =>
    rw [after_cons, ih, mem_paths_next]
    simp [or_assoc]

/-- The file at hand is one of the files. -/
theorem ReadState.Valid.focus_mem_next {s : ReadState} (h : s.Valid) {line : List Char}
    {focus : Focus} (hfocus : (s.next line).focus = some focus) :
    focus.path ∈ (s.next line).files.map (·.path) := by
  rw [next_focus, nextFocus] at hfocus
  rw [mem_paths_next]
  split at hfocus
  · next hfile =>
    rcases Option.map_eq_some_iff.1 hfocus with ⟨path, hpath, rfl⟩
    exact .inr ⟨hfile, hpath⟩
  · split at hfocus
    · rcases Option.map_eq_some_iff.1 hfocus with ⟨before, hbefore, rfl⟩
      exact .inl (h.focus_mem before hbefore)
    · rcases Option.map_eq_some_iff.1 hfocus with ⟨before, hbefore, rfl⟩
      exact .inl (h.focus_mem before hbefore)

/-- The open hunk keeps its count. -/
theorem ReadState.Valid.counted_next {s : ReadState} (h : s.Valid) {line : List Char}
    {focus : Focus} {hunk : OpenHunk} (hfocus : (s.next line).focus = some focus)
    (hhunk : focus.hunk = some hunk) : hunk.Counted := by
  rw [next_focus, nextFocus] at hfocus
  split at hfocus
  · rcases Option.map_eq_some_iff.1 hfocus with ⟨path, -, rfl⟩
    cases hhunk
  · split at hfocus
    · rcases Option.map_eq_some_iff.1 hfocus with ⟨before, -, rfl⟩
      rcases Option.map_eq_some_iff.1 hhunk with ⟨header, -, rfl⟩
      exact OpenHunk.counted_ofHeader header
    · rcases Option.map_eq_some_iff.1 hfocus with ⟨before, hbefore, rfl⟩
      rcases Option.map_eq_some_iff.1 hhunk with ⟨old, hold, rfl⟩
      exact (h.counted before old hbefore hold).read line

/-- A line keeps all that holds of a state. -/
theorem ReadState.Valid.next {s : ReadState} (h : s.Valid) (line : List Char) :
    (s.next line).Valid where
  nodup := h.nodup_next line
  focus_mem _ hfocus := h.focus_mem_next hfocus
  counted _ _ hfocus hhunk := h.counted_next hfocus hhunk

/-- So do several lines, by induction. -/
theorem ReadState.Valid.after {s : ReadState} (h : s.Valid) (lines : List (List Char)) :
    (s.after lines).Valid := by
  induction lines generalizing s with
  | nil =>
    exact h
  | cons line lines ih =>
    exact ih (h.next line)

/-- No path is twice in a diff that was read. -/
theorem nodup_paths_of_parse {text : String} {d : Diff} (h : parse text = .ok d) :
    d.paths.Nodup := by
  rcases ofLines_eq_ok_iff.1 h with ⟨-, rfl⟩
  have hvalid : (ReadState.after {} (textLines text.toList)).Valid := ReadState.valid_empty.after _
  rw [paths, ReadState.paths_flush]
  exact hvalid.nodup

end Diff
end PatchReview
