import PatchReview.Proofs.Diff.Format

/-!
# Edit scripts cut into hunks

An edit script turns an old text into a new one, line by line. A change of a file shows some parts
of a script in hunks, whose headers tell truly where the parts stand in the two texts; what stands
between the parts is not shown. The numbers that a hunk gives its lines are then those of the new
text.
-/

namespace PatchReview
namespace Diff

/-! ## Scripts -/

/-- What an edit script does with one line. -/
inductive Edit where
  | keep (line : String)
  | delete (line : String)
  | insert (line : String)
  deriving DecidableEq, Repr

/-- The line of the old text that an edit uses up. -/
def Edit.old? : Edit → Option String
  | .keep line => some line
  | .delete line => some line
  | .insert _ => none

/-- The line of the new text that an edit gives. -/
def Edit.new? : Edit → Option String
  | .keep line => some line
  | .delete _ => none
  | .insert line => some line

def Edit.toLine : Edit → Line
  | .keep line => ⟨.context, line⟩
  | .delete line => ⟨.deletion, line⟩
  | .insert line => ⟨.addition, line⟩

def oldText (script : List Edit) : List String := script.filterMap Edit.old?

def newText (script : List Edit) : List String := script.filterMap Edit.new?

section Texts

variable (line : String) (script : List Edit)

@[simp] theorem newText_nil : newText [] = [] :=
  rfl

@[simp] theorem newText_keep : newText (.keep line :: script) = line :: newText script :=
  rfl

@[simp] theorem newText_delete : newText (.delete line :: script) = newText script :=
  rfl

@[simp] theorem newText_insert : newText (.insert line :: script) = line :: newText script :=
  rfl

end Texts

/-- The new text is made part by part. -/
@[simp] theorem newText_append (a b : List Edit) : newText (a ++ b) = newText a ++ newText b :=
  List.filterMap_append

/-- The old lines of a script are those of the old text. -/
theorem countP_inOld (script : List Edit) :
    (script.map Edit.toLine).countP Line.inOld = (oldText script).length := by
  rw [List.countP_map, oldText, List.length_filterMap_eq_countP]
  apply List.countP_congr
  intro edit _
  cases edit <;> simp [Edit.toLine, Line.inOld, Edit.old?]

/-- The new lines of a script are those of the new text. -/
theorem countP_inNew (script : List Edit) :
    (script.map Edit.toLine).countP Line.inNew = (newText script).length := by
  rw [List.countP_map, newText, List.length_filterMap_eq_countP]
  apply List.countP_congr
  intro edit _
  cases edit <;> simp [Edit.toLine, Line.inNew, Edit.new?]

/-- Every line of a script stands in one of its two texts. -/
theorem content_mem_texts {script : List Edit} {edit : Edit} (h : edit ∈ script) :
    edit.toLine.content ∈ oldText script ++ newText script := by
  rw [List.mem_append]
  cases edit with
  | keep line =>
    exact .inl (List.mem_filterMap.2 ⟨_, h, rfl⟩)
  | delete line =>
    exact .inl (List.mem_filterMap.2 ⟨_, h, rfl⟩)
  | insert line =>
    exact .inr (List.mem_filterMap.2 ⟨_, h, rfl⟩)

/-! ## Insertions -/

/-- An inserted line, and the part of the script that stands before it. -/
structure Insertion where
  before : List Edit
  line : String
  deriving DecidableEq, Repr

def Insertion.number (i : Insertion) : Nat := (newText i.before).length + 1

/-- The inserted lines of a part of a script, which stands behind another part. -/
def insertions (before : List Edit) : List Edit → List Insertion
  | [] => []
  | .insert line :: part => ⟨before, line⟩ :: insertions (before ++ [.insert line]) part
  | edit :: part => insertions (before ++ [edit]) part

/-- An edit in front is an insertion itself, or it moves those behind it on. -/
theorem mem_insertions_cons {before part : List Edit} {edit : Edit} {i : Insertion} :
    i ∈ insertions before (edit :: part) ↔
      edit = .insert i.line ∧ i.before = before ∨ i ∈ insertions (before ++ [edit]) part := by
  cases edit with
  | keep line =>
    simp [insertions]
  | delete line =>
    simp [insertions]
  | insert line =>
    rcases i with ⟨above, inserted⟩
    simp [insertions, eq_comm, and_comm]

/-- The insertions of a part are the places of the part where a line is inserted. -/
theorem mem_insertions_iff {before part : List Edit} {i : Insertion} :
    i ∈ insertions before part ↔
      ∃ above below, part = above ++ .insert i.line :: below ∧ i.before = before ++ above := by
  induction part generalizing before with
  | nil =>
    simp [insertions]
  | cons edit part ih =>
    rw [mem_insertions_cons, ih]
    constructor
    · rintro (⟨rfl, hbefore⟩ | ⟨above, below, rfl, hbefore⟩)
      · exact ⟨[], part, rfl, by simpa using hbefore⟩
      · exact ⟨edit :: above, below, rfl, by simpa using hbefore⟩
    · rintro ⟨above, below, hpart, hbefore⟩
      cases above with
      | nil =>
        rcases List.cons.inj hpart with ⟨rfl, rfl⟩
        exact .inl ⟨rfl, by simpa using hbefore⟩
      | cons first above =>
        rcases List.cons.inj hpart with ⟨rfl, rfl⟩
        exact .inr ⟨above, below, rfl, by simpa using hbefore⟩

/-- An insertion of a part is numbered among the lines that the part gives. -/
theorem number_of_mem_insertions {before part : List Edit} {i : Insertion}
    (h : i ∈ insertions before part) :
    (newText before).length < i.number ∧ i.number ≤ (newText (before ++ part)).length := by
  rcases mem_insertions_iff.1 h with ⟨above, below, rfl, hbefore⟩
  simp only [Insertion.number, hbefore, newText_append, newText_insert, List.length_append,
    List.length_cons]
  omega

/-- The numbers of insertions grow along the script. -/
theorem pairwise_insertions (before part : List Edit) :
    (insertions before part).Pairwise fun i j => i.number < j.number := by
  induction part generalizing before with
  | nil =>
    exact .nil
  | cons edit part ih =>
    cases edit with
    | keep line =>
      exact ih _
    | delete line =>
      exact ih _
    | insert line =>
      refine .cons ?_ (ih _)
      intro i hi
      simpa [Insertion.number] using (number_of_mem_insertions hi).1

/-- The number of an insertion points at its line in the new text of the whole script. -/
theorem Insertion.getElem?_number (i : Insertion) (after : List Edit) :
    (newText (i.before ++ .insert i.line :: after))[i.number - 1]? = some i.line := by
  rw [newText_append, number, Nat.add_sub_cancel, List.getElem?_append_right (Nat.le_refl _)]
  simp

/-- Numbering the lines of a part from where it stands in the new text numbers its insertions. -/
theorem numberFrom_toLine {before : List Edit} {n : Nat} (hn : n = (newText before).length + 1)
    (part : List Edit) :
    ((Hunk.numberFrom n (part.map Edit.toLine)).filter
      fun (_, line) => line.kind == .addition).map (fun (n, line) => (n, line.content)) =
      (insertions before part).map fun i => (i.number, i.line) := by
  -- the counter is always one more than the lines of the new text so far
  induction part generalizing before n with
  | nil =>
    rfl
  | cons edit part ih =>
    cases edit with
    | keep line =>
      have hnext : n + 1 = (newText (before ++ [.keep line])).length + 1 := by
        simpa using hn
      exact ih hnext
    | delete line =>
      have hnext : n = (newText (before ++ [.delete line])).length + 1 := by
        simpa using hn
      exact ih hnext
    | insert line =>
      have hnext : n + 1 = (newText (before ++ [.insert line])).length + 1 := by
        simpa using hn
      subst hn
      exact congrArg (((newText before).length + 1, line) :: ·) (ih hnext)

/-- A part that gives no line of the new text has no line to number, wherever it starts. -/
theorem numberFrom_of_newText_eq_nil {part : List Edit} (h : newText part = []) (n : Nat) :
    Hunk.numberFrom n (part.map Edit.toLine) = [] := by
  induction part with
  | nil =>
    rfl
  | cons edit part ih =>
    cases edit with
    | keep line =>
      cases h
    | delete line =>
      exact ih h
    | insert line =>
      cases h

/-! ## Cuts -/

/-- A part of a script that a hunk shows, and the part above it that is not shown. -/
structure Cut where
  skipped : List Edit
  header : Header
  shown : List Edit
  deriving DecidableEq, Repr

def Cut.hunk (c : Cut) : Hunk := { header := c.header, lines := c.shown.map Edit.toLine }

/-- A true start is the number of the first line; a part without lines may be placed one before. -/
def TrueStart (start count above : Nat) : Prop :=
  start = above + 1 ∨ count = 0 ∧ start = above

/-- A hunk header that tells truly which lines of the two texts its part has. -/
structure Cut.TrueBehind (before : List Edit) (c : Cut) : Prop where
  oldCount : c.header.oldCount = (oldText c.shown).length
  newCount : c.header.newCount = (newText c.shown).length
  oldStart : TrueStart c.header.oldStart c.header.oldCount (oldText (before ++ c.skipped)).length
  newStart : TrueStart c.header.newStart c.header.newCount (newText (before ++ c.skipped)).length

/-- The headers of cuts are true, when another part of the script stands before them. -/
def TrueHeaders : List Edit → List Cut → Prop
  | _, [] => True
  | before, c :: cuts => c.TrueBehind before ∧ TrueHeaders (before ++ c.skipped ++ c.shown) cuts

def scriptOf (cuts : List Cut) (rest : List Edit) : List Edit :=
  cuts.flatMap (fun c => c.skipped ++ c.shown) ++ rest

/-- The insertions that cuts show, when another part of the script stands before them. -/
def shownInsertions : List Edit → List Cut → List Insertion
  | _, [] => []
  | before, c :: cuts =>
    insertions (before ++ c.skipped) c.shown ++
      shownInsertions (before ++ c.skipped ++ c.shown) cuts

/-- The lines that a hunk with a true header adds are numbered as in the new text. -/
theorem Cut.TrueBehind.addedLines_eq {before : List Edit} {c : Cut} (h : c.TrueBehind before) :
    (c.hunk.numberedLines.filter fun (_, line) => line.kind == .addition).map
        (fun (n, line) => (n, line.content)) =
      (insertions (before ++ c.skipped) c.shown).map fun i => (i.number, i.line) := by
  rcases h.newStart with hstart | ⟨hcount, -⟩
  · exact numberFrom_toLine hstart c.shown
  · -- the start may be one too low here, but there is no line to number
    have hempty : newText c.shown = [] := by
      rw [← List.length_eq_zero_iff, ← h.newCount, hcount]
    rw [← numberFrom_toLine rfl, numberFrom_of_newText_eq_nil hempty, Hunk.numberedLines, hunk,
      numberFrom_of_newText_eq_nil hempty]

/-- An insertion that a cut shows splits the whole script. -/
theorem exists_after_of_mem_shownInsertions {before : List Edit} {cuts : List Cut} {i : Insertion}
    (h : i ∈ shownInsertions before cuts) (rest : List Edit) :
    ∃ after, before ++ scriptOf cuts rest = i.before ++ .insert i.line :: after := by
  induction cuts generalizing before with
  | nil =>
    cases h
  | cons c cuts ih =>
    rcases List.mem_append.1 h with h | h
    · rcases mem_insertions_iff.1 h with ⟨above, below, hshown, hbefore⟩
      refine ⟨below ++ scriptOf cuts rest, ?_⟩
      simp [scriptOf, hshown, hbefore]
    · rcases ih h with ⟨after, hafter⟩
      refine ⟨after, ?_⟩
      rw [← hafter]
      simp [scriptOf]

/-- An insertion that is shown is behind all that stands before the cuts. -/
theorem number_of_mem_shownInsertions {before : List Edit} {cuts : List Cut} {i : Insertion}
    (h : i ∈ shownInsertions before cuts) : (newText before).length < i.number := by
  induction cuts generalizing before with
  | nil =>
    cases h
  | cons c cuts ih =>
    rcases List.mem_append.1 h with h | h
    · have hnumber := (number_of_mem_insertions h).1
      rw [newText_append, List.length_append] at hnumber
      omega
    · have hnumber := ih h
      rw [newText_append, newText_append, List.length_append, List.length_append] at hnumber
      omega

/-- The insertions that cuts show are numbered upwards. -/
theorem pairwise_shownInsertions (before : List Edit) (cuts : List Cut) :
    (shownInsertions before cuts).Pairwise fun i j => i.number < j.number := by
  induction cuts generalizing before with
  | nil =>
    exact .nil
  | cons c cuts ih =>
    -- what the first cut shows is numbered up to its end, what the later ones show behind it
    rw [shownInsertions, List.pairwise_append]
    refine ⟨pairwise_insertions _ _, ih _, ?_⟩
    intro i hi j hj
    have hleft : i.number ≤ (newText (before ++ c.skipped ++ c.shown)).length :=
      (number_of_mem_insertions hi).2
    have hright : (newText (before ++ c.skipped ++ c.shown)).length < j.number :=
      number_of_mem_shownInsertions hj
    omega

/-! ## Changes of files -/

/-- A change of a file: a script from its old to its new text, cut into hunks with true headers. -/
structure Change where
  path : String
  status : Status := .modified
  oldPath : Option String := none
  old : List String
  new : List String
  cuts : List Cut
  /-- What stands below the last hunk. -/
  rest : List Edit
  old_eq : oldText (scriptOf cuts rest) = old
  new_eq : newText (scriptOf cuts rest) = new
  trueHeaders : TrueHeaders [] cuts

namespace Change

def script (c : Change) : List Edit := scriptOf c.cuts c.rest

def insertions (c : Change) : List Insertion := shownInsertions [] c.cuts

def file (c : Change) : File where
  path := c.path
  status := c.status
  oldPath := c.oldPath
  hunks := c.cuts.map Cut.hunk

/-- A change whose paths, numbers and lines can be written. -/
@[mk_iff]
structure Writable (c : Change) : Prop where
  path : PlainPath c.path
  oldPath_fits : ∀ old ∈ c.oldPath, FitsLine old.toList
  headers : ∀ cut ∈ c.cuts, cut.header.Writable
  lines : ∀ line ∈ c.old ++ c.new, FitsLine line.toList

instance (c : Change) : Decidable c.Writable :=
  decidable_of_iff _ c.writable_iff.symm

/-- An insertion of a change stands in its script. -/
theorem exists_after (c : Change) {i : Insertion} (h : i ∈ c.insertions) :
    ∃ after, c.script = i.before ++ .insert i.line :: after :=
  exists_after_of_mem_shownInsertions h c.rest

/-- An insertion is numbered by its line of the new text. -/
theorem getElem?_number (c : Change) {i : Insertion} (h : i ∈ c.insertions) :
    c.new[i.number - 1]? = some i.line := by
  rcases c.exists_after h with ⟨after, hscript⟩
  rw [← c.new_eq, ← script, hscript, i.getElem?_number]

end Change

/-- The hunk of a cut with a true header declares just the lines that it has. -/
theorem Cut.hunk_writable {before : List Edit} {c : Cut} (h : c.TrueBehind before)
    (hheader : c.header.Writable)
    (hlines : ∀ edit ∈ c.shown, FitsLine edit.toLine.content.toList) : c.hunk.Writable where
  header := hheader
  oldCount := by
    rw [hunk, countP_inOld, h.oldCount]
  newCount := by
    rw [hunk, countP_inNew, h.newCount]
  content := by
    intro line hline
    rcases List.mem_map.1 hline with ⟨edit, hedit, rfl⟩
    exact hlines edit hedit

/-- The header of each cut tells the truth about what stands above it. -/
theorem TrueHeaders.exists_trueBehind {before : List Edit} {cuts : List Cut}
    (h : TrueHeaders before cuts) {c : Cut} (hc : c ∈ cuts) : ∃ above, c.TrueBehind above := by
  induction cuts generalizing before with
  | nil =>
    cases hc
  | cons first cuts ih =>
    rcases List.mem_cons.1 hc with rfl | hc
    · exact ⟨before, h.1⟩
    · exact ih h.2 hc

/-- The file of a change can be written. -/
theorem Change.Writable.file {c : Change} (h : c.Writable) : c.file.Writable where
  path := h.path
  oldPath_fits := h.oldPath_fits
  hunks := by
    intro hunk hhunk
    rcases List.mem_map.1 hhunk with ⟨cut, hcut, rfl⟩
    rcases c.trueHeaders.exists_trueBehind hcut with ⟨above, htrue⟩
    refine cut.hunk_writable htrue (h.headers cut hcut) ?_
    intro edit hedit
    have hscript : edit ∈ scriptOf c.cuts c.rest := by
      apply List.mem_append_left
      exact List.mem_flatMap.2 ⟨cut, hcut, List.mem_append_right _ hedit⟩
    have hcontent := content_mem_texts hscript
    rw [c.old_eq, c.new_eq] at hcontent
    exact h.lines _ hcontent

end Diff
end PatchReview
