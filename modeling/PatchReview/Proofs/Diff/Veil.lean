import PatchReview.Proofs.Diff.LineEnds
import PatchReview.Proofs.Diff.Run

/-!
# What removed and unchanged lines can change

A removed line or a line of context that a hunk expects counts for the hunk, and its text is kept;
the text reaches nothing else. So two texts that differ only in such texts are read in lockstep:
they give the same diff under a veil, which hides the texts of all lines but the additions.
-/

namespace PatchReview
namespace Diff

/-! ## Veils -/

/-- A line without its text, unless it is an addition. -/
def Line.veiled (line : Line) : Line :=
  if line.kind = .addition then line else { line with content := "" }

def Hunk.veiled (h : Hunk) : Hunk := { h with lines := h.lines.map Line.veiled }

def File.veiled (f : File) : File := { f with hunks := f.hunks.map Hunk.veiled }

/-- A diff in which only the additions can be read. -/
def veiled (d : Diff) : Diff := { files := d.files.map File.veiled }

def OpenHunk.veiled (h : OpenHunk) : OpenHunk := { h with lines := h.lines.map Line.veiled }

def Focus.veiled (focus : Focus) : Focus := { focus with hunk := focus.hunk.map OpenHunk.veiled }

/-- A state of reading in which only the additions can be read. -/
def ReadState.veiled (s : ReadState) : ReadState :=
  { files := s.files.map File.veiled, focus := s.focus.map Focus.veiled }

@[simp] theorem Line.veiled_kind (line : Line) : line.veiled.kind = line.kind := by
  rw [veiled]
  split <;> rfl

@[simp] theorem Line.veiled_veiled (line : Line) : line.veiled.veiled = line.veiled := by
  rw [veiled, veiled_kind]
  split
  · rfl
  · next hkind =>
    rw [veiled, if_neg hkind]

@[simp] theorem Hunk.veiled_veiled (h : Hunk) : h.veiled.veiled = h.veiled := by
  simp [veiled, Function.comp_def]

@[simp] theorem File.veiled_path (f : File) : f.veiled.path = f.path :=
  rfl

@[simp] theorem File.veiled_veiled (f : File) : f.veiled.veiled = f.veiled := by
  simp [veiled, Function.comp_def]

/-! ## The table under a veil -/

section Table

variable {path : String} {files : List File}

/-- Veiled files have the same paths, so a file is made sure of alike. -/
theorem ensureFile_veiled :
    ensureFile path (files.map File.veiled) = (ensureFile path files).map File.veiled := by
  have hany : (files.map File.veiled).any (·.path == path) = files.any (·.path == path) := by
    rw [List.any_map]
    rfl
  rw [ensureFile, ensureFile, hany]
  split
  · rfl
  · rw [List.map_append]
    rfl

/-- A change that does not look below the veil can be made above it. -/
theorem updateFile_veiled {change change' : File → File}
    (h : ∀ f, change f.veiled = (change' f).veiled) :
    updateFile path change (files.map File.veiled) =
      (updateFile path change' files).map File.veiled := by
  rw [updateFile, updateFile, List.map_map, List.map_map]
  refine List.map_congr_left fun f _ => ?_
  by_cases hpath : f.path = path
  · simp [hpath, h]
  · simp [hpath]

end Table

/-- What is noted of a line does not depend on contents. -/
theorem record_veiled (note : Option ExtendedHeader) (f : File) :
    record note f.veiled = (record note f).veiled := by
  rcases note with _ | (_ | _ | _) <;> rfl

/-- Closing a hunk does not either. -/
theorem ReadState.flush_veiled (s : ReadState) :
    s.veiled.flush.files = s.flush.files.map File.veiled := by
  rw [flush_files, flush_files]
  rcases s with ⟨files, _ | ⟨path, _ | hunk⟩⟩
  · rfl
  · rfl
  · refine updateFile_veiled fun f => ?_
    simp [File.addHunk, File.veiled, OpenHunk.close, OpenHunk.veiled, Hunk.veiled]

/-! ## One line under a veil -/

/-- Nor does what a line tells about a file. -/
theorem Focus.note?_veiled (focus : Focus) (line : List Char) :
    focus.veiled.note? line = focus.note? line := by
  rcases focus with ⟨path, _ | hunk⟩ <;> rfl

theorem OpenHunk.add_veiled (h : OpenHunk) (line : Line) :
    (h.veiled.add line).veiled = (h.add line).veiled := by
  simp [add, veiled, Function.comp_def]

/-- A hunk reads a line by the room that is left, not by the contents before it. -/
theorem OpenHunk.read_veiled (h : OpenHunk) (line : List Char) :
    (h.veiled.read line).veiled = (h.read line).veiled := by
  have hcontent : h.veiled.content? line = h.content? line := rfl
  rw [read, read, hcontent]
  cases h.content? line with
  | none =>
    simp [veiled, Function.comp_def]
  | some content =>
    exact h.add_veiled content

theorem Focus.read_veiled (focus : Focus) (line : List Char) :
    (focus.veiled.read line).veiled = (focus.read line).veiled := by
  rcases focus with ⟨path, _ | hunk⟩
  · rfl
  · simp only [read, veiled, Option.map_some, hunk.read_veiled line]

/-- Behind veiled contents the focus moves as behind the others. -/
theorem nextFocus_veiled (focus : Option Focus) (line : List Char) :
    (nextFocus (focus.map Focus.veiled) line).map Focus.veiled =
      (nextFocus focus line).map Focus.veiled := by
  rw [nextFocus, nextFocus]
  split
  · rfl
  · cases focus with
    | none =>
      split <;> rfl
    | some focus =>
      split
      · rfl
      · exact congrArg some (focus.read_veiled line)

/-- So do the files. -/
theorem ReadState.nextFiles_veiled (s : ReadState) (line : List Char) :
    s.veiled.nextFiles line = (s.nextFiles line).map File.veiled := by
  rw [nextFiles, nextFiles, s.flush_veiled]
  split
  · split
    · exact ensureFile_veiled
    · rfl
  · split
    · rfl
    · rcases s with ⟨files, _ | focus⟩
      · rfl
      · refine updateFile_veiled fun f => ?_
        rw [Focus.note?_veiled]
        exact record_veiled _ f

/-- What a line does above the veil does not hang on what is below it. -/
theorem ReadState.next_veiled (s : ReadState) (line : List Char) :
    (s.veiled.next line).veiled = (s.next line).veiled := by
  have hfiles : (s.veiled.nextFiles line).map File.veiled = (s.nextFiles line).map File.veiled := by
    rw [s.nextFiles_veiled, List.map_map]
    exact List.map_congr_left fun f _ => f.veiled_veiled
  have hfocus : (nextFocus s.veiled.focus line).map Focus.veiled =
      (nextFocus s.focus line).map Focus.veiled :=
    nextFocus_veiled s.focus line
  exact congrArg₂ ReadState.mk hfiles hfocus

/-! ## Lines that differ below the veil -/

/-- Whether a hunk is open that still expects lines. -/
def ReadState.expectsMore (s : ReadState) : Bool :=
  s.focus.any fun focus => focus.hunk.any (·.expectsMore)

/-- Two lines that are both removed, or both context. -/
def SameMark (x y : List Char) : Prop :=
  (x.head? = some '-' ∧ y.head? = some '-') ∨ (x.head? = some ' ' ∧ y.head? = some ' ')

instance (x y : List Char) : Decidable (SameMark x y) := instDecidableOr

/-- Lines with the same mark are deletions or context, and differ behind the mark only. -/
theorem SameMark.exists_cons {x y : List Char} (h : SameMark x y) :
    ∃ c s t, (c = '-' ∨ c = ' ') ∧ x = c :: s ∧ y = c :: t := by
  rcases h with ⟨hx, hy⟩ | ⟨hx, hy⟩
  · rcases List.head?_eq_some_iff.1 hx with ⟨s, rfl⟩
    rcases List.head?_eq_some_iff.1 hy with ⟨t, rfl⟩
    exact ⟨'-', s, t, .inl rfl, rfl, rfl⟩
  · rcases List.head?_eq_some_iff.1 hx with ⟨s, rfl⟩
    rcases List.head?_eq_some_iff.1 hy with ⟨t, rfl⟩
    exact ⟨' ', s, t, .inr rfl, rfl, rfl⟩

/-- A removed line or one of context is no header. -/
theorem not_boundary_of_mark {c : Char} (hc : c = '-' ∨ c = ' ') (s : List Char) :
    isBoundary (c :: s) = false := by
  rcases hc with rfl | rfl <;> rfl

/-- While there is room, lines with the same mark are read alike up to their contents. -/
theorem OpenHunk.read_sameMark {h : OpenHunk} (hmore : h.expectsMore = true) {x y : List Char}
    (hmark : SameMark x y) : (h.read x).veiled = (h.read y).veiled := by
  rcases hmark.exists_cons with ⟨c, s, t, rfl | rfl, rfl, rfl⟩
  all_goals
    simp [read, content?, hmore, bodyLine?, add, veiled, Line.veiled]

/-- While a hunk expects lines, of a removed line or one of context nothing shows but its mark. -/
theorem ReadState.next_sameMark {s : ReadState} (hmore : s.expectsMore = true) {x y : List Char}
    (hmark : SameMark x y) : (s.next x).veiled = (s.next y).veiled := by
  rcases s with ⟨files, _ | ⟨path, _ | hunk⟩⟩
  · cases hmore
  · cases hmore
  · have hexpects : hunk.expectsMore = true := hmore
    have hnote : ∀ line, Focus.note? { path := path, hunk := some hunk } line = none := by
      intro line
      simp [Focus.note?, hexpects]
    have hread := OpenHunk.read_sameMark hexpects hmark
    -- Neither line is a header, so both are read into the hunk, which takes no note of what they
    -- say.
    rcases hmark.exists_cons with ⟨c, s, t, hc, rfl, rfl⟩
    have hx : isBoundary (c :: s) = false := not_boundary_of_mark hc s
    have hy : isBoundary (c :: t) = false := not_boundary_of_mark hc t
    rw [next, next, nextFiles_of_body _ hx, nextFiles_of_body _ hy, nextFocus_of_body _ hx,
      nextFocus_of_body _ hy]
    simp [veiled, hnote, Focus.read, Focus.veiled, hread]

/-! ## Runs in lockstep -/

/-- Whether behind some lines a hunk is open that still expects lines. -/
def ReadState.expectsBelow (s : ReadState) (above : List (List Char)) : Bool :=
  match above.foldlM step s with
  | .ok s => s.expectsMore
  | .error _ => false

/-- As many lines, which differ at some places only, and there only in the texts of removed lines
and of lines of context. -/
structure DifferAt (may : Nat → Bool) (a b : List (List Char)) : Prop where
  length_eq : a.length = b.length
  unseen : ∀ i (ha : i < a.length) (hb : i < b.length), a[i] = b[i] ∨ may i = true ∧
    SameMark a[i] b[i]

/-- Lines that differ only where a hunk expects lines, and only in the texts of removed lines and of
lines of context. -/
def ReadState.DifferUnseen (s : ReadState) (a b : List (List Char)) : Prop :=
  DifferAt (fun i => s.expectsBelow (a.take i)) a b

section Alike

variable {s t : ReadState}

/-- States that are alike up to contents stay alike. -/
theorem ReadState.next_alike (h : s.veiled = t.veiled) (line : List Char) :
    (s.next line).veiled = (t.next line).veiled := by
  rw [← s.next_veiled, h, t.next_veiled]

/-- A step is refused above the veil and below it alike. -/
theorem ReadState.step_map_veiled (s : ReadState) (line : List Char) :
    (s.step line).map veiled = match s.veiled.focus.bind fun _ => refusal? line with
      | some e => .error e
      | none => .ok (s.next line).veiled := by
  have hrefusal : (s.veiled.focus.bind fun _ => refusal? line) = s.focus.bind fun _ =>
      refusal? line := by
    rw [veiled]
    cases s.focus <;> rfl
  rw [s.step_eq, hrefusal]
  cases s.focus.bind fun _ => refusal? line <;> rfl

/-- Lines that are equal, or that differ where it does not show, lead to states that look alike. -/
theorem ReadState.step_alike (h : s.veiled = t.veiled) {x y : List Char}
    (hline : x = y ∨ s.expectsMore = true ∧ SameMark x y) :
    (s.step x).map veiled = (t.step y).map veiled := by
  rw [s.step_map_veiled, t.step_map_veiled, h]
  rcases hline with rfl | ⟨hmore, hmark⟩
  · rw [next_alike h]
  · -- `s` takes both lines alike, and `t` takes the second one as `s` does
    have hnext : (s.next x).veiled = (t.next y).veiled := by
      rw [next_sameMark hmore hmark, next_alike h]
    rcases hmark.exists_cons with ⟨c, u, v, hc, rfl, rfl⟩
    rw [refusal?_of_body (not_boundary_of_mark hc u), refusal?_of_body (not_boundary_of_mark hc v),
      hnext]

/-- Computations that look alike, with more that looks alike behind results that do. -/
theorem map_bind_alike {ε α β γ δ : Type} {x y : Except ε α} {f : α → γ} {g g' : α → Except ε β}
    {k : β → δ} (h : x.map f = y.map f)
    (hg : ∀ a b, x = .ok a → f a = f b → (g a).map k = (g' b).map k) :
    (x >>= g).map k = (y >>= g').map k := by
  cases x with
  | error e =>
    cases y with
    | error e' =>
      cases h
      rfl
    | ok b =>
      cases h
  | ok a =>
    -- what is behind a result counts only behind this very result
    cases y with
    | error e' =>
      cases h
    | ok b =>
      exact hg a b rfl (Except.ok.inj h)

/-- Runs over lines that differ where it does not show are in lockstep. -/
theorem ReadState.foldlM_step_alike {a b : List (List Char)} (h : s.veiled = t.veiled)
    (hlines : s.DifferUnseen a b) :
    (a.foldlM step s).map veiled = (b.foldlM step t).map veiled := by
  induction a generalizing b s t with
  | nil =>
    obtain rfl : b = [] := List.length_eq_zero_iff.1 hlines.length_eq.symm
    exact congrArg Except.ok h
  | cons x a ih =>
    rcases b with _ | ⟨y, b⟩
    · cases hlines.length_eq
    · have hfirst : x = y ∨ s.expectsMore = true ∧ SameMark x y :=
        hlines.unseen 0 (Nat.succ_pos _) (Nat.succ_pos _)
      rw [List.foldlM_cons, List.foldlM_cons]
      refine map_bind_alike (step_alike h hfirst) fun s' t' hs halike => ?_
      -- the lines below are seen from the state behind the first one
      refine ih halike ⟨Nat.succ.inj hlines.length_eq, ?_⟩
      intro i ha hb
      have hat := hlines.unseen (i + 1) (Nat.succ_lt_succ ha) (Nat.succ_lt_succ hb)
      have hbelow : s.expectsBelow ((x :: a).take (i + 1)) = s'.expectsBelow (a.take i) := by
        rw [List.take_succ_cons, expectsBelow, expectsBelow, List.foldlM_cons, hs]
        rfl
      rwa [hbelow] at hat

end Alike

/-- Lines that differ where it does not show give diffs that look alike, or are refused alike. -/
theorem ofLines_alike {a b : List (List Char)} (h : ReadState.DifferUnseen {} a b) :
    (ofLines a).map veiled = (ofLines b).map veiled := by
  have hrun := ReadState.foldlM_step_alike (s := {}) (t := {}) rfl h
  have hfiles : ∀ s : ReadState,
      veiled { files := s.flush.files } = { files := s.veiled.flush.files } := by
    intro s
    rw [veiled, s.flush_veiled]
  refine map_bind_alike hrun fun s t _ halike => congrArg Except.ok ?_
  rw [hfiles, hfiles, halike]

/-! ## Texts that differ where it does not show -/

/-- Marks in front of a text stand in front of its first piece. -/
theorem splitAtChar_dropWhile (s : List Char) :
    Text.splitAtChar '\n' (s.dropWhile (· == '\ufeff')) =
      (Text.splitAtChar '\n' s).modifyHead (·.dropWhile (· == '\ufeff')) := by
  induction s with
  | nil =>
    rfl
  | cons c s ih =>
    by_cases hmark : c = '\ufeff'
    · subst hmark
      rw [List.dropWhile_cons_of_pos rfl, ih, Text.splitAtChar, if_neg (by decide)]
      cases hsplit : Text.splitAtChar '\n' s with
      | nil =>
        exact absurd hsplit (Text.splitAtChar_ne_nil '\n' s)
      | cons piece pieces =>
        simp
    · rw [List.dropWhile_cons_of_neg (by simpa using hmark)]
      by_cases hfeed : c = '\n'
      · simp [Text.splitAtChar, hfeed]
      · cases hsplit : Text.splitAtChar '\n' s with
        | nil =>
          exact absurd hsplit (Text.splitAtChar_ne_nil '\n' s)
        | cons piece pieces =>
          simp [Text.splitAtChar, hfeed, hsplit, hmark]

/-- Carriage returns that are trimmed are not the mark. -/
theorem SameMark.dropEnd {x y : List Char} (h : SameMark x y) :
    SameMark (Text.dropEnd (· == '\r') x) (Text.dropEnd (· == '\r') y) := by
  rcases h.exists_cons with ⟨c, s, t, rfl | rfl, rfl, rfl⟩
  · rw [Text.dropEnd_cons rfl, Text.dropEnd_cons rfl]
    exact .inl ⟨rfl, rfl⟩
  · rw [Text.dropEnd_cons rfl, Text.dropEnd_cons rfl]
    exact .inr ⟨rfl, rfl⟩

theorem SameMark.ne_nil {x y : List Char} (h : SameMark x y) : x ≠ [] ∧ y ≠ [] := by
  rcases h.exists_cons with ⟨c, s, t, -, rfl, rfl⟩
  exact ⟨List.cons_ne_nil c s, List.cons_ne_nil c t⟩

namespace DifferAt

variable {may : Nat → Bool} {a b : List (List Char)}

/-- Lines that differ below the first one still do when they are trimmed. -/
theorem cons_map_dropEnd {x y : List Char} (h : DifferAt may (x :: a) (y :: b)) (top : List Char) :
    DifferAt may (top :: a.map (Text.dropEnd (· == '\r')))
      (top :: b.map (Text.dropEnd (· == '\r'))) where
  length_eq := by
    simpa using h.length_eq
  unseen := by
    intro i ha hb
    cases i with
    | zero =>
      exact .inl rfl
    | succ i =>
      simp only [List.length_cons, List.length_map] at ha hb
      simp only [List.getElem_cons_succ, List.getElem_map]
      rcases h.unseen (i + 1) ha hb with heq | ⟨hmay, hmark⟩
      · exact .inl (congrArg _ heq)
      · exact .inr ⟨hmay, hmark.dropEnd⟩

/-- The last of the lines is empty in both or in none. -/
theorem getLast?_eq_nil_iff (h : DifferAt may a b) :
    a.getLast? = some [] ↔ b.getLast? = some [] := by
  rw [List.getLast?_eq_getElem?, List.getLast?_eq_getElem?, ← h.length_eq]
  by_cases hne : a.length = 0
  · have hb : b.length = 0 := by
      rw [← h.length_eq, hne]
    rw [List.length_eq_zero_iff.1 hne, List.length_eq_zero_iff.1 hb]
  · have ha : a.length - 1 < a.length := Nat.sub_one_lt hne
    have hb : a.length - 1 < b.length := h.length_eq ▸ ha
    rw [List.getElem?_eq_getElem ha, List.getElem?_eq_getElem hb]
    rcases h.unseen (a.length - 1) ha hb with heq | ⟨-, hmark⟩
    · rw [heq]
    · simp [hmark.ne_nil.1, hmark.ne_nil.2]

/-- Lines that may differ at some places still may without the last ones. -/
theorem dropLast (h : DifferAt may a b) : DifferAt may a.dropLast b.dropLast where
  length_eq := by
    rw [List.length_dropLast, List.length_dropLast, h.length_eq]
  unseen := by
    intro i ha hb
    rw [List.getElem_dropLast, List.getElem_dropLast]
    exact h.unseen i _ _

theorem dropFinalEmpty (h : DifferAt may a b) :
    DifferAt may (dropFinalEmpty a) (dropFinalEmpty b) := by
  have hlast := h.getLast?_eq_nil_iff
  by_cases hempty : a.getLast? = some []
  · simpa [Diff.dropFinalEmpty, hempty, hlast.1 hempty] using h.dropLast
  · simpa [Diff.dropFinalEmpty, hempty, mt hlast.2 hempty] using h

end DifferAt

/-- Texts that differ where it does not show, piece for piece between their line feeds, are read as
lines that do. -/
theorem ReadState.differUnseen_of_pieces {s₁ s₂ : List Char}
    (h : DifferAt (fun i => ReadState.expectsBelow {} ((textLines s₁).take i))
      (Text.splitAtChar '\n' s₁) (Text.splitAtChar '\n' s₂)) :
    DifferUnseen {} (textLines s₁) (textLines s₂) := by
  rcases List.exists_cons_of_ne_nil (Text.splitAtChar_ne_nil '\n' s₁) with ⟨x, a, h₁⟩
  rcases List.exists_cons_of_ne_nil (Text.splitAtChar_ne_nil '\n' s₂) with ⟨y, b, h₂⟩
  rw [h₁, h₂] at h
  -- No hunk is open in front of the first line, so the two texts begin with the same line.
  have hfirst : x = y := by
    rcases h.unseen 0 (Nat.succ_pos _) (Nat.succ_pos _) with heq | ⟨hnone, -⟩
    · exact heq
    · cases hnone
  have htrimmed := h.cons_map_dropEnd (Text.dropEnd (· == '\r') (x.dropWhile (· == '\ufeff')))
  have hread : ∀ {s : List Char} {first : List Char} {rest : List (List Char)},
      Text.splitAtChar '\n' s = first :: rest →
      textLines s = dropFinalEmpty (Text.dropEnd (· == '\r') (first.dropWhile (· == '\ufeff')) ::
        rest.map (Text.dropEnd (· == '\r'))) := by
    intro s first rest hs
    rw [textLines, splitAtChar_dropWhile, hs]
    rfl
  have hlines := htrimmed.dropFinalEmpty
  rw [← hread h₁] at hlines
  rw [hfirst, ← hread h₂] at hlines
  exact hlines

end Diff
end PatchReview
