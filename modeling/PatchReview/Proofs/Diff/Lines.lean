import PatchReview.Diff.Parser
import PatchReview.Proofs.Text.Pieces

/-!
# The lines of a diff text

A diff text is read as a list of lines. Texts put one behind the other give their lines one behind
the other, as long as the first ends its last line and no byte order mark stands at the seam; and
lines written out with line ends of either kind are read back.
-/

namespace PatchReview
namespace Diff

/-! ## Pieces and trimmed pieces -/

/-- The pieces between line feeds, without carriage returns at their ends. -/
def trimmedPieces (s : List Char) : List (List Char) :=
  (Text.splitAtChar '\n' s).map (Text.dropEnd (· == '\r'))

/-- The lines of a text are its trimmed pieces behind the marks, without an empty one at the end. -/
theorem textLines_eq (s : List Char) :
    textLines s = dropFinalEmpty (trimmedPieces (s.dropWhile (· == '\ufeff'))) :=
  rfl

theorem trimmedPieces_ne_nil (s : List Char) : trimmedPieces s ≠ [] := by
  simp [trimmedPieces, Text.splitAtChar_ne_nil]

/-- A line feed parts the pieces in front of it from those behind it. -/
theorem trimmedPieces_append (s t : List Char) :
    trimmedPieces (s ++ '\n' :: t) = trimmedPieces s ++ trimmedPieces t := by
  simp [trimmedPieces, Text.splitAtChar_append]

/-- Only the last piece may be left out. -/
theorem dropFinalEmpty_append {ys : List (List Char)} (xs : List (List Char)) (h : ys ≠ []) :
    dropFinalEmpty (xs ++ ys) = xs ++ dropFinalEmpty ys := by
  have hlast : (xs ++ ys).getLast? = ys.getLast? := List.getLast?_append_of_ne_nil xs h
  have hinit : (xs ++ ys).dropLast = xs ++ ys.dropLast := List.dropLast_append_of_ne_nil h
  rw [dropFinalEmpty, dropFinalEmpty, hlast, hinit]
  split <;> rfl

@[simp] theorem textLines_nil : textLines [] = [] :=
  rfl

/-! ## Texts one behind the other -/

/-- Byte order marks are dropped from the front of a line as if nothing followed it. -/
theorem dropWhile_mark_append (s t : List Char) :
    (s ++ '\n' :: t).dropWhile (· == '\ufeff') = s.dropWhile (· == '\ufeff') ++ '\n' :: t := by
  induction s with
  | nil =>
    simp
  | cons c cs ih =>
    by_cases hc : c = '\ufeff'
    · simpa [hc] using ih
    · simp [hc]

/-- The lines of two texts of which the first ends its last line. -/
theorem textLines_append {a b : List Char} (ha : a = [] ∨ ∃ front, a = front ++ ['\n'])
    (hb : ∃ c rest, b = c :: rest ∧ c ≠ '\ufeff') :
    textLines (a ++ b) = textLines a ++ textLines b := by
  rcases ha with rfl | ⟨front, rfl⟩
  · simp
  · rcases hb with ⟨c, rest, rfl, hc⟩
    have hmark : (c :: rest).dropWhile (· == '\ufeff') = c :: rest := by
      simp [hc]
    have hfront : textLines (front ++ ['\n']) =
        trimmedPieces (front.dropWhile (· == '\ufeff')) := by
      rw [textLines_eq, dropWhile_mark_append, trimmedPieces_append,
        dropFinalEmpty_append _ (trimmedPieces_ne_nil [])]
      simp [trimmedPieces, Text.splitAtChar, dropFinalEmpty]
    calc
      textLines (front ++ ['\n'] ++ c :: rest)
          = dropFinalEmpty (trimmedPieces ((front ++ '\n' :: c :: rest).dropWhile
              (· == '\ufeff'))) := by
            simp [textLines_eq]
      _ = trimmedPieces (front.dropWhile (· == '\ufeff')) ++
            dropFinalEmpty (trimmedPieces (c :: rest)) := by
            rw [dropWhile_mark_append, trimmedPieces_append,
              dropFinalEmpty_append _ (trimmedPieces_ne_nil _)]
      _ = textLines (front ++ ['\n']) ++ textLines (c :: rest) := by
            rw [hfront, textLines_eq (c :: rest), hmark]

/-- A first line that is not empty is never dropped as the last. -/
theorem dropFinalEmpty_cons {line : List Char} (h : line ≠ []) (lines : List (List Char)) :
    ∃ rest, dropFinalEmpty (line :: lines) = line :: rest := by
  cases lines with
  | nil =>
    refine ⟨[], ?_⟩
    simp [dropFinalEmpty, h]
  | cons other lines =>
    exact ⟨_, dropFinalEmpty_append [line] (List.cons_ne_nil other lines)⟩

/-- The first line of a text begins as the text does. -/
theorem textLines_of_front {c : Char} (front : List Char) (hmark : c ≠ '\ufeff')
    (hfeed : '\n' ∉ c :: front) (hreturn : (c :: front).getLast? ≠ some '\r') (rest : List Char) :
    ∃ line lines, textLines (c :: front ++ rest) = line :: lines ∧ c :: front <+: line := by
  have hdrop : (c :: front ++ rest).dropWhile (· == '\ufeff') = c :: front ++ rest := by
    simp [hmark]
  have hkeep : ∀ x, (c :: front).getLast? = some x → (x == '\r') = false := by
    rintro x hx
    have hne : x ≠ '\r' := fun hr => hreturn (hr ▸ hx)
    simpa using hne
  rcases List.exists_cons_of_ne_nil (Text.splitAtChar_ne_nil '\n' rest) with ⟨piece, pieces, hsplit⟩
  have hpieces : trimmedPieces (c :: front ++ rest) =
      Text.dropEnd (· == '\r') (c :: front ++ piece) :: pieces.map (Text.dropEnd (· == '\r')) := by
    rw [trimmedPieces, Text.splitAtChar_append_of_not_mem hfeed hsplit, List.map_cons]
  have hhead := Text.prefix_dropEnd_append hkeep piece
  have hne : Text.dropEnd (· == '\r') (c :: front ++ piece) ≠ [] := by
    intro hnil
    rw [hnil, List.prefix_nil] at hhead
    cases hhead
  rcases dropFinalEmpty_cons hne (pieces.map (Text.dropEnd (· == '\r'))) with ⟨lines, hlines⟩
  refine ⟨_, lines, ?_, hhead⟩
  rw [textLines_eq, hdrop, hpieces, hlines]

/-! ## Lines written out -/

/-- A text that can stand on a line: no line feed in it and no carriage return at its end. -/
@[mk_iff]
structure FitsLine (s : List Char) : Prop where
  noFeed : '\n' ∉ s
  noReturn : s.getLast? ≠ some '\r'

instance (s : List Char) : Decidable (FitsLine s) :=
  decidable_of_iff _ (fitsLine_iff s).symm

/-- The end of a line has no line ends either. -/
theorem FitsLine.of_suffix {s t : List Char} (h : FitsLine s) (ht : t <:+ s) : FitsLine t where
  noFeed hmem := h.noFeed (ht.subset hmem)
  noReturn hlast := by
    rcases ht with ⟨front, rfl⟩
    apply h.noReturn
    rw [List.getLast?_append, hlast, Option.some_or]

/-- The lines of a text fit on lines. -/
theorem fits_of_mem_textLines {s line : List Char} (h : line ∈ textLines s) : FitsLine line := by
  have hmem : line ∈ trimmedPieces (s.dropWhile (· == '\ufeff')) := by
    rw [textLines_eq, dropFinalEmpty] at h
    split at h
    · exact List.mem_of_mem_dropLast h
    · exact h
  rcases List.mem_map.1 hmem with ⟨piece, hpiece, rfl⟩
  constructor
  · intro hfeed
    exact Text.not_mem_of_mem_splitAtChar hpiece ((Text.isPrefix_dropEnd _ piece).subset hfeed)
  · intro hreturn
    exact absurd (Text.of_getLast?_dropEnd hreturn) (by decide)

/-- What stands at the end of a line. -/
inductive LineEnd where
  | lf
  | crlf
  deriving DecidableEq, Repr

/-- The characters that stand before the line feed of a line end. -/
def LineEnd.returns : LineEnd → List Char
  | .lf => []
  | .crlf => ['\r']

/-- A text that holds lines, each with a line end of its own. -/
inductive Holds : List Char → List (List Char) → Prop where
  | nil : Holds [] []
  | cons {text : List Char} {lines : List (List Char)} (line : List Char) (lineEnd : LineEnd) :
      Holds text lines → Holds (line ++ lineEnd.returns ++ '\n' :: text) (line :: lines)

/-- A line with its end is one piece, and its carriage return is trimmed. -/
theorem trimmedPieces_line {line : List Char} (lineEnd : LineEnd) (h : FitsLine line) :
    trimmedPieces (line ++ lineEnd.returns) = [line] := by
  have hreturns : ∀ c ∈ lineEnd.returns, c = '\r' := by
    cases lineEnd <;> simp [LineEnd.returns]
  have hfeed : '\n' ∉ line ++ lineEnd.returns := by
    intro hmem
    rcases List.mem_append.1 hmem with hline | hend
    · exact h.noFeed hline
    · exact absurd (hreturns _ hend) (by decide)
  have htrim : Text.dropEnd (· == '\r') (line ++ lineEnd.returns) = line := by
    apply Text.dropEnd_append
    · intro c hc
      simpa using hreturns c hc
    · intro c hc
      have hne : c ≠ '\r' := fun hr => h.noReturn (hr ▸ hc)
      simpa using hne
  simp [trimmedPieces, Text.splitAtChar_of_not_mem hfeed, htrim]

/-- The pieces of a text that holds lines are the lines, and nothing behind the last line end. -/
theorem Holds.trimmedPieces_eq {text : List Char} {lines : List (List Char)}
    (h : Holds text lines) (hfit : ∀ line ∈ lines, FitsLine line) :
    trimmedPieces text = lines ++ [[]] := by
  induction h with
  | nil =>
    rfl
  | cons line lineEnd _ ih =>
    have hline : FitsLine line := hfit line (by simp)
    have hrest := ih fun other hother => hfit other (by simp [hother])
    rw [trimmedPieces_append, trimmedPieces_line lineEnd hline, hrest]
    rfl

/-- Lines that were written out, behind any number of byte order marks, are read back. -/
theorem Holds.textLines_eq {text : List Char} {lines : List (List Char)} (marks : Nat)
    (h : Holds text lines) (hfit : ∀ line ∈ lines, FitsLine line)
    (hmark : text.head? ≠ some '\ufeff') :
    textLines (List.replicate marks '\ufeff' ++ text) = lines := by
  -- all marks are dropped and nothing else, because the text does not begin with one
  have hdrop : (List.replicate marks '\ufeff' ++ text).dropWhile (· == '\ufeff') = text := by
    induction marks with
    | zero =>
      cases text with
      | nil =>
        rfl
      | cons c cs =>
        have hc : c ≠ '\ufeff' := by
          simpa using hmark
        simp [hc]
    | succ n ih =>
      simpa [List.replicate_succ] using ih
  rw [Diff.textLines_eq, hdrop, h.trimmedPieces_eq hfit, dropFinalEmpty_append _ (by simp)]
  simp [dropFinalEmpty]

end Diff
end PatchReview
