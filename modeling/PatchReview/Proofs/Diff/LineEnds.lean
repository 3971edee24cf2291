import PatchReview.Proofs.Diff.Lines

/-!
# Line ends of a diff

Reading a file puts a line feed for each line end, and a carriage return is one. A diff is cut at
line feeds alone and drops carriage returns where its lines end. Both see the same lines of a text
that has its carriage returns in front of line feeds; and however many stand there, and byte order
marks in front of all, the diff is the same.
-/

namespace PatchReview
namespace Text

/-- Every carriage return stands directly in front of a line feed. -/
def ReturnsEndLines (s : List Char) : Prop :=
  ∀ before after, s = before ++ '\r' :: after → after.head? = some '\n'

theorem returnsEndLines_nil : ReturnsEndLines [] := by
  intro before after heq
  cases before <;> cases heq

/-- A carriage return in front needs a line feed behind it; others may be left to the rest. -/
theorem returnsEndLines_cons {c : Char} {s : List Char} :
    ReturnsEndLines (c :: s) ↔ (c = '\r' → s.head? = some '\n') ∧ ReturnsEndLines s := by
  constructor
  · intro h
    refine ⟨?_, fun before after heq => h (c :: before) after (by rw [heq, List.cons_append])⟩
    rintro rfl
    exact h [] s rfl
  · rintro ⟨hfirst, hrest⟩ before after heq
    cases before with
    | nil =>
      cases heq
      exact hfirst rfl
    | cons x before =>
      cases heq
      exact hrest before after rfl

theorem ReturnsEndLines.of_cons {c : Char} {s : List Char} (h : ReturnsEndLines (c :: s)) :
    ReturnsEndLines s :=
  (returnsEndLines_cons.1 h).2

instance decidableReturnsEndLines : DecidablePred ReturnsEndLines
  | [] => isTrue returnsEndLines_nil
  | _ :: s =>
    have := decidableReturnsEndLines s
    decidable_of_iff _ returnsEndLines_cons.symm

/-- What stands in front of a character that stays is not dropped. -/
theorem dropEnd_cons {p : Char → Bool} {c : Char} (hc : p c = false) (s : List Char) :
    dropEnd p (c :: s) = c :: dropEnd p s := by
  rw [dropEnd_eq_rdropWhile, dropEnd_eq_rdropWhile]
  induction s using List.reverseRecOn with
  | nil =>
    rw [← List.nil_append [c], List.rdropWhile_concat_neg _ _ _ (by simp [hc])]
    rfl
  | append_singleton s x ih =>
    rw [← List.cons_append]
    by_cases hx : p x = true
    · rw [List.rdropWhile_concat_pos _ _ _ hx, List.rdropWhile_concat_pos _ _ _ hx, ih]
    · rw [List.rdropWhile_concat_neg _ _ _ hx, List.rdropWhile_concat_neg _ _ _ hx,
        List.cons_append]

/-- Other characters in front of a text are dropped before or after its line ends are changed. -/
theorem dropWhile_normalizeLineEnds {mark : Char} (hfeed : mark ≠ '\n') (hreturn : mark ≠ '\r')
    (s : List Char) :
    (normalizeLineEnds s).dropWhile (· == mark) = normalizeLineEnds (s.dropWhile (· == mark)) := by
  have hstop : ∀ t : List Char, ('\n' :: t).dropWhile (· == mark) = '\n' :: t := by
    intro t
    rw [List.dropWhile_cons_of_neg (by simpa using hfeed.symm)]
  have hstop' : ∀ t : List Char, ('\r' :: t).dropWhile (· == mark) = '\r' :: t := by
    intro t
    rw [List.dropWhile_cons_of_neg (by simpa using hreturn.symm)]
  induction s using normalizeLineEnds.induct with
  | case1 cs ih =>
    rw [normalizeLineEnds, hstop, hstop', normalizeLineEnds]
  | case2 cs hcs ih =>
    rw [normalizeLineEnds, hstop, hstop', normalizeLineEnds] <;> exact hcs
  | case3 c cs hboth hone ih =>
    have hcons : normalizeLineEnds (c :: cs) = c :: normalizeLineEnds cs := by
      rw [normalizeLineEnds] <;> assumption
    rw [hcons]
    by_cases hc : c = mark
    · rw [List.dropWhile_cons_of_pos (by simpa using hc),
        List.dropWhile_cons_of_pos (by simpa using hc), ih]
    · rw [List.dropWhile_cons_of_neg (by simpa using hc),
        List.dropWhile_cons_of_neg (by simpa using hc), hcons]
  | case4 =>
    rfl

/-- What is dropped from the end of a text may be dropped before something is put in front of it. -/
theorem dropEnd_cons_dropEnd (p : Char → Bool) (c : Char) (s : List Char) :
    dropEnd p (c :: dropEnd p s) = dropEnd p (c :: s) := by
  rw [dropEnd_eq_rdropWhile, dropEnd_eq_rdropWhile, dropEnd_eq_rdropWhile]
  induction s using List.reverseRecOn with
  | nil =>
    rfl
  | append_singleton s x ih =>
    by_cases hx : p x = true
    · rw [List.rdropWhile_concat_pos _ _ _ hx, ih, ← List.cons_append,
        List.rdropWhile_concat_pos _ _ _ hx]
    · rw [List.rdropWhile_concat_neg _ _ _ hx]

/-- A text with carriage returns put in front of its line feeds, as many as the numbers say one
after the other, and none once the numbers have run out. -/
def addReturns : (returns : List Nat) → List Char → List Char
  | _, [] => []
  | returns, c :: s =>
    if c == '\n' then List.replicate (returns.headD 0) '\r' ++ '\n' :: addReturns returns.tail s
    else c :: addReturns returns s

/-- The next number of carriage returns goes in front of a line feed. -/
theorem addReturns_lineFeed (returns : List Nat) (s : List Char) :
    addReturns returns ('\n' :: s) =
      List.replicate (returns.headD 0) '\r' ++ '\n' :: addReturns returns.tail s :=
  rfl

/-- Nothing goes in front of other characters. -/
theorem addReturns_cons {c : Char} (hc : c ≠ '\n') (returns : List Nat) (s : List Char) :
    addReturns returns (c :: s) = c :: addReturns returns s := by
  rw [addReturns, if_neg (by simpa using hc)]

/-- Other characters in front of a text are dropped before or after returns are put in. -/
theorem dropWhile_addReturns {mark : Char} (hfeed : mark ≠ '\n') (hreturn : mark ≠ '\r')
    (returns : List Nat) (s : List Char) :
    (addReturns returns s).dropWhile (· == mark) =
      addReturns returns (s.dropWhile (· == mark)) := by
  have hstop {c : Char} (hc : c ≠ mark) (t : List Char) : (c :: t).dropWhile (· == mark) = c :: t :=
    List.dropWhile_cons_of_neg (by simpa using hc)
  induction s with
  | nil =>
    rfl
  | cons c s ih =>
    by_cases hc : c = '\n'
    · -- behind the marks stands a line feed, or a return that is put in front of it
      rw [hc, hstop hfeed.symm, addReturns_lineFeed]
      cases returns.headD 0 with
      | zero => exact hstop hfeed.symm _
      | succ n => exact hstop hreturn.symm _
    · rw [addReturns_cons hc]
      by_cases hmark : c = mark
      · rw [List.dropWhile_cons_of_pos (by simpa using hmark),
          List.dropWhile_cons_of_pos (by simpa using hmark), ih]
      · rw [hstop hmark, hstop hmark, addReturns_cons hc]

end Text

namespace Diff

open Text

/-! ## Line ends for one another -/

/-- Carriage returns in front of a line feed are dropped with it. -/
theorem trimmedPieces_returns (n : Nat) (s : List Char) :
    trimmedPieces (List.replicate n '\r' ++ '\n' :: s) = [] :: trimmedPieces s := by
  have hfeed : '\n' ∉ List.replicate n '\r' := by
    simp
  have hreturns : dropEnd (· == '\r') ([] ++ List.replicate n '\r') = [] :=
    dropEnd_append (by simp) (by simp)
  rw [List.nil_append] at hreturns
  rw [trimmedPieces_append, trimmedPieces, splitAtChar_of_not_mem hfeed, List.map_singleton,
    hreturns, List.singleton_append]

theorem trimmedPieces_lineFeed (s : List Char) :
    trimmedPieces ('\n' :: s) = [] :: trimmedPieces s :=
  trimmedPieces_returns 0 s

/-- A character that ends no line comes in front of the first line, and is dropped with the returns
behind it if it is one and the line is empty. -/
theorem trimmedPieces_cons {c : Char} (hfeed : c ≠ '\n') (s : List Char) :
    trimmedPieces (c :: s) = (trimmedPieces s).modifyHead fun line =>
      dropEnd (· == '\r') (c :: line) := by
  rw [trimmedPieces, trimmedPieces, splitAtChar, if_neg (by simpa using hfeed)]
  cases h : splitAtChar '\n' s with
  | nil =>
    exact absurd h (splitAtChar_ne_nil '\n' s)
  | cons piece pieces =>
    rw [List.map_cons, List.map_cons, List.modifyHead_cons, dropEnd_cons_dropEnd]

/-- One line end for another leaves the lines. -/
theorem trimmedPieces_normalizeLineEnds {s : List Char} (h : ReturnsEndLines s) :
    trimmedPieces (normalizeLineEnds s) = trimmedPieces s := by
  induction s using normalizeLineEnds.induct with
  | case1 cs ih =>
    rw [normalizeLineEnds, trimmedPieces_lineFeed, ih h.of_cons.of_cons]
    exact (trimmedPieces_returns 1 cs).symm
  | case2 cs hcs ih =>
    have hhead := h [] cs rfl
    cases cs with
    | nil =>
      cases hhead
    | cons c cs =>
      cases hhead
      exact absurd rfl (hcs cs)
  | case3 c cs hboth hreturn ih =>
    rw [normalizeLineEnds]
    · by_cases hfeed : c = '\n'
      · rw [hfeed, trimmedPieces_lineFeed, trimmedPieces_lineFeed, ih h.of_cons]
      · rw [trimmedPieces_cons hfeed, trimmedPieces_cons hfeed, ih h.of_cons]
    · exact hboth
    · exact hreturn
  | case4 =>
    rfl

/-- A diff is the same with line feeds for its line ends, if no carriage return stands elsewhere. -/
theorem parse_normalizeLineEnds {text : List Char} (h : ReturnsEndLines text) :
    parse (String.ofList (normalizeLineEnds text)) = parse (String.ofList text) := by
  have hsuffix : ReturnsEndLines (text.dropWhile (· == '\ufeff')) := by
    intro before after heq
    refine h (text.takeWhile (· == '\ufeff') ++ before) after ?_
    rw [List.append_assoc, ← heq, List.takeWhile_append_dropWhile]
  rw [parse, parse, String.toList_ofList, String.toList_ofList, textLines_eq, textLines_eq,
    dropWhile_normalizeLineEnds (by decide) (by decide), trimmedPieces_normalizeLineEnds hsuffix]

/-! ## More returns -/

/-- Carriage returns in front of line feeds are trimmed with the others. -/
theorem trimmedPieces_addReturns (returns : List Nat) (s : List Char) :
    trimmedPieces (addReturns returns s) = trimmedPieces s := by
  induction s generalizing returns with
  | nil =>
    rfl
  | cons c s ih =>
    by_cases hc : c = '\n'
    · rw [hc, addReturns_lineFeed, trimmedPieces_returns, ih, trimmedPieces_lineFeed]
    · rw [addReturns_cons hc, trimmedPieces_cons hc, trimmedPieces_cons hc, ih]

theorem dropWhile_replicate_append (marks : Nat) (mark : Char) (s : List Char) :
    (List.replicate marks mark ++ s).dropWhile (· == mark) = s.dropWhile (· == mark) := by
  induction marks with
  | zero =>
    rfl
  | succ n ih =>
    rw [List.replicate_succ, List.cons_append, List.dropWhile_cons_of_pos (by simp), ih]

/-- Marks at the start and carriage returns at the ends play no part in the lines of a text. -/
theorem textLines_addReturns (marks : Nat) (returns : List Nat) (s : List Char) :
    textLines (List.replicate marks '\ufeff' ++ addReturns returns s) = textLines s := by
  rw [textLines_eq, textLines_eq, dropWhile_replicate_append,
    dropWhile_addReturns (by decide) (by decide), trimmedPieces_addReturns]

/-- Any number of byte order marks in front of a text, and of carriage returns in front of each of
its line feeds, make no difference: the diff is the same, and so is the reason if there is none. -/
theorem parse_addReturns (marks : Nat) (returns : List Nat) (text : String) :
    parse (String.ofList (List.replicate marks '\ufeff' ++ addReturns returns text.toList)) =
      parse text := by
  rw [parse, parse, String.toList_ofList, textLines_addReturns]

end Diff
end PatchReview
