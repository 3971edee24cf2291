import Mathlib.Data.List.DropRight
import Mathlib.Data.List.Infix
import PatchReview.Text.Blank
import PatchReview.Text.Pieces

/-!
# Marks and lines in texts

What cutting a text finds: a mark at its start, the last occurrence of a mark, the pieces between
line feeds, and what is left after trimming its end. Each function is described by the way in which
its input is put together, so that later proofs do not open it.
-/

namespace PatchReview
namespace Text

/-! ## Marks at the start -/

/-- Behind a mark at the start comes the rest. -/
@[simp] theorem afterStart?_append (mark s : List Char) :
    afterStart? mark (mark ++ s) = some s := by
  induction mark with
  | nil =>
    rfl
  | cons m mark ih =>
    simpa [afterStart?] using ih

/-- There is a rest behind a mark if the text starts with the mark. -/
theorem afterStart?_eq_some_iff {mark s rest : List Char} :
    afterStart? mark s = some rest ↔ s = mark ++ rest := by
  constructor
  · intro h
    induction mark generalizing s with
    | nil =>
      simpa [afterStart?] using h
    | cons m mark ih =>
      cases s with
      | nil =>
        simp [afterStart?] at h
      | cons c cs =>
        by_cases hc : m = c
        · have hcs : afterStart? mark cs = some rest := by
            simpa [afterStart?, hc] using h
          simp [hc, ih hcs]
        · simp [afterStart?, hc] at h
  · rintro rfl
    exact afterStart?_append mark rest

/-- There is none if the text does not start with it. -/
theorem afterStart?_eq_none_iff {mark s : List Char} :
    afterStart? mark s = none ↔ ¬ mark <+: s := by
  constructor
  · rintro h ⟨rest, hrest⟩
    rw [afterStart?_eq_some_iff.2 hrest.symm] at h
    cases h
  · intro h
    cases hs : afterStart? mark s with
    | none =>
      rfl
    | some rest =>
      exact absurd ⟨rest, (afterStart?_eq_some_iff.1 hs).symm⟩ h

/-- To start with a mark is to have it as a start. -/
theorem startsWith_iff {mark : String} {s : List Char} :
    startsWith mark s = true ↔ mark.toList <+: s := by
  rw [startsWith, Option.isSome_iff_ne_none, ne_eq, afterStart?_eq_none_iff, not_not]

/-! ## Occurrences of a mark -/

/-- To have a mark inside is to have it as an infix. -/
theorem occursIn_iff {mark s : List Char} : occursIn mark s = true ↔ mark <:+: s := by
  rw [occursIn]
  induction s with
  | nil =>
    simp [cutFirst?]
  | cons c cs ih =>
    rw [List.infix_cons_iff, cutFirst?, ← ih]
    cases hstart : afterStart? mark (c :: cs) with
    | none =>
      simp [afterStart?_eq_none_iff.1 hstart]
    | some rest =>
      simp [afterStart?_eq_some_iff.1 hstart]

/-- A mark is found exactly where it occurs. -/
theorem cutLast?_eq_none_iff {mark s : List Char} :
    cutLast? mark s = none ↔ ¬ mark <:+: s := by
  induction s with
  | nil =>
    simp [cutLast?]
  | cons c cs ih =>
    cases h : cutLast? mark cs with
    | none =>
      simp [cutLast?, h, List.infix_cons_iff, afterStart?_eq_none_iff, ih.1 h]
    | some found =>
      have hcs : mark <:+: cs := by
        by_contra hno
        simp [ih.2 hno] at h
      simp [cutLast?, h, List.infix_cons_iff, hcs]

/-- What is found in the rest of a text is found in the text. -/
theorem cutLast?_append_of_some {mark s before after : List Char} (front : List Char)
    (h : cutLast? mark s = some (before, after)) :
    cutLast? mark (front ++ s) = some (front ++ before, after) := by
  induction front with
  | nil =>
    simpa using h
  | cons c front ih =>
    simp [cutLast?, ih]

/-- The last occurrence of a mark is the one behind which it does not start again. -/
theorem cutLast?_append_mark {m : Char} {mark after : List Char} (front : List Char)
    (h : ¬ (m :: mark) <:+: mark ++ after) :
    cutLast? (m :: mark) (front ++ (m :: mark) ++ after) = some (front, after) := by
  have hlast : cutLast? (m :: mark) (m :: (mark ++ after)) = some ([], after) := by
    have hmark : afterStart? (m :: mark) (m :: (mark ++ after)) = some after := by
      simp [afterStart?]
    simp [cutLast?, cutLast?_eq_none_iff.2 h, hmark]
  simpa using cutLast?_append_of_some front hlast

/-- What is found is a way to cut the text, and the mark does not occur behind it again. -/
theorem eq_append_of_cutLast? {mark s before after : List Char} (hmark : mark ≠ [])
    (h : cutLast? mark s = some (before, after)) :
    s = before ++ mark ++ after ∧ ¬ mark <:+: after := by
  induction s generalizing before with
  | nil =>
    simp [cutLast?, hmark] at h
  | cons c cs ih =>
    rw [cutLast?] at h
    cases hcs : cutLast? mark cs with
    | some found =>
      rcases found with ⟨front, rest⟩
      simp only [hcs, Option.some.injEq, Prod.mk.injEq] at h
      rcases h with ⟨rfl, rfl⟩
      rcases ih hcs with ⟨rfl, hlast⟩
      exact ⟨rfl, hlast⟩
    | none =>
      simp only [hcs] at h
      rcases Option.map_eq_some_iff.1 h with ⟨rest, hstart, heq⟩
      cases heq
      have hsplit : c :: cs = mark ++ after := afterStart?_eq_some_iff.1 hstart
      refine ⟨hsplit, ?_⟩
      intro hlater
      -- a mark that is not empty begins before the rest, which so lies in the tail of the text
      rcases List.exists_cons_of_ne_nil hmark with ⟨m, front, rfl⟩
      have htail : cs = front ++ after := (List.cons.inj hsplit).2
      exact cutLast?_eq_none_iff.1 hcs
        (htail ▸ hlater.trans (List.suffix_append front after).isInfix)

/-! ## Pieces between separators -/

theorem splitAtChar_ne_nil (sep : Char) (s : List Char) : splitAtChar sep s ≠ [] := by
  cases s with
  | nil =>
    simp [splitAtChar]
  | cons c cs =>
    rw [splitAtChar]
    split
    · simp
    · split <;> simp

/-- A separator ends one piece, and the pieces of the rest follow. -/
theorem splitAtChar_append (sep : Char) (s t : List Char) :
    splitAtChar sep (s ++ sep :: t) = splitAtChar sep s ++ splitAtChar sep t := by
  induction s with
  | nil =>
    simp [splitAtChar]
  | cons c cs ih =>
    by_cases hc : c = sep
    · simp [splitAtChar, hc, ih]
    · cases h : splitAtChar sep cs with
      | nil =>
        exact absurd h (splitAtChar_ne_nil sep cs)
      | cons piece pieces =>
        simp [splitAtChar, hc, ih, h]

/-- A text without the separator is one piece. -/
theorem splitAtChar_of_not_mem {sep : Char} {s : List Char} (h : sep ∉ s) :
    splitAtChar sep s = [s] := by
  induction s with
  | nil =>
    rfl
  | cons c cs ih =>
    rw [List.mem_cons, not_or] at h
    simp [splitAtChar, Ne.symm h.1, ih h.2]

/-- What stands before the first separator belongs to the first piece. -/
theorem splitAtChar_append_of_not_mem {sep : Char} {front : List Char} (h : sep ∉ front)
    {s piece : List Char} {pieces : List (List Char)} (hs : splitAtChar sep s = piece :: pieces) :
    splitAtChar sep (front ++ s) = (front ++ piece) :: pieces := by
  induction front with
  | nil =>
    exact hs
  | cons c cs ih =>
    rw [List.mem_cons, not_or] at h
    simp [splitAtChar, Ne.symm h.1, ih h.2]

/-- There is one piece more than there are separators. -/
theorem length_splitAtChar (sep : Char) (s : List Char) :
    (splitAtChar sep s).length = s.count sep + 1 := by
  induction s with
  | nil =>
    rfl
  | cons c cs ih =>
    by_cases hc : c = sep
    · simp [splitAtChar, hc, ih]
    · cases h : splitAtChar sep cs with
      | nil =>
        exact absurd h (splitAtChar_ne_nil sep cs)
      | cons piece pieces =>
        rw [h, List.length_cons] at ih
        simp [splitAtChar, hc, h, ih]

/-- No piece has the separator. -/
theorem not_mem_of_mem_splitAtChar {sep : Char} {s piece : List Char}
    (h : piece ∈ splitAtChar sep s) : sep ∉ piece := by
  induction s generalizing piece with
  | nil =>
    obtain rfl := List.mem_singleton.1 h
    exact List.not_mem_nil
  | cons c cs ih =>
    rw [splitAtChar] at h
    split at h
    · rcases List.mem_cons.1 h with rfl | h
      · exact List.not_mem_nil
      · exact ih h
    · next hc =>
      have hne : sep ≠ c := by
        rintro rfl
        simp at hc
      -- a character that is no separator belongs to the first piece of the rest
      cases hsplit : splitAtChar sep cs with
      | nil =>
        exact absurd hsplit (splitAtChar_ne_nil sep cs)
      | cons first pieces =>
        simp only [hsplit] at h ih
        rcases List.mem_cons.1 h with rfl | h
        · rw [List.mem_cons, not_or]
          exact ⟨hne, ih List.mem_cons_self⟩
        · exact ih (List.mem_cons_of_mem first h)

/-- The last piece is what stands behind the last separator, or the whole text if it has none. -/
theorem getLast?_splitAtChar_eq_some_iff {sep : Char} {s piece : List Char} :
    (splitAtChar sep s).getLast? = some piece ↔
      sep ∉ piece ∧ (s = piece ∨ ∃ front, s = front ++ sep :: piece) := by
  have hbehind {front last : List Char} (hlast : sep ∉ last) :
      (splitAtChar sep (front ++ sep :: last)).getLast? = some last := by
    rw [splitAtChar_append, splitAtChar_of_not_mem hlast, List.getLast?_append]
    rfl
  constructor
  · intro h
    refine ⟨not_mem_of_mem_splitAtChar (List.mem_of_getLast? h), ?_⟩
    cases hcut : cutLast? [sep] s with
    | none =>
      have hsep : sep ∉ s :=
        fun hmem => cutLast?_eq_none_iff.1 hcut ((List.singleton_infix_iff sep _).2 hmem)
      rw [splitAtChar_of_not_mem hsep] at h
      exact .inl (Option.some.inj h)
    | some found =>
      rcases found with ⟨front, last⟩
      rcases eq_append_of_cutLast? (List.cons_ne_nil sep []) hcut with ⟨hs, hlast⟩
      rw [List.append_assoc, List.singleton_append] at hs
      rw [hs, hbehind fun hmem => hlast ((List.singleton_infix_iff sep _).2 hmem)] at h
      exact .inr ⟨front, hs.trans (by rw [Option.some.inj h])⟩
  · rintro ⟨hpiece, rfl | ⟨front, rfl⟩⟩
    · rw [splitAtChar_of_not_mem hpiece]
      rfl
    · exact hbehind hpiece

theorem joinWith_cons_cons (sep piece next : List Char) (pieces : List (List Char)) :
    joinWith sep (piece :: next :: pieces) = piece ++ sep ++ joinWith sep (next :: pieces) :=
  rfl

/-- The pieces with the separator between them are the text again. -/
theorem joinWith_splitAtChar (sep : Char) (s : List Char) :
    joinWith [sep] (splitAtChar sep s) = s := by
  induction s with
  | nil =>
    rfl
  | cons c cs ih =>
    rw [splitAtChar]
    cases hsplit : splitAtChar sep cs with
    | nil =>
      exact absurd hsplit (splitAtChar_ne_nil sep cs)
    | cons piece pieces =>
      rw [hsplit] at ih
      split
      · next hc =>
        show [] ++ [sep] ++ joinWith [sep] (piece :: pieces) = c :: cs
        rw [ih, eq_of_beq hc]
        rfl
      · rw [← ih]
        cases pieces <;> rfl

/-- Pieces without the separator are those of their text. -/
theorem splitAtChar_joinWith {sep : Char} {pieces : List (List Char)} (hne : pieces ≠ [])
    (h : ∀ piece ∈ pieces, sep ∉ piece) : splitAtChar sep (joinWith [sep] pieces) = pieces := by
  induction pieces with
  | nil =>
    exact absurd rfl hne
  | cons piece pieces ih =>
    have hpiece := h piece List.mem_cons_self
    cases pieces with
    | nil =>
      exact splitAtChar_of_not_mem hpiece
    | cons next pieces =>
      rw [joinWith_cons_cons, List.append_assoc, List.singleton_append, splitAtChar_append,
        splitAtChar_of_not_mem hpiece,
        ih (List.cons_ne_nil next pieces) fun p hp => h p (List.mem_cons_of_mem piece hp)]
      rfl

/-- What is added to the last piece is added to the whole. -/
theorem joinWith_concat_append (sep : List Char) (pieces : List (List Char))
    (piece tail : List Char) :
    joinWith sep (pieces ++ [piece ++ tail]) = joinWith sep (pieces ++ [piece]) ++ tail := by
  induction pieces with
  | nil =>
    rfl
  | cons first pieces ih =>
    cases pieces with
    | nil =>
      simp [joinWith]
    | cons next pieces =>
      simp only [List.cons_append, joinWith_cons_cons] at ih ⊢
      rw [ih, List.append_assoc (first ++ sep)]

/-- What stands behind the last separator belongs to the last piece. -/
theorem splitAtChar_append_tail {sep : Char} {s tail piece : List Char} {pieces : List (List Char)}
    (htail : sep ∉ tail) (hs : splitAtChar sep s = pieces ++ [piece]) :
    splitAtChar sep (s ++ tail) = pieces ++ [piece ++ tail] := by
  have hpieces : ∀ p ∈ pieces ++ [piece], sep ∉ p := by
    rw [← hs]
    exact fun p hp => not_mem_of_mem_splitAtChar hp
  have htext : s ++ tail = joinWith [sep] (pieces ++ [piece ++ tail]) := by
    rw [joinWith_concat_append, ← hs, joinWith_splitAtChar]
  rw [htext]
  refine splitAtChar_joinWith (by simp) fun p hp => ?_
  rcases List.mem_append.1 hp with hmem | hlast
  · exact hpieces p (List.mem_append_left _ hmem)
  · have hpiece := hpieces piece (by simp)
    rw [List.mem_singleton.1 hlast, List.mem_append, not_or]
    exact ⟨hpiece, htail⟩

/-- Pieces that each end with a separator are joined by it, with one at the end. -/
theorem flatMap_append_eq_joinWith {sep : List Char} {pieces : List (List Char)}
    (hne : pieces ≠ []) : pieces.flatMap (· ++ sep) = joinWith sep pieces ++ sep := by
  induction pieces with
  | nil =>
    exact absurd rfl hne
  | cons piece pieces ih =>
    rw [List.flatMap_cons]
    cases pieces with
    | nil =>
      simp [joinWith]
    | cons next pieces =>
      rw [ih (List.cons_ne_nil next pieces), joinWith_cons_cons, List.append_assoc (piece ++ sep)]

/-- With a separator behind it, a text is its pieces with one behind each. -/
theorem flatMap_splitAtChar (sep : Char) (s : List Char) :
    (splitAtChar sep s).flatMap (· ++ [sep]) = s ++ [sep] := by
  rw [flatMap_append_eq_joinWith (splitAtChar_ne_nil sep s), joinWith_splitAtChar]

/-- A character of joined pieces is one of a piece or of the separator. -/
theorem mem_joinWith {c : Char} {sep : List Char} {pieces : List (List Char)}
    (h : c ∈ joinWith sep pieces) : c ∈ sep ∨ ∃ piece ∈ pieces, c ∈ piece := by
  induction pieces with
  | nil =>
    cases h
  | cons piece pieces ih =>
    cases pieces with
    | nil =>
      exact .inr ⟨piece, List.mem_cons_self, h⟩
    | cons next pieces =>
      rw [joinWith_cons_cons, List.mem_append, List.mem_append] at h
      rcases h with (hpiece | hsep) | hrest
      · exact .inr ⟨piece, List.mem_cons_self, hpiece⟩
      · exact .inl hsep
      · rcases ih hrest with hsep | ⟨other, hother, hc⟩
        · exact .inl hsep
        · exact .inr ⟨other, List.mem_cons_of_mem _ hother, hc⟩

/-! ## Ends of texts -/

theorem dropEnd_eq_rdropWhile (p : Char → Bool) (s : List Char) : dropEnd p s = s.rdropWhile p :=
  rfl

@[simp] theorem dropEnd_nil (p : Char → Bool) : dropEnd p [] = [] :=
  rfl

/-- A text whose last character stays is not trimmed. -/
theorem dropEnd_eq_self {p : Char → Bool} {s : List Char}
    (hs : ∀ c, s.getLast? = some c → p c = false) : dropEnd p s = s := by
  rw [dropEnd_eq_rdropWhile, List.rdropWhile_eq_self_iff]
  intro hne
  simpa using hs _ (List.getLast?_eq_some_getLast hne)

/-- Nor is it with something behind it that is trimmed. -/
theorem dropEnd_append {p : Char → Bool} {s tail : List Char} (htail : ∀ c ∈ tail, p c = true)
    (hs : ∀ c, s.getLast? = some c → p c = false) : dropEnd p (s ++ tail) = s := by
  induction tail using List.reverseRecOn with
  | nil =>
    rw [List.append_nil]
    exact dropEnd_eq_self hs
  | append_singleton tail c ih =>
    have hc : p c = true := htail c (by simp)
    rw [dropEnd_eq_rdropWhile] at ih ⊢
    rw [← List.append_assoc, List.rdropWhile_concat_pos _ _ _ hc]
    exact ih fun x hx => htail x (by simp [hx])

/-- What is left when the end is dropped is a start. -/
theorem isPrefix_dropEnd (p : Char → Bool) (s : List Char) : dropEnd p s <+: s :=
  List.rdropWhile_prefix p s

/-- The last character that is left is none of those that are dropped. -/
theorem of_getLast?_dropEnd {p : Char → Bool} {s : List Char} {c : Char}
    (h : (dropEnd p s).getLast? = some c) : p c = false := by
  have hne : s.rdropWhile p ≠ [] := by
    rintro hnil
    rw [dropEnd_eq_rdropWhile, hnil] at h
    cases h
  have hlast := List.rdropWhile_last_not p s hne
  rw [dropEnd_eq_rdropWhile, List.getLast?_eq_some_getLast hne, Option.some.injEq] at h
  rwa [h, Bool.not_eq_true] at hlast

/-- Trimming stops at a character that stays. -/
theorem prefix_dropEnd_append {p : Char → Bool} {front : List Char}
    (hfront : ∀ c, front.getLast? = some c → p c = false) (s : List Char) :
    front <+: dropEnd p (front ++ s) := by
  rw [dropEnd_eq_rdropWhile]
  induction s using List.reverseRecOn with
  | nil =>
    rw [List.append_nil, ← dropEnd_eq_rdropWhile, dropEnd_eq_self hfront]
  | append_singleton s c ih =>
    rw [← List.append_assoc]
    by_cases hc : p c = true
    · rwa [List.rdropWhile_concat_pos _ _ _ hc]
    · rw [List.rdropWhile_concat_neg _ _ _ hc, List.append_assoc]
      exact List.prefix_append front _

/-- Trimming leaves a text alone if neither end of it is trimmed. -/
theorem trimBy_eq_self_iff {p : Char → Bool} {s : List Char} :
    trimBy p s = s ↔ (∀ c, s.head? = some c → p c = false) ∧ ∀ c, s.getLast? = some c →
      p c = false := by
  constructor
  · intro h
    have hdrop : s.dropWhile p = s := by
      refine (List.dropWhile_suffix p).eq_of_length_le ?_
      calc s.length = (trimBy p s).length := by rw [h]
        _ ≤ (s.dropWhile p).length := (isPrefix_dropEnd p _).length_le
    have hend : dropEnd p s = s := by
      rw [trimBy, hdrop] at h
      exact h
    constructor
    · intro c hc
      rcases List.head?_eq_some_iff.1 hc with ⟨cs, rfl⟩
      simpa using List.dropWhile_eq_self_iff.1 hdrop
    · intro c hc
      exact of_getLast?_dropEnd (hend.symm ▸ hc)
  · rintro ⟨hhead, hlast⟩
    have hdrop : s.dropWhile p = s := by
      cases s with
      | nil => rfl
      | cons c cs => simp [hhead c rfl]
    rw [trimBy, hdrop, dropEnd_eq_self hlast]

theorem trimBy_cons {p : Char → Bool} {c : Char} {s : List Char} (hc : p c = false)
    (hs : trimBy p s = s) : trimBy p (c :: s) = c :: s := by
  refine trimBy_eq_self_iff.2 ⟨fun first hfirst => ?_, fun last hlast => ?_⟩
  · exact Option.some.inj hfirst ▸ hc
  · rw [List.getLast?_cons, Option.some.injEq] at hlast
    cases h : s.getLast? with
    | none =>
      rw [h] at hlast
      exact hlast ▸ hc
    | some d =>
      rw [h] at hlast
      exact hlast ▸ (trimBy_eq_self_iff.1 hs).2 d h

/-! ## Up to a closing character -/

section UpTo

variable {close : Char} {barred : Char → Bool} {s rest : List Char}

/-- The parts, with the closing character between them, are the text. -/
theorem eq_append_of_upTo? {before : List Char} (h : upTo? close barred s = some (before, rest)) :
    s = before ++ close :: rest := by
  induction s generalizing before with
  | nil =>
    cases h
  | cons c cs ih =>
    rw [upTo?] at h
    split at h
    · next hc =>
      cases h
      rw [beq_iff_eq.1 hc]
      rfl
    · split at h
      · cases h
      · rcases Option.map_eq_some_iff.1 h with ⟨⟨before, after⟩, hcs, heq⟩
        cases heq
        rw [ih hcs]
        rfl

/-- A closing character that neither part finds is not found in both together. -/
theorem upTo?_append_eq_none (hs : upTo? close barred s = none)
    (hrest : upTo? close barred rest = none) : upTo? close barred (s ++ rest) = none := by
  induction s with
  | nil =>
    exact hrest
  | cons c s ih =>
    rw [upTo?] at hs
    rw [List.cons_append, upTo?]
    split at hs
    · cases hs
    · next hclose =>
      rw [if_neg hclose]
      split at hs
      · next hbarred =>
        rw [if_pos hbarred]
      · next hbarred =>
        rw [if_neg hbarred, ih (Option.map_eq_none_iff.1 hs)]
        rfl

end UpTo

end Text
end PatchReview
