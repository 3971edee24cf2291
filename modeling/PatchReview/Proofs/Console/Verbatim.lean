import Mathlib.Data.List.Infix
import PatchReview.Proofs.Console.Markup

/-!
# Texts that are shown as they are

A console reads every text for tags, for escaped brackets and for the names of pictographs, and it
drops some controls. Each of these takes characters away and none adds any. So a text is shown as it
is just if it holds nothing of the kind, whatever brackets, backslashes and colons it is made of
otherwise.
-/

namespace PatchReview
namespace Console

/-! ## Escaped brackets -/

/-- Taking out the backslashes before brackets makes no text longer. -/
theorem length_unescape_le (s : List Char) : (unescape s).length ≤ s.length := by
  fun_induction unescape s with
  | case1 cs ih => simpa using Nat.le_succ_of_le ih
  | case2 c cs _ ih => simpa using ih
  | case3 => exact Nat.le_refl 0

/-- A text without a backslash before a bracket stays as it is. -/
theorem unescape_eq_self {s : List Char} (h : ¬ ['\\', '['] <:+: s) : unescape s = s := by
  fun_induction unescape s with
  | case1 cs ih => exact absurd ⟨[], cs, rfl⟩ h
  | case2 c cs _ ih => rw [ih fun hin => h (hin.trans (List.suffix_cons c cs).isInfix)]
  | case3 => rfl

/-- A text that keeps its length has no backslash to take out. -/
theorem not_infix_of_length_unescape {s : List Char} (h : (unescape s).length = s.length) :
    ¬ ['\\', '['] <:+: s := by
  fun_induction unescape s with
  | case1 cs ih =>
    have hle := length_unescape_le cs
    simp only [List.length_cons] at h
    omega
  | case2 c cs hother ih =>
    rw [List.length_cons, List.length_cons, Nat.add_right_cancel_iff] at h
    rw [List.infix_cons_iff, not_or]
    refine ⟨?_, ih h⟩
    rintro ⟨rest, hrest⟩
    cases hrest
    exact hother rest rfl rfl
  | case3 => simp

/-! ## Pictographs -/

/-- The names between colons that a console looks up in a text. -/
def colonNames : (fuel : Nat) → List Char → List (List Char)
  | 0, _ => []
  | _, [] => []
  | fuel + 1, c :: cs =>
    if c = ':' then
      match untilColon? cs with
      | none => colonNames fuel cs
      | some (name, rest) => name :: colonNames fuel rest
    else colonNames fuel cs

/-- A character that is no colon starts no name of a pictograph. -/
theorem showPictographs_cons_of_ne {c : Char} (hc : c ≠ ':') (fuel : Nat) (cs : List Char) :
    showPictographs (fuel + 1) (c :: cs) = c :: showPictographs fuel cs := by
  rw [showPictographs]
  rintro rfl
  exact hc rfl

theorem length_selector_le (name : List Char) :
    (splitPresentation name).2.length ≤ name.length := by
  cases name with
  | nil =>
    decide
  | cons c cs =>
    -- there is at most one selector, and the name has a character
    refine Nat.le_trans (m := 1) ?_ (Nat.succ_pos cs.length)
    unfold splitPresentation
    by_cases hemoji : "-emoji".toList.isSuffixOf (c :: cs) = true
    · simp only [hemoji, if_true]
      exact Nat.le_refl 1
    · by_cases htext : "-text".toList.isSuffixOf (c :: cs) = true
      · simp only [hemoji, htext]
        exact Nat.le_refl 1
      · simp only [hemoji, htext]
        exact Nat.zero_le 1

/-- A pictograph takes less room than its name between colons, also with a selector behind it. -/
theorem length_lt_of_pictograph? {name shown : List Char} (h : pictograph? name = some shown) :
    shown.length < name.length + 2 := by
  rcases Option.map_eq_some_iff.1 h with ⟨n, -, rfl⟩
  have hselector := length_selector_le name
  simp only [List.length_cons]
  exact Nat.succ_lt_succ (Nat.lt_succ_of_le hselector)

/-- What is shown at a colon: a pictograph if a name follows that is one. -/
theorem showPictographs_colon (fuel : Nat) (cs : List Char) :
    showPictographs (fuel + 1) (':' :: cs) =
      match untilColon? cs with
      | none => ':' :: showPictographs fuel cs
      | some (name, rest) =>
        (pictograph? name).getD (':' :: name ++ [':']) ++ showPictographs fuel rest := by
  cases hname : untilColon? cs with
  | none => simp only [showPictographs, hname]
  | some found => simp only [showPictographs, hname]

/-- A name is replaced by something that is no longer, so no text gets longer. -/
theorem length_showPictographs_le (fuel : Nat) (s : List Char) :
    (showPictographs fuel s).length ≤ s.length := by
  induction fuel generalizing s with
  | zero =>
    exact Nat.le_refl _
  | succ fuel ih =>
    cases s with
    | nil =>
      exact Nat.le_refl _
    | cons c cs =>
      by_cases hc : c = ':'
      · subst hc
        rw [showPictographs_colon]
        cases hname : untilColon? cs with
        | none =>
          exact Nat.succ_le_succ (ih cs)
        | some found =>
          rcases found with ⟨name, rest⟩
          have hrest := ih rest
          -- a pictograph is shorter than its name between two colons
          have hshown : ((pictograph? name).getD (':' :: name ++ [':'])).length ≤
              name.length + 2 := by
            cases hshown : pictograph? name with
            | none => simp
            | some shown => exact (length_lt_of_pictograph? hshown).le
          rw [Text.eq_append_of_upTo? hname]
          simp only [List.length_append, List.length_cons]
          omega
      · rw [showPictographs_cons_of_ne hc]
        exact Nat.succ_le_succ (ih cs)

/-- A text keeps its colons and what stands between them just if no name there is one of a
pictograph. -/
theorem showPictographs_eq_self_iff {fuel : Nat} {s : List Char} :
    showPictographs fuel s = s ↔ ∀ name ∈ colonNames fuel s, pictograph? name = none := by
  induction fuel generalizing s with
  | zero =>
    simp [showPictographs, colonNames]
  | succ fuel ih =>
    cases s with
    | nil =>
      simp [showPictographs, colonNames]
    | cons c cs =>
      by_cases hc : c = ':'
      · subst hc
        rw [showPictographs_colon, colonNames, if_pos rfl]
        cases hname : untilColon? cs with
        | none =>
          simp [ih]
        | some found =>
          rcases found with ⟨name, rest⟩
          have hsplit : ':' :: cs = (':' :: name ++ [':']) ++ rest := by
            simp [Text.eq_append_of_upTo? hname]
          dsimp only
          rw [hsplit, List.forall_mem_cons, ← ih]
          cases hshown : pictograph? name with
          | none =>
            simp
          | some shown =>
            -- a pictograph makes the text shorter, and nothing behind it makes up for that
            have hlt := length_lt_of_pictograph? hshown
            have hle := length_showPictographs_le fuel rest
            have hne : shown ++ showPictographs fuel rest ≠ (':' :: name ++ [':']) ++ rest := by
              intro heq
              have hlength := congrArg List.length heq
              simp only [List.length_append, List.length_cons, List.length_nil] at hlength
              omega
            simpa using hne
      · rw [showPictographs_cons_of_ne hc, colonNames, if_neg hc, List.cons.injEq, ih]
        simp

/-! ## Tags -/

/-- A tag with its backslashes takes up a part of the text. -/
theorem length_of_tagAt? {s tag rest : List Char} {slashes : Nat}
    (h : tagAt? s = some (slashes, tag, rest)) :
    s.length = slashes + tag.length + 2 + rest.length := by
  rw [tagAt?, List.span_eq_takeWhile_dropWhile] at h
  dsimp only at h
  split at h
  · next c cs hdrop =>
    split at h
    · rcases Option.map_eq_some_iff.1 h with ⟨⟨front, after⟩, hfront, heq⟩
      cases heq
      have hlength := congrArg List.length
        (List.takeWhile_append_dropWhile (p := (· == '\\')) (l := s))
      rw [hdrop, Text.eq_append_of_upTo? hfront] at hlength
      simp only [List.length_append, List.length_cons] at hlength ⊢
      omega
    · cases h
  · cases h

/-- The characters of the plain parts among some parts. -/
def plainLength : List Chunk → Nat
  | [] => 0
  | .plain s :: rest => s.length + plainLength rest
  | .tag _ _ :: rest => plainLength rest

theorem plainLength_append (a b : List Chunk) :
    plainLength (a ++ b) = plainLength a + plainLength b := by
  induction a with
  | nil =>
    simp [plainLength]
  | cons chunk a ih =>
    cases chunk <;> simp [plainLength, ih, Nat.add_assoc]

/-- Only plain parts are shown, and no more than their characters. -/
theorem length_plainOf_le {stack : List String} {parts : List Chunk} {shown : List Char}
    (h : plainOf stack parts = .ok shown) : shown.length ≤ plainLength parts := by
  induction parts generalizing stack shown with
  | nil =>
    cases h
    exact Nat.le_refl 0
  | cons part parts ih =>
    cases part with
    | plain s =>
      rw [plainOf] at h
      cases hrest : plainOf stack parts with
      | error e =>
        rw [hrest] at h
        cases h
      | ok rest =>
        rw [hrest] at h
        cases h
        -- of plain text only backslashes, names of pictographs and dropped characters go
        have hfilter := List.length_filter_le (fun c => !isDropped c)
          (showPictographs (s.length + 1) (unescape s))
        have hpictures := length_showPictographs_le (s.length + 1) (unescape s)
        have hescapes := length_unescape_le s
        have hshown := ih hrest
        rw [List.length_append, plainLength]
        omega
    | tag position tag =>
      rw [plainOf] at h
      cases hstack : applyTag position tag stack with
      | error e =>
        rw [hstack] at h
        cases h
      | ok stack' =>
        rw [hstack] at h
        exact ih h

/-- At a tag at least its brackets or a backslash are lost. -/
theorem plainLength_chunks_of_tag {s tag rest : List Char} {slashes : Nat}
    (h : tagAt? s = some (slashes, tag, rest)) (fuel position : Nat) (before : List Char) : ∃ next,
      plainLength (chunks (fuel + 1) position before s) + 1 ≤
        before.length + (slashes + tag.length + 2) + plainLength (chunks fuel next [] rest) := by
  cases s with
  | nil =>
    cases h
  | cons c cs =>
    refine ⟨position + slashes + tag.length + 2, ?_⟩
    have hbefore : plainLength (if before.isEmpty then [] else [Chunk.plain before.reverse]) =
        before.length := by
      cases before <;> simp [plainLength]
    have hslashes : plainLength
        (if slashes < 2 then [] else [.plain (List.replicate (slashes / 2) '\\')]) ≤
        slashes / 2 := by
      split
      · exact Nat.zero_le _
      · simp [plainLength]
    -- an odd number of backslashes escapes the tag, which is then plain text itself
    have hpart (parts : List Chunk) :
        plainLength ((if slashes % 2 == 1 then Chunk.plain ('[' :: tag ++ [']'])
        else .tag (position + slashes / 2 * 2) tag) :: parts) + slashes / 2 + 1 ≤
        slashes + tag.length + 2 + plainLength parts := by
      by_cases hodd : slashes % 2 = 1
      · rw [if_pos (beq_iff_eq.2 hodd)]
        simp only [plainLength, List.length_cons, List.length_append, List.length_nil]
        omega
      · rw [if_neg (mt beq_iff_eq.1 hodd)]
        simp only [plainLength]
        omega
    have hhere := hpart (chunks fuel (position + slashes + tag.length + 2) [] rest)
    rw [chunks, h]
    dsimp only
    rw [plainLength_append, plainLength_append, hbefore]
    omega

/-- Where no tag begins, a character is plain text. -/
theorem chunks_of_noTag {c : Char} {cs : List Char} (h : tagAt? (c :: cs) = none)
    (fuel position : Nat) (before : List Char) :
    chunks (fuel + 1) position before (c :: cs) = chunks fuel (position + 1) (c :: before) cs := by
  rw [chunks, h]

/-- The plain text of a markup is no longer than the markup. -/
theorem plainLength_chunks_le (fuel position : Nat) (before s : List Char) :
    plainLength (chunks fuel position before s) ≤ before.length + s.length := by
  induction fuel generalizing position before s with
  | zero =>
    exact Nat.zero_le _
  | succ fuel ih =>
    cases s with
    | nil =>
      rw [chunks]
      · split
        · exact Nat.zero_le _
        · simp [plainLength]
      · simp
    | cons c cs =>
      cases htag : tagAt? (c :: cs) with
      | none =>
        have hrest := ih (position + 1) (c :: before) cs
        rw [chunks_of_noTag htag]
        simp only [List.length_cons] at hrest ⊢
        omega
      | some found =>
        rcases found with ⟨slashes, tag, rest⟩
        rcases plainLength_chunks_of_tag htag fuel position before with ⟨next, hlength⟩
        have hrest := ih next [] rest
        rw [length_of_tagAt? htag]
        rw [List.length_nil] at hrest
        omega

/-- A text in which a tag stands anywhere loses characters. -/
theorem plainLength_chunks_lt {s t : List Char} (hsuffix : t <:+ s) (htag : tagAt? t ≠ none)
    {fuel : Nat} (hfuel : s.length < fuel) (position : Nat) (before : List Char) :
    plainLength (chunks fuel position before s) < before.length + s.length := by
  induction fuel generalizing position before s with
  | zero =>
    cases hfuel
  | succ fuel ih =>
    cases s with
    | nil =>
      rw [List.suffix_nil.1 hsuffix] at htag
      exact absurd rfl htag
    | cons c cs =>
      cases hhere : tagAt? (c :: cs) with
      | some found =>
        rcases found with ⟨slashes, tag, rest⟩
        rcases plainLength_chunks_of_tag hhere fuel position before with ⟨next, hlength⟩
        have hrest := plainLength_chunks_le fuel next [] rest
        rw [length_of_tagAt? hhere]
        rw [List.length_nil] at hrest
        omega
      | none =>
        rcases List.suffix_cons_iff.1 hsuffix with rfl | hlater
        · exact absurd hhere htag
        · have hrest := ih hlater (Nat.lt_of_succ_lt_succ hfuel) (position + 1) (c :: before)
          rw [chunks_of_noTag hhere]
          simp only [List.length_cons] at hrest ⊢
          omega

/-- Without a tag all of a text is one plain part. -/
theorem chunks_of_forall_noTag {s : List Char} (h : ∀ t, t <:+ s → tagAt? t = none) {fuel : Nat}
    (hfuel : s.length < fuel) (position : Nat) (before : List Char) (hsome : before ++ s ≠ []) :
    chunks fuel position before s = [.plain (before.reverse ++ s)] := by
  induction fuel generalizing position before s with
  | zero =>
    cases hfuel
  | succ fuel ih =>
    cases s with
    | nil =>
      rw [List.append_nil] at hsome
      rw [chunks]
      · simp [hsome]
      · simp
    | cons c cs =>
      have hlater : ∀ t, t <:+ cs → tagAt? t = none :=
        fun t ht => h t (ht.trans (List.suffix_cons c cs))
      rw [chunks_of_noTag (h _ List.suffix_rfl),
        ih hlater (Nat.lt_of_succ_lt_succ hfuel) _ _ (by simp)]
      simp

/-! ## Texts without anything to read -/

/-- A text in which a console finds nothing to read: no tag, no escaped bracket, no name of a
pictograph and no control that is dropped. -/
@[mk_iff]
structure Plain (s : List Char) : Prop where
  noTag : ∀ t, t <:+ s → tagAt? t = none
  noEscape : ¬ ['\\', '['] <:+: s
  noPictograph : ∀ name ∈ colonNames (s.length + 1) s, pictograph? name = none
  noDropped : ∀ c ∈ s, isDropped c = false

/-- A text is plain if nothing in it is a tag, an escaped bracket, the name of a pictograph or a
character that is dropped; this can be decided. -/
theorem plain_iff_tails (s : List Char) : Plain s ↔
    (∀ t ∈ s.tails, tagAt? t = none) ∧ ¬ ['\\', '['] <:+: s ∧
      (∀ name ∈ colonNames (s.length + 1) s, pictograph? name = none) ∧
      s.all (fun c => !isDropped c) = true := by
  simp only [List.mem_tails, plain_iff, List.all_eq_true, Bool.not_eq_true']

instance (s : List Char) : Decidable (Plain s) :=
  decidable_of_iff _ (plain_iff_tails s).symm

/-- A plain text is shown as it is. -/
theorem Plain.renderMarkup_eq {s : String} (h : Plain s.toList) :
    renderMarkup s = .ok s.toList := by
  by_cases hs : s.toList = []
  · rw [renderMarkup, hs]
    rfl
  · have hparts : chunks (s.toList.length + 1) 0 [] s.toList = [.plain s.toList] :=
      chunks_of_forall_noTag h.noTag (Nat.lt_succ_self _) 0 [] (by simpa using hs)
    have hshown : showPictographs (s.toList.length + 1) s.toList = s.toList :=
      showPictographs_eq_self_iff.2 h.noPictograph
    have hkept : s.toList.filter (fun c => !isDropped c) = s.toList := by
      rw [List.filter_eq_self]
      intro c hc
      rw [h.noDropped c hc]
      rfl
    rw [renderMarkup, hparts, plainOf, unescape_eq_self h.noEscape, hshown, hkept, plainOf]
    simp [bind, Except.bind, pure, Except.pure]

/-- A console shows a text as it is exactly when it finds nothing in it to read. -/
theorem renderMarkup_eq_self_iff {s : String} : renderMarkup s = .ok s.toList ↔ Plain s.toList := by
  refine ⟨fun h => ?_, Plain.renderMarkup_eq⟩
  -- everything that is read makes the text shorter, so nothing can have been
  have hnoTag : ∀ t, t <:+ s.toList → tagAt? t = none := by
    intro t ht
    by_contra htag
    have hle := length_plainOf_le h
    have hlt := plainLength_chunks_lt ht htag (Nat.lt_succ_self _) 0 []
    rw [List.length_nil, Nat.zero_add] at hlt
    exact absurd hle (Nat.not_le_of_lt hlt)
  by_cases hs : s.toList = []
  · rw [hs] at hnoTag ⊢
    exact ⟨hnoTag, by simp, by simp [colonNames], by simp⟩
  · have hparts : chunks (s.toList.length + 1) 0 [] s.toList = [.plain s.toList] :=
      chunks_of_forall_noTag hnoTag (Nat.lt_succ_self _) 0 [] (by simpa using hs)
    have hshown : (showPictographs (s.toList.length + 1) (unescape s.toList)).filter
        (fun c => !isDropped c) =
        s.toList := by
      rw [renderMarkup, hparts, plainOf, plainOf] at h
      simpa [bind, Except.bind, pure, Except.pure] using h
    have hescapes := length_unescape_le s.toList
    have hpictures := length_showPictographs_le (s.toList.length + 1) (unescape s.toList)
    have hfilter := List.length_filter_le (fun c => !isDropped c)
      (showPictographs (s.toList.length + 1) (unescape s.toList))
    rw [hshown] at hfilter
    have hnoEscape : ¬ ['\\', '['] <:+: s.toList := not_infix_of_length_unescape (by omega)
    rw [unescape_eq_self hnoEscape] at hshown hpictures
    have hall : (showPictographs (s.toList.length + 1) s.toList).filter (fun c => !isDropped c) =
        showPictographs (s.toList.length + 1) s.toList := by
      apply List.filter_eq_self.2
      apply List.length_filter_eq_length_iff.1
      rw [hshown]
      rw [unescape_eq_self hnoEscape] at hfilter
      omega
    rw [hall] at hshown
    refine ⟨hnoTag, hnoEscape, showPictographs_eq_self_iff.1 hshown, ?_⟩
    intro c hc
    rw [hshown, List.filter_eq_self] at hall
    simpa using hall c hc

example : renderMarkup "app/[id]/page.tsx" = .ok "app//page.tsx".toList := by
  decide

end Console
end PatchReview
