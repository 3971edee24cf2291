import Mathlib.Data.List.Basic
import Mathlib.Data.List.TakeDrop
import Mathlib.Data.List.TakeWhile
import PatchReview.Console.Screen
import PatchReview.Proofs.Text.Pieces

/-!
# Texts with balanced tags

Which texts can be shown on a console. A text without an opening bracket holds no tag and can be
shown; a text with tags can be shown if what stands between its tags can and each closing tag finds
its style open.
-/

namespace PatchReview
namespace Console

/-! ## Showing what is left of a text -/

/-- The rest of a text can be shown, given the open styles, wherever it stands. -/
def Shows (stack : List String) (s : List Char) : Prop :=
  ∀ fuel position before, s.length < fuel → ∃ plain,
    plainOf stack (chunks fuel position before s) = .ok plain

/-- Plain text in front of a markup does not keep it from being shown. -/
theorem exists_plainOf_append {stack : List String} {text : List Chunk}
    (htext : ∀ c ∈ text, ∃ s, c = .plain s) {rest : List Chunk}
    (h : ∃ plain, plainOf stack rest = .ok plain) :
    ∃ plain, plainOf stack (text ++ rest) = .ok plain := by
  induction text with
  | nil =>
    exact h
  | cons c text ih =>
    rcases htext c List.mem_cons_self with ⟨s, rfl⟩
    rcases ih fun c hc => htext c (List.mem_cons_of_mem _ hc) with ⟨plain, hplain⟩
    rw [List.cons_append, plainOf, hplain]
    exact ⟨_, rfl⟩

theorem Shows.nil (stack : List String) : Shows stack [] := by
  intro fuel position before hfuel
  cases fuel with
  | zero =>
    cases hfuel
  | succ fuel =>
    rw [chunks]
    · split
      · exact ⟨[], rfl⟩
      · exact ⟨_, rfl⟩
    · simp

/-- A character at which no tag stands is text. -/
theorem Shows.cons {stack : List String} {c : Char} {s : List Char} (hc : tagAt? (c :: s) = none)
    (h : Shows stack s) : Shows stack (c :: s) := by
  intro fuel position before hfuel
  cases fuel with
  | zero =>
    cases hfuel
  | succ fuel =>
    rw [chunks, hc]
    exact h fuel _ _ (Nat.lt_of_succ_lt_succ hfuel)

/-- A tag opens or closes a style, and the rest can be shown with the styles that are open then. -/
theorem Shows.tag {stack stack' : List String} {tag s : List Char}
    (hat : tagAt? ('[' :: tag ++ ']' :: s) = some (0, tag, s))
    (happly : ∀ position, applyTag position tag stack = .ok stack') (h : Shows stack' s) :
    Shows stack ('[' :: tag ++ ']' :: s) := by
  intro fuel position before hfuel
  cases fuel with
  | zero =>
    cases hfuel
  | succ fuel =>
    have hlength : s.length < fuel := by
      simp only [List.length_append, List.length_cons] at hfuel
      omega
    rcases h fuel (position + 0 + tag.length + 2) [] hlength with ⟨plain, hplain⟩
    rw [List.cons_append] at hat
    rw [List.cons_append, chunks, hat]
    dsimp only
    refine exists_plainOf_append ?_ ⟨plain, ?_⟩
    · intro c hc
      rcases List.mem_append.1 hc with hbefore | hslashes
      · split at hbefore
        · cases hbefore
        · exact ⟨_, List.mem_singleton.1 hbefore⟩
      · cases hslashes
    · rw [if_neg (by decide), plainOf, happly]
      exact hplain

/-! ## Texts without tags -/

/-- No tag begins where no bracket follows the backslashes. -/
theorem tagAt?_eq_none {s : List Char} (h : (s.dropWhile (· == '\\')).head? ≠ some '[') :
    tagAt? s = none := by
  rw [tagAt?, List.span_eq_takeWhile_dropWhile]
  dsimp only
  split
  · rename_i heq
    rw [heq] at h
    exact absurd rfl h
  · rfl

/-- Text that holds no opening bracket and does not end in a backslash can stand in front of a
tag. -/
theorem Shows.text {stack : List String} {s rest : List Char} (hs : '[' ∉ s)
    (hlast : s.getLast? ≠ some '\\') (h : Shows stack rest) : Shows stack (s ++ rest) := by
  induction s with
  | nil =>
    exact h
  | cons c s ih =>
    have hs' : '[' ∉ s := fun hmem => hs (List.mem_cons_of_mem _ hmem)
    refine Shows.cons (tagAt?_eq_none ?_) (ih hs' ?_)
    · have hne : (c :: s).dropWhile (· == '\\') ≠ [] := by
        intro hnil
        have hall := List.dropWhile_eq_nil_iff.1 hnil _ (List.getLast_mem (List.cons_ne_nil c s))
        rw [List.getLast?_eq_some_getLast (List.cons_ne_nil c s)] at hlast
        exact hlast (congrArg some (by simpa using hall))
      -- The backslashes at the front end within the text, and what follows them is none of its
      -- brackets.
      show ((c :: s ++ rest).dropWhile (· == '\\')).head? ≠ some '['
      rw [List.dropWhile_append, if_neg (by simpa using hne), List.head?_append_of_ne_nil _ hne]
      intro hhead
      exact hs ((List.dropWhile_sublist _).subset (List.mem_of_mem_head? hhead))
    · intro hs
      refine hlast ?_
      rw [List.getLast?_cons, hs]
      rfl

/-- A text without brackets has no tag anywhere. -/
theorem noTag_of_not_mem {s : List Char} (hs : '[' ∉ s) : ∀ t, t <:+ s → tagAt? t = none := by
  intro t ht
  apply tagAt?_eq_none
  intro hhead
  exact hs (ht.subset ((List.dropWhile_sublist _).subset (List.mem_of_mem_head? hhead)))

/-- A text without tags is shown, whatever tags are open. -/
theorem Shows.of_noTag (stack : List String) {s : List Char} (hs : ∀ t, t <:+ s → tagAt? t = none) :
    Shows stack s := by
  induction s with
  | nil =>
    exact Shows.nil stack
  | cons c s ih =>
    exact Shows.cons (hs _ List.suffix_rfl) (ih fun t ht => hs t (ht.trans (List.suffix_cons c s)))

/-- So is a text without brackets. -/
theorem Shows.of_not_mem (stack : List String) {s : List Char} (hs : '[' ∉ s) : Shows stack s :=
  Shows.of_noTag stack (noTag_of_not_mem hs)

/-- A blank behind a text begins no tag there, and an opening bracket before any closing one ends
none. -/
theorem tagAt?_append_eq_none {s rest : List Char} (hs : tagAt? s = none)
    (hrest : untilBracket? (' ' :: rest) = none) : tagAt? (s ++ ' ' :: rest) = none := by
  rw [tagAt?, List.span_eq_takeWhile_dropWhile] at hs ⊢
  dsimp only at hs ⊢
  rw [List.dropWhile_append]
  cases hdrop : s.dropWhile (· == '\\') with
  | nil =>
    rfl
  | cons b front =>
    rw [hdrop] at hs
    by_cases hb : b = '['
    · subst hb
      cases front with
      | nil =>
        rfl
      | cons c front =>
        by_cases hc : isTagStart c = true
        · have hfront : untilBracket? front = none := by
            simpa [hc] using hs
          have hboth : untilBracket? (front ++ ' ' :: rest) = none :=
            Text.upTo?_append_eq_none hfront hrest
          simp [hc, hboth]
        · simp [hc]
    · simp [hb]

/-- A text in which no tag stands can stand in front of a blank and a tag. -/
theorem Shows.noTag {stack : List String} {s rest : List Char} (hs : ∀ t, t <:+ s → tagAt? t = none)
    (hrest : untilBracket? (' ' :: rest) = none) (h : Shows stack (' ' :: rest)) :
    Shows stack (s ++ ' ' :: rest) := by
  induction s with
  | nil =>
    exact h
  | cons c s ih =>
    refine Shows.cons (tagAt?_append_eq_none (hs _ List.suffix_rfl) hrest) ?_
    exact ih fun t ht => hs t (ht.trans (List.suffix_cons c s))

/-! ## Texts between tags -/

end Console
end PatchReview
