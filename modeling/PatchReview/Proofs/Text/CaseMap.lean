import Mathlib.Data.List.Basic
import PatchReview.Proofs.Text.Pieces
import PatchReview.Text.Blank
import PatchReview.Text.CaseMap

/-!
# Lower-casing

What lower-casing leaves of a text: no mark comes up that was not there or gets lost, and the case
of ASCII letters makes no difference. Of the characters in front of a text it matters only whether
the nearest one is cased, and that only where the text has a capital sigma.
-/

namespace PatchReview
namespace Text

/-! ## Single characters -/

/-- A table maps a code point to itself, or to its image by a run that holds it. -/
theorem apply_eq_or (table : CaseTable) (n : Nat) :
    table.apply n = n ∨
      ∃ run ∈ table, run.1 ≤ n ∧ n ≤ run.2.1 ∧ table.apply n = ((n : Int) + run.2.2.2).toNat := by
  induction table with
  | nil =>
    exact .inl rfl
  | cons run table ih =>
    rcases run with ⟨first, last, step, offset⟩
    rw [CaseTable.apply]
    split
    · exact .inl rfl
    · next hfirst =>
      split
      · next hlast =>
        rw [Bool.and_eq_true, decide_eq_true_eq] at hlast
        exact .inr ⟨_, List.mem_cons_self, by simpa using hfirst, hlast.1, rfl⟩
      · rcases ih with hself | ⟨run, hrun, hbounds⟩
        · exact .inl hself
        · exact .inr ⟨run, List.mem_cons_of_mem _ hrun, hbounds⟩

set_option maxRecDepth 4000 in
/-- The lower-case partners lie behind the marks and digits of ASCII. -/
theorem lowerRuns_above : ∀ run ∈ lowerRuns, (0x40 : Int) < run.1 + run.2.2.2 := by
  decide

/-- A character behind the at sign stays behind it. -/
theorem lt_apply_lowerRuns {n : Nat} (h : 0x40 < n) : 0x40 < lowerRuns.apply n := by
  rcases apply_eq_or lowerRuns n with hself | ⟨run, hrun, hle, -, himage⟩
  · rwa [hself]
  · have habove := lowerRuns_above run hrun
    omega

def IsLetter (c : Char) : Prop := 0x41 ≤ c.toNat ∧ c.toNat ≤ 0x5A ∨ 0x61 ≤ c.toNat ∧ c.toNat ≤ 0x7A

instance (c : Char) : Decidable (IsLetter c) := inferInstanceAs (Decidable (_ ∨ _))

theorem toNat_toLower (c : Char) :
    c.toLower.toNat = if 0x41 ≤ c.toNat ∧ c.toNat ≤ 0x5A then c.toNat + 0x20 else c.toNat := by
  have hupper : (c.val ≥ 'A'.val ∧ c.val ≤ 'Z'.val) ↔ 0x41 ≤ c.toNat ∧ c.toNat ≤ 0x5A := Iff.rfl
  by_cases hc : 0x41 ≤ c.toNat ∧ c.toNat ≤ 0x5A
  · have hlower : c.toLower.val = c.val + 0x20 := congrArg Char.val (dif_pos (hupper.2 hc))
    rw [if_pos hc]
    change c.toLower.val.toNat = _
    rw [hlower, UInt32.toNat_add]
    change (c.toNat + 0x20) % 2 ^ 32 = _
    omega
  · have hself : c.toLower = c := dif_neg fun h => hc (hupper.1 h)
    rw [if_neg hc, hself]

/-- Characters that agree up to the case of ASCII letters are equal or both letters. -/
theorem eq_or_isLetter {c d : Char} (h : c.toLower = d.toLower) :
    c = d ∨ IsLetter c ∧ IsLetter d := by
  have hnat : c.toLower.toNat = d.toLower.toNat := congrArg Char.toNat h
  rw [toNat_toLower, toNat_toLower] at hnat
  by_cases hcd : c.toNat = d.toNat
  · exact .inl (Char.toNat_inj.1 hcd)
  · right
    unfold IsLetter
    split at hnat <;> split at hnat <;> omega

theorem ne_of_toNat_lt {c d : Char} (h : c.toNat < d.toNat) : c ≠ d :=
  fun heq => h.ne (congrArg Char.toNat heq)

theorem toNat_ofNat_or (n : Nat) : (Char.ofNat n).toNat = n ∨ (Char.ofNat n).toNat = 0 := by
  by_cases hn : n.isValidChar
  · have hvalid : Char.ofNat n = Char.ofNatAux n hn := dif_pos hn
    rw [hvalid]
    exact .inl UInt32.toNat_ofNatLT
  · have hnull : Char.ofNat n = '\x00' := dif_neg hn
    rw [hnull]
    exact .inr rfl

/-- A mark is the lower-case partner of itself alone. -/
theorem toLowerChar_eq_iff {c mark : Char} (hpos : 0 < mark.toNat) (hmark : mark.toNat ≤ 0x40) :
    toLowerChar c = mark ↔ c = mark := by
  rw [toLowerChar]
  split
  · rw [← Char.toNat_inj, ← Char.toNat_inj, toNat_toLower]
    split <;> omega
  · next hc =>
    have hne : c ≠ mark := by
      rintro rfl
      omega
    refine iff_of_false (fun h => ?_) hne
    have himage := lt_apply_lowerRuns (n := c.toNat) (by omega)
    -- an image that is no character would be the null character, which is no mark
    have hnat : (Char.ofNat (lowerRuns.apply c.toNat)).toNat = mark.toNat := congrArg Char.toNat h
    rcases toNat_ofNat_or (lowerRuns.apply c.toNat) with hvalid | hnull <;> omega

/-- What holds of the letters of two ranges holds of every letter. -/
theorem forall_isLetter {P : Nat → Prop} (h : ∀ n ∈ List.range' 0x41 26 ++ List.range' 0x61 26, P n)
    {c : Char} (hc : IsLetter c) : P c.toNat := by
  refine h c.toNat (List.mem_append.2 ?_)
  rw [List.mem_range'_1, List.mem_range'_1]
  unfold IsLetter at hc
  omega

/-- Every letter has a case, and none is passed over when the case of its surroundings is
asked for. -/
theorem covers_of_isLetter {c : Char} (h : IsLetter c) :
    casedRanges.covers c.toNat = true ∧ caseIgnorableRanges.covers c.toNat = false :=
  forall_isLetter (P := fun n => casedRanges.covers n = true ∧ caseIgnorableRanges.covers n = false)
    (by decide) h

/-- Blanks are told apart from other characters whatever the case. -/
theorem isBlank_congr {c d : Char} (h : c.toLower = d.toLower) : isBlank c = isBlank d := by
  have hletter {c : Char} (hc : IsLetter c) : isBlank c = false :=
    forall_isLetter (P := fun n => blankRanges.covers n = false) (by decide) hc
  rcases eq_or_isLetter h with rfl | ⟨hc, hd⟩
  · rfl
  · rw [hletter hc, hletter hd]

/-- The letters of ASCII in lower case that are lower-case partners of ASCII letters alone. The
letter i is that of the capital with a dot, too, and k that of the sign for kelvin. -/
structure IsPlainLetter (c : Char) : Prop where
  lower : 0x61 ≤ c.toNat ∧ c.toNat ≤ 0x7A
  ne_i : c ≠ 'i'
  ne_k : c ≠ 'k'

set_option maxRecDepth 4000 in
/-- The table is gone through once: beyond ASCII only two signs are led to plain letters. -/
theorem lowerRuns_beyond : ∀ run ∈ lowerRuns,
    run.2.1 < 0x80 ∨ (0x7A : Int) < run.1 + run.2.2.2 ∨
      run.1 = run.2.1 ∧ (run.1 + run.2.2.2 = 0x69 ∨ run.1 + run.2.2.2 = 0x6B) := by
  decide

/-- Only a letter becomes a plain letter, apart from the signs that do; these become others. -/
theorem toLowerChar_eq_plainLetter_iff {c letter : Char} (h : IsPlainLetter letter) :
    toLowerChar c = letter ↔ c.toLower = letter := by
  rcases h with ⟨hlower, hi, hk⟩
  rw [toLowerChar]
  split
  · rfl
  · next hc =>
    have hself : c.toLower.toNat = c.toNat := by
      rw [toNat_toLower, if_neg (by omega)]
    have hne : c.toLower ≠ letter := by
      rintro rfl
      omega
    refine iff_of_false (fun h => ?_) hne
    have hnat : (Char.ofNat (lowerRuns.apply c.toNat)).toNat = letter.toNat := congrArg Char.toNat h
    have hdotted : letter.toNat ≠ 0x69 := fun heq => hi (Char.toNat_inj.1 heq)
    have hkelvin : letter.toNat ≠ 0x6B := fun heq => hk (Char.toNat_inj.1 heq)
    rcases toNat_ofNat_or (lowerRuns.apply c.toNat) with hvalid | hnull
    · -- the image of a character beyond ASCII is no letter of ASCII but i and k
      rcases apply_eq_or lowerRuns c.toNat with himage | ⟨run, hrun, hfirst, hlast, himage⟩
      · omega
      · have hbeyond := lowerRuns_beyond run hrun
        omega
    · omega

/-! ## Texts -/

/-- The lower-case form of a character, between what stands before it, nearest first, and what
follows. -/
def lowerAt (before : List Char) (c : Char) (cs : List Char) : List Char :=
  if c == '\u0130' then ['i', '\u0307']
  else if c == '\u03a3' then [if nextIsCased before && !nextIsCased cs then '\u03c2' else '\u03c3']
  else [toLowerChar c]

/-- A text is made lower case from left to right, with what stands before in mind. -/
theorem lowerFrom_cons (before : List Char) (c : Char) (cs : List Char) :
    lowerFrom before (c :: cs) = lowerAt before c cs ++ lowerFrom (c :: before) cs :=
  rfl

/-- Apart from the dotted letter and the sigma, a character has one lower case. -/
theorem lowerAt_of_ne {c : Char} (hdotted : c ≠ '\u0130') (hsigma : c ≠ '\u03a3')
    (before cs : List Char) : lowerAt before c cs = [toLowerChar c] := by
  rw [lowerAt, if_neg (by simpa using hdotted), if_neg (by simpa using hsigma)]

theorem lowerAt_ne_nil (before : List Char) (c : Char) (cs : List Char) :
    lowerAt before c cs ≠ [] := by
  unfold lowerAt
  split
  · exact List.cons_ne_nil _ _
  · split <;> exact List.cons_ne_nil _ _

/-- Some text stays some text. -/
theorem lowerFrom_eq_nil_iff {before s : List Char} : lowerFrom before s = [] ↔ s = [] := by
  cases s with
  | nil =>
    exact iff_of_true rfl rfl
  | cons c cs =>
    refine iff_of_false (fun hnil => ?_) (List.cons_ne_nil _ _)
    rw [lowerFrom_cons] at hnil
    exact lowerAt_ne_nil before c cs (List.append_eq_nil_iff.1 hnil).1

/-- The lower-case form of a text between what stands before it, nearest first, and what follows. -/
def lowerBetween : (before : List Char) → List Char → (after : List Char) → List Char
  | _, [], _ => []
  | before, c :: cs, after => lowerAt before c (cs ++ after) ++ lowerBetween (c :: before) cs after

/-- Each part of a text is lower-cased in sight of the other. -/
theorem lowerFrom_append (before s t : List Char) :
    lowerFrom before (s ++ t) = lowerBetween before s t ++ lowerFrom (s.reverse ++ before) t := by
  induction s generalizing before with
  | nil =>
    rfl
  | cons c cs ih =>
    -- the character moves from the text to what stands before the rest of it
    rw [List.cons_append, lowerFrom_cons, ih, lowerBetween, List.append_assoc, List.reverse_cons,
      List.append_assoc, List.singleton_append]

/-- Two surroundings that agree still do with a letter more in each, in any case. -/
theorem nextIsCased_cons_congr {a b : List Char} (h : nextIsCased a = nextIsCased b) {c d : Char}
    (hcase : c.toLower = d.toLower) : nextIsCased (c :: a) = nextIsCased (d :: b) := by
  rw [nextIsCased, nextIsCased, h]
  rcases eq_or_isLetter hcase with rfl | ⟨hc, hd⟩
  · rfl
  · rw [(covers_of_isLetter hc).1, (covers_of_isLetter hc).2, (covers_of_isLetter hd).1,
      (covers_of_isLetter hd).2]

/-- Of the characters before a text it matters only whether the nearest one is cased. -/
theorem lowerFrom_congr {a b : List Char} (h : nextIsCased a = nextIsCased b) (s : List Char) :
    lowerFrom a s = lowerFrom b s := by
  induction s generalizing a b with
  | nil =>
    rfl
  | cons c cs ih =>
    rw [lowerFrom_cons, lowerFrom_cons, ih (nextIsCased_cons_congr h rfl), lowerAt, lowerAt, h]

section Marks

variable {mark : Char} (hpos : 0 < mark.toNat) (hmark : mark.toNat ≤ 0x40)
include hpos hmark

/-- No mark comes up that was not there. -/
theorem eq_of_mem_lowerAt {before cs : List Char} {c : Char} (h : mark ∈ lowerAt before c cs) :
    c = mark := by
  have hne {d : Char} (hd : 0x40 < d.toNat) : mark ≠ d := ne_of_toNat_lt (hmark.trans_lt hd)
  rw [lowerAt] at h
  -- the two letters with a form of their own have no mark in it
  split at h
  · have hi := hne (d := 'i') (by decide)
    have hdot := hne (d := '\u0307') (by decide)
    simp [hi, hdot] at h
  · split at h
    · have hfinal := hne (d := '\u03c2') (by decide)
      have hsigma := hne (d := '\u03c3') (by decide)
      split at h
      · exact absurd (List.mem_singleton.1 h) hfinal
      · exact absurd (List.mem_singleton.1 h) hsigma
    · exact (toLowerChar_eq_iff hpos hmark).1 (List.mem_singleton.1 h).symm

/-- A mark in the lower case stands in the text. -/
theorem mem_of_mem_lowerFrom {before s : List Char} (h : mark ∈ lowerFrom before s) : mark ∈ s := by
  induction s generalizing before with
  | nil =>
    cases h
  | cons c cs ih =>
    rcases List.mem_append.1 h with hfirst | hrest
    · obtain rfl := eq_of_mem_lowerAt hpos hmark hfirst
      exact List.mem_cons_self
    · exact List.mem_cons_of_mem c (ih hrest)

/-- A mark at the start of the lower case stands at the start of the text. -/
theorem head?_of_head?_lower {s : List Char} (h : (lower s).head? = some mark) :
    s.head? = some mark := by
  cases s with
  | nil =>
    cases h
  | cons c cs =>
    have hmem : mark ∈ lowerAt [] c cs := by
      rw [lower, lowerFrom_cons, List.head?_append, Option.or_eq_some_iff] at h
      rcases h with hfirst | ⟨hnil, -⟩
      · exact List.mem_of_mem_head? hfirst
      · exact absurd (List.head?_eq_none_iff.1 hnil) (lowerAt_ne_nil [] c cs)
    obtain rfl := eq_of_mem_lowerAt hpos hmark hmem
    rfl

/-- A mark is kept wherever it stands. -/
theorem lowerAt_mark (before cs : List Char) : lowerAt before mark cs = [mark] := by
  have hdotted : mark ≠ '\u0130' := ne_of_toNat_lt (hmark.trans_lt (by decide))
  have hsigma : mark ≠ '\u03a3' := ne_of_toNat_lt (hmark.trans_lt (by decide))
  rw [lowerAt_of_ne hdotted hsigma, (toLowerChar_eq_iff hpos hmark).2 rfl]

/-- A mark stands in the lower case if it stands in the text. -/
theorem mem_lowerFrom_iff {before s : List Char} : mark ∈ lowerFrom before s ↔ mark ∈ s := by
  refine ⟨mem_of_mem_lowerFrom hpos hmark, fun h => ?_⟩
  rcases List.append_of_mem h with ⟨front, behind, rfl⟩
  rw [lowerFrom_append, lowerFrom_cons, lowerAt_mark hpos hmark]
  exact List.mem_append_right _ List.mem_cons_self

/-- A mark that no cased character stands before is kept, and the rest is lower-cased by itself. -/
theorem lower_cons (hcase : casedRanges.covers mark.toNat = false) (s : List Char) :
    lower (mark :: s) = mark :: lower s := by
  -- a final sigma behind the mark sees no cased letter before it, as at the start of a text
  have hbefore : nextIsCased [mark] = nextIsCased [] := by
    simp [nextIsCased, hcase]
  rw [lower, lowerFrom_cons, lowerAt_mark hpos hmark, lowerFrom_congr hbefore, lower]
  rfl

theorem all_lowerAt (before : List Char) (c : Char) (cs : List Char) :
    (lowerAt before c cs).all (· == mark) = (c == mark) := by
  by_cases hc : c = mark
  · rw [hc, lowerAt_mark hpos hmark]
    simp
  · -- the first character of the form of another one is no mark
    rcases List.exists_cons_of_ne_nil (lowerAt_ne_nil before c cs) with ⟨first, rest, hform⟩
    have hfirst : first ≠ mark := by
      rintro rfl
      exact hc (eq_of_mem_lowerAt hpos hmark (hform ▸ List.mem_cons_self))
    rw [hform, List.all_cons, beq_eq_false_iff_ne.2 hfirst, beq_eq_false_iff_ne.2 hc,
      Bool.false_and]

/-- A text is all marks just if it comes out so. -/
theorem all_lowerBetween (before s after : List Char) :
    (lowerBetween before s after).all (· == mark) = s.all (· == mark) := by
  induction s generalizing before with
  | nil =>
    rfl
  | cons c cs ih =>
    rw [lowerBetween, List.all_append, all_lowerAt hpos hmark, ih, List.all_cons]

/-- Lower-casing keeps the cut at the last mark. -/
theorem cutLast?_lower (s : List Char) :
    cutLast? [mark] (lower s) =
      (cutLast? [mark] s).map fun cut =>
        (lowerBetween [] cut.1 (mark :: cut.2), lowerFrom (mark :: cut.1.reverse) cut.2) := by
  cases hcut : cutLast? [mark] s with
  | none =>
    rw [cutLast?_eq_none_iff, List.singleton_infix_iff] at hcut
    rwa [Option.map_none, cutLast?_eq_none_iff, List.singleton_infix_iff, lower,
      mem_lowerFrom_iff hpos hmark]
  | some cut =>
    rcases cut with ⟨front, behind⟩
    rcases eq_append_of_cutLast? (List.cons_ne_nil _ _) hcut with ⟨rfl, hlast⟩
    have hform : lower (front ++ [mark] ++ behind) =
        lowerBetween [] front (mark :: behind) ++ [mark] ++
          lowerFrom (mark :: front.reverse) behind := by
      rw [lower, List.append_assoc, List.singleton_append, lowerFrom_append, List.append_nil,
        lowerFrom_cons, lowerAt_mark hpos hmark, List.append_assoc]
    -- no mark comes up behind the last one
    have hbehind : ¬ [mark] <:+: lowerFrom (mark :: front.reverse) behind := by
      rwa [List.singleton_infix_iff, mem_lowerFrom_iff hpos hmark, ← List.singleton_infix_iff]
    rw [hform, cutLast?_append_mark _ hbehind]
    rfl

end Marks

/-! ## Sigmas -/

/-- What stands before a text makes a difference to its capital sigmas alone. -/
theorem lowerFrom_of_sigma_not_mem {s : List Char} (h : '\u03a3' ∉ s) (a b : List Char) :
    lowerFrom a s = lowerFrom b s := by
  induction s generalizing a b with
  | nil =>
    rfl
  | cons c cs ih =>
    rw [List.mem_cons, not_or] at h
    have hc : ¬ (c == '\u03a3') = true := by simpa using Ne.symm h.1
    -- all other characters come out the same everywhere
    rw [lowerFrom_cons, lowerFrom_cons, ih h.2 (c :: a) (c :: b), lowerAt, lowerAt, if_neg hc,
      if_neg hc]

/-- A capital sigma comes out as one of the two small ones. -/
theorem small_sigma_mem_lowerFrom {s : List Char} (h : '\u03a3' ∈ s) (before : List Char) :
    '\u03c2' ∈ lowerFrom before s ∨ '\u03c3' ∈ lowerFrom before s := by
  rcases List.append_of_mem h with ⟨front, behind, rfl⟩
  have hsigma : lowerAt (front.reverse ++ before) '\u03a3' behind =
      [if nextIsCased (front.reverse ++
        before) && !nextIsCased behind then '\u03c2' else '\u03c3'] :=
    rfl
  rw [lowerFrom_append, lowerFrom_cons, hsigma]
  split
  · exact .inl (by simp)
  · exact .inr (by simp)

/-- Whether a text comes out as a word without sigmas does not depend on what stands before it. -/
theorem lowerFrom_eq_iff_lowerFrom_eq {word : List Char} (hword : '\u03c2' ∉ word ∧ '\u03c3' ∉ word)
    (a b s : List Char) : lowerFrom a s = word ↔ lowerFrom b s = word := by
  by_cases hs : '\u03a3' ∈ s
  · have hne (before : List Char) : lowerFrom before s ≠ word := by
      rintro rfl
      rcases small_sigma_mem_lowerFrom hs before with hfinal | hsmall
      · exact hword.1 hfinal
      · exact hword.2 hsmall
    exact iff_of_false (hne a) (hne b)
  · rw [lowerFrom_of_sigma_not_mem hs a b]

/-! ## The case of ASCII letters -/

/-- A letter becomes its lower case, wherever it stands. -/
theorem lowerAt_of_isLetter {c : Char} (hc : IsLetter c) (before cs : List Char) :
    lowerAt before c cs = [c.toLower] := by
  have hascii : c.toNat < 0x80 := by
    unfold IsLetter at hc
    omega
  have hdotted : c ≠ '\u0130' := ne_of_toNat_lt (hascii.trans (by decide))
  have hsigma : c ≠ '\u03a3' := ne_of_toNat_lt (hascii.trans (by decide))
  rw [lowerAt_of_ne hdotted hsigma, toLowerChar, if_pos hascii]

/-- Letters that differ in their case alone have the same lower-case form. -/
theorem lowerAt_congr {a b s t : List Char} {c d : Char} (hbefore : nextIsCased a = nextIsCased b)
    (hcase : c.toLower = d.toLower) (hafter : nextIsCased s = nextIsCased t) :
    lowerAt a c s = lowerAt b d t := by
  rcases eq_or_isLetter hcase with rfl | ⟨hc, hd⟩
  · rw [lowerAt, lowerAt, hbefore, hafter]
  · rw [lowerAt_of_isLetter hc, lowerAt_of_isLetter hd, hcase]

/-- Texts that agree up to case are the same surroundings. -/
theorem nextIsCased_congr {s t : List Char} (h : s.map Char.toLower = t.map Char.toLower) :
    nextIsCased s = nextIsCased t := by
  induction s generalizing t with
  | nil =>
    rw [List.map_nil, eq_comm, List.map_eq_nil_iff] at h
    rw [h]
  | cons c cs ih =>
    rcases List.map_eq_cons_iff.1 h.symm with ⟨d, ds, rfl, hd, hds⟩
    exact nextIsCased_cons_congr (ih hds.symm) hd.symm

/-- Texts that agree up to the case of their letters have the same lower case. -/
theorem lowerFrom_congr_toLower {a b s t : List Char} (hbefore : nextIsCased a = nextIsCased b)
    (h : s.map Char.toLower = t.map Char.toLower) : lowerFrom a s = lowerFrom b t := by
  induction s generalizing a b t with
  | nil =>
    rw [List.map_nil, eq_comm, List.map_eq_nil_iff] at h
    rw [h]
    rfl
  | cons c cs ih =>
    rcases List.map_eq_cons_iff.1 h.symm with ⟨d, ds, rfl, hd, hds⟩
    rw [lowerFrom_cons, lowerFrom_cons, ih (nextIsCased_cons_congr hbefore hd.symm) hds.symm,
      lowerAt_congr hbefore hd.symm (nextIsCased_congr hds.symm)]

/-- The case of ASCII letters makes no difference to the lower-case form. -/
theorem lower_congr {s t : List Char} (h : s.map Char.toLower = t.map Char.toLower) :
    lower s = lower t :=
  lowerFrom_congr_toLower rfl h

/-- What a plain letter is the lower case of is a letter. -/
theorem isLetter_of_toLower {c : Char} (h : IsPlainLetter c.toLower) : IsLetter c := by
  have hlower := h.lower
  rw [toNat_toLower] at hlower
  unfold IsLetter
  split at hlower <;> omega

/-- A character comes out as a plain letter just if it is that letter in some case. -/
theorem lowerAt_append_eq_cons_iff {before cs rest word : List Char} {c letter : Char}
    (h : IsPlainLetter letter) :
    lowerAt before c cs ++ rest = letter :: word ↔ c.toLower = letter ∧ rest = word := by
  by_cases hc : IsLetter c
  · rw [lowerAt_of_isLetter hc, List.singleton_append, List.cons.injEq]
  · have hne : c.toLower ≠ letter := fun heq => hc (isLetter_of_toLower (heq ▸ h))
    refine iff_of_false (fun heq => ?_) fun heq => hne heq.1
    rw [lowerAt] at heq
    split at heq
    · exact h.ne_i (List.cons.inj heq).1.symm
    · split at heq
      · have hsigma : letter.toNat = 0x3C2 ∨ letter.toNat = 0x3C3 := by
          have hhead := (List.cons.inj heq).1
          split at hhead
          · exact .inl (hhead ▸ rfl)
          · exact .inr (hhead ▸ rfl)
        have hlower := h.lower
        omega
      · exact hne ((toLowerChar_eq_plainLetter_iff h).1 (List.cons.inj heq).1)

/-- A text comes out as a word of plain letters just if it is that word in some case. -/
theorem lowerFrom_eq_iff {before s word : List Char} (h : ∀ letter ∈ word, IsPlainLetter letter) :
    lowerFrom before s = word ↔ s.map Char.toLower = word := by
  induction s generalizing before word with
  | nil =>
    rfl
  | cons c cs ih =>
    cases word with
    | nil =>
      rw [lowerFrom_eq_nil_iff, List.map_eq_nil_iff]
    | cons letter word =>
      rcases List.forall_mem_cons.1 h with ⟨hletter, hword⟩
      rw [lowerFrom_cons, List.map_cons, lowerAt_append_eq_cons_iff hletter, ih hword,
        List.cons.injEq]

/-- The lower case is a word of plain letters if the text is that word in some case. -/
theorem lower_eq_iff {s word : List Char} (h : ∀ letter ∈ word, IsPlainLetter letter) :
    lower s = word ↔ s.map Char.toLower = word :=
  lowerFrom_eq_iff h

end Text
end PatchReview
