import PatchReview.Proofs.Decimal.Shortest
import PatchReview.Proofs.Json.Reading

/-!
# Numbers in JSON documents

The text of a whole number is read as that number, and the text of a double is read as a double, if
the double is finite. Otherwise it is a word that only an extended reader knows.
-/

namespace PatchReview
namespace Json

/-! ## Parts of a number -/

section Digits

variable {digits : List Char} {c : Char} {rest : List Char}

theorem takeWhile_digits (h : ∀ d ∈ digits, d.isDigit = true) (hc : c.isDigit = false) :
    (digits ++ c :: rest).takeWhile Char.isDigit = digits := by
  rw [List.takeWhile_append_of_pos h, List.takeWhile_cons_of_neg (by simp [hc]), List.append_nil]

theorem dropWhile_digits (h : ∀ d ∈ digits, d.isDigit = true) (hc : c.isDigit = false) :
    (digits ++ c :: rest).dropWhile Char.isDigit = c :: rest := by
  rw [List.dropWhile_append_of_pos h, List.dropWhile_cons_of_neg (by simp [hc])]

end Digits

/-- Digits in front of a point: there are some, and the first is a zero only if it is the only
one. -/
theorem isWhole_iff {digits : List Char} :
    isWhole digits = true ↔ (∀ c ∈ digits, c.isDigit = true) ∧ digits ≠ [] ∧
      (digits.head? = some '0' → digits = ['0']) := by
  cases digits with
  | nil =>
    simp [isWhole]
  | cons d digits =>
    simp only [isWhole, List.isEmpty_cons, Bool.not_false, Bool.true_and, Bool.and_eq_true,
      List.all_eq_true, Bool.or_eq_true, bne_iff_ne, ne_eq, List.head?_cons, Option.some.injEq,
      List.length_cons, beq_iff_eq, Nat.add_eq_right, List.length_eq_zero_iff, List.cons.injEq,
      reduceCtorEq, not_false_eq_true, true_and, and_congr_right_iff]
    intro _
    by_cases hd : d = '0'
    · simp [hd]
    · simp [hd]

/-- The digits of a number are a whole number as JSON has it: no zero stands in front. -/
theorem isWhole_toDigits (n : Nat) : isWhole (Nat.toDigits 10 n) = true := by
  refine isWhole_iff.2 ⟨fun c hc => Nat.isDigit_of_mem_toDigits (by decide) (by decide) hc,
    Nat.toDigits_ne_nil, ?_⟩
  intro hhead
  cases n with
  | zero =>
    rfl
  | succ n =>
    exact absurd hhead (Decimal.head?_toDigits_ne (Nat.succ_pos n))

/-- What has a value as a number without a sign has it as a number. -/
theorem number?_of_unsigned? {s : List Char} {j : Json} (h : unsigned? false s = some j) :
    number? s = some j := by
  rw [number?]
  · exact h
  · rintro rest rfl
    cases h

/-- What has a value as a number is none of the words. -/
theorem bare?_of_number? {word : List Char} {j : Json} (h : number? word = some j)
    (extended : Bool) : bare? extended word = some j := by
  have hne {other : List Char} (hother : number? other = none) : (word == other) = false := by
    refine beq_false_of_ne ?_
    rintro rfl
    cases hother.symm.trans h
  rw [bare?, hne rfl, hne rfl, hne rfl, hne rfl, hne rfl, hne rfl]
  simpa using h

/-! ## Whole numbers -/

/-- The digits of a number are read as that number. -/
theorem unsigned?_toDigits (negative : Bool) (n : Nat) :
    unsigned? negative (Nat.toDigits 10 n) = some (.int (Decimal.signed negative n)) := by
  have hdigits : ∀ c ∈ Nat.toDigits 10 n, c.isDigit = true :=
    fun c hc => Nat.isDigit_of_mem_toDigits (by decide) (by decide) hc
  have htake : (Nat.toDigits 10 n).takeWhile Char.isDigit = Nat.toDigits 10 n :=
    List.takeWhile_eq_self_iff.2 hdigits
  have hdrop : (Nat.toDigits 10 n).dropWhile Char.isDigit = [] :=
    List.dropWhile_eq_nil_iff.2 hdigits
  rw [unsigned?]
  dsimp only
  rw [htake, hdrop, if_pos (isWhole_toDigits n)]
  simp [fraction?, exponent?, Decimal.valueOf_toDigits]

/-- A whole number is read from its text. -/
theorem number?_toString (n : Int) : number? (toString n).toList = some (.int n) := by
  cases n with
  | ofNat m =>
    rw [Decimal.toList_toString_ofNat]
    exact number?_of_unsigned? (unsigned?_toDigits false m)
  | negSucc m =>
    rw [Decimal.toList_toString_negSucc]
    exact unsigned?_toDigits true (m + 1)

/-! ## Doubles -/

section Double

variable (negative : Bool) {whole fraction size : List Char}

/-- Behind the digits in front there is a point or an exponent, so the number is a double. -/
theorem exists_unsigned? {tail rest : List Char} {c : Char} {exponent : Option Int}
    (hwhole : isWhole whole = true) (hc : c.isDigit = false)
    (hfraction : fraction? (c :: tail) = some (fraction, rest))
    (hexponent : exponent? rest = some exponent) (hdouble : ¬(fraction = [] ∧ exponent = none)) :
    ∃ x, unsigned? negative (whole ++ c :: tail) = some (.float x) := by
  have hall := (isWhole_iff.1 hwhole).1
  rw [unsigned?]
  dsimp only
  rw [takeWhile_digits hall hc, dropWhile_digits hall hc, if_pos hwhole, hfraction]
  simp [hexponent, hdouble]

/-- A sign and digits behind the letter are an exponent. -/
theorem exists_exponent? {sign : Char} (hsign : sign = '-' ∨ sign = '+')
    (hdigits : ∀ c ∈ size, c.isDigit = true) (hsize : size ≠ []) :
    ∃ e, exponent? ('e' :: sign :: size) = some (some e) := by
  have hall : size.all Char.isDigit = true := List.all_eq_true.2 hdigits
  have hsome : size.isEmpty = false := by simpa using hsize
  rcases hsign with rfl | rfl
  · simp [exponent?, Decimal.splitSign, hall, hsome]
  · simp [exponent?, Decimal.splitSign, hall, hsome]

/-- A whole number, a point and digits are read as a float. -/
theorem exists_unsigned?_of_point (hwhole : isWhole whole = true)
    (hdigits : ∀ c ∈ fraction, c.isDigit = true) (hfraction : fraction ≠ []) :
    ∃ x, unsigned? negative (whole ++ '.' :: fraction) = some (.float x) := by
  have hpoint : fraction? ('.' :: fraction) = some (fraction, []) := by
    rw [fraction?, List.takeWhile_eq_self_iff.2 hdigits, List.dropWhile_eq_nil_iff.2 hdigits,
      if_neg (by simpa using hfraction)]
  exact exists_unsigned? negative hwhole rfl hpoint rfl fun h => hfraction h.1

/-- A whole number and an exponent are read as a float. -/
theorem exists_unsigned?_of_exponent {sign : Char} (hsign : sign = '-' ∨ sign = '+')
    (hwhole : isWhole whole = true) (hdigits : ∀ c ∈ size, c.isDigit = true) (hsize : size ≠ []) :
    ∃ x, unsigned? negative (whole ++ 'e' :: sign :: size) = some (.float x) := by
  rcases exists_exponent? hsign hdigits hsize with ⟨e, hexponent⟩
  exact exists_unsigned? negative hwhole rfl rfl hexponent fun h => Option.some_ne_none e h.2

/-- A whole number, a point with digits and an exponent are read as a float. -/
theorem exists_unsigned?_of_both {sign : Char} (hsign : sign = '-' ∨ sign = '+')
    (hwhole : isWhole whole = true) (hfraction : ∀ c ∈ fraction, c.isDigit = true)
    (hsome : fraction ≠ []) (hdigits : ∀ c ∈ size, c.isDigit = true) (hsize : size ≠ []) :
    ∃ x, unsigned? negative (whole ++ '.' :: (fraction ++ 'e' :: sign :: size)) =
      some (.float x) := by
  rcases exists_exponent? hsign hdigits hsize with ⟨e, hexponent⟩
  have hpoint : fraction? ('.' :: (fraction ++ 'e' :: sign :: size)) =
      some (fraction, 'e' :: sign :: size) := by
    rw [fraction?, takeWhile_digits hfraction rfl, dropWhile_digits hfraction rfl,
      if_neg (by simpa using hsome)]
  exact exists_unsigned? negative hwhole rfl hpoint hexponent fun h => hsome h.1

end Double

/-! ## Texts of doubles -/

section Scientific

variable {s : Decimal.Scientific}

theorem isWhole_singleton {d : Char} (hd : d.isDigit = true) : isWhole [d] = true := by
  simp [isWhole, hd]

theorem isDigit_of_mem_replicate {n : Nat} {c : Char} (h : c ∈ List.replicate n '0') :
    c.isDigit = true := by
  rw [List.eq_of_mem_replicate h]
  rfl

/-- A decimal with a point alone is read as a double. -/
theorem exists_unsigned?_positional (h : s.Proper) (negative : Bool) :
    ∃ x, unsigned? negative s.positional = some (.float x) := by
  rw [Decimal.Scientific.positional]
  split
  · -- The digits stand behind the point, after some zeros.
    rw [Decimal.fractionPart, if_neg (by simp [h.nonempty])]
    refine exists_unsigned?_of_point negative (isWhole_singleton rfl) ?_ (by simp [h.nonempty])
    intro c hc
    rcases List.mem_append.1 hc with hzero | hdigit
    · exact isDigit_of_mem_replicate hzero
    · exact h.digits c hdigit
  · -- The point stands behind or between the digits; zeros fill the places up to it.
    dsimp only
    have hwhole : isWhole (s.digits.take (s.exponent.toNat + 1) ++
        List.replicate (s.exponent.toNat + 1 - s.digits.length) '0') = true := by
      refine isWhole_iff.2 ⟨?_, ?_, ?_⟩
      · intro c hc
        rcases List.mem_append.1 hc with hdigit | hzero
        · exact h.digits c (List.mem_of_mem_take hdigit)
        · exact isDigit_of_mem_replicate hzero
      · simp [h.nonempty]
      · intro hhead
        have hfirst : s.digits.head? = some '0' := by
          cases hds : s.digits with
          | nil =>
            exact absurd hds h.nonempty
          | cons d ds =>
            rw [hds] at hhead
            exact hhead
        rcases h.zero hfirst with ⟨hzero, hexponent⟩
        rw [hzero, hexponent]
        rfl
    rw [Decimal.fractionPart]
    refine exists_unsigned?_of_point negative hwhole ?_ ?_
    · intro c hc
      split at hc
      · rw [List.mem_singleton.1 hc]
        rfl
      · exact h.digits c (List.mem_of_mem_drop hc)
    · split
      · exact List.cons_ne_nil _ _
      · rename_i hsome
        simpa using hsome

/-- A decimal with an exponent is read as a double. -/
theorem exists_unsigned?_withExponent (h : s.Proper) (negative : Bool) :
    ∃ x, unsigned? negative s.withExponent = some (.float x) := by
  rw [Decimal.Scientific.withExponent]
  generalize hnegative : (if s.exponent < 0 then '-' else '+') = sign
  generalize hpadded : (if (Nat.toDigits 10 s.exponent.natAbs).length < 2 then
    '0' :: Nat.toDigits 10 s.exponent.natAbs else Nat.toDigits 10 s.exponent.natAbs) = size
  have hsign : sign = '-' ∨ sign = '+' := by
    rw [← hnegative]
    split
    · exact .inl rfl
    · exact .inr rfl
  have hsize : (∀ c ∈ size, c.isDigit = true) ∧ size ≠ [] := by
    have hall : ∀ c ∈ Nat.toDigits 10 s.exponent.natAbs, c.isDigit = true :=
      fun c hc => Nat.isDigit_of_mem_toDigits (by decide) (by decide) hc
    rw [← hpadded]
    split
    · exact ⟨List.forall_mem_cons.2 ⟨rfl, hall⟩, List.cons_ne_nil _ _⟩
    · exact ⟨hall, Nat.toDigits_ne_nil⟩
  have hdigits := h.digits
  cases hds : s.digits with
  | nil =>
    exact absurd hds h.nonempty
  | cons d ds =>
    rw [hds] at hdigits
    have hd := isWhole_singleton (hdigits d List.mem_cons_self)
    -- A single digit has no point behind it.
    cases ds with
    | nil =>
      exact exists_unsigned?_of_exponent negative hsign hd hsize.1 hsize.2
    | cons d' ds =>
      have hfraction : ∀ c ∈ d' :: ds, c.isDigit = true :=
        fun c hc => hdigits c (List.mem_cons_of_mem d hc)
      have hboth := exists_unsigned?_of_both negative hsign hd hfraction (List.cons_ne_nil _ _)
        hsize.1 hsize.2
      simpa using hboth

end Scientific

/-- Whether a double is a finite number. -/
def IsFinite (x : Float) : Prop := ∃ b, Decimal.Reading.ofFloat x = .finite b

/-- The text of a finite double is a number. -/
theorem exists_number?_write {x : Float} (h : IsFinite x) :
    ∃ y, number? (floatFormat.write x).toList = some (.float y) := by
  rcases h with ⟨b, hb⟩
  have hsize (negative : Bool) : ∃ y, unsigned? negative
      (if floatFormat.leastPositional ≤ b.shortest.exponent &&
            b.shortest.exponent < floatFormat.scientificFrom then
          b.shortest.positional
        else
          b.shortest.withExponent) = some (.float y) := by
    split
    · exact exists_unsigned?_positional (Decimal.proper_shortest b) negative
    · exact exists_unsigned?_withExponent (Decimal.proper_shortest b) negative
  rw [Decimal.FloatFormat.write, hb]
  dsimp only
  rw [String.toList_ofList]
  cases b.negative with
  | true =>
    exact hsize true
  | false =>
    rcases hsize false with ⟨y, hy⟩
    exact ⟨y, number?_of_unsigned? hy⟩

/-- The texts of the other doubles are words. -/
theorem write_of_not_finite {x : Float} (h : ¬IsFinite x) :
    (floatFormat.write x).toList ∈ [['N', 'a', 'N'], ['I', 'n', 'f', 'i', 'n', 'i', 't', 'y'],
      ['-', 'I', 'n', 'f', 'i', 'n', 'i', 't', 'y']] := by
  rw [Decimal.FloatFormat.write]
  cases hx : Decimal.Reading.ofFloat x with
  | finite b =>
    exact absurd ⟨b, hx⟩ h
  | notANumber =>
    decide
  | infinite negative =>
    cases negative with
    | true =>
      decide
    | false =>
      decide

/-- A double is read as a double, if it is finite or the reader is extended. -/
theorem exists_bare?_write {extended : Bool} {x : Float} (h : extended = true ∨ IsFinite x) :
    ∃ y, bare? extended (floatFormat.write x).toList = some (.float y) := by
  by_cases hfinite : IsFinite x
  · rcases exists_number?_write hfinite with ⟨y, hy⟩
    exact ⟨y, bare?_of_number? hy extended⟩
  · rw [h.resolve_right hfinite]
    have hword := write_of_not_finite hfinite
    generalize (floatFormat.write x).toList = word at hword
    simp only [List.mem_cons, List.not_mem_nil, or_false] at hword
    rcases hword with rfl | rfl | rfl
    · exact ⟨_, rfl⟩
    · exact ⟨_, rfl⟩
    · exact ⟨_, rfl⟩

/-- Other doubles are no numbers. -/
theorem bare?_write_of_not_finite {x : Float} (h : ¬IsFinite x) :
    bare? false (floatFormat.write x).toList = none := by
  have hword := write_of_not_finite h
  generalize (floatFormat.write x).toList = word at hword
  simp only [List.mem_cons, List.not_mem_nil, or_false] at hword
  rcases hword with rfl | rfl | rfl
  · rfl
  · rfl
  · rfl

/-- No float is written as nothing. -/
theorem write_ne_nil (x : Float) : (floatFormat.write x).toList ≠ [] := by
  intro hnil
  by_cases hfinite : IsFinite x
  · rcases exists_number?_write hfinite with ⟨y, hy⟩
    rw [hnil] at hy
    cases hy
  · have hword := write_of_not_finite hfinite
    rw [hnil] at hword
    simp at hword

/-! ## Characters of numbers -/

theorem isBare_of_isDigit {c : Char} (h : c.isDigit = true) : isBare c = true := by
  simp [isBare, Char.isAlphanum, h]

theorem isBare_of_mem_takeWhile {s : List Char} {c : Char} (h : c ∈ s.takeWhile Char.isDigit) :
    isBare c = true :=
  isBare_of_isDigit (List.mem_takeWhile_imp h)

theorem isBare_of_splitSign {s : List Char} (h : ∀ c ∈ (Decimal.splitSign s).2, c.isDigit = true) :
    ∀ c ∈ s, isBare c = true := by
  unfold Decimal.splitSign at h
  split at h
  · exact List.forall_mem_cons.2 ⟨by decide, fun c hc => isBare_of_isDigit (h c hc)⟩
  · exact List.forall_mem_cons.2 ⟨by decide, fun c hc => isBare_of_isDigit (h c hc)⟩
  · exact fun c hc => isBare_of_isDigit (h c hc)

/-- An exponent is made of characters that stand in a word without quotes. -/
theorem isBare_of_exponent? {rest : List Char} {e : Option Int} (h : exponent? rest = some e) :
    ∀ c ∈ rest, isBare c = true := by
  cases rest with
  | nil =>
    simp
  | cons letter s =>
    rw [exponent?] at h
    split at h
    · rename_i hexponent
      simp only [Bool.and_eq_true, Bool.or_eq_true, beq_iff_eq, List.all_eq_true] at hexponent
      rcases hexponent with ⟨⟨hletter, _⟩, hdigits⟩
      refine List.forall_mem_cons.2 ⟨?_, isBare_of_splitSign hdigits⟩
      rcases hletter with rfl | rfl
      · decide
      · decide
    · cases h

theorem isBare_of_fraction? {tail fraction rest : List Char}
    (h : fraction? tail = some (fraction, rest)) (hrest : ∀ c ∈ rest, isBare c = true) :
    ∀ c ∈ tail, isBare c = true := by
  unfold fraction? at h
  split at h
  · split at h
    · cases h
    · rename_i s _
      cases h
      refine List.forall_mem_cons.2 ⟨by decide, fun c hc => ?_⟩
      rw [← List.takeWhile_append_dropWhile (p := Char.isDigit) (l := s)] at hc
      rcases List.mem_append.1 hc with hdigit | hbehind
      · exact isBare_of_mem_takeWhile hdigit
      · exact hrest c hbehind
  · cases h
    exact hrest

/-- What is read as a number is made of characters that stand in a word without quotes. -/
theorem isBare_of_unsigned? {negative : Bool} {s : List Char} {j : Json}
    (h : unsigned? negative s = some j) : ∀ c ∈ s, isBare c = true := by
  rw [unsigned?] at h
  dsimp only at h
  split at h
  · rcases Option.bind_eq_some_iff.1 h with ⟨⟨fraction, rest⟩, hfraction, h⟩
    rcases Option.map_eq_some_iff.1 h with ⟨e, hexponent, _⟩
    intro c hc
    rw [← List.takeWhile_append_dropWhile (p := Char.isDigit) (l := s)] at hc
    rcases List.mem_append.1 hc with hwhole | htail
    · exact isBare_of_mem_takeWhile hwhole
    · exact isBare_of_fraction? hfraction (isBare_of_exponent? hexponent) c htail
  · cases h

/-- A number has no characters but those of words. -/
theorem isBare_of_number? {s : List Char} {j : Json} (h : number? s = some j) :
    ∀ c ∈ s, isBare c = true := by
  unfold number? at h
  split at h
  · exact List.forall_mem_cons.2 ⟨by decide, isBare_of_unsigned? h⟩
  · exact isBare_of_unsigned? h

/-- What a float is written as has no characters but those of words. -/
theorem isBare_write (x : Float) : ∀ c ∈ (floatFormat.write x).toList, isBare c = true := by
  by_cases hfinite : IsFinite x
  · rcases exists_number?_write hfinite with ⟨y, hy⟩
    exact isBare_of_number? hy
  · have hword := write_of_not_finite hfinite
    generalize (floatFormat.write x).toList = word at hword
    simp only [List.mem_cons, List.not_mem_nil, or_false] at hword
    rw [← List.all_eq_true]
    rcases hword with rfl | rfl | rfl
    · decide
    · decide
    · decide

end Json
end PatchReview
