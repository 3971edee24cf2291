import PatchReview.Proofs.Json.RoundTrip
import PatchReview.Proofs.Text.Pieces

/-!
# ASCII documents

Whatever characters stand in the texts of a value, the text of the value holds ASCII characters
alone.
-/

namespace PatchReview
namespace Json

/-- All characters of a text are ASCII characters. -/
def IsAscii (s : List Char) : Prop := ∀ c ∈ s, c.toNat < 0x80

theorem IsAscii.append {s t : List Char} (hs : IsAscii s) (ht : IsAscii t) : IsAscii (s ++ t) := by
  intro c hc
  rcases List.mem_append.1 hc with h | h
  · exact hs c h
  · exact ht c h

theorem isAscii_of_all {s : List Char} (h : s.all (fun c => c.toNat < 0x80) = true) :
    IsAscii s := by
  intro c hc
  simpa using List.all_eq_true.1 h c hc

/-! ## Words -/

theorem lt_of_isAlphanum {c : Char} (h : c.isAlphanum = true) : c.toNat < 0x80 := by
  have hranges : (decide (c.val ≥ 'A'.val ∧ c.val ≤ 'Z'.val) ||
      (decide (c.val ≥ 'a'.val) && decide (c.val ≤ 'z'.val)) ||
      (decide (c.val ≥ '0'.val) && decide (c.val ≤ '9'.val))) = true := h
  simp only [Bool.or_eq_true, Bool.and_eq_true, decide_eq_true_eq] at hranges
  rcases hranges with (⟨_, hupper⟩ | ⟨_, hlower⟩) | ⟨_, hdigit⟩
  · exact Nat.lt_of_le_of_lt hupper (by decide)
  · exact Nat.lt_of_le_of_lt hlower (by decide)
  · exact Nat.lt_of_le_of_lt hdigit (by decide)

theorem lt_of_isBare {c : Char} (h : isBare c = true) : c.toNat < 0x80 := by
  simp only [isBare, Bool.or_eq_true, beq_iff_eq] at h
  rcases h with ((halnum | rfl) | rfl) | rfl
  · exact lt_of_isAlphanum halnum
  all_goals decide

/-- A word without quotes is made of ASCII characters. -/
theorem isAscii_of_isBare {s : List Char} (h : ∀ c ∈ s, isBare c = true) : IsAscii s :=
  fun c hc => lt_of_isBare (h c hc)

/-! ## Strings -/

theorem lt_digitChar {d : Nat} (h : d < 16) : d.digitChar.toNat < 0x80 := by
  have hall : ∀ d < 16, (Nat.digitChar d).toNat < 0x80 := by decide
  exact hall d h

/-- An escape is made of ASCII characters, whatever unit it stands for. -/
theorem isAscii_unitEscape {n : Nat} (h : n < 0x10000) : IsAscii (unitEscape n) := by
  rw [unitEscape, Text.hexDigits_four h]
  intro c hc
  simp only [List.mem_cons, List.not_mem_nil, or_false] at hc
  rcases hc with rfl | rfl | rfl | rfl | rfl | rfl
  · decide
  · decide
  all_goals exact lt_digitChar (by omega)

/-- Every character is written in ASCII characters. -/
theorem isAscii_writeChar (c : Char) : IsAscii (writeChar c) := by
  have hvalid : c.toNat < 0xD800 ∨ 0xDFFF < c.toNat ∧ c.toNat < 0x110000 := c.valid
  rcases writeChar_cases c with hletter | ⟨hprintable, _, _, hwrite⟩ | ⟨hunit, hwrite⟩ | ⟨_, hwrite⟩
  · simp only [List.mem_cons, List.not_mem_nil, or_false] at hletter
    rcases hletter with rfl | rfl | rfl | rfl | rfl | rfl | rfl
    all_goals exact isAscii_of_all (by decide)
  · rw [hwrite]
    intro d hd
    rw [List.mem_singleton.1 hd]
    omega
  · rw [hwrite]
    exact isAscii_unitEscape hunit
  · rw [hwrite]
    exact (isAscii_unitEscape (by omega)).append (isAscii_unitEscape (by omega))

/-- So is every text. -/
theorem isAscii_writeText (s : String) : IsAscii (writeText s) := by
  rw [writeText]
  refine .append (.append (s := ['"']) (isAscii_of_all (by decide)) ?_) (isAscii_of_all (by decide))
  intro c hc
  rcases List.mem_flatMap.1 hc with ⟨d, _, hd⟩
  exact isAscii_writeChar d c hd

/-! ## Values -/

theorem isAscii_lineBreak (depth : Nat) : IsAscii (lineBreak depth) := by
  intro c hc
  rcases List.mem_cons.1 hc with rfl | hblank
  · decide
  · rw [List.eq_of_mem_replicate hblank]
    decide

/-- Brackets around pieces of ASCII characters, with line breaks between them, add nothing else. -/
theorem isAscii_enclose {left right : Char} (hleft : IsAscii [left]) (hright : IsAscii [right])
    (depth : Nat) {pieces : List (List Char)} (h : ∀ piece ∈ pieces, IsAscii piece) :
    IsAscii (enclose left right depth pieces) := by
  rw [enclose]
  split
  · exact .append (s := [left]) hleft hright
  · refine .append (.append (.append (s := [left] ++ lineBreak (depth + 1))
      (hleft.append (isAscii_lineBreak _)) ?_) (isAscii_lineBreak depth)) hright
    intro c hc
    rcases Text.mem_joinWith hc with hsep | ⟨piece, hpiece, hc⟩
    · rcases List.mem_cons.1 hsep with rfl | hbreak
      · decide
      · exact isAscii_lineBreak _ c hbreak
    · exact h piece hpiece c hc

mutual

/-- A value is written in ASCII characters at any depth. -/
theorem isAscii_writeAt (depth : Nat) (j : Json) : IsAscii (writeAt depth j) := by
  cases j with
  | null =>
    have hword : writeAt depth .null = ['n', 'u', 'l', 'l'] := String.toList_ofList
    rw [hword]
    exact isAscii_of_all (by decide)
  | bool b =>
    cases b with
    | false =>
      have hword : writeAt depth (.bool false) = ['f', 'a', 'l', 's', 'e'] := String.toList_ofList
      rw [hword]
      exact isAscii_of_all (by decide)
    | true =>
      have hword : writeAt depth (.bool true) = ['t', 'r', 'u', 'e'] := String.toList_ofList
      rw [hword]
      exact isAscii_of_all (by decide)
  | int n =>
    rw [writeAt]
    exact isAscii_of_isBare (isBare_of_number? (number?_toString n))
  | float x =>
    rw [writeAt]
    exact isAscii_of_isBare (isBare_write x)
  | text s =>
    rw [writeAt]
    exact isAscii_writeText s
  | list items =>
    rw [writeAt]
    exact isAscii_enclose (isAscii_of_all (by decide)) (isAscii_of_all (by decide)) depth
      (isAscii_writeItems (depth + 1) items)
  | object members =>
    rw [writeAt]
    exact isAscii_enclose (isAscii_of_all (by decide)) (isAscii_of_all (by decide)) depth
      (isAscii_writeMembers (depth + 1) members)

theorem isAscii_writeItems (depth : Nat) (items : List Json) :
    ∀ piece ∈ writeItems depth items, IsAscii piece := by
  cases items with
  | nil =>
    simp [writeItems]
  | cons item items =>
    rw [writeItems]
    exact List.forall_mem_cons.2 ⟨isAscii_writeAt depth item, isAscii_writeItems depth items⟩

theorem isAscii_writeMembers (depth : Nat) (members : List (String × Json)) :
    ∀ piece ∈ writeMembers depth members, IsAscii piece := by
  cases members with
  | nil =>
    simp [writeMembers]
  | cons member members =>
    rcases member with ⟨name, value⟩
    rw [writeMembers]
    refine List.forall_mem_cons.2 ⟨?_, isAscii_writeMembers depth members⟩
    exact .append (.append (isAscii_writeText name) (isAscii_of_all (by decide)))
      (isAscii_writeAt depth value)

end

/-- The text of a value is ASCII. -/
theorem isAscii_write (j : Json) : IsAscii j.write.toList := by
  rw [write, String.toList_ofList]
  exact isAscii_writeAt 0 j

end Json
end PatchReview
