import PatchReview.Diff.Path
import PatchReview.Proofs.Text.CaseMap
import PatchReview.Proofs.Text.Pieces

/-!
# Extensions

The extension of a name is what stands behind its last dot, so there is no dot in it. Changing its
case brings none up. The extension of a name in lower case is the lower-case form of its extension,
in sight of what stands before it.
-/

namespace PatchReview

/-- The extension of a name stands behind its last dot, if there is more than dots before that. -/
theorem Path.extension?_eq_some_iff {base ext : List Char} :
    Path.extension? base = some ext ↔ ∃ stem, base = stem ++ '.' :: ext ∧ '.' ∉ ext ∧ ∃ c ∈ stem,
      c ≠ '.' := by
  rw [Path.extension?]
  constructor
  · intro h
    cases hcut : Text.cutLast? ['.'] base with
    | none =>
      rw [hcut] at h
      cases h
    | some found =>
      rcases found with ⟨stem, after⟩
      simp only [hcut, Option.ite_none_left_eq_some, Option.some.injEq] at h
      rcases h with ⟨hstem, rfl⟩
      rcases Text.eq_append_of_cutLast? (List.cons_ne_nil _ _) hcut with ⟨hbase, hlast⟩
      rw [List.append_assoc, List.singleton_append] at hbase
      exact ⟨stem, hbase, fun hmem => hlast ((List.singleton_infix_iff _ _).2 hmem),
        by simpa using hstem⟩
  · rintro ⟨stem, rfl, hlast, hstem⟩
    have hcut : Text.cutLast? ['.'] (stem ++ ['.'] ++ ext) = some (stem, ext) :=
      Text.cutLast?_append_mark stem fun hinfix => hlast ((List.singleton_infix_iff _ _).1 hinfix)
    rw [List.append_assoc, List.singleton_append] at hcut
    simpa [hcut] using hstem

/-- A name has an extension just if it has one in lower case, and that is the lower-case form of the
extension. What stands before the extension decides how a sigma at its end comes out. -/
theorem Path.exists_extension?_lower (base : List Char) :
    ∃ before, Path.extension? (Text.lower base) =
      (Path.extension? base).map (Text.lowerFrom before) := by
  rw [Path.extension?, Path.extension?, Text.cutLast?_lower (by decide) (by decide)]
  cases Text.cutLast? ['.'] base with
  | none =>
    exact ⟨[], rfl⟩
  | some cut =>
    rcases cut with ⟨stem, ext⟩
    -- only dots stand before the last one in lower case just if that is so in the name
    have hdots : (Text.lowerBetween [] stem ('.' :: ext)).all (· == '.') = stem.all (· == '.') :=
      Text.all_lowerBetween (by decide) (by decide) [] stem ('.' :: ext)
    refine ⟨'.' :: stem.reverse, ?_⟩
    simp only [Option.map_some, hdots]
    split <;> rfl

/-- By itself the sigma does not stand behind a letter. -/
example : Path.extension? (Text.lower ['α', '.', 'Σ']) = some ['ς'] ∧ Text.lower ['Σ'] = ['σ'] := by
  decide

/-- Nothing stands behind the last dot of a name that ends in it. -/
theorem Path.extension?_getD_of_getLast? {base : List Char} (h : base.getLast? = some '.') :
    (Path.extension? base).getD [] = [] := by
  cases hext : Path.extension? base with
  | none =>
    rfl
  | some ext =>
    rcases Path.extension?_eq_some_iff.1 hext with ⟨stem, rfl, hdot, -⟩
    cases ext with
    | nil =>
      rfl
    | cons c cs =>
      -- the dot at the end would stand in the extension
      have hlast : (c :: cs).getLast? = some '.' := by simpa using h
      exact absurd (List.mem_of_getLast? hlast) hdot

/-- A file has no extension if its base name has none, or one that is empty. -/
theorem Diff.File.extension_eq_empty_iff {f : Diff.File} :
    f.extension = "" ↔ (Path.extension? (Path.baseName f.path.toList)).getD [] = [] := by
  rw [Diff.File.extension, ← String.toList_inj, String.toList_ofList, String.toList_empty,
    Text.lower, Text.lowerFrom_eq_nil_iff]

/-- The extension of a file has no dot. -/
theorem Diff.File.dot_not_mem_extension (f : Diff.File) : '.' ∉ f.extension.toList := by
  rw [Diff.File.extension, String.toList_ofList]
  intro hdot
  have hin := Text.mem_of_mem_lowerFrom (by decide) (by decide) hdot
  cases hext : Path.extension? (Path.baseName f.path.toList) with
  | none =>
    rw [hext] at hin
    cases hin
  | some ext =>
    rw [hext] at hin
    rcases Path.extension?_eq_some_iff.1 hext with ⟨stem, -, hdots, -⟩
    exact hdots hin

end PatchReview
