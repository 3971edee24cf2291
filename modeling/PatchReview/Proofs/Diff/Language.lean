import PatchReview.Diff.Language
import PatchReview.Proofs.Diff.Path

/-!
# Languages by extension

A file with an extension has the language of its extension, and a file without one that of its base
name in lower case. The extension is looked up as it stands in the base name in lower case, where a
sigma at its end may come out in another form than in the extension by itself. No language has a
sigma in its extension, so that both ways lead to the same.
-/

namespace PatchReview
namespace Language

/-! ## Tables -/

/-- A table has one entry for two texts if none of its keys tells them apart. -/
theorem lookup_congr {table : List (String × String)} {x y : String}
    (h : ∀ entry ∈ table, x = entry.1 ↔ y = entry.1) : table.lookup x = table.lookup y := by
  induction table with
  | nil =>
    rfl
  | cons entry table ih =>
    rcases List.forall_mem_cons.1 h with ⟨hkey, hrest⟩
    have hbeq : (x == entry.1) = (y == entry.1) := by
      rw [Bool.eq_iff_iff, beq_iff_eq, beq_iff_eq, hkey]
    rw [List.lookup_cons, List.lookup_cons, hbeq, ih hrest]

/-- No language has a sigma in its extension. -/
theorem sigma_not_mem_byExtension :
    ∀ entry ∈ byExtension, '\u03c2' ∉ entry.1.toList ∧ '\u03c3' ∉ entry.1.toList := by
  decide

/-- What stands before an extension makes no difference to its language. -/
theorem lookup_byExtension_lowerFrom (a b ext : List Char) :
    byExtension.lookup (String.ofList (Text.lowerFrom a ext)) =
      byExtension.lookup (String.ofList (Text.lowerFrom b ext)) := by
  refine lookup_congr fun entry hentry => ?_
  rw [← String.toList_inj, ← String.toList_inj, String.toList_ofList, String.toList_ofList]
  exact Text.lowerFrom_eq_iff_lowerFrom_eq (sigma_not_mem_byExtension entry hentry) a b ext

/-- No language belongs to an empty extension. -/
theorem lookup_byExtension_empty : byExtension.lookup "" = none := by
  decide

/-- The names that stand for a language have no dot. -/
theorem dot_not_mem_byBaseName : ∀ entry ∈ byBaseName, '.' ∉ entry.1.toList := by
  decide

/-- No language has a base name with a dot. -/
theorem lookup_byBaseName_of_dot {base : List Char} (h : '.' ∈ base) :
    byBaseName.lookup (String.ofList (Text.lower base)) = none := by
  have hlower : '.' ∈ Text.lower base := (Text.mem_lowerFrom_iff (by decide) (by decide)).2 h
  refine List.lookup_eq_none_iff.2 fun entry hentry => bne_iff_ne.2 fun heq => ?_
  rw [← String.toList_inj, String.toList_ofList] at heq
  exact dot_not_mem_byBaseName entry hentry (heq ▸ hlower)

/-! ## Paths -/

/-- The language of an extension is looked up by its lower-case form. -/
theorem ofPath?_of_extension {path : String} {ext : List Char}
    (h : Path.extension? (Path.baseName path.toList) = some ext) :
    ofPath? path = byExtension.lookup (String.ofList (Text.lower ext)) := by
  rcases Path.exists_extension?_lower (Path.baseName path.toList) with ⟨before, hlower⟩
  rw [h, Option.map_some] at hlower
  rw [ofPath?, hlower]
  exact lookup_byExtension_lowerFrom before [] ext

/-- Without an extension the base name decides. -/
theorem ofPath?_of_no_extension {path : String}
    (h : Path.extension? (Path.baseName path.toList) = none) :
    ofPath? path = byBaseName.lookup (String.ofList (Text.lower (Path.baseName path.toList))) := by
  rcases Path.exists_extension?_lower (Path.baseName path.toList) with ⟨before, hlower⟩
  rw [h, Option.map_none] at hlower
  rw [ofPath?, hlower]

end Language

namespace Diff

/-! ## Files -/

/-- A file with an extension has the language of the extension. -/
theorem File.language?_of_extension {f : File} (h : f.extension ≠ "") :
    f.language? = Language.byExtension.lookup f.extension := by
  rw [ne_eq, File.extension_eq_empty_iff] at h
  cases hext : Path.extension? (Path.baseName f.path.toList) with
  | none =>
    -- such a name has the empty extension
    rw [hext] at h
    exact absurd rfl h
  | some ext =>
    rw [File.language?, Language.ofPath?_of_extension hext, File.extension, hext, Option.getD_some]

/-- A file without an extension has the language of its base name, also if that ends in a dot. -/
theorem File.language?_of_no_extension {f : File} (h : f.extension = "") :
    f.language? = Language.byBaseName.lookup (String.ofList (Text.lower f.baseName.toList)) := by
  rw [File.extension_eq_empty_iff] at h
  rw [File.language?, File.baseName, String.toList_ofList]
  cases hext : Path.extension? (Path.baseName f.path.toList) with
  | none =>
    exact Language.ofPath?_of_no_extension hext
  | some ext =>
    -- a last dot is looked up as an empty extension, which no language has
    obtain rfl : ext = [] := by rwa [hext] at h
    rcases Path.extension?_eq_some_iff.1 hext with ⟨stem, hbase, -, -⟩
    have hdot : '.' ∈ Path.baseName f.path.toList := by simp [hbase]
    calc
      Language.ofPath? f.path = Language.byExtension.lookup (String.ofList (Text.lower [])) :=
        Language.ofPath?_of_extension hext
      _ = none := Language.lookup_byExtension_empty
      _ = _ := (Language.lookup_byBaseName_of_dot hdot).symm

/-- A dot at the end of a name leaves no extension behind it. -/
theorem File.extension_of_final_dot {f : File} (h : f.baseName.toList.getLast? = some '.') :
    f.extension = "" := by
  rw [File.baseName, String.toList_ofList] at h
  exact File.extension_eq_empty_iff.2 (Path.extension?_getD_of_getLast? h)

/-- A file whose name ends with a dot has no language. -/
theorem File.language?_of_final_dot {f : File} (h : f.baseName.toList.getLast? = some '.') :
    f.language? = none := by
  rw [File.language?_of_no_extension (File.extension_of_final_dot h)]
  exact Language.lookup_byBaseName_of_dot (List.mem_of_getLast? h)

/-- The language that is looked up for a path is that of its extension if it has one, so that files
with the same extension have the same language. Without an extension it is that of the base name in
lower case, and there is none if the base name ends in a dot. -/
theorem language_agrees (f : File) :
    (f.extension ≠ "" →
        Language.ofPath? f.path = Language.byExtension.lookup f.extension ∧
          ∀ g : File, g.extension = f.extension → g.language? = f.language?) ∧
      (f.extension = "" →
        Language.ofPath? f.path =
          Language.byBaseName.lookup (String.ofList (Text.lower f.baseName.toList))) ∧
      (f.baseName.toList.getLast? = some '.' → f.extension = "" ∧
        Language.ofPath? f.path = none) := by
  refine ⟨fun h => ⟨File.language?_of_extension h, fun g hg => ?_⟩, File.language?_of_no_extension,
    fun h => ⟨File.extension_of_final_dot h, File.language?_of_final_dot h⟩⟩
  rw [File.language?_of_extension h, File.language?_of_extension (hg ▸ h), hg]

/-- A Greek name with an extension that starts with the sign for kelvin. -/
def kelvinFile : File := { path := "src/ΟΔΟΣ.\u212aT" }

/-- A hidden file with the same extension in another directory. -/
def hiddenFile : File := { path := ".build/.main.kt" }

/-- A name without an extension, with the sign for kelvin in it. -/
def makeFile : File := { path := "src.py/MA\u212aEFILE" }

/-- A name that ends in a dot. -/
def dottedFile : File := { path := "src.py/main.kt." }

set_option maxRecDepth 4000 in
theorem language_agrees_kelvin :
    (kelvinFile.extension ≠ "" ∧ Language.ofPath? kelvinFile.path = some "Kotlin") ∧
      (hiddenFile.extension = kelvinFile.extension ∧ hiddenFile.language? = kelvinFile.language?) ∧
      (makeFile.extension = "" ∧ Language.ofPath? makeFile.path = some "Makefile") ∧
      dottedFile.baseName.toList.getLast? = some '.' ∧ Language.ofPath? dottedFile.path = none := by
  have hkelvin : kelvinFile.extension = "kt" := by rfl
  have hhidden : hiddenFile.extension = "kt" := by rfl
  have hmake : makeFile.extension = "" := by rfl
  have hdotted : dottedFile.baseName.toList.getLast? = some '.' := by rfl
  have hname : Language.byBaseName.lookup (String.ofList (Text.lower makeFile.baseName.toList)) =
      some "Makefile" := by
    rfl
  have hne : kelvinFile.extension ≠ "" := by
    rw [hkelvin]
    decide
  rcases (language_agrees kelvinFile).1 hne with ⟨hlanguage, hsame⟩
  rcases language_agrees makeFile with ⟨-, hbase, -⟩
  rcases language_agrees dottedFile with ⟨-, -, hdot⟩
  refine ⟨⟨hne, ?_⟩, ⟨hhidden.trans hkelvin.symm, hsame _ (hhidden.trans hkelvin.symm)⟩,
    ⟨hmake, (hbase hmake).trans hname⟩, hdotted, (hdot hdotted).2⟩
  rw [hlanguage, hkelvin]
  decide

end Diff
end PatchReview
