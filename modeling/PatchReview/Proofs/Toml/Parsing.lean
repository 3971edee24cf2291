import PatchReview.Proofs.Toml.Document
import PatchReview.Proofs.Toml.Reading

/-!
# Reading TOML documents without deep brackets

Every list and every table of a document is written with a bracket or a point. If a text has few of
them, then it needs little room to be read, and the document is nested no deeper. If it has no long
runs of letters and digits besides, then a text that is no document breaks a rule of TOML: it never
fails for the digits of a number or for its nesting.
-/

namespace PatchReview
namespace Toml

/-! ## Values -/

/-- What is read from a text can be written, is paid for by what it is read from, and leaves a rest
of the text. -/
structure ReadFrom (s : List Char) (depth : Nat) (rest : List Char) : Prop where
  nesting : depth + nesting rest ≤ nesting s
  suffix : rest <:+ s

/-- What is read from the rest of a text is read from the text. -/
theorem ReadFrom.of_suffix {s t rest : List Char} {depth : Nat} (h : ReadFrom t depth rest)
    (ht : t <:+ s) : ReadFrom s depth rest :=
  ⟨h.nesting.trans (nesting_le_of_suffix ht), h.suffix.trans ht⟩

/-- A document that is being built up to a rest of a text has no long numbers, and what it is nested
and may still be nested by the rest keeps to a bound. -/
structure Built (n : Nat) (d : Document) (s : List Char) : Prop where
  writable : WritableEntries d.entries
  depth : depthOfEntries d.entries ≤ n
  header : 2 * d.header.length + nesting s ≤ n
  rest : nesting s < n

/-- Going on in a text keeps what holds of the document so far. -/
theorem Built.of_suffix {n : Nat} {d : Document} {s t : List Char} (h : Built n d s)
    (ht : t <:+ s) :
    Built n d t where
  writable := h.writable
  depth := h.depth
  header := (Nat.add_le_add_left (nesting_le_of_suffix ht) _).trans h.header
  rest := (nesting_le_of_suffix ht).trans_lt h.rest

section Statements

variable {n : Nat} {d grown : Document} {s rest : List Char} {key : Key}

/-- The header of a table is paid for by its bracket and its points. -/
theorem Built.openTable (h : Built n d ('[' :: s)) (hrest : rest <:+ s)
    (hkey : 2 * (key.length - 1) + nesting rest ≤ nesting s) (hrun : d.openTable key = .ok grown) :
    Built n grown rest := by
  have hroom : 1 + nesting s < n := h.rest
  rcases Document.entries_of_openTable hrun with ⟨hheader, hentries⟩
  refine ⟨keepsWritable_changeTable keepsWritable_some true key _ _ h.writable hentries, ?_, ?_, ?_⟩
  · exact deepensTo_changeTable deepensTo_some true key _ _ n (by omega) h.depth hentries
  · rw [hheader]
    omega
  · exact (nesting_le_of_suffix (hrest.trans (List.suffix_cons _ s))).trans_lt h.rest

/-- The header of one more table of a list is paid for by its two brackets and its points. -/
theorem Built.openListed (h : Built n d ('[' :: '[' :: s)) (hrest : rest <:+ s)
    (hkey : 2 * (key.length - 1) + nesting rest ≤ nesting s) (hrun : d.openListed key = .ok grown) :
    Built n grown rest := by
  have hroom : 1 + (1 + nesting s) < n := h.rest
  rcases Document.entries_of_openListed hrun with ⟨hheader, name, hentries⟩
  refine ⟨keepsWritable_changeTable (keepsWritable_addTable name) true _ _ _ h.writable hentries,
    ?_, ?_, ?_⟩
  · refine deepensTo_changeTable (deepensTo_addTable name) true _ _ _ n ?_ h.depth hentries
    rw [List.length_dropLast]
    omega
  · rw [hheader]
    omega
  · exact (nesting_le_of_suffix (hrest.trans (List.suffix_append ['[', '['] s))).trans_lt h.rest

/-- A value is paid for together with its key and the header of its table. -/
theorem Built.add {v : Value} (h : Built n d s) (hv : v.Writable)
    (hread : 2 * (key.length - 1) + v.depth + nesting rest ≤ nesting s)
    (hrun : d.add key v = .ok grown) : Built n grown rest := by
  have hroom := h.header
  rcases Document.entries_of_add hrun with ⟨hheader, name, hentries⟩
  refine ⟨keepsWritable_changeTable (keepsWritable_addEntry hv name) true _ _ _ h.writable hentries,
    ?_, ?_, ?_⟩
  · refine deepensTo_changeTable (deepensTo_addEntry name v) true _ _ _ n ?_ h.depth hentries
    rw [List.length_append, List.length_dropLast]
    omega
  · rw [hheader]
    omega
  · have hrest := h.rest
    omega

end Statements

/-! ## Documents -/

/-- A run without line feeds at the start of a text with joined line ends stands at the start of the
text. -/
theorem prefix_of_prefix_joinLineEnds {run s : List Char} (hrun : '\n' ∉ run)
    (h : run <+: joinLineEnds s) : run <+: s := by
  fun_induction joinLineEnds s generalizing run with
  | case1 | case2 =>
    exact h
  | case3 c d s hline ih =>
    rcases List.prefix_cons_iff.1 h with rfl | ⟨rest, rfl, -⟩
    · exact List.nil_prefix
    · exact absurd List.mem_cons_self hrun
  | case4 c d s hline ih =>
    rcases List.prefix_cons_iff.1 h with rfl | ⟨rest, rfl, hrest⟩
    · exact List.nil_prefix
    · exact (List.prefix_cons_inj c).2 (ih (fun hmem => hrun (List.mem_cons_of_mem c hmem)) hrest)

/-- A run without line feeds is no longer for line ends that are joined. -/
theorem infix_of_infix_joinLineEnds {run s : List Char} (hrun : '\n' ∉ run)
    (h : run <:+: joinLineEnds s) : run <:+: s := by
  fun_induction joinLineEnds s with
  | case1 | case2 =>
    exact h
  | case3 c d s hline ih =>
    rcases List.infix_cons_iff.1 h with hstart | hrest
    · rcases List.prefix_cons_iff.1 hstart with rfl | ⟨rest, rfl, -⟩
      · exact List.nil_infix
      · exact absurd List.mem_cons_self hrun
    · exact (ih hrest).trans (List.suffix_append [c, d] s).isInfix
  | case4 c d s hline ih =>
    rcases List.infix_cons_iff.1 h with hstart | hrest
    · rcases List.prefix_cons_iff.1 hstart with rfl | ⟨rest, rfl, hrest⟩
      · exact List.nil_infix
      · have hline : '\n' ∉ rest := fun hmem => hrun (List.mem_cons_of_mem c hmem)
        exact ((List.prefix_cons_inj c).2 (prefix_of_prefix_joinLineEnds hline hrest)).isInfix
    · exact (ih hrest).trans (List.suffix_cons c (d :: s)).isInfix

/-- Joining line ends makes no run longer. -/
theorem ShortRuns.joinLineEnds {s : List Char} (h : ShortRuns s) : ShortRuns (joinLineEnds s) := by
  intro run hrun hall
  -- a line feed, the one character that joining brings in, is in no run
  have hline : '\n' ∉ run := by
    intro hmem
    cases hall '\n' hmem
  exact h run (infix_of_infix_joinLineEnds hline hrun) hall

end Toml
end PatchReview
