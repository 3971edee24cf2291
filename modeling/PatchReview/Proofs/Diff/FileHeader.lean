import PatchReview.Proofs.Diff.Rendering

/-!
# Paths in file headers

A file header names its path twice, and the text between is not marked off: what is read is the part
behind the last mark. In quotes that part is the path whatever the path holds. A plain header is cut
inside of the path if the path holds the mark itself, and names what stands behind the last one.
Blocks below headers that keep their paths stay apart as long as the paths differ.
-/

namespace PatchReview
namespace Diff

/-! ## Headers -/

/-- The forms of a file header. -/
inductive HeaderForm where
  | plain
  | quoted
  deriving DecidableEq, Repr

/-- A file header with one path on both of its sides. -/
def HeaderForm.text : HeaderForm → String → String
  | .plain, path => "diff --git a/" ++ path ++ " b/" ++ path
  | .quoted, path => "diff --git \"a/" ++ path ++ "\" \"b/" ++ path ++ "\""

/-- The characters of a file header with one path on both of its sides. -/
def HeaderForm.line : HeaderForm → List Char → List Char
  | .plain => plainHeader
  | .quoted => quotedHeader

/-- A path that can stand in a header of either form. -/
@[mk_iff]
structure Nameable (path : String) : Prop where
  ne_empty : path ≠ ""
  noQuote : '"' ∉ path.toList
  fits : FitsLine path.toList

instance (path : String) : Decidable (Nameable path) :=
  decidable_of_iff _ (nameable_iff path).symm

/-- Whether a form of header keeps a path in one piece. -/
def HeaderForm.Keeps : HeaderForm → String → Prop
  | .plain, path => ¬ " b/".toList <:+: path.toList
  | .quoted, _ => True

instance : (form : HeaderForm) → (path : String) → Decidable (form.Keeps path)
  | .plain, path => inferInstanceAs (Decidable (¬ " b/".toList <:+: path.toList))
  | .quoted, _ => inferInstanceAs (Decidable True)

/-- Without a quotation mark the path stands twice, behind its marks. -/
theorem plainHeader_eq (path : List Char) :
    plainHeader path = "diff --git a/".toList ++ path ++ " b/".toList ++ path :=
  (List.append_assoc _ " b/".toList path).symm

@[simp] theorem HeaderForm.toList_text (form : HeaderForm) (path : String) :
    (form.text path).toList = form.line path.toList := by
  have happend (a b c d : String) :
      (a ++ b ++ c ++ d).toList = a.toList ++ b.toList ++ c.toList ++ d.toList := by
    simp only [String.toList_append]
  cases form with
  | plain =>
    exact (happend _ path _ path).trans (plainHeader_eq path.toList).symm
  | quoted =>
    have hquotes (front mark s : List Char) :
        front ++ s ++ '"' :: mark ++ s ++ ['"'] = front ++ (s ++ ['"']) ++ mark ++
          (s ++ ['"']) := by
      simp
    calc
      (HeaderForm.quoted.text path).toList =
        ("diff --git \"a/" ++ path ++ "\" \"b/" ++ path).toList ++ ['"'] :=
        String.toList_append
      _ = "diff --git \"a/".toList ++ path.toList ++ '"' :: " \"b/".toList ++
        path.toList ++ ['"'] :=
        congrArg (· ++ ['"']) (happend _ path _ path)
      _ = HeaderForm.quoted.line path.toList := hquotes _ _ _

/-- All forms begin with the same words. -/
theorem HeaderForm.exists_line_eq (form : HeaderForm) (path : List Char) :
    ∃ rest, form.line path = "diff --git".toList ++ rest := by
  cases form with
  | plain => exact ⟨" a/".toList ++ path ++ ' ' :: 'b' :: '/' :: path, rfl⟩
  | quoted => exact ⟨" \"a/".toList ++ (path ++ ['"']) ++ " \"b/".toList ++ (path ++ ['"']), rfl⟩

@[simp] theorem HeaderForm.isFileHeader_line (form : HeaderForm) (path : List Char) :
    isFileHeader (form.line path) = true := by
  cases form <;> rfl

/-- A path without quotes does not hold the mark of a quoted header. -/
theorem Nameable.noQuotedMark {path : String} (h : Nameable path) :
    ¬ " \"b/".toList <:+: path.toList := by
  intro hmark
  have hquote : '"' ∈ " \"b/".toList := by decide
  exact h.noQuote (hmark.subset hquote)

/-- A header of any form is one line if the path can be named. -/
theorem Nameable.fits_line {path : String} (h : Nameable path) (form : HeaderForm) :
    FitsLine (form.line path.toList) := by
  cases form with
  | plain => exact fits_plainHeader h.fits
  | quoted => exact fits_quotedHeader h.fits.noFeed

/-- A header that keeps its path yields it. -/
theorem Nameable.filePath?_line {path : String} (h : Nameable path) {form : HeaderForm}
    (hkeeps : form.Keeps path) : filePath? (form.line path.toList) = some path := by
  have hchars : path.toList ≠ [] := by
    simpa using h.ne_empty
  have hread : headerPath? (form.line path.toList) = some path.toList := by
    cases form with
    | plain =>
      have hquote : path.toList.getLast? ≠ some '"' :=
        fun hlast => h.noQuote (List.mem_of_getLast? hlast)
      exact headerPath?_plainHeader hchars hkeeps hquote
    | quoted =>
      exact headerPath?_quotedHeader hchars h.noQuotedMark
  rw [filePath?, hread, Option.map_some, String.ofList_toList]

/-- A plain header of a path that holds the mark yields what stands behind the last one. -/
theorem Nameable.filePath?_marked {front rest : String} (h : Nameable (front ++ " b/" ++ rest))
    (hlast : ¬ " b/".toList <:+: rest.toList) :
    filePath? (plainHeader (front ++ " b/" ++ rest).toList) =
      if rest = "" then none else some rest := by
  have hsplit : plainHeader (front ++ " b/" ++ rest).toList =
      ("diff --git a/".toList ++ (front ++ " b/" ++ rest).toList ++ " b/".toList ++ front.toList) ++
        ' ' :: 'b' :: '/' :: rest.toList := by
    have hpath : (front ++ " b/" ++ rest).toList = front.toList ++
        ' ' :: 'b' :: '/' :: rest.toList := by
      rw [String.toList_append, String.toList_append]
      exact List.append_assoc front.toList " b/".toList rest.toList
    rw [plainHeader_eq, List.append_assoc _ front.toList, ← hpath]
  have hquote : rest.toList.getLast? ≠ some '"' := by
    intro hend
    have hmem : '"' ∈ (front ++ " b/" ++ rest).toList := by
      rw [String.toList_append]
      exact List.mem_append_right _ (List.mem_of_getLast? hend)
    exact h.noQuote hmem
  rw [filePath?, hsplit, headerPath?_mark _ hlast hquote, someUnlessEmpty]
  by_cases hrest : rest = ""
  · simp [hrest]
  · simp [hrest]

/-! ## Blocks -/

/-- A file header with a path on both of its sides, and the text below it. -/
structure Block where
  form : HeaderForm
  path : String
  body : String
  deriving DecidableEq, Repr

namespace Block

def text (b : Block) : String := b.form.text b.path ++ "\n" ++ b.body

/-- A block whose header keeps its path, with no other file header below. -/
structure Sound (b : Block) : Prop where
  path : Nameable b.path
  keeps : b.form.Keeps b.path
  body : ∀ line ∈ trimmedPieces b.body.toList, isFileHeader line = false

/-- Whether the last line of a block is ended. -/
def Ended (b : Block) : Prop := b.body = "" ∨ ∃ front, b.body = front ++ "\n"

end Block

/-- The lines of a text that begins with a file header. -/
theorem Nameable.textLines_header {path : String} (h : Nameable path) (form : HeaderForm)
    (body : String) :
    textLines (form.text path ++ "\n" ++ body).toList =
      form.line path.toList :: dropFinalEmpty (trimmedPieces body.toList) := by
  have hfeed : "\n".toList = ['\n'] := rfl
  have htext : (form.text path ++ "\n" ++ body).toList = form.line path.toList ++
      '\n' :: body.toList := by
    simp only [String.toList_append, HeaderForm.toList_text, hfeed, List.append_assoc,
      List.cons_append, List.nil_append]
  have hdrop : (form.line path.toList ++ '\n' :: body.toList).dropWhile (· == '\ufeff') =
      form.line path.toList ++ '\n' :: body.toList := by
    rcases form.exists_line_eq path.toList with ⟨rest, hrest⟩
    rw [hrest]
    rfl
  have hline : trimmedPieces (form.line path.toList) = [form.line path.toList] := by
    simpa [LineEnd.returns] using trimmedPieces_line .lf (h.fits_line form)
  rw [htext, textLines_eq, hdrop, trimmedPieces_append, hline,
    dropFinalEmpty_append _ (trimmedPieces_ne_nil body.toList)]
  rfl

/-- Lines without a file header add no path. -/
theorem ReadState.paths_after_of_not_fileHeader {s : ReadState} {lines : List (List Char)}
    (h : ∀ line ∈ lines, isFileHeader line = false) :
    (s.after lines).files.map (·.path) = s.files.map (·.path) := by
  induction lines generalizing s with
  | nil =>
    rfl
  | cons line lines ih =>
    have hfile : isFileHeader line = false := h line List.mem_cons_self
    have hrest : ∀ other ∈ lines, isFileHeader other = false := fun other hother =>
      h other (List.mem_cons_of_mem line hother)
    rw [after_cons, ih hrest, next_files]
    -- the header of a hunk puts the open hunk away, any other line may be noted in its file
    cases hboundary : isBoundary line with
    | true =>
      rw [s.nextFiles_of_hunkMark hfile (isHunkMark_of_boundary hboundary hfile), s.paths_flush]
    | false =>
      rw [s.nextFiles_of_body hboundary]
      split
      · exact paths_updateFile (record_path _)
      · rfl

/-- At the start of a diff a file header begins the file of its path, if it has one. -/
theorem ReadState.next_empty_of_fileHeader {line : List Char} (h : isFileHeader line = true) :
    ReadState.next {} line =
      { files := (filePath? line).toList.map fun path => { path := path }
        focus := (filePath? line).map fun path => { path := path } } := by
  rw [next, nextFiles_of_fileHeader _ h, nextFocus_of_fileHeader _ h]
  cases filePath? line <;> rfl

/-- A file header alone is read as a file without hunks, or as none. -/
theorem ofLines_fileHeader {line : List Char} (h : isFileHeader line = true) :
    ofLines [line] = .ok { files := (filePath? line).toList.map fun path => { path := path } } := by
  have hrefusal : refusal? line = none := by
    simp [refusal?, h]
  rw [ofLines_eq_ok_iff, ReadState.after_cons, ReadState.next_empty_of_fileHeader h]
  refine ⟨by simp [refusalIn?, hrefusal], ?_⟩
  cases filePath? line <;> rfl

/-- A diff that is one file header has the file that the header names, or none. -/
theorem Nameable.parse_line {path : String} (h : Nameable path) (form : HeaderForm) :
    parse (form.text path ++ "\n") =
      .ok { files := (filePath? (form.line path.toList)).toList.map fun path =>
        { path := path } } := by
  have hlines := h.textLines_header form ""
  rw [String.append_empty] at hlines
  rw [parse, hlines]
  exact ofLines_fileHeader (form.isFileHeader_line path.toList)

/-- A block that is read has one file, under the path of its header. -/
theorem Block.Sound.paths_of_parse {b : Block} (hb : b.Sound) {d : Diff}
    (h : parse b.text = .ok d) : d.paths = [b.path] := by
  rw [parse, text, hb.path.textLines_header] at h
  rcases ofLines_eq_ok_iff.1 h with ⟨-, rfl⟩
  have hbody : ∀ line ∈ dropFinalEmpty (trimmedPieces b.body.toList),
      isFileHeader line = false := by
    intro line hline
    rw [dropFinalEmpty] at hline
    split at hline
    · exact hb.body line (List.mem_of_mem_dropLast hline)
    · exact hb.body line hline
  rw [paths, ReadState.paths_flush, ReadState.after_cons,
    ReadState.paths_after_of_not_fileHeader hbody,
    ReadState.next_empty_of_fileHeader (b.form.isFileHeader_line b.path.toList),
    hb.path.filePath?_line hb.keeps]
  rfl

/-- A block begins with a file header, so with its first words. -/
theorem Block.exists_text_eq (b : Block) : ∃ rest, b.text = "diff --git" ++ rest := by
  rcases b.form.exists_line_eq b.path.toList with ⟨rest, hrest⟩
  refine ⟨String.ofList rest ++ "\n" ++ b.body, ?_⟩
  apply String.toList_injective
  simp only [text, String.toList_append, HeaderForm.toList_text, hrest, String.toList_ofList,
    List.append_assoc]

/-- A block that is ended ends with a line feed. -/
theorem Block.Ended.ends_text {b : Block} (hb : b.Ended) : ∃ front, b.text = front ++ "\n" := by
  rcases hb with hbody | ⟨front, hbody⟩
  · exact ⟨b.form.text b.path, by rw [text, hbody, String.append_empty]⟩
  · exact ⟨b.form.text b.path ++ "\n" ++ front, by rw [text, hbody, ← String.append_assoc]⟩

/-- Two blocks for different paths are read as they are read alone. -/
theorem Block.Sound.parse_append {a b : Block} (ha : a.Sound) (hb : b.Sound) (hended : a.Ended)
    (hne : a.path ≠ b.path) :
    parse (a.text ++ b.text) = do
      let x ← parse a.text
      let y ← parse b.text
      return { files := x.files ++ y.files } := by
  rcases b.exists_text_eq with ⟨rest, hrest⟩
  rw [hrest, Diff.parse_append (.inr hended.ends_text) rest, ← hrest]
  cases hx : parse a.text with
  | error e =>
    rfl
  | ok x =>
    cases hy : parse b.text with
    | error e =>
      rfl
    | ok y =>
      -- each text has one path, so no file of the second continues one of the first
      have hdisjoint : ∀ f ∈ x.files, f.path ∉ y.files.map (·.path) := by
        intro f hf hmem
        have hx' : f.path ∈ x.paths := List.mem_map_of_mem hf
        have hy' : f.path ∈ y.paths := hmem
        rw [ha.paths_of_parse hx, List.mem_singleton] at hx'
        rw [hb.paths_of_parse hy, List.mem_singleton] at hy'
        exact hne (hx'.symm.trans hy')
      have hmerge : x.merge y = { files := x.files ++ y.files } := by
        rw [merge, mergeFiles_of_disjoint hdisjoint]
      exact congrArg Except.ok hmerge

/-! ## Recovering the path -/

/-- The mark of the new side inside of two paths: both plain headers name what stands behind it, so
that the blocks below them become one file. -/
theorem parse_plainHeader_marked :
    Nameable "x b/y" ∧ Nameable "z b/y" ∧
      parse (HeaderForm.plain.text "x b/y" ++ "\n") = .ok { files := [{ path := "y" }] } ∧
      parse (HeaderForm.plain.text "x b/y" ++ "\n" ++ (HeaderForm.plain.text "z b/y" ++ "\n")) =
        .ok { files := [{ path := "y" }] } := by
  refine ⟨by decide, by decide, by rfl, by rfl⟩

/-- A header alone is read as one file under its path, unless it is plain and the path holds the
mark of the new side: then it is cut at the last mark. Blocks below headers that keep their paths
are not merged. -/
theorem parse_fileHeader {path : String} (h : Nameable path) :
    (∀ form : HeaderForm, form.Keeps path →
      parse (form.text path ++ "\n") = .ok { files := [{ path := path }] }) ∧
    (∀ front rest, path = front ++ " b/" ++ rest → ¬ " b/".toList <:+: rest.toList →
      parse (HeaderForm.plain.text path ++ "\n") =
        .ok { files := if rest = "" then [] else [{ path := rest }] }) ∧
    ∀ a b : Block, a.path = path → a.Sound → b.Sound → a.Ended → path ≠ b.path →
      (∀ x, parse a.text = .ok x → x.paths = [path]) ∧
      (∀ y, parse b.text = .ok y → y.paths = [b.path]) ∧
      parse (a.text ++ b.text) = do
        let x ← parse a.text
        let y ← parse b.text
        return { files := x.files ++ y.files } := by
  refine ⟨?_, ?_, ?_⟩
  · intro form hkeeps
    rw [h.parse_line form, h.filePath?_line hkeeps]
    rfl
  · rintro front rest rfl hlast
    have hpath : filePath? (HeaderForm.plain.line (front ++ " b/" ++ rest).toList) =
        if rest = "" then none else some rest := h.filePath?_marked hlast
    rw [h.parse_line .plain, hpath]
    by_cases hrest : rest = ""
    · simp [hrest]
    · simp [hrest]
  · rintro a b rfl ha hb hended hne
    exact ⟨fun x => ha.paths_of_parse, fun y => hb.paths_of_parse, ha.parse_append hb hended hne⟩

/-- A path with marks of both sides inside, in quotes and cut at its last mark, and two blocks that
differ in no more than their paths. -/
theorem parse_fileHeader_marks :
    parse (HeaderForm.quoted.text "b/a b/ a/b" ++ "\n") =
      .ok { files := [{ path := "b/a b/ a/b" }] } ∧
    parse (HeaderForm.plain.text "b/a b/ a/b" ++ "\n") = .ok { files := [{ path := " a/b" }] } ∧
    parse (Block.text ⟨.quoted, "b/a b/ a/b", "@@ -1 +1 @@\n-x\n"⟩ ++
      Block.text ⟨.plain, " a/b", "@@ bad"⟩) = do
      let x ← parse (Block.text ⟨.quoted, "b/a b/ a/b", "@@ -1 +1 @@\n-x\n"⟩)
      let y ← parse (Block.text ⟨.plain, " a/b", "@@ bad"⟩)
      return { files := x.files ++ y.files } := by
  have hpath : Nameable "b/a b/ a/b" := by decide
  have hplain : Nameable " a/b" := by decide
  rcases parse_fileHeader hpath with ⟨hkept, hcut, hblocks⟩
  refine ⟨hkept .quoted trivial, hcut "b/a" " a/b" rfl (by decide), ?_⟩
  have hbody : ∀ line ∈ trimmedPieces "@@ -1 +1 @@\n-x\n".toList,
      isFileHeader line = false := by decide
  have hbad : ∀ line ∈ trimmedPieces "@@ bad".toList, isFileHeader line = false := by decide
  exact (hblocks ⟨.quoted, "b/a b/ a/b", "@@ -1 +1 @@\n-x\n"⟩ ⟨.plain, " a/b", "@@ bad"⟩ rfl
    ⟨hpath, trivial, hbody⟩ ⟨hplain, by decide, hbad⟩ (.inr ⟨"@@ -1 +1 @@\n-x", rfl⟩)
      (by decide)).2.2

end Diff
end PatchReview
