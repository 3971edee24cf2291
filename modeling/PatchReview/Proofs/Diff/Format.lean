import PatchReview.Proofs.Diff.Lines
import PatchReview.Proofs.Diff.Run

/-!
# The written form of a diff

A relation between the files of a diff and the texts that they may be written as: a file header,
what happens to the file, other lines that a writer adds there, and the hunks. A count of one may be
left out, an empty line of context may lack its blank, a note behind a backslash may stand between
the lines of a hunk, every line has a line end of its own, and byte order marks may stand in front.
-/

namespace PatchReview
namespace Diff

/-! ## What can be written -/

/-- A path that a file header without quotes can name. -/
@[mk_iff]
structure PlainPath (path : String) : Prop where
  ne_empty : path ≠ ""
  noMark : ¬ " b/".toList <:+: path.toList
  noQuote : '"' ∉ path.toList
  fits : FitsLine path.toList

instance (path : String) : Decidable (PlainPath path) :=
  decidable_of_iff _ (plainPath_iff path).symm

/-- A header whose numbers are within the limit and whose heading stands on its line. -/
@[mk_iff]
structure Header.Writable (h : Header) : Prop where
  oldStart : h.oldStart < Decimal.numberLimit
  oldCount : h.oldCount < Decimal.numberLimit
  newStart : h.newStart < Decimal.numberLimit
  newCount : h.newCount < Decimal.numberLimit
  heading_ne_empty : h.heading ≠ some ""
  heading_fits : ∀ s ∈ h.heading, FitsLine s.toList

instance (h : Header) : Decidable h.Writable :=
  decidable_of_iff _ h.writable_iff.symm

/-- A hunk whose header declares just the lines that it has. -/
@[mk_iff]
structure Hunk.Writable (h : Hunk) : Prop where
  header : h.header.Writable
  oldCount : h.header.oldCount = h.lines.countP Line.inOld
  newCount : h.header.newCount = h.lines.countP Line.inNew
  content : ∀ line ∈ h.lines, FitsLine line.content.toList

instance (h : Hunk) : Decidable h.Writable :=
  decidable_of_iff _ h.writable_iff.symm

/-- A file whose paths and hunks can be written. -/
@[mk_iff]
structure File.Writable (f : File) : Prop where
  path : PlainPath f.path
  oldPath_fits : ∀ old ∈ f.oldPath, FitsLine old.toList
  hunks : ∀ h ∈ f.hunks, h.Writable

instance (f : File) : Decidable f.Writable :=
  decidable_of_iff _ f.writable_iff.symm

/-! ## Hunks -/

def LineKind.marker : LineKind → Char
  | .addition => '+'
  | .deletion => '-'
  | .context => ' '

/-- A start and a count; a count of one may be left out. -/
inductive RangeWritten (start : Nat) : Nat → List Char → Prop where
  | full (count : Nat) :
      RangeWritten start count (Nat.toDigits 10 start ++ ',' :: Nat.toDigits 10 count)
  | single : RangeWritten start 1 (Nat.toDigits 10 start)

/-- What stands behind the second mark of a hunk header. -/
def headingText : Option String → List Char
  | none => []
  | some s => ' ' :: s.toList

/-- A hunk header. -/
inductive HeaderWritten (h : Header) : List Char → Prop where
  | mk {old new : List Char} :
      RangeWritten h.oldStart h.oldCount old → RangeWritten h.newStart h.newCount new →
      HeaderWritten h ("@@ -".toList ++ old ++ " +".toList ++ new ++ " @@".toList ++
        headingText h.heading)

/-- A line behind its marker; an empty line of context may be written without it. -/
inductive LineWritten : Line → List Char → Prop where
  | marked (line : Line) : LineWritten line (line.kind.marker :: line.content.toList)
  | bare : LineWritten ⟨.context, ""⟩ []

/-- The lines of a hunk, with notes between them. -/
inductive BodyWritten : List Line → List (List Char) → Prop where
  | nil : BodyWritten [] []
  | line {line : Line} {lines : List Line} {text : List Char} {texts : List (List Char)} :
      LineWritten line text → BodyWritten lines texts → BodyWritten (line :: lines) (text :: texts)
  | note {lines : List Line} {texts : List (List Char)} (s : List Char) :
      FitsLine s → BodyWritten lines texts → BodyWritten lines (('\\' :: s) :: texts)

/-- Hunks one below the other. -/
inductive HunksWritten : List Hunk → List (List Char) → Prop where
  | nil : HunksWritten [] []
  | cons {hunk : Hunk} {hunks : List Hunk} {header : List Char} {body rest : List (List Char)} :
      HeaderWritten hunk.header header → BodyWritten hunk.lines body → HunksWritten hunks rest →
      HunksWritten (hunk :: hunks) (header :: (body ++ rest))

/-! ## Files -/

/-- What happens to a file, with the path that it comes from if it comes from another. -/
inductive StatusWritten : Status → Option String → List (List Char) → Prop where
  | modified : StatusWritten .modified none []
  | added {mode : List Char} :
      FitsLine mode → StatusWritten .added none ["new file mode".toList ++ mode]
  | deleted {mode : List Char} :
      FitsLine mode → StatusWritten .deleted none ["deleted file mode".toList ++ mode]
  | renamed (old : String) :
      StatusWritten .renamed (some old) ["rename from ".toList ++ old.toList]
  | copied (old : String) :
      StatusWritten .copied (some old) ["copy from ".toList ++ old.toList]

/-- How the lines begin that a writer may add above the hunks of a file. -/
def idleMarks : List String :=
  ["similarity", "old mode", "new mode", "rename to", "copy to", "index", "---", "+++"]

/-- A line above the hunks that says nothing about the file that its other lines do not say. -/
@[mk_iff]
structure IsIdle (line : List Char) : Prop where
  begins : ∃ mark ∈ idleMarks, mark.toList <+: line
  fits : FitsLine line

instance (line : List Char) : Decidable (IsIdle line) :=
  decidable_of_iff _ (isIdle_iff line).symm

/-- The first line of a file. -/
def fileHeader (f : File) : List Char :=
  "diff --git a/".toList ++ (f.oldPath.getD f.path).toList ++ " b/".toList ++ f.path.toList

/-- A file: its header, what happens to it among idle lines, and its hunks. -/
inductive FileWritten (f : File) : List (List Char) → Prop where
  | mk {before status after hunks : List (List Char)} :
      (∀ line ∈ before, IsIdle line) → StatusWritten f.status f.oldPath status →
      (∀ line ∈ after, IsIdle line) → HunksWritten f.hunks hunks →
      FileWritten f (fileHeader f :: (before ++ status ++ after ++ hunks))

/-- Files one below the other. -/
inductive FilesWritten : List File → List (List Char) → Prop where
  | nil : FilesWritten [] []
  | cons {f : File} {files : List File} {lines rest : List (List Char)} :
      FileWritten f lines → FilesWritten files rest → FilesWritten (f :: files) (lines ++ rest)

/-- A text of some files, perhaps behind byte order marks. -/
inductive Written (files : List File) (text : String) : Prop where
  | mk (marks : Nat) {lines : List (List Char)} {body : List Char} :
      FilesWritten files lines → Holds body lines →
      text.toList = List.replicate marks '\ufeff' ++ body → Written files text

/-! ## Written lines fit -/

/-- A text without line ends is one line. -/
theorem FitsLine.of_forall {s : List Char} (h : ∀ c ∈ s, c ≠ '\n' ∧ c ≠ '\r') : FitsLine s where
  noFeed hmem := (h _ hmem).1 rfl
  noReturn hlast := (h _ (List.mem_of_getLast? hlast)).2 rfl

/-- Two parts of a line make one. -/
theorem FitsLine.append {s t : List Char} (hs : FitsLine s) (ht : FitsLine t) :
    FitsLine (s ++ t) where
  noFeed hmem := by
    rcases List.mem_append.1 hmem with h | h
    · exact hs.noFeed h
    · exact ht.noFeed h
  noReturn hlast := by
    rw [List.getLast?_append] at hlast
    cases h : t.getLast? with
    | none =>
      rw [h, Option.none_or] at hlast
      exact hs.noReturn hlast
    | some c =>
      rw [h, Option.some_or] at hlast
      exact ht.noReturn (h.trans hlast)

/-- A character that ends no line may stand in front. -/
theorem FitsLine.cons {c : Char} {s : List Char} (hc : c ≠ '\n' ∧ c ≠ '\r') (hs : FitsLine s) :
    FitsLine (c :: s) := by
  have hsingle : FitsLine [c] := by
    apply FitsLine.of_forall
    intro x hx
    obtain rfl : x = c := by simpa using hx
    exact hc
  exact hsingle.append hs

theorem fitsLine_toDigits (n : Nat) : FitsLine (Nat.toDigits 10 n) := by
  apply FitsLine.of_forall
  intro c hc
  have hdigit : c.isDigit = true := Nat.isDigit_of_mem_toDigits (by decide) (by decide) hc
  constructor
  · rintro rfl
    exact absurd hdigit (by decide)
  · rintro rfl
    exact absurd hdigit (by decide)

/-- A range is written within a line. -/
theorem RangeWritten.fits {start count : Nat} {text : List Char}
    (h : RangeWritten start count text) : FitsLine text := by
  cases h with
  | full =>
    exact (fitsLine_toDigits start).append (.cons (by decide) (fitsLine_toDigits count))
  | single =>
    exact fitsLine_toDigits start

/-- So is a hunk header whose heading has no line end. -/
theorem HeaderWritten.fits {h : Header} {line : List Char} (hw : HeaderWritten h line)
    (hh : h.Writable) : FitsLine line := by
  rcases hw with ⟨hold, hnew⟩
  have hheading : FitsLine (headingText h.heading) := by
    cases heq : h.heading with
    | none =>
      exact .of_forall (by simp [headingText])
    | some s =>
      exact .cons (by decide) (hh.heading_fits s heq)
  have hopen : FitsLine "@@ -".toList := by decide
  have hplus : FitsLine " +".toList := by decide
  have hclose : FitsLine " @@".toList := by decide
  exact ((((hopen.append hold.fits).append hplus).append hnew.fits).append hclose).append hheading

/-- A body is written as lines if its contents have no line ends. -/
theorem BodyWritten.fits {lines : List Line} {texts : List (List Char)}
    (h : BodyWritten lines texts) (hlines : ∀ line ∈ lines, FitsLine line.content.toList) :
    ∀ text ∈ texts, FitsLine text := by
  induction h with
  | nil =>
    simp
  | @line line lines text texts hline _ ih =>
    have htext : FitsLine text := by
      cases hline with
      | marked =>
        have hmarker : line.kind.marker ≠ '\n' ∧ line.kind.marker ≠ '\r' := by
          cases line.kind <;> decide
        exact .cons hmarker (hlines line (by simp))
      | bare =>
        exact .of_forall (by simp)
    have hrest := ih fun other hother => hlines other (by simp [hother])
    simpa [htext] using hrest
  | note s hs _ ih =>
    have hnote : FitsLine ('\\' :: s) := .cons (by decide) hs
    simpa [hnote] using ih hlines

/-- A line of some hunks is the header of one of them or stands in its body. -/
theorem HunksWritten.header_or_body {hunks : List Hunk} {lines : List (List Char)}
    (h : HunksWritten hunks lines) {line : List Char} (hline : line ∈ lines) :
    ∃ hunk ∈ hunks, HeaderWritten hunk.header line ∨
      ∃ body, BodyWritten hunk.lines body ∧ line ∈ body := by
  induction h with
  | nil =>
    cases hline
  | @cons hunk hunks header body rest hheader hbody _ ih =>
    rcases List.mem_cons.1 hline with rfl | hline
    · exact ⟨hunk, by simp, .inl hheader⟩
    · rcases List.mem_append.1 hline with hline | hline
      · exact ⟨hunk, by simp, .inr ⟨body, hbody, hline⟩⟩
      · rcases ih hline with ⟨other, hother, hcase⟩
        exact ⟨other, List.mem_cons_of_mem hunk hother, hcase⟩

/-- Hunks that can be written are written as lines. -/
theorem HunksWritten.fits {hunks : List Hunk} {lines : List (List Char)}
    (h : HunksWritten hunks lines) (hhunks : ∀ hunk ∈ hunks, hunk.Writable) :
    ∀ line ∈ lines, FitsLine line := by
  intro line hline
  rcases h.header_or_body hline with ⟨hunk, hhunk, hheader | ⟨body, hbody, hmem⟩⟩
  · exact hheader.fits (hhunks hunk hhunk).header
  · exact hbody.fits (hhunks hunk hhunk).content line hmem

/-- So is a status, if the old path has no line end. -/
theorem StatusWritten.fits {status : Status} {oldPath : Option String} {lines : List (List Char)}
    (h : StatusWritten status oldPath lines)
    (hold : ∀ old ∈ oldPath, FitsLine old.toList) : ∀ line ∈ lines, FitsLine line := by
  have hnew : FitsLine "new file mode".toList := by decide
  have hdeleted : FitsLine "deleted file mode".toList := by decide
  have hrename : FitsLine "rename from ".toList := by decide
  have hcopy : FitsLine "copy from ".toList := by decide
  cases h with
  | modified =>
    simp
  | added hmode =>
    simpa using hnew.append hmode
  | deleted hmode =>
    simpa using hdeleted.append hmode
  | renamed old =>
    simpa using hrename.append (hold old rfl)
  | copied old =>
    simpa using hcopy.append (hold old rfl)

/-- The header of a file that can be written is one line. -/
theorem File.Writable.fileHeader_fits {f : File} (hf : f.Writable) : FitsLine (fileHeader f) := by
  have hold : FitsLine (f.oldPath.getD f.path).toList := by
    cases h : f.oldPath with
    | none =>
      exact hf.path.fits
    | some old =>
      exact hf.oldPath_fits old h
  have hopen : FitsLine "diff --git a/".toList := by decide
  have hmark : FitsLine " b/".toList := by decide
  exact ((hopen.append hold).append hmark).append hf.path.fits

/-- A file that can be written is written as lines. -/
theorem FileWritten.fits {f : File} {lines : List (List Char)} (h : FileWritten f lines)
    (hf : f.Writable) : ∀ line ∈ lines, FitsLine line := by
  rcases h with ⟨hbefore, hstatus, hafter, hhunks⟩
  intro line hline
  simp only [List.mem_cons, List.mem_append] at hline
  rcases hline with rfl | ((hline | hline) | hline) | hline
  · exact hf.fileHeader_fits
  · exact (hbefore line hline).fits
  · exact hstatus.fits hf.oldPath_fits line hline
  · exact (hafter line hline).fits
  · exact hhunks.fits hf.hunks line hline

/-- So are several. -/
theorem FilesWritten.fits {files : List File} {lines : List (List Char)}
    (h : FilesWritten files lines) (hfiles : ∀ f ∈ files, f.Writable) :
    ∀ line ∈ lines, FitsLine line := by
  induction h with
  | nil =>
    simp
  | @cons f files lines rest hfile _ ih =>
    have hrest := ih fun other hother => hfiles other (by simp [hother])
    intro line hline
    rcases List.mem_append.1 hline with hline | hline
    · exact hfile.fits (hfiles f (by simp)) line hline
    · exact hrest line hline

end Diff
end PatchReview
