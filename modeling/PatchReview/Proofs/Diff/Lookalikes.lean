import PatchReview.Proofs.Diff.Normal

/-!
# Lines that look like the names of files

A removed line whose content begins with `--` reads like the line with the old name of a file, and
an added line whose content begins with `++` like the one with the new name. Such a line is content
of a hunk just while the hunk expects lines of the old file or of the new one: room on one side is
enough for both kinds. Everywhere else it is passed over, and reading goes on as if it was not
there.
-/

namespace PatchReview
namespace Diff

/-- Whether a line begins like the name of a file. -/
def looksLikeName (line : List Char) : Bool :=
  Text.startsWith "---" line || Text.startsWith "+++" line

/-- Whether a line of a hunk reads, behind its marker, like the name of a file. -/
def Line.LooksLikeName (line : Line) : Prop :=
  line.kind = .deletion ∧ Text.startsWith "--" line.content.toList = true ∨
    line.kind = .addition ∧ Text.startsWith "++" line.content.toList = true

/-- A hunk that is open below some lines, and what it has taken of them: it is opened by its header,
and stays open up to the next header of a hunk or of a file. -/
inductive OpenBelow : List (List Char) → Header → List Line → Prop where
  | opened {above : List (List Char)} {line : List Char} {header : Header} :
      (owner? above).isSome → hunkHeader? line = some header → OpenBelow (above ++ [line]) header []
  | read {above : List (List Char)} {header : Header} {taken : List Line} {line : List Char} :
      OpenBelow above header taken → isBoundary line = false →
        OpenBelow (above ++ [line]) header (header.take taken line)

/-! ## Content -/

theorem Line.LooksLikeName.text {line : Line} (h : line.LooksLikeName) :
    looksLikeName line.text = true := by
  rcases line with ⟨kind, content⟩
  rcases h with ⟨hkind, hmarks⟩ | ⟨hkind, hmarks⟩
  · obtain rfl : kind = .deletion := hkind
    rw [looksLikeName, Bool.or_eq_true]
    exact .inl hmarks
  · obtain rfl : kind = .addition := hkind
    rw [looksLikeName, Bool.or_eq_true]
    exact .inr hmarks

/-- A line that looks like a name is passed over among the extended headers. -/
theorem ofLine?_of_looksLikeName {line : List Char} (h : looksLikeName line = true) :
    ExtendedHeader.ofLine? line = some .ignored := by
  rw [looksLikeName, Bool.or_eq_true, Text.startsWith_iff, Text.startsWith_iff] at h
  rcases h with ⟨rest, rfl⟩ | ⟨rest, rfl⟩ <;> rfl

/-- It begins neither a file nor a hunk. -/
theorem not_boundary_of_looksLikeName {line : List Char} (h : looksLikeName line = true) :
    isBoundary line = false := by
  rw [looksLikeName, Bool.or_eq_true, Text.startsWith_iff, Text.startsWith_iff] at h
  rcases h with ⟨rest, rfl⟩ | ⟨rest, rfl⟩ <;> rfl

/-- Behind the lines that a header declares, a line that looks like a name is passed over. -/
theorem Header.passesOver_of_looksLikeName {h : Header} {taken : List Line} {line : List Char}
    (hused : h.usedUp taken = true) (hline : looksLikeName line = true) :
    h.passesOver taken line = true := by
  have hmarks : extendedMarks.any (Text.startsWith · line) = true := by
    rw [← isSome_ofLine?_eq, ofLine?_of_looksLikeName hline]
    rfl
  rw [passesOver, hused, hmarks]
  simp

/-- Of lines that are not passed over, each was read behind those in front of it. -/
theorem Header.Replays.not_passesOver {h : Header} {taken before after : List Line} {line : Line}
    (hlines : h.Replays taken (before ++ line :: after)) :
    h.passesOver (taken ++ before) line.text = false := by
  induction before generalizing taken with
  | nil =>
    rw [List.append_nil]
    exact hlines.1
  | cons first before ih =>
    have hrest := ih hlines.2
    rwa [List.append_assoc] at hrest

/-! ## The open hunk -/

/-- The open hunk of a run is the one that is open below the lines that were read. -/
theorem openBelow_of_focusAfter {above : List (List Char)} {focus : Focus} {h : OpenHunk}
    (hfocus : focusAfter none above = some focus) (hhunk : focus.hunk = some h) :
    OpenBelow above h.header h.lines.toList ∧ h.Counted := by
  induction above using List.reverseRecOn generalizing focus h with
  | nil =>
    cases hfocus
  | append_singleton above line ih =>
    rw [focusAfter_concat] at hfocus
    -- the last line decides: a boundary opens or closes the hunk, another is read by it
    cases hboundary : isBoundary line with
    | true =>
      cases hfile : isFileHeader line with
      | true =>
        rw [nextFocus_of_fileHeader _ hfile] at hfocus
        rcases Option.map_eq_some_iff.1 hfocus with ⟨path, -, rfl⟩
        cases hhunk
      | false =>
        rw [nextFocus_of_hunkMark _ hfile (isHunkMark_of_boundary hboundary hfile)] at hfocus
        rcases Option.map_eq_some_iff.1 hfocus with ⟨before, hbefore, rfl⟩
        rcases Option.map_eq_some_iff.1 hhunk with ⟨header, hheader, rfl⟩
        -- a hunk is only opened below a file
        have howner : (owner? above).isSome := by
          rw [← focusPath_focusAfter, hbefore]
          rfl
        exact ⟨.opened howner hheader, OpenHunk.counted_ofHeader header⟩
    | false =>
      rw [nextFocus_of_body _ hboundary] at hfocus
      rcases Option.map_eq_some_iff.1 hfocus with ⟨before, hbefore, rfl⟩
      rcases Option.map_eq_some_iff.1 hhunk with ⟨old, hold, rfl⟩
      rcases ih hbefore hold with ⟨hopen, hcounted⟩
      rw [OpenHunk.read_header, hcounted.read_lines]
      exact ⟨.read hopen hboundary, hcounted.read line⟩

/-- A hunk that is open below some lines is the open one of the run over them. -/
theorem OpenBelow.focusAfter {above : List (List Char)} {header : Header} {taken : List Line}
    (hopen : OpenBelow above header taken) :
    ∃ path h, focusAfter none above = some { path := path, hunk := some h } ∧ h.Counted ∧
      h.header = header ∧ h.lines.toList = taken := by
  induction hopen with
  | @opened above line header howner hheader =>
    rw [← focusPath_focusAfter, focusPath, Option.isSome_map] at howner
    rcases Option.isSome_iff_exists.1 howner with ⟨focus, hfocus⟩
    -- a header of a hunk is no header of a file
    have hkind : isHunkMark line = true ∧ isFileHeader line = false := by
      rcases hunkHeader?_eq_some_iff.1 hheader with ⟨t, ht, -⟩
      exact isHunkMark_of_spells ht
    refine ⟨focus.path, .ofHeader header, ?_, OpenHunk.counted_ofHeader header, rfl, rfl⟩
    rw [focusAfter_concat, hfocus, nextFocus_of_hunkMark _ hkind.2 hkind.1, hheader]
    rfl
  | @read above header taken line _ hbody ih =>
    rcases ih with ⟨path, h, hfocus, hcounted, hheader, htaken⟩
    refine ⟨path, h.read line, ?_, hcounted.read line, ?_, ?_⟩
    · rw [focusAfter_concat, hfocus, nextFocus_of_body _ hbody]
      rfl
    · rw [OpenHunk.read_header, hheader]
    · rw [hcounted.read_lines, hheader, htaken]

/-! ## Names that are passed over -/

/-- Where no hunk expects more, a line that looks like a name changes nothing. -/
theorem ReadState.next_of_looksLikeName {s : ReadState} (hs : s.Valid) {line : List Char}
    (hline : looksLikeName line = true)
    (hused : ∀ focus h, s.focus = some focus → focus.hunk = some h →
      h.header.usedUp h.lines.toList = true) : s.next line = s := by
  have hbody : isBoundary line = false := not_boundary_of_looksLikeName hline
  rcases s with ⟨files, _ | ⟨path, hunk⟩⟩
  · exact next_eq_self _ rfl (isBoundary_eq_false_iff.1 hbody).1
  · -- the note on the file says nothing, and the hunk does not take the line
    have hnote : record (Focus.note? { path := path, hunk := hunk } line) = fun f => f := by
      rw [Focus.note?]
      split
      · rfl
      · rw [ofLine?_of_looksLikeName hline]
        rfl
    have hread : hunk.map (·.read line) = hunk := by
      cases hunk with
      | none =>
        rfl
      | some h =>
        have hcounted : h.Counted := hs.counted _ h rfl rfl
        have hpassed : h.header.passesOver h.lines.toList line = true :=
          Header.passesOver_of_looksLikeName (hused _ h rfl rfl) hline
        rw [Option.map_some, OpenHunk.read, hcounted.content?_eq, hpassed]
        rfl
    rw [next, nextFiles_of_body _ hbody, nextFocus_of_body _ hbody]
    simp only [hnote, updateFile_id, Option.map_some, Focus.read, hread]

/-- Lines are read as they are without one that looks like a name where no hunk expects more. -/
theorem ofLines_of_looksLikeName {above below : List (List Char)} {line : List Char}
    (hline : looksLikeName line = true)
    (hused : ∀ header taken, OpenBelow above header taken → header.usedUp taken = true) :
    ofLines (above ++ line :: below) = ofLines (above ++ below) := by
  have hvalid : (ReadState.after {} above).Valid := ReadState.valid_empty.after above
  have hfocus : (ReadState.after {} above).focus = focusAfter none above :=
    ReadState.after_focus {} above
  have hsame : (ReadState.after {} above).next line = ReadState.after {} above := by
    apply ReadState.next_of_looksLikeName hvalid hline
    intro focus h hat hhunk
    exact hused _ _ (openBelow_of_focusAfter (hfocus ▸ hat) hhunk).1
  have hrefusal : refusal? line = none := refusal?_of_body (not_boundary_of_looksLikeName hline)
  have hnext : nextFocus (focusAfter none above) line = focusAfter none above := by
    rw [← hfocus, ← ReadState.next_focus, hsame]
  have hnone : ((focusAfter none above).bind fun _ => refusal? line) = none := by
    simp [hrefusal]
  rw [ofLines_eq, ofLines_eq, refusalIn?_append, refusalIn?_append, ReadState.after_append,
    ReadState.after_append, ReadState.after_cons, hsame, refusalIn?, hnext, hnone, Option.none_or]

/-! ## Texts -/

/-- In a diff that was read, a line that looks like a name stands just where its hunk still expects
a line of the old file or of the new one; anywhere else in the text, such a line could as well be
left out. -/
theorem lookalikes_of_parse {text : String} {d : Diff} (h : parse text = .ok d) :
    (∀ f ∈ d.files, ∀ hunk ∈ f.hunks, ∀ before line after,
      hunk.lines = before ++ line :: after → line.LooksLikeName →
        before.countP Line.inOld < hunk.header.oldCount ∨
          before.countP Line.inNew < hunk.header.newCount) ∧
    ∀ above line below, textLines text.toList = above ++ line :: below → looksLikeName line = true →
      (∀ header taken, OpenBelow above header taken → header.usedUp taken = true) →
        ofLines (above ++ below) = .ok d := by
  constructor
  · intro f hf hunk hhunk before line after hlines hline
    have hreplays : hunk.header.Replays [] (before ++ line :: after) := by
      rw [← hlines]
      exact ((readable_of_parse h f hf).hunks hunk hhunk).replays
    have htaken : hunk.header.passesOver before line.text = false := hreplays.not_passesOver
    have hroom : hunk.header.usedUp before = false := by
      rw [← Bool.not_eq_true]
      intro hused
      rw [Header.passesOver_of_looksLikeName hused hline.text] at htaken
      cases htaken
    rw [Header.usedUp, Bool.and_eq_false_iff, decide_eq_false_iff_not, decide_eq_false_iff_not,
      not_le, not_le] at hroom
    exact hroom
  · intro above line below hlines hline hused
    rw [← ofLines_of_looksLikeName hline hused, ← hlines]
    exact h

/-- A removed line that looks like a name where only an added line is expected, and one that looks
like the other name behind all that is expected. -/
def swallowedLines : List (List Char) :=
  ["diff --git a/x b/x".toList, "@@ -1 +1 @@".toList, "-a".toList, "--- b".toList, "+c".toList]

def swallowedText : String := "diff --git a/x b/x\n@@ -1 +1 @@\n-a\n--- b\n+c\n+++ d\n"

def swallowedHunk : Hunk :=
  ⟨⟨1, 1, 1, 1, none⟩, [⟨.deletion, "a"⟩, ⟨.deletion, "-- b"⟩, ⟨.addition, "c"⟩]⟩

/-- The deletion that looks like a name is taken for content, since the new count has room. -/
theorem parse_swallowedText :
    parse swallowedText = .ok { files := [{ path := "x", hunks := [swallowedHunk] }] } := by
  rfl

theorem lookalikes_of_parse_swallowed :
    parse swallowedText = .ok { files := [{ path := "x", hunks := [swallowedHunk] }] } ∧
      ([⟨.deletion, "a"⟩].countP Line.inOld < swallowedHunk.header.oldCount ∨
        [⟨.deletion, "a"⟩].countP Line.inNew < swallowedHunk.header.newCount) ∧
      ofLines swallowedLines = .ok { files := [{ path := "x", hunks := [swallowedHunk] }] } := by
  rcases lookalikes_of_parse parse_swallowedText with ⟨hcontent, hpassed⟩
  refine ⟨parse_swallowedText, ?_, ?_⟩
  · exact hcontent _ List.mem_cons_self swallowedHunk List.mem_cons_self [⟨.deletion, "a"⟩]
      ⟨.deletion, "-- b"⟩
      [⟨.addition, "c"⟩] rfl (.inl ⟨rfl, by decide⟩)
  · have hused : ∀ header taken, OpenBelow swallowedLines header taken →
        header.usedUp taken = true := by
      intro header taken hopen
      rcases hopen.focusAfter with ⟨path, h, hfocus, -, rfl, rfl⟩
      have hrun : focusAfter none swallowedLines =
          some
            { path := "x"
              hunk := some ⟨swallowedHunk.header, swallowedHunk.lines.toArray, 0, 0⟩ } := by
        rfl
      rw [hrun, Option.some.injEq, Focus.mk.injEq, Option.some.injEq] at hfocus
      rw [← hfocus.2]
      decide
    have hlines : textLines swallowedText.toList = swallowedLines ++ "+++ d".toList :: [] := by
      rfl
    have hleft := hpassed _ _ _ hlines (by decide) hused
    rwa [List.append_nil] at hleft

end Diff
end PatchReview
