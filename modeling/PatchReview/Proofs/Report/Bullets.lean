import PatchReview.Proofs.Diff.Normal
import PatchReview.Proofs.Engine.Attribution
import PatchReview.Proofs.Report.Agreement

/-!
# The list for a reviewer, line by line

An item of the list has the message of its finding as it is, whatever it holds. So it goes over as
many lines as the message does, and a line of a message that looks like an item stands in the list
as one. There is a line for each finding just if no message goes over the end of a line; names of
files that are read from a text never do.
-/

namespace PatchReview

/-- The name of the file has no line feed, if it is known. -/
def Finding.FileOnLine (f : Finding) : Prop := ∀ path, f.file = some path → '\n' ∉ path.toList

/-- The texts of a finding that are told as they are: its message, and the name of the file if it is
known. -/
def Finding.told (f : Finding) : List Char := f.message.toList ++ (f.file.getD "").toList

namespace Report

/-- Whether a line starts like an item. -/
def startsItem (line : List Char) : Bool := Text.startsWith "- [" line

/-- What stands in front of the message in the item of a finding. -/
def itemMark (f : Finding) : List Char := ("- [" ++ capitalName f.severity ++ "] ").toList

/-- What stands behind the message: the place in parentheses, if there is anything to say of it. -/
def itemEnding (f : Finding) : List Char :=
  (if (placeText f).isEmpty then "" else " (" ++ placeText f ++ ")").toList

def itemLines (f : Finding) : List (List Char) := Text.splitAtChar '\n' (itemText f).toList

/-- The lines of the item of a finding. -/
structure IsItem (f : Finding) (lines : List (List Char)) : Prop where
  whole : Text.joinWith ['\n'] lines = itemMark f ++ f.message.toList ++ itemEnding f
  length_eq : lines.length = 1 + f.told.count '\n'
  starts : ∃ line, lines.head? = some line ∧ itemMark f <+: line
  ends : f.FileOnLine → ∃ line, lines.getLast? = some line ∧ itemEnding f <:+ line
  /-- A line that starts like an item is the first, or starts so in the message. -/
  countP_startsItem : f.FileOnLine →
    lines.countP startsItem = 1 + (Text.splitAtChar '\n' f.message.toList).tail.countP startsItem

/-- The lines of the items of some findings. -/
structure Bulleted (findings : List Finding) (lines : List (List Char)) : Prop where
  noFeed : ∀ line ∈ lines, '\n' ∉ line
  lines_eq : lines = findings.flatMap itemLines
  isItem : ∀ f ∈ findings, IsItem f (itemLines f)
  length_eq : lines.length = findings.length + (findings.flatMap Finding.told).count '\n'
  /-- There are as many lines as findings just if nothing that is told of them goes over the end of
  a line. -/
  length_eq_iff : lines.length = findings.length ↔
    ∀ f ∈ findings, '\n' ∉ f.message.toList ∧ f.FileOnLine
  /-- Then each line is an item. -/
  oneEach : (∀ f ∈ findings, '\n' ∉ f.message.toList ∧ f.FileOnLine) →
    lines = findings.map fun f => itemMark f ++ f.message.toList ++ itemEnding f
  countP_startsItem : (∀ f ∈ findings, f.FileOnLine) →
    lines.countP startsItem = findings.length +
      (findings.flatMap fun f => (Text.splitAtChar '\n' f.message.toList).tail).countP startsItem

/-! ## Items -/

section Items

variable {f : Finding}

/-- The place of a finding is told if its line can be written. -/
theorem location_of_writable (h : f.LineWritable) : f.location = .ok (placeText f) := by
  rw [Finding.location, Finding.lineText_of_writable h]
  rfl

/-- An item is its mark, the message and the place. -/
theorem toList_itemText (f : Finding) :
    (itemText f).toList = itemMark f ++ f.message.toList ++ itemEnding f := by
  simp only [itemText, itemMark, itemEnding, String.toList_append]

/-- The mark is on one line. -/
theorem noFeed_itemMark (f : Finding) : '\n' ∉ itemMark f := by
  rw [itemMark]
  cases f.severity <;> decide

/-- The number of a line has no line feed, so only the name of the file counts. -/
theorem count_placeText (f : Finding) :
    (placeText f).toList.count '\n' = (f.file.getD "").toList.count '\n' := by
  have hnumber (n : Int) : n.repr.toList.count '\n' = 0 := by
    rw [← Int.toString_eq_repr, List.count_eq_zero]
    exact Decimal.not_mem_toString_int (by decide) (by decide) n
  rw [placeText]
  cases f.file with
  | none =>
    cases f.line with
    | none => rfl
    | some n => simp [hnumber]
  | some path =>
    dsimp only [Option.getD_some]
    split
    · next hempty =>
      rw [String.isEmpty_iff.1 hempty]
      cases f.line with
      | none => rfl
      | some n => simp [hnumber]
    · cases f.line with
      | none => simp
      | some n => simp [hnumber]

/-- The place has the line feeds of its file. -/
theorem count_itemEnding (f : Finding) :
    (itemEnding f).count '\n' = (f.file.getD "").toList.count '\n' := by
  rw [itemEnding, ← count_placeText]
  split
  · next hempty =>
    rw [String.isEmpty_iff.1 hempty]
  · simp [String.toList_append]

/-- An item has the line feeds of what the finding tells, and no others. -/
theorem count_itemText (f : Finding) : (itemText f).toList.count '\n' = f.told.count '\n' := by
  rw [toList_itemText, List.count_append, List.count_append,
    List.count_eq_zero.2 (noFeed_itemMark f), count_itemEnding, Nat.zero_add, Finding.told,
    List.count_append]

/-- What is told is on one line if the message and the file are. -/
theorem noFeed_told_iff : '\n' ∉ f.told ↔ '\n' ∉ f.message.toList ∧ f.FileOnLine := by
  rw [Finding.told, List.mem_append, not_or, Finding.FileOnLine]
  cases f.file <;> simp

theorem noFeed_itemEnding (h : f.FileOnLine) : '\n' ∉ itemEnding f := by
  rw [← List.count_eq_zero, count_itemEnding, List.count_eq_zero]
  cases hfile : f.file with
  | none =>
    exact List.not_mem_nil
  | some path =>
    exact h path hfile

/-- No line starts like an item because of what stands behind it. -/
theorem startsItem_append_itemEnding (line : List Char) (f : Finding) :
    startsItem (line ++ itemEnding f) = startsItem line := by
  have hending : itemEnding f = [] ∨ ∃ rest, itemEnding f = ' ' :: '(' :: rest := by
    rw [itemEnding]
    split
    · exact .inl rfl
    · refine .inr ⟨(placeText f ++ ")").toList, ?_⟩
      rw [String.append_assoc, String.toList_append]
      rfl
  rcases hending with hnone | ⟨rest, hrest⟩
  · rw [hnone, List.append_nil]
  · -- a line that is shorter than the mark goes on with a blank and a parenthesis,
    -- which do not complete it
    rw [hrest, startsItem, startsItem, Text.startsWith, Text.startsWith]
    rcases line with _ | ⟨a, _ | ⟨b, _ | ⟨c, line⟩⟩⟩ <;> simp [Text.afterStart?]
    split_ifs <;> rfl

/-- A line with the mark starts an item. -/
theorem startsItem_itemMark_append (f : Finding) (rest : List Char) :
    startsItem (itemMark f ++ rest) = true := by
  rw [startsItem, Text.startsWith_iff, itemMark, String.append_assoc, String.toList_append,
    List.append_assoc]
  exact List.prefix_append _ _

/-- The mark stands in front of the first line of an item only. -/
theorem itemLines_eq_modifyHead (f : Finding) :
    itemLines f = (Text.splitAtChar '\n' (f.message.toList ++ itemEnding f)).modifyHead
      (itemMark f ++ ·) := by
  rw [itemLines, toList_itemText, List.append_assoc]
  cases hsplit : Text.splitAtChar '\n' (f.message.toList ++ itemEnding f) with
  | nil =>
    exact absurd hsplit (Text.splitAtChar_ne_nil _ _)
  | cons piece pieces =>
    exact Text.splitAtChar_append_of_not_mem (noFeed_itemMark f) hsplit

/-- An item goes over the lines of the message, with the mark in front of the first and the ending
behind the last. -/
theorem exists_itemLines_eq (h : f.FileOnLine) :
    ∃ pieces piece, Text.splitAtChar '\n' f.message.toList = pieces ++ [piece] ∧
      itemLines f = (pieces ++ [piece ++ itemEnding f]).modifyHead (itemMark f ++ ·) := by
  rcases List.eq_nil_or_concat (Text.splitAtChar '\n' f.message.toList) with
    hnone | ⟨pieces, piece, hsplit⟩
  · exact absurd hnone (Text.splitAtChar_ne_nil _ _)
  · rw [List.concat_eq_append] at hsplit
    refine ⟨pieces, piece, hsplit, ?_⟩
    rw [itemLines_eq_modifyHead, Text.splitAtChar_append_tail (noFeed_itemEnding h) hsplit]

/-- An item has its mark, its message and its place, line by line. -/
theorem isItem_itemLines (f : Finding) : IsItem f (itemLines f) where
  whole := by
    rw [itemLines, Text.joinWith_splitAtChar, toList_itemText]
  length_eq := by
    rw [itemLines, Text.length_splitAtChar, count_itemText, Nat.add_comm]
  starts := by
    rw [itemLines_eq_modifyHead]
    cases hsplit : Text.splitAtChar '\n' (f.message.toList ++ itemEnding f) with
    | nil =>
      exact absurd hsplit (Text.splitAtChar_ne_nil _ _)
    | cons piece pieces =>
      exact ⟨itemMark f ++ piece, rfl, List.prefix_append _ _⟩
  ends h := by
    rcases exists_itemLines_eq h with ⟨pieces, piece, -, hlines⟩
    rw [hlines]
    cases pieces with
    | nil =>
      refine ⟨itemMark f ++ (piece ++ itemEnding f), rfl, ?_⟩
      rw [← List.append_assoc]
      exact List.suffix_append _ _
    | cons first pieces =>
      refine ⟨piece ++ itemEnding f, ?_, List.suffix_append _ _⟩
      simp [List.getLast?_cons]
  countP_startsItem h := by
    rcases exists_itemLines_eq h with ⟨pieces, piece, hmessage, hlines⟩
    rw [hlines, hmessage]
    cases pieces with
    | nil =>
      -- the message is a single line, which has the mark and the ending
      simp [startsItem_itemMark_append]
    | cons first pieces =>
      simp [startsItem_itemMark_append, startsItem_append_itemEnding, List.countP_cons,
        Nat.add_comm]

/-- An item without a line feed is a line. -/
theorem itemLines_of_not_mem (hmessage : '\n' ∉ f.message.toList) (h : f.FileOnLine) :
    itemLines f = [itemMark f ++ f.message.toList ++ itemEnding f] := by
  rw [itemLines, toList_itemText]
  apply Text.splitAtChar_of_not_mem
  simp only [List.mem_append, not_or]
  exact ⟨⟨noFeed_itemMark f, hmessage⟩, noFeed_itemEnding h⟩

end Items

/-! ## The list -/

/-- There is one line for each finding, and one more for each line feed that is told. -/
theorem length_flatMap_itemLines (findings : List Finding) :
    (findings.flatMap itemLines).length = findings.length +
      (findings.flatMap Finding.told).count '\n' := by
  induction findings with
  | nil =>
    rfl
  | cons f findings ih =>
    have hitem := (isItem_itemLines f).length_eq
    rw [List.flatMap_cons, List.flatMap_cons, List.length_append, List.count_append,
      List.length_cons, ih, hitem]
    omega

/-- There are as many starts of items as findings, and those that messages forge behind their
line feeds. -/
theorem countP_flatMap_itemLines {findings : List Finding} (h : ∀ f ∈ findings, f.FileOnLine) :
    (findings.flatMap itemLines).countP startsItem = findings.length +
      (findings.flatMap fun f => (Text.splitAtChar '\n' f.message.toList).tail).countP
        startsItem := by
  induction findings with
  | nil =>
    rfl
  | cons f findings ih =>
    have hitem := (isItem_itemLines f).countP_startsItem (h f List.mem_cons_self)
    have hrest := ih fun g hg => h g (List.mem_cons_of_mem f hg)
    rw [List.flatMap_cons, List.flatMap_cons, List.countP_append, List.countP_append,
      List.length_cons, hrest, hitem]
    omega

/-- The lines of the items are the bullets of the findings. -/
theorem bulleted_flatMap (findings : List Finding) :
    Bulleted findings (findings.flatMap itemLines) where
  noFeed line hline := by
    rcases List.mem_flatMap.1 hline with ⟨f, -, hmem⟩
    exact Text.not_mem_of_mem_splitAtChar hmem
  lines_eq := rfl
  isItem f _ := isItem_itemLines f
  length_eq := length_flatMap_itemLines findings
  length_eq_iff := by
    have hnone : '\n' ∉ findings.flatMap Finding.told ↔ ∀ f ∈ findings, '\n' ∉ f.told := by
      simp
    rw [length_flatMap_itemLines, Nat.add_eq_left, List.count_eq_zero, hnone]
    exact forall₂_congr fun f _ => noFeed_told_iff
  oneEach h := by
    rw [← List.flatMap_singleton' (findings.map _), List.flatMap_map]
    exact List.flatMap_congr fun f hf => itemLines_of_not_mem (h f hf).1 (h f hf).2
  countP_startsItem := countP_flatMap_itemLines

end Report

/-! ## Diffs that were read -/

section Read

variable {text : String} {d : Diff} {skills : List Skill}

/-- What is found in a diff that was read from a text stands in files of it, whose names go over no
line. -/
theorem Engine.fileOnLine_of_parse (hread : Diff.parse text = .ok d) {f : Finding}
    (hf : f ∈ allFindings (skills.map (outcome d))) : f.FileOnLine := by
  rcases List.mem_flatMap.1 hf with ⟨r, hr, hmem⟩
  rcases List.mem_map.1 hr with ⟨skill, -, rfl⟩
  rcases (mem_findings_outcome.1 hmem).2 with ⟨rule, -, hfound⟩
  rcases (mem_ruleFindings_iff.1 hfound).line with ⟨_, _, _, _, file, hfile, hpath, _⟩
  intro path hknown
  cases hpath.symm.trans hknown
  exact (Diff.readable_of_parse hread file hfile).path.noFeed

/-- Of what skills find in a diff that was read, only a message can go over the end of its line. -/
theorem Report.Bulleted.length_eq_iff_of_parse {lines : List (List Char)}
    (hread : Diff.parse text = .ok d)
    (hlist : Bulleted (allFindings (skills.map (Engine.outcome d))) lines) :
    lines.length = (allFindings (skills.map (Engine.outcome d))).length ↔
      ∀ f ∈ allFindings (skills.map (Engine.outcome d)), '\n' ∉ f.message.toList := by
  rw [hlist.length_eq_iff]
  exact forall₂_congr fun f hf => and_iff_left (Engine.fileOnLine_of_parse hread hf)

end Read

namespace Report

/-! ## The text -/

/-- Texts with a line feed between neighbours and one at the end are their lines, each with one
behind it. -/
theorem intercalate_append_feed {texts : List (List Char)} (hsome : texts ≠ []) :
    ['\n'].intercalate texts ++ ['\n'] =
      (texts.flatMap (Text.splitAtChar '\n')).flatMap (· ++ ['\n']) := by
  rw [List.flatMap_assoc]
  simp only [Text.flatMap_splitAtChar]
  induction texts with
  | nil =>
    exact absurd rfl hsome
  | cons text texts ih =>
    cases texts with
    | nil =>
      simp
    | cons next texts =>
      rw [List.flatMap_cons, List.intercalate_cons_cons, List.append_assoc,
        ih (List.cons_ne_nil next texts)]

/-- The block is the header and the lines of the items, each with its line feed. -/
theorem toList_findingsBlock {findings : List Finding} (hfound : findings ≠ []) :
    (findingsHeader ++ String.intercalate "\n" (findings.map itemText) ++ "\n").toList =
      findingsHeader.toList ++ (findings.flatMap itemLines).flatMap (· ++ ['\n']) := by
  have hsome : (findings.map itemText).map String.toList ≠ [] := by
    simpa using hfound
  have hitems := intercalate_append_feed hsome
  rw [List.map_map, List.flatMap_map] at hitems
  rw [String.toList_append, String.toList_append, String.toList_intercalate, List.append_assoc,
    List.map_map]
  exact congrArg (findingsHeader.toList ++ ·) hitems

/-- The findings are refused as a list if the number of a line has too many digits. If all numbers
can be written, the list stands below the header, and its lines are those of the items of all
findings in order. -/
theorem findingsBlock_bulleted {results : List SkillResult} (hfound : allFindings results ≠ []) :
    ((∀ f ∈ allFindings results, f.LineWritable) → ∃ block lines,
      findingsBlock results = .ok block ∧
      block.toList = findingsHeader.toList ++ lines.flatMap (· ++ ['\n']) ∧
      Bulleted (allFindings results) lines ∧ ∀ f ∈ allFindings results,
        f.location = .ok (placeText f)) ∧
    ((¬ ∀ f ∈ allFindings results, f.LineWritable) →
      findingsBlock results = .error .tooLongToWrite) := by
  constructor
  · intro hlines
    have hbullets : (allFindings results).mapM bullet = .ok ((allFindings results).map itemText) :=
      mapM_ok fun f hf => bullet_of_writable (hlines f hf)
    have hsome : ((allFindings results).map itemText).isEmpty = false := by
      simpa using hfound
    refine ⟨_, _, ?_, toList_findingsBlock hfound, bulleted_flatMap _,
      fun f hf => location_of_writable (hlines f hf)⟩
    -- there is an item, so the header is there as well
    rw [findingsBlock, hbullets]
    show Except.ok (if ((allFindings results).map itemText).isEmpty = true then _ else _) = _
    rw [hsome]
    rfl
  · intro hlines
    exact map_eq_error_iff.1
      ((findingsBlock_written results).trans (linesWritten_of_not_writable hlines))

end Report

/-! ## Messages of several lines -/

/-- A skill with two messages that go over their lines: a line feed at the end, and a line like an
item. -/
def Skill.forging : Skill where
  name := "forging"
  version := "1"
  description := "d"
  triggers := [{ fileExtensions := some [".py"], pathContains := none }]
  rules := [
    { id := "A", severity := .info, message := "m\n", pattern := some "eval", check := none },
    { id := "B", severity := .info, message := "m\n- [Critical] n", pattern := some "eval",
      check := none }]
  prompts := none

def Skill.forgingText : String :=
"name: forging
version: 1
description: d
triggers:
- file_extension: .py
rules:
- id: A
  severity: info
  message: |
    m
  pattern: eval
- id: B
  severity: info
  message: |-
    m
    - [Critical] n
  pattern: eval
"

def Skill.forgingDisk : Disk where
  tree := .directory [("forging.yaml", .file (Text.encodeUtf8 forgingText))]
  workingDirectory := { root := "/", parts := [] }
  home := "/home"

set_option maxRecDepth 4000 in
theorem Skill.loadable_forging : forging.Loadable := by
  have htext : forgingText.toList = _ := String.toList_ofList
  have hparse : ((Yaml.parse schemaDepth forgingText.toList).toOption.bind fun value =>
      (ofValue value).toOption) =
      some forging := by
    rw [htext]
    decide +kernel
  have hread : forgingDisk.read { parts := ["forging.yaml"] } =
      .ok (Text.encodeUtf8 forgingText) := rfl
  have hskill := ofBytes_encodeUtf8 forgingText forging hparse (by decide +kernel)
    { parts := ["forging.yaml"] }
  have hload : load forgingDisk { parts := ["forging.yaml"] } =
      .ok ⟨{ parts := ["forging.yaml"] }, forging⟩ :=
    bind_eq_ok_iff.2 ⟨_, mapError_eq_ok_iff.2 hread, bind_eq_ok_iff.2 ⟨_, hskill, rfl⟩⟩
  exact .ofFile hload

namespace Report

theorem findings_forging : allFindings [Engine.outcome Command.evalDiff Skill.forging] =
    [{ ruleId := "A", message := "m\n", severity := .info, file := some "f.py", line := some 1 },
     { ruleId := "B", message := "m\n- [Critical] n", severity := .info, file := some "f.py",
       line := some 1 }] := by
  decide

/-- The skill can be loaded; its two findings stand on four lines, of which three start like
items. -/
theorem findingsBlock_bulleted_forging :
    Skill.forging.Loadable ∧
    (allFindings [Engine.outcome Command.evalDiff Skill.forging]).length = 2 ∧
    ∃ block, ∃ lines : List (List Char),
      findingsBlock [Engine.outcome Command.evalDiff Skill.forging] = .ok block ∧
      block.toList = findingsHeader.toList ++ lines.flatMap (· ++ ['\n']) ∧
      lines.length = 4 ∧ lines.countP startsItem = 3 ∧
      lines.map String.ofList =
        ["- [Info] m", " (f.py, line 1)", "- [Info] m", "- [Critical] n (f.py, line 1)"] := by
  have hfindings := findings_forging
  have hfound : allFindings [Engine.outcome Command.evalDiff Skill.forging] ≠ [] := by
    rw [hfindings]
    exact List.cons_ne_nil _ _
  have hlines : ∀ f ∈ allFindings [Engine.outcome Command.evalDiff Skill.forging],
      f.LineWritable := by
    rw [hfindings]
    intro f hf n hn
    have hline : f.line = some 1 := by
      rcases List.mem_pair.1 hf with rfl | rfl <;> rfl
    cases hline.symm.trans hn
    exact Decimal.lt_numberLimit_of_readDigits (s := "1".toList) (by decide)
  rcases (findingsBlock_bulleted hfound).1 hlines with ⟨block, lines, hblock, htext, hlist, -⟩
  refine ⟨Skill.loadable_forging, by rw [hfindings]; rfl, block, lines, hblock, htext, ?_⟩
  rw [hlist.lines_eq, hfindings]
  decide

end Report
end PatchReview
