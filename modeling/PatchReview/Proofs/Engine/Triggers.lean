import PatchReview.Proofs.Diff.Path
import PatchReview.Proofs.Engine.Outcome
import PatchReview.Proofs.Text.CaseMap
import PatchReview.Proofs.Text.Pieces

/-!
# Triggers

When a skill applies to a diff. A configured extension asks for what stands behind its last dot, and
the extension of a file has no dot, so that the ways to write an extension all ask for the same
files. The order in which triggers, their entries and files stand does not matter, nor how often
they do.
-/

namespace PatchReview

/-- The pattern of the rule stops no run: it compiles, or it is malformed and the rule is passed
over. -/
def Skill.Rule.Passable (rule : Skill.Rule) : Prop :=
  ∀ pattern error, rule.pattern = some pattern → Pattern.compile pattern = .error error →
    error = .malformed

namespace Engine

/-! ## Configured extensions -/

/-- A configured extension in lower case, without blanks around it and without a star in front. -/
def bareExtension (configured : String) : List Char :=
  let form := Text.lower (Text.trimBy Text.isBlank configured.toList)
  if form.head? = some '*' then form.tail else form

/-- What a configured extension asks for: its last piece between dots. -/
def askedExtension? (configured : String) : Option (List Char) :=
  (Text.splitAtChar '.' (bareExtension configured)).getLast?

/-- An extension is matched as a whole, or as the last part of the configured one. -/
theorem extensionMatches_eq (configured ext : String) :
    extensionMatches configured ext =
      (!ext.isEmpty && ((bareExtension configured).dropWhile (· == '.') == ext.toList ||
        ('.' :: ext.toList).isSuffixOf (bareExtension configured))) := by
  rw [extensionMatches, bareExtension]
  cases ext.isEmpty with
  | true =>
    rfl
  | false =>
    cases Text.lower (Text.trimBy Text.isBlank configured.toList) with
    | nil =>
      rfl
    | cons c cs =>
      by_cases hstar : c = '*'
      · rw [hstar]
        rfl
      · simp [hstar]

/-- What is left without dots in front is the whole text or stands behind a dot. -/
theorem eq_or_of_dropWhile_dot {s ext : List Char} (h : s.dropWhile (· == '.') = ext) :
    s = ext ∨ ∃ front, s = front ++ '.' :: ext := by
  have hs : s.takeWhile (· == '.') ++ ext = s := by
    rw [← h]
    exact List.takeWhile_append_dropWhile
  -- the last of the dots in front, if there is one
  cases hlast : s.takeWhile (· == '.') using List.reverseRecOn with
  | nil =>
    rw [hlast] at hs
    exact .inl hs.symm
  | append_singleton front c _ =>
    have hc : c = '.' := by
      have hmem : c ∈ s.takeWhile (· == '.') := by simp [hlast]
      simpa using List.mem_takeWhile_imp hmem
    rw [hlast, hc, List.append_assoc] at hs
    exact .inr ⟨front, hs.symm⟩

/-- An extension without dots matches if it is what a configured one asks for. -/
theorem extensionMatches_iff {configured ext : String} (hdot : '.' ∉ ext.toList) :
    extensionMatches configured ext = true ↔ ext ≠ "" ∧
      askedExtension? configured = some ext.toList := by
  have hempty : ext.isEmpty = false ↔ ext ≠ "" := by simp
  rw [extensionMatches_eq, askedExtension?, Text.getLast?_splitAtChar_eq_some_iff]
  simp only [Bool.and_eq_true, Bool.or_eq_true, Bool.not_eq_true', beq_iff_eq,
    List.isSuffixOf_iff_suffix, hempty]
  refine and_congr_right fun hne => ?_
  -- the two tests overlap, and each covers what the other misses: the whole text, and a text with
  -- dots inside
  constructor
  · rintro (hdrop | ⟨front, hfront⟩)
    · exact ⟨hdot, eq_or_of_dropWhile_dot hdrop⟩
    · exact ⟨hdot, .inr ⟨front, hfront.symm⟩⟩
  · rintro ⟨-, hself | ⟨front, hfront⟩⟩
    · left
      rw [hself]
      cases hext : ext.toList with
      | nil => rfl
      | cons c cs =>
        have hc : c ≠ '.' := by
          rintro rfl
          rw [hext] at hdot
          exact hdot List.mem_cons_self
        simp [hc]
    · exact .inr ⟨front, hfront.symm⟩

/-- No file without an extension is asked for by an extension. -/
theorem extensionMatches_empty (configured : String) : extensionMatches configured "" = false :=
  rfl

/-! ## Ways to write an extension -/

/-- An extension that can be written with a dot, or with a star and a dot, in front. -/
structure IsPlain (ext : String) : Prop where
  noDot : '.' ∉ ext.toList
  trimmed : Text.trimBy Text.isBlank ext.toList = ext.toList
  noStar : ext.toList.head? ≠ some '*'

/-- The ways to write an extension: as it is, behind a dot, and behind a star and a dot. -/
def spellings (ext : String) : List String := [ext, "." ++ ext, "*." ++ ext]

/-- Texts that differ in the case of ASCII letters alone. -/
def SameLetters (s t : String) : Prop := s.toList.map Char.toLower = t.toList.map Char.toLower

/-- A mark is no other character in lower case. -/
theorem eq_of_toLower_eq_mark {c mark : Char} (hmark : ¬ Text.IsLetter mark)
    (h : c.toLower = mark.toLower) : c = mark :=
  (Text.eq_or_isLetter h).resolve_right fun hletters => hmark hletters.2

/-- The case of letters has no say in whether an extension is plain. -/
theorem IsPlain.of_sameLetters {x y : String} (hx : IsPlain x) (h : SameLetters x y) :
    IsPlain y := by
  -- the first and the last character are alike in both
  have hends (pick : List Char → Option Char)
      (hmap : ∀ s : List Char, pick (s.map Char.toLower) = (pick s).map Char.toLower) {d : Char}
      (hd : pick y.toList = some d) : ∃ c, pick x.toList = some c ∧ c.toLower = d.toLower := by
    have hlower : (pick x.toList).map Char.toLower = some d.toLower := by
      rw [← hmap, h, hmap, hd]
      rfl
    exact Option.map_eq_some_iff.1 hlower
  have hhead {d : Char} := hends (d := d) List.head? fun s => List.head?_map
  have hlast {d : Char} := hends (d := d) List.getLast? fun s => List.getLast?_map
  refine ⟨fun hdot => ?_, Text.trimBy_eq_self_iff.2 ⟨fun d hd => ?_, fun d hd => ?_⟩,
    fun hstar => ?_⟩
  · have hmem : Char.toLower '.' ∈ x.toList.map Char.toLower := h ▸ List.mem_map_of_mem hdot
    rcases List.mem_map.1 hmem with ⟨c, hc, hlower⟩
    exact hx.noDot (eq_of_toLower_eq_mark (by decide) hlower ▸ hc)
  · rcases hhead hd with ⟨c, hc, hlower⟩
    exact (Text.isBlank_congr hlower).symm.trans ((Text.trimBy_eq_self_iff.1 hx.trimmed).1 c hc)
  · rcases hlast hd with ⟨c, hc, hlower⟩
    exact (Text.isBlank_congr hlower).symm.trans ((Text.trimBy_eq_self_iff.1 hx.trimmed).2 c hc)
  · rcases hhead hstar with ⟨c, hc, hlower⟩
    exact hx.noStar (eq_of_toLower_eq_mark (by decide) hlower ▸ hc)

/-- Without blanks around, an extension is bare once it is in lower case and has no star
in front. -/
theorem bareExtension_of_trimmed {configured : String}
    (h : Text.trimBy Text.isBlank configured.toList = configured.toList) :
    bareExtension configured =
      if (Text.lower configured.toList).head? = some '*' then (Text.lower configured.toList).tail
      else Text.lower configured.toList := by
  rw [bareExtension, h]

/-- However an extension is written, it asks for its lower-case form. -/
theorem askedExtension?_of_mem_spellings {ext configured : String} (hext : IsPlain ext)
    (h : configured ∈ spellings ext) :
    askedExtension? configured = some (Text.lower ext.toList) := by
  have hnodot : '.' ∉ Text.lower ext.toList := fun hdot =>
    hext.noDot (Text.mem_of_mem_lowerFrom (by decide) (by decide) hdot)
  have hdot : Text.lower ('.' :: ext.toList) = '.' :: Text.lower ext.toList :=
    Text.lower_cons (by decide) (by decide) (by decide) ext.toList
  have hstar : Text.lower ('*' :: '.' :: ext.toList) = '*' :: Text.lower ('.' :: ext.toList) :=
    Text.lower_cons (by decide) (by decide) (by decide) ('.' :: ext.toList)
  have htrimmed : Text.trimBy Text.isBlank ('.' :: ext.toList) = '.' :: ext.toList :=
    Text.trimBy_cons (by decide) hext.trimmed
  rw [askedExtension?, Text.getLast?_splitAtChar_eq_some_iff]
  refine ⟨hnodot, ?_⟩
  simp only [spellings, List.mem_cons, List.not_mem_nil, or_false] at h
  -- the three spellings: the bare extension, with its dot, and with a star in front
  rcases h with rfl | rfl | rfl
  · left
    rw [bareExtension_of_trimmed hext.trimmed, if_neg]
    exact fun hhead => hext.noStar (Text.head?_of_head?_lower (by decide) (by decide) hhead)
  · right
    refine ⟨[], ?_⟩
    have htext : ("." ++ ext).toList = '.' :: ext.toList := by simp
    rw [bareExtension_of_trimmed (by rwa [htext]), htext, hdot]
    rfl
  · right
    refine ⟨[], ?_⟩
    have htext : ("*." ++ ext).toList = '*' :: '.' :: ext.toList := by simp
    rw [bareExtension_of_trimmed (by rw [htext]; exact Text.trimBy_cons (by decide) htrimmed),
      htext, hstar, hdot]
    rfl

/-- The spellings of an extension, whatever the case of its ASCII letters, match the same files. -/
theorem extensionMatches_spelling {x y configured : String} (hx : IsPlain x) (hy : SameLetters x y)
    (h : configured ∈ spellings y) (f : Diff.File) :
    extensionMatches configured f.extension = extensionMatches x f.extension := by
  have hasked := askedExtension?_of_mem_spellings (hx.of_sameLetters hy) h
  have hself := askedExtension?_of_mem_spellings hx (List.mem_cons_self (a := x))
  rw [Bool.eq_iff_iff, extensionMatches_iff f.dot_not_mem_extension,
    extensionMatches_iff f.dot_not_mem_extension, hasked, hself, Text.lower_congr hy]

/-! ## Triggers -/

/-- A trigger asks for a file by its extension or by a part of its path. -/
def AsksFor (t : Skill.Trigger) (f : Diff.File) : Prop :=
  (f.extension ≠ "" ∧
      ∃ configured ∈ t.fileExtensions.getD [],
        askedExtension? configured = some f.extension.toList) ∨
    ∃ part ∈ t.pathContains.getD [], part.toList <:+: f.path.toList

/-- A skill applies to a diff if one of its triggers asks for one of the files. -/
def Applies (skill : Skill) (d : Diff) : Prop := ∃ t ∈ skill.triggers, ∃ f ∈ d.files, AsksFor t f

/-- A trigger matches the files that it asks for. -/
theorem triggerMatchesFile_iff {t : Skill.Trigger} {f : Diff.File} :
    triggerMatchesFile t f = true ↔ AsksFor t f := by
  rw [triggerMatchesFile, Bool.or_eq_true, List.any_eq_true, List.any_eq_true, AsksFor]
  simp only [extensionMatches_iff f.dot_not_mem_extension, Text.occursIn_iff]
  refine or_congr_left ⟨?_, ?_⟩
  · rintro ⟨configured, hmem, hne, hasked⟩
    exact ⟨hne, configured, hmem, hasked⟩
  · rintro ⟨hne, configured, hmem, hasked⟩
    exact ⟨configured, hmem, hne, hasked⟩

/-- A skill runs where it applies. -/
theorem shouldRun_iff_applies {skill : Skill} {d : Diff} :
    shouldRun skill d = true ↔ Applies skill d := by
  rw [shouldRun_iff]
  simp only [triggerMatchesFile_iff]
  rfl

/-- Two lists have the same members, in any order and any number of times. -/
def SameMembers {α : Type} (as bs : List α) : Prop := ∀ a, a ∈ as ↔ a ∈ bs

/-- Two triggers have the same entries, in any order and any number of times. -/
structure SameEntries (t u : Skill.Trigger) : Prop where
  fileExtensions : SameMembers (t.fileExtensions.getD []) (u.fileExtensions.getD [])
  pathContains : SameMembers (t.pathContains.getD []) (u.pathContains.getD [])

/-- Two skills have triggers with the same entries, in any order and any number of times. -/
structure SameTriggers (skill other : Skill) : Prop where
  forward : ∀ t ∈ skill.triggers, ∃ u ∈ other.triggers, SameEntries t u
  backward : ∀ u ∈ other.triggers, ∃ t ∈ skill.triggers, SameEntries t u

/-- The order of the entries of a trigger plays no part, nor does how often they are there. -/
theorem asksFor_iff_of_sameEntries {t u : Skill.Trigger} (h : SameEntries t u) (f : Diff.File) :
    AsksFor t f ↔ AsksFor u f := by
  have hextensions := h.fileExtensions
  have hparts := h.pathContains
  unfold SameMembers at hextensions hparts
  simp only [AsksFor, hextensions, hparts]

/-- What a skill applies to depends on which entries and files there are, and on nothing else about
them. -/
theorem applies_congr {skill other : Skill} {d e : Diff} (htriggers : SameTriggers skill other)
    (hfiles : SameMembers d.files e.files) : Applies skill d ↔ Applies other e := by
  constructor
  · rintro ⟨t, ht, f, hf, hasks⟩
    rcases htriggers.forward t ht with ⟨u, hu, hsame⟩
    exact ⟨u, hu, f, (hfiles f).1 hf, (asksFor_iff_of_sameEntries hsame f).1 hasks⟩
  · rintro ⟨u, hu, f, hf, hasks⟩
    rcases htriggers.backward u hu with ⟨t, ht, hsame⟩
    exact ⟨t, ht, f, (hfiles f).2 hf, (asksFor_iff_of_sameEntries hsame f).2 hasks⟩

/-! ## Runs -/

/-- Running a skill against a diff gives a result that counts as skipped, or one that does not. -/
def RunsTo (skill : Skill) (d : Diff) (log : List LogEntry) (skipped : Bool) : Prop :=
  ∃ result log', (executeSkill skill d).run.run log = (.ok result, log') ∧ result.skipped = skipped

/-- A rule that can be passed on finds its findings, whatever was told before. -/
theorem exists_run_checkRule {rule : Skill.Rule} (h : rule.Passable) (d : Diff)
    (log : List LogEntry) :
    ∃ log', (checkRule rule d).run.run log = (.ok (ruleFindings d rule), log') := by
  rw [checkRule, ruleFindings]
  cases hpattern : rule.pattern with
  | none =>
    exact ⟨log, rfl⟩
  | some pattern =>
    cases hcompile : Pattern.compile pattern with
    | ok p =>
      simp only [Option.map_some, hcompile]
      exact ⟨log, rfl⟩
    | error error =>
      obtain rfl := h pattern error hpattern hcompile
      simp only [Option.map_some, hcompile]
      exact ⟨_, rfl⟩

/-- A skill whose rules stop no run has its outcome, also if rules of it are passed over. -/
theorem exists_run_of_passable {skill : Skill} (h : ∀ rule ∈ skill.rules, rule.Passable) (d : Diff)
    (log : List LogEntry) :
    ∃ log', (executeSkill skill d).run.run log = (.ok (outcome d skill), log') := by
  rw [executeSkill, outcome]
  cases shouldRun skill d with
  | true =>
    rcases exists_run_mapM (fun rule hrule => exists_run_checkRule (h rule hrule) d) log with
      ⟨log', hrun⟩
    rw [if_pos rfl, run_bind, hrun, if_pos rfl, List.flatMap_def]
    exact ⟨_, rfl⟩
  | false =>
    exact ⟨_, rfl⟩

/-- Whatever the rules come to, only a skill that does not apply is skipped. -/
theorem skipped_of_run_executeSkill {skill : Skill} {d : Diff} {log log' : List LogEntry}
    {result : SkillResult} (h : (executeSkill skill d).run.run log = (.ok result, log')) :
    result.skipped = !shouldRun skill d := by
  rw [executeSkill] at h
  cases hrun : shouldRun skill d with
  | true =>
    rw [hrun, if_pos rfl] at h
    rcases run_bind_eq_ok_iff.1 h with ⟨found, log₁, -, h⟩
    cases h
    rfl
  | false =>
    rw [hrun] at h
    cases h
    rfl

/-- A skill is skipped where it does not apply. -/
theorem runsTo_skipped_iff {skill : Skill} {d : Diff} {log : List LogEntry} :
    RunsTo skill d log true ↔ ¬ Applies skill d := by
  rw [← shouldRun_iff_applies]
  constructor
  · rintro ⟨result, log', hrun, hskipped⟩
    simpa [skipped_of_run_executeSkill hrun] using hskipped
  · intro h
    rw [Bool.not_eq_true] at h
    refine ⟨_, _, by rw [executeSkill, h]; rfl, rfl⟩

/-- A skill that has run applies. -/
theorem applies_of_runsTo {skill : Skill} {d : Diff} {log : List LogEntry}
    (h : RunsTo skill d log false) : Applies skill d := by
  rcases h with ⟨result, log', hrun, hskipped⟩
  rw [← shouldRun_iff_applies]
  simpa [skipped_of_run_executeSkill hrun] using hskipped

/-- A skill that applies runs, if each of its rules can be passed on. -/
theorem runsTo_of_applies {skill : Skill} (hrules : ∀ rule ∈ skill.rules, rule.Passable) {d : Diff}
    (h : Applies skill d) (log : List LogEntry) : RunsTo skill d log false := by
  rcases exists_run_of_passable hrules d log with ⟨log', hrun⟩
  exact ⟨_, log', hrun, by rw [skipped_outcome, shouldRun_iff_applies.2 h]; rfl⟩

/-- A skill is skipped just if none of its triggers asks for a file of the diff, by what stands
behind the last dot of a configured extension or by a part of the path. Otherwise it has a result
that is not skipped, unless a pattern stops it. The spellings of a plain extension, in any case of
its ASCII letters, match the same files; none matches a file without an extension. In what order
triggers, entries and files stand makes no difference, nor how often they do. -/
theorem executeSkill_gated (skill : Skill) (d : Diff) (log : List LogEntry) :
    (RunsTo skill d log true ↔ ¬ Applies skill d) ∧
      (RunsTo skill d log false → Applies skill d) ∧
      ((∀ rule ∈ skill.rules, rule.Passable) → Applies skill d → RunsTo skill d log false) ∧
      (∀ x y, IsPlain x → SameLetters x y → ∀ configured ∈ spellings y, ∀ f : Diff.File,
        extensionMatches configured f.extension = extensionMatches x f.extension) ∧
      (∀ configured (f : Diff.File), f.extension = "" →
        extensionMatches configured f.extension = false) ∧
      ∀ other e log', SameTriggers skill other → SameMembers d.files e.files →
        (RunsTo other e log' true ↔ RunsTo skill d log true) := by
  refine ⟨runsTo_skipped_iff, applies_of_runsTo, fun hrules h => runsTo_of_applies hrules h log,
    fun x y hx hy configured h f => extensionMatches_spelling hx hy h f, fun configured f hf => ?_,
    fun other e log' htriggers hfiles => ?_⟩
  · rw [hf, extensionMatches_empty]
  · rw [runsTo_skipped_iff, runsTo_skipped_iff, applies_congr htriggers hfiles]

/-- A skill for Python files, with a rule that is passed over. -/
def pythonSkill : Skill where
  name := "python"
  version := "1"
  description := "d"
  triggers := [{ fileExtensions := some [" *.PY", "rs"], pathContains := none }]
  rules := [{ id := "r", severity := .warning, message := "m", pattern := some "(", check := none }]
  prompts := none

/-- The same entries in two triggers, in another order and one of them twice, without rules. -/
def pythonTwice : Skill where
  name := "twice"
  version := "1"
  description := "d"
  triggers := [{ fileExtensions := some ["rs", " *.PY", "rs"], pathContains := some [] },
    { fileExtensions := some [" *.PY", "rs"], pathContains := none }]
  rules := []
  prompts := none

def pythonDiff : Diff := ⟨[{ path := "src/a.py" }]⟩

/-- A diff with a file without an extension. -/
def plainDiff : Diff := ⟨[{ path := "src.py/Makefile" }]⟩

theorem executeSkill_gated_python :
    RunsTo pythonSkill pythonDiff [] false ∧ RunsTo pythonSkill plainDiff [] true ∧
      RunsTo pythonTwice ⟨plainDiff.files ++ plainDiff.files⟩ [] true ∧
      ∀ configured ∈ spellings "PY", ∀ f : Diff.File,
        extensionMatches configured f.extension = extensionMatches "py" f.extension := by
  have hpassable : ∀ rule ∈ pythonSkill.rules, rule.Passable := by
    intro rule hrule pattern error hpattern herror
    obtain rfl := List.mem_singleton.1 hrule
    obtain rfl : pattern = "(" := (Option.some.inj hpattern).symm
    have hcompile : Pattern.compile "(" = .error .malformed := by rfl
    exact (Except.error.inj (hcompile.symm.trans herror)).symm
  have happlies : Applies pythonSkill pythonDiff :=
    ⟨_, List.mem_singleton_self _, _, List.mem_singleton_self _,
      .inl ⟨by decide, " *.PY", by decide, by decide⟩⟩
  have hnot : ¬ Applies pythonSkill plainDiff := by
    rintro ⟨t, ht, f, hf, ⟨hne, -⟩ | ⟨part, hpart, -⟩⟩
    · -- the dot stands in the directory
      obtain rfl := List.mem_singleton.1 hf
      exact hne (by decide)
    · obtain rfl := List.mem_singleton.1 ht
      cases hpart
  have htriggers : SameTriggers pythonSkill pythonTwice := by
    have hentries (extension : String) :
        extension ∈ [" *.PY", "rs"] ↔ extension ∈ ["rs", " *.PY", "rs"] := by
      simp only [List.mem_cons, List.not_mem_nil, or_false]
      tauto
    refine ⟨fun t ht => ?_, fun u hu => ⟨_, List.mem_singleton_self _, ?_⟩⟩
    · obtain rfl := List.mem_singleton.1 ht
      exact ⟨_, List.mem_cons_of_mem _ (List.mem_singleton_self _), fun _ => Iff.rfl,
        fun _ => Iff.rfl⟩
    · rcases List.mem_cons.1 hu with rfl | hu
      · exact ⟨hentries, fun _ => Iff.rfl⟩
      · obtain rfl := List.mem_singleton.1 hu
        exact ⟨fun _ => Iff.rfl, fun _ => Iff.rfl⟩
  rcases executeSkill_gated pythonSkill pythonDiff [] with ⟨-, -, hruns, hspellings, -, -⟩
  rcases executeSkill_gated pythonSkill plainDiff [] with ⟨hskipped, -, -, -, -, hsame⟩
  have hplain : IsPlain "py" := ⟨by decide, by decide, by decide⟩
  refine ⟨hruns hpassable happlies, hskipped.2 hnot, ?_, hspellings "py" "PY" hplain (by rfl)⟩
  exact (hsame pythonTwice _ [] htriggers fun f => by simp).2 (hskipped.2 hnot)

end Engine
end PatchReview
