import PatchReview.Proofs.Skill.Validity

/-!
# The first failure of a skill

Validation asks for a trigger, then for ids that differ, then for patterns that compile, and tells
the first of these that fails. Of repeated ids it tells the one at the least place that repeats an
earlier one, and of patterns the first that does not compile, whatever stands behind it.
-/

namespace PatchReview
namespace Skill

/-! ## Repeated texts -/

/-- A text stands at a place and also at one before it. -/
def RepeatsAt (texts : List String) (place : Nat) (text : String) : Prop :=
  texts[place]? = some text ∧ ∃ earlier < place, texts[earlier]? = some text

/-- A text stands at the least place that repeats an earlier one. -/
def FirstRepeated (texts : List String) (text : String) : Prop :=
  ∃ place, RepeatsAt texts place text ∧ ∀ before < place, ∀ other, ¬ RepeatsAt texts before other

/-- Texts are distinct if none stands at a place where it stood before. -/
theorem nodup_iff_not_repeatsAt {texts : List String} :
    texts.Nodup ↔ ∀ place text, ¬ RepeatsAt texts place text := by
  rw [List.nodup_iff_getElem?_ne_getElem?]
  constructor
  · rintro h place text ⟨hhere, earlier, hlt, hearlier⟩
    have hplace : place < texts.length := (List.getElem?_eq_some_iff.1 hhere).1
    exact h earlier place hlt hplace (hearlier.trans hhere.symm)
  · intro h earlier place hlt hplace heq
    have hhere : texts[place]? = some texts[place] := List.getElem?_eq_getElem hplace
    exact h place texts[place] ⟨hhere, earlier, hlt, heq.trans hhere⟩

/-- Places in the front of a list are places in the list. -/
theorem repeatsAt_append_iff {front back : List String} {place : Nat} (h : place < front.length)
    {text : String} : RepeatsAt (front ++ back) place text ↔ RepeatsAt front place text := by
  have hfront {i : Nat} (hi : i ≤ place) : (front ++ back)[i]? = front[i]? :=
    List.getElem?_append_left (Nat.lt_of_le_of_lt hi h)
  unfold RepeatsAt
  rw [hfront (Nat.le_refl place)]
  refine and_congr_right fun _ => exists_congr fun i => and_congr_right fun hi => ?_
  rw [hfront (Nat.le_of_lt hi)]

/-- The first repeated text stands behind texts that differ from one another, and is one of them. -/
theorem firstRepeated_iff_append {texts : List String} {text : String} :
    FirstRepeated texts text ↔ ∃ before after, texts = before ++ text :: after ∧ text ∈ before ∧
      before.Nodup := by
  constructor
  · rintro ⟨place, ⟨hhere, earlier, hlt, hearlier⟩, hleast⟩
    rcases List.getElem?_eq_some_iff.1 hhere with ⟨hplace, rfl⟩
    have hsplit : texts = texts.take place ++ texts[place] :: texts.drop (place + 1) := by
      rw [← List.drop_eq_getElem_cons hplace, List.take_append_drop]
    refine ⟨texts.take place, texts.drop (place + 1), hsplit, ?_,
      nodup_iff_not_repeatsAt.2 fun k other hk => ?_⟩
    · exact List.mem_of_getElem? ((List.getElem?_take_of_lt hlt).trans hearlier)
    · have hfront : k < (texts.take place).length := (List.getElem?_eq_some_iff.1 hk.1).1
      have hbefore : k < place := by
        rw [List.length_take] at hfront
        omega
      refine hleast k hbefore other ?_
      rw [hsplit]
      exact (repeatsAt_append_iff hfront).2 hk
  · rintro ⟨before, after, rfl, hmem, hnodup⟩
    rcases List.getElem?_of_mem hmem with ⟨earlier, hearlier⟩
    have hlt : earlier < before.length := (List.getElem?_eq_some_iff.1 hearlier).1
    refine ⟨before.length, ⟨by simp, earlier, hlt, ?_⟩, fun k hk other hrepeats => ?_⟩
    · rw [List.getElem?_append_left hlt, hearlier]
    · exact nodup_iff_not_repeatsAt.1 hnodup k other ((repeatsAt_append_iff hk).1 hrepeats)

/-- The search stops at the first text that is among those before it or those seen before the
list. -/
theorem firstRepeated_eq_some_iff {seen texts : List String} {text : String} :
    firstRepeated seen texts = some text ↔
      ∃ before after, texts = before ++ text :: after ∧ (text ∈ seen ∨ text ∈ before) ∧
        before.Nodup ∧
        ∀ other ∈ before, other ∉ seen := by
  induction texts generalizing seen with
  | nil =>
    simp [firstRepeated]
  | cons first rest ih =>
    rw [firstRepeated]
    -- what is told depends on the texts seen so far, so the induction is over any of them
    by_cases hseen : first ∈ seen
    · rw [if_pos (List.contains_iff_mem.2 hseen)]
      constructor
      · rintro ⟨⟩
        exact ⟨[], rest, rfl, .inl hseen, List.nodup_nil, by simp⟩
      · rintro ⟨before, after, heq, -, -, hnew⟩
        cases before with
        | nil =>
          cases heq
          rfl
        | cons b before =>
          cases heq
          exact absurd hseen (hnew first List.mem_cons_self)
    · rw [if_neg (by simpa using hseen), ih]
      constructor
      -- behind a text that is new, a repetition below is one here, and the text is seen
      · rintro ⟨before, after, rfl, hmem, hnodup, hnew⟩
        refine ⟨first :: before, after, rfl, ?_, List.nodup_cons.2 ⟨?_, hnodup⟩, ?_⟩
        · rw [List.mem_cons, or_assoc] at hmem
          rw [List.mem_cons]
          tauto
        · exact fun hfirst => hnew first hfirst List.mem_cons_self
        · rintro other hother hold
          rcases List.mem_cons.1 hother with rfl | hother
          · exact hseen hold
          · exact hnew other hother (List.mem_cons_of_mem first hold)
      · rintro ⟨before, after, heq, hmem, hnodup, hnew⟩
        cases before with
        | nil =>
          cases heq
          exact absurd hmem (by simpa using hseen)
        | cons b before =>
          cases heq
          rw [List.nodup_cons] at hnodup
          refine ⟨before, after, rfl, ?_, hnodup.2, ?_⟩
          · rw [List.mem_cons] at hmem
            rw [List.mem_cons]
            tauto
          · rintro other hother hold
            rcases List.mem_cons.1 hold with rfl | hold
            · exact hnodup.1 hother
            · exact hnew other (List.mem_cons_of_mem first hother) hold

theorem firstRepeated_nil_eq_some_iff {texts : List String} {text : String} :
    firstRepeated [] texts = some text ↔ FirstRepeated texts text := by
  rw [firstRepeated_eq_some_iff, firstRepeated_iff_append]
  simp

/-! ## Patterns -/

/-- A pattern does not compile, and it is that of the first rule with such a pattern. -/
def FirstFailing (rules : List Rule) (pattern : String) (error : Pattern.PatternError) : Prop :=
  ∃ before rule after, rules = before ++ rule :: after ∧ (∀ r ∈ before, r.Compiles) ∧
    rule.pattern = some pattern ∧ Pattern.compile pattern = .error error

/-- The pattern that is told is that of the first rule that does not compile. -/
theorem firstBadPattern_eq_some_iff {rules : List Rule} {pattern : String}
    {error : Pattern.PatternError} :
    firstBadPattern rules = some (pattern, error) ↔ FirstFailing rules pattern error := by
  rw [firstBadPattern_eq_findSome?, List.findSome?_eq_some_iff, FirstFailing]
  simp only [Rule.failure?_eq_some_iff, Rule.failure?_eq_none_iff]
  constructor
  · rintro ⟨before, rule, after, heq, hfails, hbefore⟩
    exact ⟨before, rule, after, heq, hbefore, hfails⟩
  · rintro ⟨before, rule, after, heq, hbefore, hfails⟩
    exact ⟨before, rule, after, heq, hfails, hbefore⟩

/-! ## The verdict -/

/-- A skill without triggers is told as such, whatever else is wrong. -/
theorem validate_eq_noTriggers_iff {skill : Skill} :
    validate skill = .error .noTriggers ↔ skill.triggers = [] := by
  rw [validate]
  constructor
  · intro h
    split at h
    · next hempty => simpa using hempty
    · split at h
      · cases h
      · split at h <;> cases h
  · intro h
    rw [h]
    rfl

/-- The id that is told is the first that is there again. -/
theorem validate_eq_duplicateRule_iff {skill : Skill} {id : String} :
    validate skill = .error (.duplicateRule id) ↔
      skill.triggers ≠ [] ∧ FirstRepeated (skill.rules.map (·.id)) id := by
  rw [← firstRepeated_nil_eq_some_iff, validate]
  by_cases htriggers : skill.triggers = []
  · simp [htriggers]
  · rw [if_neg (by simpa using htriggers), and_iff_right htriggers]
    cases firstRepeated [] (skill.rules.map (·.id)) with
    | some other => simp
    | none => cases firstBadPattern skill.rules <;> simp

/-- A pattern is told only where triggers and ids are fine. -/
theorem validate_eq_badPattern_iff {skill : Skill} {pattern : String}
    {error : Pattern.PatternError} :
    validate skill = .error (.badPattern pattern error) ↔
      skill.triggers ≠ [] ∧ (skill.rules.map (·.id)).Nodup ∧
        FirstFailing skill.rules pattern error := by
  have hnodup : firstRepeated [] (skill.rules.map (·.id)) = none ↔
      (skill.rules.map (·.id)).Nodup := by
    rw [firstRepeated_eq_none_iff]
    simp
  rw [← firstBadPattern_eq_some_iff, ← hnodup, validate]
  by_cases htriggers : skill.triggers = []
  · simp [htriggers]
  · rw [if_neg (by simpa using htriggers), and_iff_right htriggers]
    cases firstRepeated [] (skill.rules.map (·.id)) with
    | some other => simp
    | none => cases firstBadPattern skill.rules <;> simp [Prod.ext_iff]

/-- Of the rules behind one whose pattern does not compile only the ids matter. -/
theorem validate_of_failing {skill : Skill} {before after later : List Rule} {rule : Rule}
    (hrules : skill.rules = before ++ rule :: after) (hbefore : ∀ r ∈ before, r.Compiles)
    (hrule : ¬ rule.Compiles) (hids : (skill.rules.map (·.id)).Nodup)
    (hlater : ((before ++ rule :: later).map (·.id)).Nodup) :
    validate { skill with rules := before ++ rule :: later } = validate skill := by
  by_cases htriggers : skill.triggers = []
  · rw [validate_eq_noTriggers_iff.2 htriggers, validate_eq_noTriggers_iff]
    exact htriggers
  · simp only [Rule.Compiles, not_forall] at hrule
    rcases hrule with ⟨pattern, hpattern, hfails⟩
    cases hcompile : Pattern.compile pattern with
    | ok p => exact absurd ⟨p, hcompile⟩ hfails
    | error error =>
      have hfirst (rest : List Rule) : FirstFailing (before ++ rule :: rest) pattern error :=
        ⟨before, rule, rest, rfl, hbefore, hpattern, hcompile⟩
      rw [validate_eq_badPattern_iff.2 ⟨htriggers, hids, hrules ▸ hfirst after⟩]
      exact validate_eq_badPattern_iff.2 ⟨htriggers, hlater, hfirst later⟩

/-- A pattern that breaks the rules of patterns is an error of the skill, and told with the pattern.
Whatever else stops the compilation is told as it is, and is no error of the skill. -/
theorem told_badPattern (pattern : String) (error : Pattern.PatternError) :
    let told := LoadError.invalid (.badPattern pattern error)
    (error = .malformed → told.isOfFile = true ∧
      told.message = "Invalid regex pattern '" ++ pattern ++ "': " ++ error.message) ∧
    (error ≠ .malformed → told.isOfFile = false ∧ told.message = error.message) := by
  cases error with
  | malformed => exact ⟨fun _ => ⟨rfl, rfl⟩, fun h => absurd rfl h⟩
  | _ => exact ⟨fun h => (by cases h), fun _ => ⟨rfl, rfl⟩⟩

/-- A skill is accepted just if it has a trigger, its ids differ and its patterns compile, all of
them ignoring case. Without a trigger that is the failure, whatever the rules are; otherwise it is
the id at the least place that repeats an earlier one, whatever the patterns are; otherwise it is
the first pattern that does not compile, and no rule behind it is looked at, its id apart. -/
theorem validate_first_failure (skill : Skill) :
    (validate skill = .ok () ↔
      skill.triggers ≠ [] ∧ (skill.rules.map (·.id)).Nodup ∧ ∀ rule ∈ skill.rules, rule.Compiles) ∧
    (validate skill = .error .noTriggers ↔ skill.triggers = []) ∧
    (∀ id, validate skill = .error (.duplicateRule id) ↔
      skill.triggers ≠ [] ∧ FirstRepeated (skill.rules.map (·.id)) id) ∧
    (∀ pattern error, validate skill = .error (.badPattern pattern error) ↔
      skill.triggers ≠ [] ∧ (skill.rules.map (·.id)).Nodup ∧
        FirstFailing skill.rules pattern error) ∧
    (∀ before rule after later, skill.rules = before ++ rule :: after → (∀ r ∈ before, r.Compiles) →
      ¬ rule.Compiles →
      (skill.rules.map (·.id)).Nodup → ((before ++ rule :: later).map (·.id)).Nodup →
      validate { skill with rules := before ++ rule :: later } = validate skill) ∧
    ∀ pattern error, let told := LoadError.invalid (.badPattern pattern error)
      (error = .malformed → told.isOfFile = true ∧
        told.message = "Invalid regex pattern '" ++ pattern ++ "': " ++ error.message) ∧
      (error ≠ .malformed → told.isOfFile = false ∧ told.message = error.message) := by
  refine ⟨?_, validate_eq_noTriggers_iff, fun _ => validate_eq_duplicateRule_iff,
    fun _ _ => validate_eq_badPattern_iff, ?_, told_badPattern⟩
  · rw [validate_eq_ok_iff]
    exact ⟨fun h => ⟨h.triggered, h.nodup_ids, h.compiles⟩,
      fun ⟨htriggers, hids, h⟩ => ⟨htriggers, hids, h⟩⟩
  · intro before rule after later hrules hbefore hrule hids hlater
    exact validate_of_failing hrules hbefore hrule hids hlater

def patternRule (id : String) (pattern : Option String) : Rule :=
  { id, severity := .info, message := "m", pattern, check := none }

def ruledSkill (rules : List Rule) : Skill :=
  { name := "s", version := "1", description := "d",
    triggers := [{ fileExtensions := none, pathContains := none }],
    rules, prompts := none }

theorem validate_first_failure_ruled :
    validate (ruledSkill [patternRule "b" none, patternRule "a" (some "("), patternRule "a" none,
      patternRule "b" none]) = .error (.duplicateRule "a") ∧
    validate (ruledSkill [patternRule "b" none, patternRule "a" (some "("),
      patternRule "c" (some ")")]) =
      .error (.badPattern "(" .malformed) ∧
    validate (ruledSkill [patternRule "b" none, patternRule "a" (some "("), patternRule "d" none]) =
      .error (.badPattern "(" .malformed) ∧
    (LoadError.invalid (.badPattern "(" .malformed)).isOfFile = true := by
  have hcompile : Pattern.compile "(" = .error .malformed := by rfl
  have hfirst : ∀ r ∈ [patternRule "b" none], r.Compiles := by
    intro r hr pattern hpattern
    obtain rfl := List.mem_singleton.1 hr
    cases hpattern
  have hrule : ¬ (patternRule "a" (some "(")).Compiles := by
    intro h
    rcases h "(" rfl with ⟨p, hp⟩
    cases hp.symm.trans hcompile
  rcases validate_first_failure
    (ruledSkill [patternRule "b" none, patternRule "a" (some "("), patternRule "a" none,
    patternRule "b" none]) with ⟨-, -, hduplicate, -⟩
  rcases validate_first_failure (ruledSkill [patternRule "b" none, patternRule "a" (some "("),
    patternRule "c" (some ")")]) with ⟨-, -, -, hpattern, hlater, htold⟩
  -- the id that comes first is repeated last
  have hrepeated : FirstRepeated ["b", "a", "a", "b"] "a" := by
    refine firstRepeated_iff_append.2 ⟨["b", "a"], ["b"], rfl, by decide, by decide⟩
  have hfails := (hpattern "(" .malformed).2
    ⟨List.cons_ne_nil _ _, by decide, [patternRule "b" none], patternRule "a" (some "("),
      [patternRule "c" (some ")")],
      rfl, hfirst, rfl, hcompile⟩
  refine ⟨(hduplicate "a").2 ⟨List.cons_ne_nil _ _, hrepeated⟩, hfails, ?_,
    ((htold "(" .malformed).1 rfl).1⟩
  exact (hlater [patternRule "b" none] (patternRule "a" (some "(")) [patternRule "c" (some ")")]
    [patternRule "d" none]
    rfl hfirst hrule (by decide) (by decide)).trans hfails

end Skill
end PatchReview
