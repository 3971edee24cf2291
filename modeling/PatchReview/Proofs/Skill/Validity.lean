import Mathlib.Data.List.Nodup
import PatchReview.Proofs.Engine.Selection

/-!
# Valid skills

A skill is valid just if it has a trigger, no id stands twice among its rules and all of its
patterns compile. Whatever loading gives is valid, be it the skill of a single file or one of a
directory.
-/

namespace PatchReview
namespace Skill

/-- What is asked of a skill before it is run. -/
structure Valid (skill : Skill) : Prop where
  triggered : skill.triggers ≠ []
  nodup_ids : (skill.rules.map (·.id)).Nodup
  compiles : ∀ rule ∈ skill.rules, rule.Compiles

/-! ## The conditions one by one -/

/-- No text is repeated if all differ from one another and from those before. -/
theorem firstRepeated_eq_none_iff {seen texts : List String} :
    firstRepeated seen texts = none ↔ texts.Nodup ∧ ∀ text ∈ texts, text ∉ seen := by
  induction texts generalizing seen with
  | nil =>
    simp [firstRepeated]
  | cons text texts ih =>
    rw [firstRepeated]
    by_cases hseen : text ∈ seen
    · rw [if_pos (List.contains_iff_mem.2 hseen)]
      constructor
      · intro h
        cases h
      · rintro ⟨_, hnew⟩
        exact absurd hseen (hnew text List.mem_cons_self)
    · rw [if_neg (by simpa using hseen), ih, List.nodup_cons]
      constructor
      · rintro ⟨hrest, hnew⟩
        refine ⟨⟨fun hmem => hnew text hmem List.mem_cons_self, hrest⟩, ?_⟩
        intro other hother
        rcases List.mem_cons.1 hother with rfl | hmem
        · exact hseen
        · exact fun hold => hnew other hmem (List.mem_cons_of_mem _ hold)
      · rintro ⟨⟨hfirst, hrest⟩, hnew⟩
        refine ⟨hrest, fun other hmem hold => ?_⟩
        rcases List.mem_cons.1 hold with rfl | hold
        · exact hfirst hmem
        · exact hnew other (List.mem_cons_of_mem _ hmem) hold

/-! ## Validation -/

/-- Validation accepts just the valid skills. -/
theorem validate_eq_ok_iff {skill : Skill} : validate skill = .ok () ↔ skill.Valid := by
  constructor
  · intro h
    have hcompiles := compiles_of_validate h
    rw [validate] at h
    split at h
    · cases h
    · rename_i htriggers
      split at h
      · cases h
      · rename_i hids
        exact ⟨by simpa using htriggers, (firstRepeated_eq_none_iff.1 hids).1, hcompiles⟩
  · rintro ⟨htriggers, hids, hcompiles⟩
    have hnone : firstRepeated [] (skill.rules.map (·.id)) = none :=
      firstRepeated_eq_none_iff.2 ⟨hids, fun _ _ => List.not_mem_nil⟩
    rw [validate, if_neg (by simpa using htriggers), hnone,
      firstBadPattern_eq_none_iff.2 hcompiles]

/-- The skills that loading gives: those of files, and those of directories. -/
inductive Loadable : Skill → Prop where
  | ofFile {d : Disk} {path : DiskPath} {l : Loaded} (h : load d path = .ok l) : Loadable l.skill
  | ofDirectory {directory : DiskPath} {desk desk' : Desk} {loaded : List Loaded}
      (h : (loadAll directory).runOn desk = (.ok loaded, desk')) {l : Loaded} (hl : l ∈ loaded) :
      Loadable l.skill

/-- Whatever is loaded is valid. -/
theorem Loadable.valid {skill : Skill} (h : skill.Loadable) : skill.Valid := by
  cases h with
  | ofFile h =>
    exact validate_eq_ok_iff.1 (validate_of_load h)
  | ofDirectory h hl =>
    exact validate_eq_ok_iff.1 (validate_of_mem_loadAll h hl)

/-- Where no id stands twice, a rule is the only one with its id. -/
theorem filter_id_of_nodup {rules : List Rule} (h : (rules.map (·.id)).Nodup) {rule : Rule}
    (hrule : rule ∈ rules) : rules.filter (·.id == rule.id) = [rule] := by
  induction rules with
  | nil =>
    cases hrule
  | cons first rules ih =>
    rw [List.map_cons, List.nodup_cons] at h
    rcases List.mem_cons.1 hrule with rfl | hmem
    · have hothers : rules.filter (·.id == rule.id) = [] := by
        refine List.filter_eq_nil_iff.2 fun other hother => ?_
        have hne : other.id ≠ rule.id := fun heq => h.1 (heq ▸ List.mem_map_of_mem hother)
        simpa using hne
      rw [List.filter_cons_of_pos (by simp), hothers]
    · have hne : first.id ≠ rule.id := fun heq => h.1 (heq ▸ List.mem_map_of_mem hmem)
      rw [List.filter_cons_of_neg (by simpa using hne), ih h.2 hmem]

end Skill
end PatchReview
