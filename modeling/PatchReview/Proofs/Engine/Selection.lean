import PatchReview.Proofs.Engine.Outcome
import PatchReview.Proofs.Skill.Isolation

/-!
# Selected skills

The skills that are asked for are found among the loaded ones, and loaded skills are valid. So every
pattern of a selected skill compiles, and the skills that are selected run without a fault.
-/

namespace PatchReview

/-! ## Valid skills -/

namespace Skill

/-- The pattern of a rule that does not compile, with the reason. -/
def Rule.failure? (rule : Rule) : Option (String × Pattern.PatternError) :=
  match rule.pattern with
  | none => none
  | some pattern =>
    match Pattern.compile pattern with
    | .ok _ => none
    | .error error => some (pattern, error)

/-- A rule fails with its own pattern, for the reason that compiling gives. -/
theorem Rule.failure?_eq_some_iff {rule : Rule} {pattern : String} {error : Pattern.PatternError} :
    rule.failure? = some (pattern, error) ↔
      rule.pattern = some pattern ∧ Pattern.compile pattern = .error error := by
  rw [failure?]
  cases rule.pattern with
  | none =>
    simp
  | some text =>
    dsimp only
    cases hcompile : Pattern.compile text with
    | ok p =>
      refine iff_of_false (by simp) ?_
      rintro ⟨heq, herror⟩
      cases heq
      cases hcompile.symm.trans herror
    | error reason =>
      constructor
      · rintro ⟨⟩
        exact ⟨rfl, hcompile⟩
      · rintro ⟨heq, herror⟩
        cases heq
        cases hcompile.symm.trans herror
        rfl

/-- A rule does not fail if its pattern compiles, or if it has none. -/
theorem Rule.failure?_eq_none_iff {rule : Rule} : rule.failure? = none ↔ rule.Compiles := by
  constructor
  · intro hnone pattern hpattern
    cases hcompile : Pattern.compile pattern with
    | ok p =>
      exact ⟨p, rfl⟩
    | error error =>
      cases hnone.symm.trans (failure?_eq_some_iff.2 ⟨hpattern, hcompile⟩)
  · intro hcompiles
    cases hfailure : rule.failure? with
    | none =>
      rfl
    | some failure =>
      rcases failure?_eq_some_iff.1 hfailure with ⟨hpattern, hcompile⟩
      rcases hcompiles failure.1 hpattern with ⟨p, hp⟩
      cases hp.symm.trans hcompile

/-- The pattern that is told is the first one with which a rule fails. -/
theorem firstBadPattern_eq_findSome? (rules : List Rule) :
    firstBadPattern rules = rules.findSome? Rule.failure? := by
  induction rules with
  | nil =>
    rfl
  | cons rule rules ih =>
    rw [firstBadPattern, List.findSome?_cons, Rule.failure?, ih]
    cases rule.pattern with
    | none =>
      rfl
    | some pattern =>
      dsimp only
      cases Pattern.compile pattern <;> rfl

/-- No pattern is told just if all compile. -/
theorem firstBadPattern_eq_none_iff {rules : List Rule} :
    firstBadPattern rules = none ↔ ∀ rule ∈ rules, rule.Compiles := by
  rw [firstBadPattern_eq_findSome?, List.findSome?_eq_none_iff]
  exact forall₂_congr fun _ _ => Rule.failure?_eq_none_iff

/-- The patterns of a valid skill compile. -/
theorem compiles_of_validate {skill : Skill} (h : validate skill = .ok ()) :
    ∀ rule ∈ skill.rules, rule.Compiles := by
  rw [validate] at h
  split at h
  · cases h
  · split at h
    · cases h
    · split at h
      · cases h
      · rename_i hnone
        exact firstBadPattern_eq_none_iff.1 hnone

/-- A skill that is loaded is valid. -/
theorem validate_of_load {d : Disk} {path : DiskPath} {loaded : Loaded}
    (h : load d path = .ok loaded) : validate loaded.skill = .ok () := by
  rw [load] at h
  rcases bind_eq_ok_iff.1 h with ⟨bytes, _, h⟩
  rcases bind_eq_ok_iff.1 h with ⟨skill, hskill, h⟩
  cases h
  rcases ofBytes_eq_ok_iff.1 hskill with ⟨_, _, _, _, _, hvalid⟩
  exact hvalid

/-- Accepting adds the skill of the outcome at most. -/
theorem mem_of_accept {outcome : Except LoadError Loaded} {loaded next : List Loaded}
    (h : accept loaded outcome = .ok next) {l : Loaded} (hl : l ∈ next) :
    l ∈ loaded ∨ .ok l = outcome := by
  cases outcome with
  | error error =>
    rw [accept] at h
    split at h
    · cases h
      exact .inl hl
    · cases h
  | ok new =>
    rw [accept] at h
    split at h
    · cases h
      exact .inl hl
    · cases h
      rcases List.mem_append.1 hl with hold | hnew
      · exact .inl hold
      · exact .inr (congrArg Except.ok (List.mem_singleton.1 hnew))

/-- What is accepted was loaded before or is the outcome of a file. -/
theorem mem_of_foldlM_accept {outcomes : List (Except LoadError Loaded)}
    {loaded result : List Loaded} (h : outcomes.foldlM accept loaded = .ok result) {l : Loaded}
    (hl : l ∈ result) : l ∈ loaded ∨ .ok l ∈ outcomes := by
  induction outcomes generalizing loaded with
  | nil =>
    cases h
    exact .inl hl
  | cons outcome outcomes ih =>
    rw [List.foldlM_cons] at h
    rcases bind_eq_ok_iff.1 h with ⟨next, hstep, h⟩
    rcases ih h with hmem | hrest
    · rcases mem_of_accept hstep hmem with hold | heq
      · exact .inl hold
      · exact .inr (heq ▸ List.mem_cons_self)
    · exact .inr (List.mem_cons_of_mem _ hrest)

/-- Loaded skills are valid. -/
theorem validate_of_mem_loadAll {directory : DiskPath} {desk desk' : Desk} {loaded : List Loaded}
    (h : (loadAll directory).runOn desk = (.ok loaded, desk')) {l : Loaded} (hl : l ∈ loaded) :
    validate l.skill = .ok () := by
  rcases exists_runOn_loadAll directory desk with ⟨desk₁, hrun⟩
  rw [hrun] at h
  cases hplace : directory.expandHome? desk.disk.home with
  | none =>
    rw [hplace] at h
    cases h
  | some place =>
    rw [hplace] at h
    have hresult := mapError_eq_ok_iff.1 (congrArg Prod.fst h)
    rcases mem_of_foldlM_accept hresult hl with hnone | hmem
    · cases hnone
    · rcases List.mem_map.1 hmem with ⟨path, _, hload⟩
      exact validate_of_load hload

end Skill

/-! ## Selecting -/

namespace Request

/-- What is asked for is found among the loaded skills. -/
theorem mem_of_find? {request : Request} {loaded : List Skill.Loaded} {l : Skill.Loaded}
    (h : request.find? loaded = some l) : l ∈ loaded := by
  cases request with
  | name word =>
    exact List.mem_of_find?_eq_some h
  | stray shown mark =>
    cases h
  | unusable kind =>
    cases h

end Request

namespace Engine

/-- Requests select what they find, in their order. -/
theorem exists_runOn_foldlM_selectNext (loaded : List Skill.Loaded) (requests : List Request)
    (selected : List Skill.Loaded) (desk : Desk) :
    ∃ log, (requests.foldlM (selectNext loaded) selected).runOn desk =
      (.ok (selected ++ requests.filterMap (·.find? loaded)), { desk with log }) := by
  induction requests generalizing selected desk with
  | nil =>
    refine ⟨desk.log, ?_⟩
    rw [List.filterMap_nil, List.append_nil]
    rfl
  | cons request requests ih =>
    rw [List.foldlM_cons, selectNext]
    cases hfind : request.find? loaded with
    | some l =>
      rcases ih (selected ++ [l]) desk with ⟨log, hrun⟩
      refine ⟨log, ?_⟩
      rw [pure_bind, hrun, List.filterMap_cons_some hfind, List.append_assoc]
      rfl
    | none =>
      dsimp only
      rw [bind_assoc, Work.runOn_bind_of_ok (Work.runOn_tell _ _ desk), pure_bind,
        List.filterMap_cons_none hfind]
      exact ih selected _

/-- Loaded skills that are asked for are selected, in the order of the requests. -/
theorem exists_runOn_select {directory : DiskPath} {requests : List Request} {desk desk₁ : Desk}
    {loaded : List Skill.Loaded}
    (hload : (Skill.loadAll directory).runOn desk = (.ok loaded, desk₁))
    (husable : requests.findSome? Request.unusable? = none) :
    ∃ log, (select directory requests).runOn desk =
      (.ok ((Request.distinct requests).filterMap (·.find? loaded)), { desk₁ with log }) := by
  rw [select, Work.runOn_bind_of_ok hload, husable]
  exact exists_runOn_foldlM_selectNext loaded _ [] desk₁

/-- Selected skills are valid. -/
theorem validate_of_mem_select {directory : DiskPath} {requests : List Request} {desk desk' : Desk}
    {selected : List Skill.Loaded}
    (h : (select directory requests).runOn desk = (.ok selected, desk')) {l : Skill.Loaded}
    (hl : l ∈ selected) : Skill.validate l.skill = .ok () := by
  have hrun := h
  rw [select] at h
  rcases Work.runOn_bind_eq_ok_iff.1 h with ⟨loaded, desk₁, hload, h⟩
  cases husable : requests.findSome? Request.unusable? with
  | some kind =>
    rw [husable] at h
    cases h
  | none =>
    -- The selection has one outcome only, and it is known.
    rcases exists_runOn_select hload husable with ⟨log, hselect⟩
    cases hselect.symm.trans hrun
    rcases List.mem_filterMap.1 hl with ⟨request, _, hfind⟩
    exact Skill.validate_of_mem_loadAll hload (Request.mem_of_find? hfind)

/-- The patterns of the skills that are to run compile. -/
theorem compiles_of_mem_requested {directory : DiskPath} {requests : List Request}
    {desk desk' : Desk} {selected : List Skill.Loaded}
    (h : (requested directory requests).runOn desk = (.ok selected, desk')) :
    ∀ skill ∈ selected.map (·.skill), ∀ rule ∈ skill.rules, rule.Compiles := by
  intro skill hskill
  rcases List.mem_map.1 hskill with ⟨l, hl, rfl⟩
  rw [requested] at h
  rcases Work.runOn_bind_eq_ok_iff.1 h with ⟨place, _, _, h⟩
  split at h
  · cases h
    cases hl
  · exact Skill.compiles_of_validate (validate_of_mem_select h hl)

end Engine
end PatchReview
