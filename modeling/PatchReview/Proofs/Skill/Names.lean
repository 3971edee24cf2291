import Mathlib.Data.List.Induction
import PatchReview.Proofs.Skill.Isolation

/-!
# Names of loaded skills

Of several skills with one name the first that is loaded keeps it, so the skills of a directory are
those of its files whose name no file before them has. The same order of first occurrences is that
of requests for skills.
-/

namespace PatchReview

/-! ## The first of each key -/

section FirstOfEach

variable {α κ : Type} [DecidableEq κ]

/-- The items whose key none of those before them has. -/
def firstOfEach (key : α → κ) (items : List α) : List α :=
  (items.zipIdx.filter fun e => decide (key e.1 ∉ (items.take e.2).map key)).map (·.1)

/-- Another item at the end is kept if its key is new. -/
theorem firstOfEach_concat (key : α → κ) (items : List α) (item : α) :
    firstOfEach key (items ++ [item]) =
      if key item ∈ items.map key then firstOfEach key items else firstOfEach key items ++
        [item] := by
  -- What stands before an earlier item does not change.
  have hearlier :
      (items.zipIdx.filter fun e => decide (key e.1 ∉ ((items ++ [item]).take e.2).map key)) =
      items.zipIdx.filter fun e => decide (key e.1 ∉ (items.take e.2).map key) := by
    refine List.filter_congr fun e he => ?_
    have hlt : e.2 ≤ items.length := by
      have := List.snd_lt_of_mem_zipIdx he
      omega
    rw [List.take_append_of_le_length hlt]
  have hlast : (items ++ [item]).take items.length = items := List.take_left
  rw [firstOfEach, List.zipIdx_append, List.filter_append, hearlier, List.map_append,
    List.zipIdx_singleton, Nat.zero_add]
  by_cases hold : key item ∈ items.map key
  · rw [if_pos hold, List.filter_cons_of_neg (by simpa [hlast] using hold), List.filter_nil,
      List.map_nil, List.append_nil, firstOfEach]
  · rw [if_neg hold, List.filter_cons_of_pos (by simpa [hlast] using hold), List.filter_nil,
      List.map_singleton, firstOfEach]

/-- Keeping the first of each key loses no key. -/
theorem mem_map_firstOfEach {key : α → κ} {items : List α} {k : κ} :
    k ∈ (firstOfEach key items).map key ↔ k ∈ items.map key := by
  induction items using List.reverseRecOn with
  | nil =>
    rfl
  | append_singleton items item ih =>
    rw [firstOfEach_concat]
    split
    · rename_i hold
      rw [ih, List.map_append, List.mem_append, List.map_singleton, List.mem_singleton]
      exact ⟨.inl, fun h => h.elim id fun heq => heq ▸ hold⟩
    · simp [List.mem_append, ih]

theorem mem_firstOfEach_id {names : List κ} {name : κ} :
    name ∈ firstOfEach id names ↔ name ∈ names := by
  have hmem : name ∈ (firstOfEach id names).map id ↔ name ∈ names.map id := mem_map_firstOfEach
  rwa [List.map_id, List.map_id] at hmem

/-- No key is kept twice. -/
theorem nodup_map_firstOfEach (key : α → κ) (items : List α) :
    ((firstOfEach key items).map key).Nodup := by
  induction items using List.reverseRecOn with
  | nil =>
    exact List.nodup_nil
  | append_singleton items item ih =>
    rw [firstOfEach_concat]
    split
    · exact ih
    · rename_i hnew
      rw [List.map_append, List.map_singleton]
      refine List.nodup_append.2 ⟨ih, List.nodup_singleton _, ?_⟩
      intro k hk k' hk' heq
      rw [List.mem_singleton] at hk'
      exact hnew (hk' ▸ heq ▸ mem_map_firstOfEach.1 hk)

end FirstOfEach

namespace Skill

/-! ## Accepted skills -/

/-- A loaded skill remembers its file. -/
theorem source_of_load {d : Disk} {path : DiskPath} {new : Loaded} (h : load d path = .ok new) :
    new.source = path := by
  rw [load] at h
  rcases bind_eq_ok_iff.1 h with ⟨_, _, h⟩
  rcases bind_eq_ok_iff.1 h with ⟨_, _, h⟩
  cases h
  rfl

/-- Nothing has a name that no loaded skill has. -/
theorem named?_eq_none_iff {name : String} {loaded : List Loaded} :
    named? name loaded = none ↔ name ∉ loaded.map (·.skill.name) := by
  rw [named?, List.find?_eq_none, List.mem_map]
  simp

/-- What is looked up by a name has it. -/
theorem name_of_named? {name : String} {loaded : List Loaded} {l : Loaded}
    (h : named? name loaded = some l) : l.skill.name = name := by
  simpa using List.find?_some h

/-- Files are accepted as the skills that they hold, the first of each name. -/
theorem foldlM_accept_eq {outcomes : List (Except LoadError Loaded)} {result : List Loaded}
    (h : outcomes.foldlM accept [] = .ok result) :
    result = firstOfEach (·.skill.name) (outcomes.filterMap Except.toOption) := by
  induction outcomes using List.reverseRecOn generalizing result with
  | nil =>
    cases h
    rfl
  | append_singleton outcomes outcome ih =>
    rw [List.foldlM_append] at h
    rcases bind_eq_ok_iff.1 h with ⟨loaded, hloaded, hlast⟩
    rw [List.foldlM_cons] at hlast
    rcases bind_eq_ok_iff.1 hlast with ⟨next, hnext, hdone⟩
    cases hdone
    have hfirst := ih hloaded
    rw [List.filterMap_append]
    cases outcome with
    | error error =>
      rw [accept] at hnext
      split at hnext
      · cases hnext
        exact hfirst.trans (congrArg _ (List.append_nil _).symm)
      · cases hnext
    | ok new =>
      have hnew : [Except.ok new].filterMap (Except.toOption (ε := LoadError)) = [new] := rfl
      -- The name is taken among the accepted skills just if it is among all that came before.
      have htaken : named? new.skill.name loaded = none ↔
          new.skill.name ∉ (outcomes.filterMap Except.toOption).map (·.skill.name) := by
        rw [named?_eq_none_iff, hfirst, mem_map_firstOfEach]
      rw [hnew, firstOfEach_concat, ← hfirst]
      rw [accept] at hnext
      cases hnamed : named? new.skill.name loaded with
      | none =>
        rw [hnamed] at hnext
        cases hnext
        rw [if_neg (htaken.1 hnamed)]
      | some old =>
        rw [hnamed] at hnext
        cases hnext
        have hold : new.skill.name ∈ (outcomes.filterMap Except.toOption).map (·.skill.name) := by
          by_contra hnone
          rw [htaken.2 hnone] at hnamed
          cases hnamed
        rw [if_pos hold]

/-- The skills that are loaded from a directory have names of their own. -/
theorem nodup_of_loadAll {directory : DiskPath} {desk desk' : Desk} {loaded : List Loaded}
    (h : (loadAll directory).runOn desk = (.ok loaded, desk')) :
    (loaded.map (·.skill.name)).Nodup := by
  rcases exists_runOn_loadAll directory desk with ⟨desk₁, hrun⟩
  rw [hrun] at h
  cases hplace : directory.expandHome? desk.disk.home with
  | none =>
    rw [hplace] at h
    cases h
  | some place =>
    rw [hplace] at h
    rw [foldlM_accept_eq (mapError_eq_ok_iff.1 (congrArg Prod.fst h))]
    exact nodup_map_firstOfEach _ _

end Skill
end PatchReview
