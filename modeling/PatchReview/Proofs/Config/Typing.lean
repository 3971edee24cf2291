import PatchReview.Proofs.Config.Precedence

/-!
# The kinds of the values of a configuration

A document may have values of any kind. The form of the output, the severity and the number of
workers are looked at when a configuration is loaded, the other values are kept as they are: a
configuration has values of the right kinds just if its document has them wherever no variable of
the environment takes their place.
-/

namespace PatchReview

def Toml.Value.IsText (v : Toml.Value) : Prop := ∃ text, v = .text text

namespace Config

/-- The values of a configuration are of the kinds that belong there. Those of the other fields can
be no others. -/
structure WellTyped (config : Config) : Prop where
  directory : config.directory.IsText
  enabled : ∀ item ∈ config.enabled, item.IsText
  installDefaults : ∃ b, config.installDefaults = .bool b
  maxWorkers : ∃ n : Int, 1 ≤ n ∧ config.maxWorkers = .int n

/-- A document has values of the right kinds, but for those that a variable takes the place of. -/
structure SourcesTyped (environment : Environment) (entries : Toml.Entries) : Prop where
  directory : (∀ v, ¬ GivesDirectory environment v) →
    ∀ v, stated? entries "skills" "directory" = some v → v.IsText
  enabled : (∀ items, ¬ GivesEnabled environment items) →
    ∀ items, stated? entries "skills" "enabled" = some (.list items) → ∀ item ∈ items, item.IsText
  installDefaults : ∀ v, stated? entries "skills" "install_defaults" = some v → ∃ b, v = .bool b
  maxWorkers : (∀ v, ¬ GivesMaxWorkers environment v) →
    stated? entries "engine" "max_workers" ≠ some (.bool true)

/-- The first of some values is as it should be just if the one that is written is, unless another
is given. -/
theorem FirstOf.satisfies_iff {α : Type} {given written : α → Prop} {standard a : α} {P : α → Prop}
    (h : FirstOf given written standard a) (hgiven : ∀ b, given b → P b) (hstandard : P standard)
    (hunique : ∀ b c, written b → written c → b = c) :
    P a ↔ ((∀ b, ¬ given b) → ∀ b, written b → P b) := by
  cases h with
  | given h => exact iff_of_true (hgiven a h) fun hnone => absurd h (hnone a)
  | written hnone h =>
    constructor
    · intro hP _ b hb
      rwa [hunique b a hb h]
    · intro hP
      exact hP hnone a h
  | standard _ hnone => exact iff_of_true hstandard fun _ b hb => absurd hb (hnone b)

section Layered

variable {bounds : Bounds} {environment : Environment} {entries : Toml.Entries} {config : Config}

/-- The number of workers is a number of at least one, or it is true. -/
theorem Layered.maxWorkers_cases (h : Layered environment entries config)
    (hentries : Acceptable bounds entries) :
    config.maxWorkers = .bool true ∨ ∃ n : Int, 1 ≤ n ∧ config.maxWorkers = .int n := by
  have hlayers := h.maxWorkers
  generalize config.maxWorkers = v at hlayers ⊢
  cases hlayers with
  | given hgiven =>
    rcases hgiven with ⟨_, _, _, n, hn, rfl⟩
    exact .inr ⟨n, hn.2, rfl⟩
  | written _ hwritten => exact hentries.maxWorkers v hwritten
  | standard => exact .inr ⟨1, Int.le_refl 1, rfl⟩

/-- A configuration is well typed if the sources of its values are. -/
theorem Layered.wellTyped_iff (h : Layered environment entries config)
    (hentries : Acceptable bounds entries) :
    config.WellTyped ↔ SourcesTyped environment entries := by
  have hdirectory : config.directory.IsText ↔ ((∀ v, ¬ GivesDirectory environment v) →
      ∀ v, stated? entries "skills" "directory" = some v → v.IsText) := by
    refine h.directory.satisfies_iff ?_ ⟨_, rfl⟩ fun _ _ hb hc => Option.some.inj (hb.symm.trans hc)
    rintro v ⟨text, -, -, rfl⟩
    exact ⟨text, rfl⟩
  have henabled : (∀ item ∈ config.enabled, item.IsText) ↔
      ((∀ items, ¬ GivesEnabled environment items) →
      ∀ items, stated? entries "skills" "enabled" = some (.list items) → ∀ item ∈ items,
        item.IsText) := by
    refine h.enabled.satisfies_iff (P := fun items => ∀ item ∈ items, item.IsText) ?_
      (fun _ hitem => absurd hitem List.not_mem_nil) ?_
    · rintro items ⟨_, _, _, names, -, rfl⟩ item hitem
      rcases List.mem_map.1 hitem with ⟨name, -, rfl⟩
      exact ⟨name, rfl⟩
    · intro _ _ hb hc
      exact Toml.Value.list.inj (Option.some.inj (hb.symm.trans hc))
  have hinstall : (∃ b, config.installDefaults = .bool b) ↔
      ∀ v, stated? entries "skills" "install_defaults" = some v → ∃ b, v = .bool b := by
    refine (h.installDefaults.satisfies_iff (P := fun v => ∃ b, v = .bool b)
      (fun _ hno => absurd hno id) ⟨true, rfl⟩
      fun _ _ hb hc => Option.some.inj (hb.symm.trans hc)).trans ?_
    exact ⟨fun hP => hP fun _ => id, fun hP _ => hP⟩
  have hworkers : (∃ n : Int, 1 ≤ n ∧ config.maxWorkers = .int n) ↔
      ((∀ v, ¬ GivesMaxWorkers environment v) →
        stated? entries "engine" "max_workers" ≠ some (.bool true)) := by
    refine (h.maxWorkers.satisfies_iff (P := fun v => ∃ n : Int, 1 ≤ n ∧ v = .int n) ?_
      ⟨1, Int.le_refl 1, rfl⟩
      fun _ _ hb hc => Option.some.inj (hb.symm.trans hc)).trans ?_
    · rintro v ⟨_, _, _, n, hn, rfl⟩
      exact ⟨n, hn.2, rfl⟩
    · refine imp_congr_right fun _ => ⟨fun hP htrue => ?_, fun hP v hv => ?_⟩
      · rcases hP _ htrue with ⟨n, -, hn⟩
        cases hn
      · -- what is accepted is such a number or true
        refine (hentries.maxWorkers v hv).resolve_left ?_
        rintro rfl
        exact hP hv
  constructor
  · intro hconfig
    exact ⟨hdirectory.1 hconfig.directory, henabled.1 hconfig.enabled,
      hinstall.1 hconfig.installDefaults, hworkers.1 hconfig.maxWorkers⟩
  · intro hsources
    exact ⟨hdirectory.2 hsources.directory, henabled.2 hsources.enabled,
      hinstall.2 hsources.installDefaults, hworkers.2 hsources.maxWorkers⟩

end Layered

end Config
end PatchReview
