import PatchReview.Config.Loading
import PatchReview.Proofs.Toml.Parsing

/-!
# Errors of configurations

Most errors of a configuration are told to the user as such. The others come up just if the system
does not say what is at the path of its file, if the bytes of the file are no text, if its text has
a number with too many digits or is nested too deep to be read, or if it asks for the text of a
value that has too many digits or is nested too deep to be written. A text is loaded without these
if it has no long runs of letters and digits, and few brackets and points.
-/

namespace PatchReview
namespace Config

/-! ## Errors that are not told -/

/-- There is an error that is not told as one of the configuration. -/
def Unreported {α : Type} (x : Except ConfigError α) : Prop :=
  ∃ error, x = .error error ∧ error.isReported = false

section Unreported

variable {α β : Type}

theorem not_unreported_ok (a : α) : ¬ Unreported (.ok a) := by
  rintro ⟨_, h, _⟩
  cases h

/-- An error goes unreported if it is none of those that are told. -/
theorem unreported_error_iff {error : ConfigError} :
    Unreported (.error error : Except ConfigError α) ↔ error.isReported = false := by
  constructor
  · rintro ⟨_, h, hreported⟩
    cases h
    exact hreported
  · intro h
    exact ⟨error, rfl, h⟩

/-- Two steps go unreported if the first does, or the second after it. -/
theorem unreported_bind_iff {x : Except ConfigError α} {next : α → Except ConfigError β} :
    Unreported (x >>= next) ↔ Unreported x ∨ ∃ a, x = .ok a ∧ Unreported (next a) := by
  cases x with
  | ok a =>
    constructor
    · intro h
      exact .inr ⟨a, rfl, h⟩
    · rintro (h | ⟨_, ha, h⟩)
      · exact absurd h (not_unreported_ok a)
      · cases ha
        exact h
  | error error =>
    have hstop : (.error error >>= next) = (.error error : Except ConfigError β) := rfl
    rw [hstop, unreported_error_iff, unreported_error_iff]
    simp

end Unreported

/-! ## Documents -/

variable {bounds : Bounds}

/-- The text of a value can be asked for: there is room for what is inside of it, and no number in
it has more digits than can be written. -/
structure Bounds.Writes (bounds : Bounds) (v : Toml.Value) : Prop where
  room : v.depth ≤ bounds.writing v
  writable : v.Writable

theorem Bounds.writes_text (bounds : Bounds) (s : String) : bounds.Writes (.text s) :=
  ⟨Nat.zero_le _, Toml.short_nil⟩

/-- A value is put into an error as its text, if there is room for it and its numbers are short. -/
theorem plainText_eq_ok {v : Toml.Value} {text : String} :
    plainText bounds v = .ok text ↔ v.depth ≤ bounds.writing v ∧ v.plain = .ok text := by
  by_cases hroom : v.depth ≤ bounds.writing v
  · rw [plainText, if_pos hroom, mapError_eq_ok_iff, and_iff_right hroom]
  · rw [plainText, if_neg hroom]
    exact iff_of_false (by simp) fun h => hroom h.1

theorem plainText_eq_ok_iff {v : Toml.Value} :
    (∃ text, plainText bounds v = .ok text) ↔ bounds.Writes v := by
  simp only [plainText_eq_ok, exists_and_left, Toml.exists_plain_iff]
  exact ⟨fun h => ⟨h.1, h.2⟩, fun h => ⟨h.room, h.writable⟩⟩

/-- To put it there goes unreported otherwise. -/
theorem unreported_plainText_iff {v : Toml.Value} :
    Unreported (plainText bounds v) ↔ ¬ bounds.Writes v := by
  rw [← plainText_eq_ok_iff]
  by_cases hroom : v.depth ≤ bounds.writing v
  · rw [plainText, if_pos hroom]
    cases v.plain with
    | ok text => simp [not_unreported_ok]
    | error error =>
      rw [mapError_error, unreported_error_iff]
      simp [ConfigError.isReported]
  · rw [plainText, if_neg hroom, unreported_error_iff]
    simp [ConfigError.isReported]

theorem not_unreported_sectionOf (entries : Toml.Entries) (name : String) :
    ¬ Unreported (sectionOf entries name) := by
  unfold sectionOf
  split
  · exact not_unreported_ok _
  · exact not_unreported_ok _
  · simp [unreported_error_iff, ConfigError.isReported]

section Chosen

variable {α : Type} {ofName? : String → Option α} {default : α} {error : String → ConfigError}

/-- The text of a value that names nothing is asked for, to be told. -/
theorem unreported_chosen_iff (herror : ∀ word, (error word).isReported = true)
    {v? : Option Toml.Value} :
    Unreported (chosen bounds ofName? default error v?) ↔ ∃ v, v? = some v ∧ ¬ bounds.Writes v := by
  have hthrow (v : Toml.Value) :
      Unreported (plainText bounds v >>= fun text => (.error (error text) : Except ConfigError α)) ↔
        ¬ bounds.Writes v := by
    rw [unreported_bind_iff, unreported_plainText_iff]
    simp [unreported_error_iff, herror]
  cases v? with
  | none =>
    simp [chosen, not_unreported_ok]
  | some v =>
    simp only [Option.some.injEq, exists_eq_left']
    cases v with
    | text s =>
      rw [chosen]
      cases hname : ofName? s with
      | some a => exact iff_of_false (not_unreported_ok a) (not_not_intro (bounds.writes_text s))
      | none => exact hthrow (.text s)
    | _ => exact hthrow _

/-- A choice is made if the value, where there is one, names it. -/
theorem exists_chosen_iff {v? : Option Toml.Value} :
    (∃ a, chosen bounds ofName? default error v? = .ok a) ↔
      ∀ v, v? = some v → ∃ word a, v = .text word ∧ ofName? word = some a := by
  have hthrow (v : Toml.Value) :
      ¬ ∃ a : α, (plainText bounds v >>= fun text => .error (error text)) = .ok a := by
    simp [bind_eq_ok_iff]
  cases v? with
  | none =>
    simp [chosen]
  | some v =>
    cases v with
    | text s =>
      rw [chosen]
      cases hname : ofName? s with
      | some a => simp [hname]
      | none =>
        refine iff_of_false (hthrow (.text s)) fun h => ?_
        rcases h _ rfl with ⟨word, a, hword, ha⟩
        cases hword
        cases hname.symm.trans ha
    | _ =>
      -- no other value names anything
      refine iff_of_false (hthrow _) fun h => ?_
      rcases h _ rfl with ⟨word, _, hword, _⟩
      cases hword

end Chosen

/-- A document asks for the text of a value that cannot be written: its version, or a word of its
output that names nothing, unless another error comes first. -/
inductive AsksTooMuch (bounds : Bounds) (entries : Toml.Entries) : Prop where
  | version {v : Toml.Value} (h : entries.lookup "version" = some v) (hv : ¬ bounds.Writes v)
  | format {skills engine output : Toml.Entries} {v : Toml.Value}
    (hskills : sectionOf entries "skills" = .ok skills)
    (hengine : sectionOf entries "engine" = .ok engine)
    (houtput : sectionOf entries "output" = .ok output)
    (h : output.lookup "format" = some v) (hv : ¬ bounds.Writes v)
  | failOn {skills engine output : Toml.Entries} {v : Toml.Value}
    (hskills : sectionOf entries "skills" = .ok skills)
    (hengine : sectionOf entries "engine" = .ok engine)
    (houtput : sectionOf entries "output" = .ok output)
    (hformat : ∀ w, output.lookup "format" = some w →
      ∃ word format, w = .text word ∧ OutputFormat.ofName? word = some format)
    (h : output.lookup "fail_on" = some v) (hv : ¬ bounds.Writes v)

/-- Entries go unreported if an error about them asks for too much. -/
theorem unreported_ofEntries_iff {entries : Toml.Entries} :
    Unreported (ofEntries bounds entries) ↔ AsksTooMuch bounds entries := by
  rw [ofEntries]
  dsimp only
  simp only [unreported_bind_iff, unreported_plainText_iff, not_unreported_sectionOf, false_or]
  constructor
  · rintro (hversion | ⟨version, -, skills, hskills, engine, hengine, output, houtput,
      hformat | ⟨format, hformat, hfailOn | ⟨failOn, -, hrest⟩⟩⟩)
    · cases hlookup : entries.lookup "version" with
      | none =>
        rw [hlookup] at hversion
        exact absurd (bounds.writes_text _) hversion
      | some v =>
        rw [hlookup] at hversion
        exact .version hlookup hversion
    · rcases (unreported_chosen_iff fun _ => rfl).1 hformat with ⟨v, hv, hnot⟩
      exact .format hskills hengine houtput hv hnot
    · rcases (unreported_chosen_iff fun _ => rfl).1 hfailOn with ⟨v, hv, hnot⟩
      exact .failOn hskills hengine houtput (exists_chosen_iff.1 ⟨format, hformat⟩) hv hnot
    · -- the errors about workers and enabled skills are told
      exfalso
      rcases hrest with ⟨error, herror, hreported⟩
      split at herror
      · cases herror
        cases hreported
      · split at herror
        · cases herror
        · cases herror
        · cases herror
          cases hreported
  · intro h
    -- the version is asked for first, and may be too long beside a word of the output
    by_cases hversion : bounds.Writes ((entries.lookup "version").getD (.text "1.0"))
    · rcases plainText_eq_ok_iff.2 hversion with ⟨version, hplain⟩
      rcases h with ⟨hlookup, hv⟩ | ⟨hskills, hengine, houtput, hlookup, hv⟩ |
        ⟨hskills, hengine, houtput, hformat, hlookup, hv⟩
      · rw [hlookup] at hversion
        exact absurd hversion hv
      · exact .inr ⟨version, hplain, _, hskills, _, hengine, _, houtput,
          .inl ((unreported_chosen_iff fun _ => rfl).2 ⟨_, hlookup, hv⟩)⟩
      · rcases exists_chosen_iff.2 hformat with ⟨format, hformat⟩
        exact .inr ⟨version, hplain, _, hskills, _, hengine, _, houtput,
          .inr ⟨format, hformat, .inl ((unreported_chosen_iff fun _ => rfl).2 ⟨_, hlookup, hv⟩)⟩⟩
    · exact .inl hversion

/-! ## Files -/

section Load

variable {d : Disk} {environment : Environment} {base : DiskPath} {asked : String}

/-- From a file that can be read comes what its bytes hold, with the environment put in its
place. -/
theorem load_of_file {path : DiskPath} {bytes : List UInt8}
    (hfind : find bounds d base asked = .ok (some path)) (hread : d.read path = .ok bytes)
    (environment : Environment) :
    load bounds d environment base asked =
      (override · environment) <$> ofBytes bounds path bytes := by
  rw [load, hfind]
  show ((d.read path).mapError (ConfigError.unreadable path) >>= fun bytes => _) = _
  rw [hread]
  rfl

end Load

end Config
end PatchReview
