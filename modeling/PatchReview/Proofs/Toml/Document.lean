import PatchReview.Proofs.Toml.Value

/-!
# Building TOML documents

A document that is built of values without long numbers has none either, and it is nested no deeper
than its keys are long and its values are nested.
-/

namespace PatchReview
namespace Toml

/-! ## Changes of tables -/

section Changes

variable {intoLists : Bool} {k : String} {ks : Key} {change : Entries → Option Entries}
  {entries changed : Entries}

/-- Behind the first name of a key a table is changed that is new, or is there, or is the last of a
list that is there. -/
theorem changeTable_cons_cases
    (h : changeTable intoLists (k :: ks) change entries = some changed) :
    (∃ inner, changeTable intoLists ks change [] = some inner ∧
      changed = setEntry k (.table inner) entries) ∨
    (∃ old inner, entries.lookup k = some (.table old) ∧
      changeTable intoLists ks change old = some inner ∧
      changed = setEntry k (.table inner) entries) ∨
    ∃ items old inner, entries.lookup k = some (.list items) ∧ items.getLast? = some (.table old) ∧
      changeTable intoLists ks change old = some inner ∧
      changed = setEntry k (.list (items.dropLast ++ [.table inner])) entries := by
  rw [changeTable] at h
  split at h
  · rcases Option.bind_eq_some_iff.1 h with ⟨inner, hinner, hset⟩
    exact .inl ⟨inner, hinner, (Option.some.inj hset).symm⟩
  · next old hold =>
    rcases Option.bind_eq_some_iff.1 h with ⟨inner, hinner, hset⟩
    exact .inr (.inl ⟨old, inner, hold, hinner, (Option.some.inj hset).symm⟩)
  · next items hitems =>
    split at h
    · next old hlast =>
      rcases Option.bind_eq_some_iff.1 h with ⟨inner, hinner, hset⟩
      exact .inr (.inr ⟨items, old, inner, hitems, hlast, hinner, (Option.some.inj hset).symm⟩)
    · cases h
  · cases h

end Changes

/-! ## Long numbers -/

/-- A change of entries brings in no long number. -/
def KeepsWritable (change : Entries → Option Entries) : Prop :=
  ∀ entries changed, WritableEntries entries → change entries = some changed →
    WritableEntries changed

/-- To change nothing keeps all numbers writable. -/
theorem keepsWritable_some : KeepsWritable some := by
  rintro entries _ h ⟨⟩
  exact h

/-- A change of a table inside is as safe as the change itself. -/
theorem keepsWritable_changeTable {change : Entries → Option Entries}
    (hchange : KeepsWritable change) (intoLists : Bool) (key : Key) :
    KeepsWritable (changeTable intoLists key change) := by
  -- along the key; each level puts a changed table back in the place of the old one
  induction key with
  | nil =>
    intro entries changed h hrun
    exact hchange entries changed h hrun
  | cons k ks ih =>
    intro entries changed h hrun
    rcases changeTable_cons_cases hrun with ⟨inner, hinner, rfl⟩ | ⟨old, inner, hold, hinner, rfl⟩ |
      ⟨items, old, inner, hitems, hlast, hinner, rfl⟩
    · exact h.setEntry (writable_table_iff.2 (ih [] inner .nil hinner)) k
    · have holdWritable := writable_table_iff.1 (h.of_lookup hold)
      exact h.setEntry (writable_table_iff.2 (ih old inner holdWritable hinner)) k
    · have hall := writable_list_iff.1 (h.of_lookup hitems)
      have holdWritable := writable_table_iff.1 (hall _ (List.mem_of_getLast? hlast))
      have hinnerWritable := writable_table_iff.2 (ih old inner holdWritable hinner)
      have hfront : ∀ v ∈ items.dropLast, v.Writable := fun v hv =>
        hall v (List.dropLast_subset items hv)
      exact h.setEntry (writable_list_iff.2
        (List.forall_mem_append.2 ⟨hfront, List.forall_mem_singleton.2 hinnerWritable⟩)) k

/-- A value that can be written may be added. -/
theorem keepsWritable_addEntry {v : Value} (hv : v.Writable) (name : String) :
    KeepsWritable (addEntry name v) := by
  intro entries changed h hrun
  rw [addEntry] at hrun
  split at hrun
  · cases hrun
  · cases hrun
    exact h.concat hv name

/-- A new table may be added, by itself or to a list of tables. -/
theorem keepsWritable_addTable (name : String) : KeepsWritable (addTable name) := by
  have htable : (Value.table []).Writable := writable_table_iff.2 .nil
  intro entries changed h hrun
  rw [addTable] at hrun
  split at hrun
  · cases hrun
    exact h.concat (writable_list_iff.2 (by simpa using htable)) name
  · next items hitems =>
    cases hrun
    have hold := writable_list_iff.1 (h.of_lookup hitems)
    exact h.setEntry (writable_list_iff.2
      (List.forall_mem_append.2 ⟨hold, List.forall_mem_singleton.2 htable⟩)) name
  · cases hrun

/-! ## Depth -/

/-- A change makes entries no deeper than a number, unless they were deeper before. -/
def DeepensTo (n : Nat) (change : Entries → Option Entries) : Prop :=
  ∀ entries changed m, n ≤ m → depthOfEntries entries ≤ m → change entries = some changed →
    depthOfEntries changed ≤ m

/-- An entry is no deeper than the entries it is among. -/
theorem depth_le_of_lookup {entries : Entries} {key : String} {v : Value} {m : Nat}
    (hentries : depthOfEntries entries ≤ m) (h : entries.lookup key = some v) : v.depth ≤ m :=
  (depthOfEntries_le_iff.1 hentries).of_lookup h

/-- Setting an entry keeps a bound on the depth that the new value keeps. -/
theorem depthOfEntries_setEntry_le {entries : Entries} {v : Value} {m : Nat}
    (hentries : depthOfEntries entries ≤ m) (hv : v.depth ≤ m) (key : String) :
    depthOfEntries (setEntry key v entries) ≤ m :=
  depthOfEntries_le_iff.2 ((depthOfEntries_le_iff.1 hentries).setEntry hv key)

/-- So does adding one at the end. -/
theorem depthOfEntries_concat_le {entries : Entries} {v : Value} {m : Nat}
    (hentries : depthOfEntries entries ≤ m) (hv : v.depth ≤ m) (name : String) :
    depthOfEntries (entries ++ [(name, v)]) ≤ m :=
  depthOfEntries_le_iff.2 ((depthOfEntries_le_iff.1 hentries).concat hv name)

theorem deepensTo_some : DeepensTo 0 some := by
  rintro entries _ m - h ⟨⟩
  exact h

/-- Adding a value makes a table as deep as the value. -/
theorem deepensTo_addEntry (name : String) (v : Value) : DeepensTo v.depth (addEntry name v) := by
  intro entries changed m hm h hrun
  rw [addEntry] at hrun
  split at hrun
  · cases hrun
  · cases hrun
    exact depthOfEntries_concat_le h hm name

/-- A list of tables is as deep as a list and a table. -/
theorem deepensTo_addTable (name : String) : DeepensTo 2 (addTable name) := by
  intro entries changed m hm h hrun
  obtain ⟨m, rfl⟩ : ∃ inside, m = inside + 1 := ⟨m - 1, by omega⟩
  have htable : (Value.table []).depth ≤ m := Nat.le_of_succ_le_succ hm
  rw [addTable] at hrun
  split at hrun
  · cases hrun
    exact depthOfEntries_concat_le h (depth_list_le_iff.2 (List.forall_mem_singleton.2 htable)) name
  · next items hitems =>
    cases hrun
    have hold := depth_list_le_iff.1 (depth_le_of_lookup h hitems)
    refine depthOfEntries_setEntry_le h (depth_list_le_iff.2 ?_) name
    exact List.forall_mem_append.2 ⟨hold, List.forall_mem_singleton.2 htable⟩
  · cases hrun

/-- A change behind a key deepens entries by a table for each name, which may stand in a list. -/
theorem deepensTo_changeTable {change : Entries → Option Entries} {n : Nat}
    (hchange : DeepensTo n change) (intoLists : Bool) (key : Key) :
    DeepensTo (2 * key.length + n) (changeTable intoLists key change) := by
  induction key with
  | nil =>
    intro entries changed m hm h hrun
    rw [List.length_nil, Nat.mul_zero, Nat.zero_add] at hm
    exact hchange entries changed m hm h hrun
  | cons k ks ih =>
    intro entries changed m hm h hrun
    rw [List.length_cons] at hm
    -- there is room for the table and for a list around it
    obtain ⟨m, rfl⟩ : ∃ inside, m = inside + 2 := ⟨m - 2, by omega⟩
    have hbehind : 2 * ks.length + n ≤ m := by omega
    have hlist {inner : Entries} (hinner : depthOfEntries inner ≤ m) :
        (Value.table inner).depth ≤ m + 1 := depth_table_le_iff.2 hinner
    rcases changeTable_cons_cases hrun with ⟨inner, hinner, rfl⟩ | ⟨old, inner, hold, hinner, rfl⟩ |
      ⟨items, old, inner, hitems, hlast, hinner, rfl⟩
    · have hdepth := ih [] inner m hbehind (Nat.zero_le m) hinner
      exact depthOfEntries_setEntry_le h (Nat.le_succ_of_le (hlist hdepth)) k
    · have hroom := depth_table_le_iff.1 (depth_le_of_lookup h hold)
      have hdepth := ih old inner (m + 1) (Nat.le_succ_of_le hbehind) hroom hinner
      exact depthOfEntries_setEntry_le h (depth_table_le_iff.2 hdepth) k
    · have hall := depth_list_le_iff.1 (depth_le_of_lookup h hitems)
      have hroom := depth_table_le_iff.1 (hall _ (List.mem_of_getLast? hlast))
      have hdepth := ih old inner m hbehind hroom hinner
      have hfront : ∀ v ∈ items.dropLast, v.depth ≤ m + 1 := fun v hv =>
        hall v (List.dropLast_subset items hv)
      exact depthOfEntries_setEntry_le h (depth_list_le_iff.2
        (List.forall_mem_append.2 ⟨hfront, List.forall_mem_singleton.2 (hlist hdepth)⟩)) k

/-! ## Documents -/

namespace Document

variable {d grown : Document} {key : Key}

/-- The part of a table starts in a document in which the table is there. -/
theorem entries_of_openTable (h : d.openTable key = .ok grown) :
    grown.header = key ∧ changeTable true key some d.entries = some grown.entries := by
  rw [openTable] at h
  split at h
  · cases h
  · dsimp only at h
    split at h
    · next hentries =>
      cases h
      exact ⟨rfl, hentries⟩
    · cases h

/-- The part of one more table of a list starts in a document in which the list has it. -/
theorem entries_of_openListed (h : d.openListed key = .ok grown) :
    grown.header = key ∧ ∃ name,
      changeTable true key.dropLast (addTable name) d.entries = some grown.entries := by
  rw [openListed] at h
  split at h
  · cases h
  · dsimp only at h
    split at h
    · next hentries =>
      cases h
      exact ⟨rfl, _, hentries⟩
    · cases h

/-- A value is added to a table under the header. -/
theorem entries_of_add {v : Value} (h : d.add key v = .ok grown) :
    grown.header = d.header ∧ ∃ name,
      changeTable true (d.header ++ key.dropLast) (addEntry name v) d.entries =
        some grown.entries := by
  rw [add] at h
  dsimp only at h
  split at h
  · cases h
  · split at h
    · cases h
    · split at h
      · next hentries =>
        cases h
        exact ⟨rfl, _, hentries⟩
      · cases h

end Document

end Toml
end PatchReview
