import PatchReview.Proofs.Work
import PatchReview.Toml.Document

/-!
# Numbers in TOML values

The whole numbers of a value decide whether its text can be written. Lists and tables have long
numbers, and are nested, just as their parts are.
-/

namespace PatchReview
namespace Toml

mutual

def Value.ints : Value → List Int
  | .int n => [n]
  | .list items => intsOfItems items
  | .table entries => intsOfEntries entries
  | _ => []

def intsOfItems : List Value → List Int
  | [] => []
  | v :: rest => v.ints ++ intsOfItems rest

def intsOfEntries : List (String × Value) → List Int
  | [] => []
  | (_, v) :: rest => v.ints ++ intsOfEntries rest

end

/-- No number of some has more digits than can be written. -/
def Short (ns : List Int) : Prop := ∀ n ∈ ns, n.natAbs < Decimal.numberLimit

/-- No whole number in a value has more digits than can be written. -/
def Value.Writable (v : Value) : Prop := Short v.ints

/-- Numbers are short if those of both parts are. -/
theorem short_append {ms ns : List Int} : Short (ms ++ ns) ↔ Short ms ∧ Short ns := by
  simp only [Short, List.mem_append]
  constructor
  · intro h
    exact ⟨fun n hn => h n (.inl hn), fun n hn => h n (.inr hn)⟩
  · rintro ⟨hms, hns⟩ n (hn | hn)
    · exact hms n hn
    · exact hns n hn

theorem short_nil : Short [] := by
  intro n hn
  cases hn

/-! ## Writing -/

/-- Something is written just if a condition holds. -/
def WrittenIff {α : Type} (x : Except Decimal.LimitError α) (P : Prop) : Prop :=
  (∃ a, x = .ok a) ↔ P

/-- What takes two steps can be written if both can. -/
theorem writtenIff_bind {α β : Type} {x : Except Decimal.LimitError α}
    {next : α → Except Decimal.LimitError β} {P Q : Prop} (hx : WrittenIff x P)
    (hnext : ∀ a, WrittenIff (next a) Q) : WrittenIff (x >>= next) (P ∧ Q) := by
  unfold WrittenIff at *
  simp only [bind_eq_ok_iff]
  constructor
  · rintro ⟨b, a, ha, hb⟩
    exact ⟨hx.1 ⟨a, ha⟩, (hnext a).1 ⟨b, hb⟩⟩
  · rintro ⟨hP, hQ⟩
    rcases hx.2 hP with ⟨a, ha⟩
    rcases (hnext a).2 hQ with ⟨b, hb⟩
    exact ⟨b, a, ha, hb⟩

theorem writtenIff_ok {α : Type} (a : α) : WrittenIff (.ok a) True :=
  ⟨fun _ => trivial, fun _ => ⟨a, rfl⟩⟩

/-- A number can be written if it is short. -/
theorem writtenIff_writeInt (n : Int) : WrittenIff (Decimal.writeInt n) (Short [n]) := by
  rw [WrittenIff, Decimal.writeInt, Short, List.forall_mem_singleton]
  split
  · next h => exact ⟨fun _ => h, fun _ => ⟨_, rfl⟩⟩
  · next h =>
    refine ⟨?_, fun hlt => absurd hlt h⟩
    rintro ⟨_, hok⟩
    cases hok

/-- The condition may be put in other words. -/
theorem WrittenIff.congr {α : Type} {x : Except Decimal.LimitError α} {P Q : Prop}
    (h : WrittenIff x P) (hPQ : P ↔ Q) : WrittenIff x Q :=
  Iff.trans h hPQ

mutual

/-- A value can be written if its numbers can. -/
theorem writtenIff_literal : ∀ v : Value, WrittenIff v.literal v.Writable
  | .text _ => (writtenIff_ok _).congr (iff_of_true trivial short_nil)
  | .int n => by
    rw [Value.literal, Value.Writable, Value.ints]
    exact writtenIff_writeInt n
  | .float _ => (writtenIff_ok _).congr (iff_of_true trivial short_nil)
  | .bool _ => (writtenIff_ok _).congr (iff_of_true trivial short_nil)
  | .moment _ => (writtenIff_ok _).congr (iff_of_true trivial short_nil)
  | .list items => by
    rw [Value.literal, Value.Writable, Value.ints]
    exact (writtenIff_bind (writtenIff_literals items) fun _ => writtenIff_ok _).congr
      (iff_of_eq (and_true _))
  | .table entries => by
    rw [Value.literal, Value.Writable, Value.ints]
    exact (writtenIff_bind (writtenIff_entryLiterals entries) fun _ => writtenIff_ok _).congr
      (iff_of_eq (and_true _))

theorem writtenIff_literals :
    ∀ items : List Value, WrittenIff (literals items) (Short (intsOfItems items))
  | [] => (writtenIff_ok _).congr (iff_of_true trivial short_nil)
  | v :: rest => by
    rw [literals, intsOfItems, short_append]
    exact (writtenIff_bind (writtenIff_literal v) fun _ =>
      writtenIff_bind (writtenIff_literals rest) fun _ =>
      writtenIff_ok _).congr (and_congr_right fun _ => iff_of_eq (and_true _))

theorem writtenIff_entryLiterals :
    ∀ entries : List (String × Value),
      WrittenIff (entryLiterals entries) (Short (intsOfEntries entries))
  | [] => (writtenIff_ok _).congr (iff_of_true trivial short_nil)
  | (_, v) :: rest => by
    rw [entryLiterals, intsOfEntries, short_append]
    exact (writtenIff_bind (writtenIff_literal v) fun _ =>
      writtenIff_bind (writtenIff_entryLiterals rest) fun _ =>
      writtenIff_ok _).congr (and_congr_right fun _ => iff_of_eq (and_true _))

end

/-- The plain text of a value can be written just if its whole numbers can. -/
theorem exists_plain_iff (v : Value) : (∃ text, v.plain = .ok text) ↔ v.Writable := by
  cases v with
  | text _ => exact iff_of_true ⟨_, rfl⟩ short_nil
  | moment _ => exact iff_of_true ⟨_, rfl⟩ short_nil
  | _ => exact writtenIff_literal _

/-! ## Parts of values -/

/-- The numbers of a list are those of its items. -/
theorem short_intsOfItems_iff {items : List Value} :
    Short (intsOfItems items) ↔ ∀ v ∈ items, v.Writable := by
  induction items with
  | nil => exact iff_of_true short_nil (by simp)
  | cons v rest ih => rw [intsOfItems, short_append, ih, List.forall_mem_cons, Value.Writable]

/-- All values of some entries have a property. -/
def Throughout (P : Value → Prop) (entries : Entries) : Prop := ∀ entry ∈ entries, P entry.2

/-- No whole number in some entries has more digits than can be written. -/
abbrev WritableEntries : Entries → Prop := Throughout Value.Writable

/-- The numbers of a table are those of its entries. -/
theorem short_intsOfEntries_iff {entries : Entries} :
    Short (intsOfEntries entries) ↔ WritableEntries entries := by
  unfold WritableEntries Throughout
  induction entries with
  | nil => exact iff_of_true short_nil (by simp)
  | cons entry rest ih =>
    rw [intsOfEntries, short_append, ih, List.forall_mem_cons, Value.Writable]

/-- A list can be written if each of its items can. -/
theorem writable_list_iff {items : List Value} :
    (Value.list items).Writable ↔ ∀ v ∈ items, v.Writable := by
  rw [Value.Writable, Value.ints, short_intsOfItems_iff]

/-- A table can be written if each of its entries can. -/
theorem writable_table_iff {entries : Entries} :
    (Value.table entries).Writable ↔ WritableEntries entries := by
  rw [Value.Writable, Value.ints, short_intsOfEntries_iff]

/-- A list is as deep inside as its deepest item. -/
theorem depthOfItems_le_iff {items : List Value} {n : Nat} :
    depthOfItems items ≤ n ↔ ∀ v ∈ items, v.depth ≤ n := by
  induction items with
  | nil => exact iff_of_true (Nat.zero_le n) (by simp)
  | cons v rest ih => rw [depthOfItems, Nat.max_le, ih, List.forall_mem_cons]

/-- A table is as deep inside as its deepest entry, however the entries are nested. -/
theorem depthOfEntries_le_iff {entries : Entries} {n : Nat} :
    depthOfEntries entries ≤ n ↔ Throughout (·.depth ≤ n) entries := by
  unfold Throughout
  induction entries with
  | nil => exact iff_of_true (Nat.zero_le n) (by simp)
  | cons entry rest ih => rw [depthOfEntries, Nat.max_le, ih, List.forall_mem_cons]

/-- A list is one level deeper than its items. -/
theorem depth_list_le_iff {items : List Value} {n : Nat} :
    (Value.list items).depth ≤ n + 1 ↔ ∀ v ∈ items, v.depth ≤ n := by
  rw [Value.depth, Nat.add_le_add_iff_right, depthOfItems_le_iff]

/-- A table is one level deeper than its entries. -/
theorem depth_table_le_iff {entries : Entries} {n : Nat} :
    (Value.table entries).depth ≤ n + 1 ↔ depthOfEntries entries ≤ n := by
  rw [Value.depth, Nat.add_le_add_iff_right]

namespace Throughout

variable {P : Value → Prop} {entries : Entries}

theorem nil : Throughout P [] := by
  intro entry h
  cases h

/-- What holds throughout the entries holds of the one that is looked up. -/
theorem of_lookup (h : Throughout P entries) {key : String} {v : Value}
    (hv : entries.lookup key = some v) : P v := by
  induction entries with
  | nil =>
    cases hv
  | cons entry rest ih =>
    rw [List.lookup_cons] at hv
    split at hv
    · cases hv
      exact h _ List.mem_cons_self
    · exact ih (fun other hother => h other (List.mem_cons_of_mem _ hother)) hv

/-- An entry that has the property may be added. -/
theorem concat (h : Throughout P entries) {v : Value} (hv : P v) (key : String) :
    Throughout P (entries ++ [(key, v)]) :=
  List.forall_mem_append.2 ⟨h, List.forall_mem_singleton.2 hv⟩

/-- A value that is put in has the property as well as those that stay. -/
theorem setEntry (h : Throughout P entries) {v : Value} (hv : P v) (key : String) :
    Throughout P (setEntry key v entries) := by
  induction entries with
  | nil =>
    exact nil.concat hv key
  | cons entry rest ih =>
    rcases entry with ⟨k, old⟩
    have hrest : Throughout P rest := fun other hother => h other (List.mem_cons_of_mem _ hother)
    rw [Toml.setEntry]
    split
    · exact List.forall_mem_cons.2 ⟨hv, hrest⟩
    · exact List.forall_mem_cons.2 ⟨h _ List.mem_cons_self, ih hrest⟩

end Throughout

end Toml
end PatchReview
