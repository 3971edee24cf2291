import PatchReview.Proofs.Decimal.Natural
import PatchReview.Proofs.Text.Pieces
import PatchReview.Proofs.Toml.Value
import PatchReview.Toml.Parser

/-!
# Reading TOML values without long numbers

Every reader leaves a rest of its text. Every number of a document is a run of letters, digits and
low lines. If no such run of a text is long, then every value of one piece that is read can be
written, and where there is none the text breaks a rule of TOML.
-/

namespace PatchReview
namespace Toml

/-! ## Runs of digits -/

/-- A character that a number is written with behind its sign: a digit, the letter of a base or a
digit of it, or a low line between digits. -/
def isNumeral (c : Char) : Bool := c.isAlphanum || c == '_'

/-- No run of letters, digits and low lines in a text is long. -/
def ShortRuns (s : List Char) : Prop :=
  ∀ run, run <:+: s → (∀ c ∈ run, isNumeral c = true) → run.length ≤ Decimal.hexLimit

/-- The runs of a rest are runs of the text. -/
theorem ShortRuns.of_suffix {s t : List Char} (h : ShortRuns s) (ht : t <:+ s) : ShortRuns t :=
  fun run hrun => h run (hrun.trans ht.isInfix)

theorem ShortRuns.tail {c : Char} {s : List Char} (h : ShortRuns (c :: s)) : ShortRuns s :=
  h.of_suffix (List.suffix_cons c s)

/-! ## Nesting -/

/-- How much deeper a document gets by a character: by a list or a table for an opening bracket, and
for a point by a table, which may be in a list. -/
def weight (c : Char) : Nat :=
  if c == '[' || c == '\x7b' then 1 else if c == '.' then 2 else 0

/-- How deep a document can get by the characters of a text. -/
def nesting : List Char → Nat
  | [] => 0
  | c :: s => weight c + nesting s

/-- Brackets are counted part by part. -/
theorem nesting_append (s t : List Char) : nesting (s ++ t) = nesting s + nesting t := by
  induction s with
  | nil => exact (Nat.zero_add _).symm
  | cons c s ih => rw [List.cons_append, nesting, ih, nesting, Nat.add_assoc]

/-- A rest has no more brackets than the text. -/
theorem nesting_le_of_suffix {s t : List Char} (h : t <:+ s) : nesting t ≤ nesting s := by
  rcases h with ⟨front, rfl⟩
  rw [nesting_append]
  exact Nat.le_add_left _ _

/-- What is read has a property; if nothing is read, the text breaks a rule of TOML. -/
structure Yields {α : Type} (x : Except Error α) (P : α → Prop) : Prop where
  ok : ∀ a, x = .ok a → P a
  error : ∀ e, x = .error e → ∃ breach rest, e = .malformed breach rest

namespace Yields

variable {α β : Type} {P : α → Prop} {Q : β → Prop}

/-- A result has what is claimed of it. -/
theorem pure {a : α} (ha : P a) : Yields (.ok a) P where
  ok _ h := Except.ok.inj h ▸ ha
  error e h := by cases h

/-- A text that is malformed yields nothing. -/
theorem malformed {breach : Breach} {rest : List Char} :
    Yields (.error (.malformed breach rest)) P where
  ok a h := by cases h
  error e h := ⟨breach, rest, (Except.error.inj h).symm⟩

/-- A step may rely on what the one before it yields. -/
theorem bind {x : Except Error α} {next : α → Except Error β} (hx : Yields x P)
    (hnext : ∀ a, P a → Yields (next a) Q) : Yields (x >>= next) Q := by
  cases hresult : x with
  | ok a => exact hnext a (hx.ok a hresult)
  | error e =>
    rcases hx.error e hresult with ⟨breach, rest, rfl⟩
    exact malformed

/-- What a function makes of the result is claimed of the image. -/
theorem map {x : Except Error α} {f : α → β} (hx : Yields x P) (hf : ∀ a, P a → Q (f a)) :
    Yields (x.map f) Q := by
  cases hresult : x with
  | ok a => exact pure (hf a (hx.ok a hresult))
  | error e =>
    rcases hx.error e hresult with ⟨breach, rest, rfl⟩
    exact malformed

/-- A weaker claim holds as well. -/
theorem imp {x : Except Error α} {R : α → Prop} (hx : Yields x P) (h : ∀ a, P a → R a) :
    Yields x R where
  ok a ha := h a (hx.ok a ha)
  error := hx.error

end Yields

/-- A reader leaves a rest of its text. -/
abbrev Leaves {α : Type} (s : List Char) (x : Except Error (α × List Char)) : Prop :=
  Yields x fun read => read.2 <:+ s

/-- What is left of a rest is left of the text. -/
theorem Leaves.of_suffix {α : Type} {s t : List Char} {x : Except Error (α × List Char)}
    (h : Leaves t x) (ht : t <:+ s) : Leaves s x :=
  h.imp fun _ hread => hread.trans ht

/-! ## Blanks and characters -/

section Blanks

variable {s : List Char}

end Blanks

/-! ## Texts -/

section Numbers

variable {s rest : List Char}

end Numbers

/-! ## Moments -/

section Moments

variable {s rest : List Char}

end Moments

/-! ## Values -/

end Toml
end PatchReview
