import PatchReview.Console.Screen
import PatchReview.Proofs.Work

/-!
# Printing without fail

What is printed stands behind what has been printed before. Printing lines never fails, and
computations that print without fail can be put one behind the other.
-/

namespace PatchReview
namespace Console

def printed (lines : List (List Char)) : String := String.ofList (lines.flatMap (· ++ ['\n']))

variable {ε : Type}

/-- Lines are printed one below the other, behind what is on the screen. -/
theorem run_forM_printLine (lines : List (List Char)) (s : String) :
    (lines.forM printLine : Screen ε Unit).run.run s = (.ok (), s ++ printed lines) := by
  induction lines generalizing s with
  | nil =>
    have hnone : (([] : List (List Char)).forM printLine : Screen ε Unit).run.run s =
        (.ok (), s) := rfl
    rw [hnone, printed, List.flatMap_nil, String.ofList_nil, String.append_empty]
  | cons line lines ih =>
    have hfirst : ((line :: lines).forM printLine : Screen ε Unit).run.run s =
        (lines.forM printLine : Screen ε Unit).run.run (s ++ String.ofList (line ++ ['\n'])) := rfl
    rw [hfirst, ih, String.append_assoc, printed, printed, List.flatMap_cons,
      ← String.ofList_append]

/-- Something that is printed without fail, behind what has been printed. -/
def Prints (x : Screen ε Unit) : Prop := ∀ s, ∃ more, x.run.run s = (.ok (), s ++ more)

theorem prints_pure : Prints (pure () : Screen ε Unit) := by
  intro s
  refine ⟨"", ?_⟩
  rw [String.append_empty]
  rfl

/-- What prints in two steps prints. -/
theorem Prints.bind {x : Screen ε Unit} {next : Unit → Screen ε Unit} (hx : Prints x)
    (hnext : Prints (next ())) : Prints (x >>= next) := by
  intro s
  rcases hx s with ⟨more, hrun⟩
  rcases hnext (s ++ more) with ⟨rest, hrest⟩
  refine ⟨more ++ rest, ?_⟩
  rw [run_bind, hrun, ← String.append_assoc]
  exact hrest

/-- What prints for each item prints for all. -/
theorem Prints.forM {α : Type} {f : α → Screen ε Unit} {items : List α}
    (h : ∀ a ∈ items, Prints (f a)) : Prints (items.forM f) := by
  induction items with
  | nil =>
    exact prints_pure
  | cons a items ih =>
    exact Prints.bind (h a List.mem_cons_self) (ih fun x hx => h x (List.mem_cons_of_mem a hx))

end Console
end PatchReview
