import PatchReview.Console.Markup
import PatchReview.Console.Table

/-!
# Printing on a console

What has been printed stays when a later text turns out to have unbalanced tags.
-/

namespace PatchReview
namespace Console

/-- Computations that print on a console and may stop with an error. -/
abbrev Screen (ε : Type) := ExceptT ε (StateM String)

def printLine {ε : Type} (line : List Char) : Screen ε Unit :=
  modify (· ++ String.ofList (line ++ ['\n']))

def print (columns : Nat) (text : String) : Screen MarkupError Unit := do
  match renderMarkup text with
  | .error e => throw e
  | .ok plain => (Layout.lines { limit := columns } plain).forM printLine

def printTable {ε : Type} (t : Table) : Screen ε Unit := t.lines.forM printLine

end Console
end PatchReview
