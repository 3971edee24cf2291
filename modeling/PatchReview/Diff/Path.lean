import PatchReview.Diff.Basic
import PatchReview.Text.CaseMap
import PatchReview.Text.Pieces
import PatchReview.Text.Blank

/-!
# Paths

A path is cut at its last slash into a directory and a base name, and a base name at its last dot
into a stem and an extension. Dots at the start of a base name begin no extension.
-/

namespace PatchReview
namespace Path

/-- The part of a path after its last slash. -/
def baseName (path : List Char) : List Char :=
  ((Text.cutLast? ['/'] path).map (·.2)).getD path

/-- The part of a path before its last slash, without slashes at its end unless it is all
slashes. -/
def directory (path : List Char) : List Char :=
  match Text.cutLast? ['/'] path with
  | none => []
  | some (head, _) =>
    let head := head ++ ['/']
    if head.all (· == '/') then head else Text.dropEnd (· == '/') head

/-- What follows the last dot of a base name, unless only dots stand before it. -/
def extension? (base : List Char) : Option (List Char) :=
  match Text.cutLast? ['.'] base with
  | none => none
  | some (stem, ext) => if stem.all (· == '.') then none else some ext

end Path

namespace Diff

def File.baseName (f : File) : String := String.ofList (Path.baseName f.path.toList)

def File.directory (f : File) : String := String.ofList (Path.directory f.path.toList)

/-- The lower-case extension of the file, without its dot; empty when there is none. -/
def File.extension (f : File) : String :=
  String.ofList (Text.lower ((Path.extension? (Path.baseName f.path.toList)).getD []))

end Diff
end PatchReview
