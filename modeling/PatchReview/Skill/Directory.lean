import PatchReview.Diff.Path
import PatchReview.Files.Disk

/-!
# Directories of skills

The files of a directory and of the directories in it that hold skills: by their extension, and not
if a name on the way is hidden by a dot. In each directory its own files come first, then what is in
its directories, both in the order of their names.
-/

namespace PatchReview
namespace Skill

def isHidden (name : String) : Bool := name.toList.head? == some '.'

/-- Whether a name is that of a file with a skill. -/
def isSkillName (name : String) : Bool :=
  !isHidden name &&
    match Path.extension? name.toList with
    | some ext => ["yaml", "yml"].contains (String.ofList (Text.lower ext))
    | none => false

/-- Entries in the order of their names. -/
def sortByName {α : Type} (entries : List (String × α)) : List (String × α) :=
  entries.mergeSort fun a b => a.1 ≤ b.1

mutual

/-- The names on the way to each file with a skill. -/
def filesIn : Tree → List (List String)
  | .file _ => []
  | .directory entries =>
    let own := entries.filterMap fun (name, t) =>
      if !t.isDirectory && isSkillName name then some (name, ()) else none
    (sortByName own).map (fun (name, _) => [name]) ++
      (sortByName (filesInside entries)).flatMap fun (name, files) => files.map (name :: ·)

/-- The names on the way to each file with a skill in the directories among some entries. -/
def filesInside : List (String × Tree) → List (String × List (List String))
  | [] => []
  | (name, t) :: rest =>
    if t.isDirectory && !isHidden name then (name, filesIn t) :: filesInside rest
    else filesInside rest

end

/-- The paths of the files with skills in a directory. -/
def filesOf (d : Disk) (directory : DiskPath) : List DiskPath :=
  match d.find directory with
  | .ok t => (filesIn t).map fun names => { directory with parts := directory.parts ++ names }
  | .error _ => []

end Skill
end PatchReview
