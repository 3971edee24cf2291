import PatchReview.Files.Tree

/-!
# Changes of trees

What has to be written so that one tree of files becomes another that holds at least as much.
-/

namespace PatchReview

/-- Something to write at the end of a list of names. -/
inductive TreeChange where
  | makeDirectory (names : List String)
  | writeFile (names : List String) (bytes : List UInt8)
  deriving DecidableEq, Repr

namespace Tree

mutual

def writing (names : List String) : Tree → List TreeChange
  | .file bytes => [.writeFile names bytes]
  | .directory entries => .makeDirectory names :: entriesWriting names entries

def entriesWriting (names : List String) : List (String × Tree) → List TreeChange
  | [] => []
  | (name, t) :: rest => t.writing (names ++ [name]) ++ entriesWriting names rest

end

mutual

/-- What has to be written in place of an old tree to get a new one. -/
def changes (names : List String) (old : Option Tree) : Tree → List TreeChange
  | .file bytes =>
    match old with
    | some (.file same) => if same == bytes then [] else [.writeFile names bytes]
    | _ => [.writeFile names bytes]
  | .directory entries =>
    match old with
    | some (.directory before) => entryChanges names before entries
    | _ => .makeDirectory names :: entriesWriting names entries

/-- What has to be written in place of old entries to get new ones. -/
def entryChanges (names : List String) (before : List (String × Tree)) :
    List (String × Tree) → List TreeChange
  | [] => []
  | (name, t) :: rest =>
    changes (names ++ [name]) (before.lookup name) t ++ entryChanges names before rest

end

end Tree
end PatchReview
