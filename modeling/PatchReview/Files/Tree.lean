import PatchReview.Files.Path
import PatchReview.Text.Quoted

/-!
# Trees of files

A tree is a file with its bytes or a directory with named entries. Looking something up fails where
a name is missing or where a file stands in place of a directory.
-/

namespace PatchReview

/-- A file or a directory. -/
inductive Tree where
  | file (bytes : List UInt8)
  | directory (entries : List (String × Tree))
  deriving Inhabited

/-- Why something cannot be done with a file. -/
inductive FileFault where
  | missing
  | occupied
  | notDirectory
  | isDirectory
  deriving DecidableEq, Repr

def FileFault.words : FileFault → String
  | .missing => "[Errno 2] No such file or directory"
  | .occupied => "[Errno 17] File exists"
  | .notDirectory => "[Errno 20] Not a directory"
  | .isDirectory => "[Errno 21] Is a directory"

/-- A failure with the path that it is about. -/
structure FileError where
  fault : FileFault
  path : DiskPath
  deriving DecidableEq, Repr

def FileError.message (e : FileError) : String := e.fault.words ++ ": " ++ Text.quoted e.path.text

namespace Tree

def isDirectory : Tree → Bool
  | .directory _ => true
  | .file _ => false

/-- What stands at the end of a list of names. -/
def find : Tree → List String → Except FileFault Tree
  | t, [] => .ok t
  | .file _, _ :: _ => .error .notDirectory
  | .directory entries, name :: names =>
    match entries.lookup name with
    | some t => find t names
    | none => .error .missing

/-- Entries with one of them replaced, or added at the end. -/
def setEntry (name : String) (t : Tree) : List (String × Tree) → List (String × Tree)
  | [] => [(name, t)]
  | (n, old) :: rest => if n == name then (n, t) :: rest else (n, old) :: setEntry name t rest

/-- The tree with something else at the end of a list of names, if the directories on the way are
there. -/
def put : Tree → List String → Tree → Tree
  | _, [], new => new
  | .file bytes, _ :: _, _ => .file bytes
  | .directory entries, [name], new => .directory (setEntry name new entries)
  | .directory entries, name :: names, new =>
    match entries.lookup name with
    | some t => .directory (setEntry name (put t names new) entries)
    | none => .directory entries

/-- The tree without what stands at the end of a list of names. -/
def remove : Tree → List String → Tree
  | t, [] => t
  | .file bytes, _ :: _ => .file bytes
  | .directory entries, [name] => .directory (entries.filter (·.1 != name))
  | .directory entries, name :: names =>
    match entries.lookup name with
    | some t => .directory (setEntry name (remove t names) entries)
    | none => .directory entries

/-- The names on the way to a place, given those on the way to the place where names are read from.
Two dots lead to the directory around. -/
def resolve (t : Tree) : List String → List String → Except FileFault (List String)
  | done, [] => .ok done
  | done, name :: names =>
    if name == ".." then
      match t.find done with
      | .ok (.directory _) => resolve t done.dropLast names
      | .ok (.file _) => .error .notDirectory
      | .error e => .error e
    else resolve t (done ++ [name]) names

end Tree
end PatchReview
