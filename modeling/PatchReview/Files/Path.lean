import PatchReview.Text.Blank
import PatchReview.Text.Pieces

/-!
# Paths of files

A path is a list of names, behind a root if it is absolute. Empty names and names of a single dot
say nothing and are left out.
-/

namespace PatchReview

/-- A path of a file or a directory. -/
structure DiskPath where
  /-- The slashes in front of an absolute path. -/
  root : String := ""
  parts : List String
  deriving DecidableEq, Repr

namespace DiskPath

/-- The root that a number of slashes in front of a path stands for. -/
def rootOf : (slashes : Nat) → String
  | 0 => ""
  | 2 => "//"
  | _ => "/"

def ofText (text : String) : DiskPath :=
  let cs := text.toList
  let names := (Text.splitAtChar '/' cs).filter fun n => n != [] && n != ['.']
  { root := rootOf (cs.takeWhile (· == '/')).length, parts := names.map String.ofList }

/-- The text of a path; the path of no names is a dot. -/
def text (p : DiskPath) : String :=
  let s := p.root ++ String.intercalate "/" p.parts
  if s.isEmpty then "." else s

/-- A path inside of another; an absolute path stays as it is. -/
def join (p q : DiskPath) : DiskPath :=
  if q.root.isEmpty then { p with parts := p.parts ++ q.parts } else q

def child (p : DiskPath) (name : String) : DiskPath := { p with parts := p.parts ++ [name] }

def parent (p : DiskPath) : DiskPath := { p with parts := p.parts.dropLast }

/-- The path of a home directory, without slashes at its end. One that starts with a tilde is not
known. -/
def ofHome? (home : String) : Option DiskPath :=
  match Text.dropEnd (· == '/') home.toList with
  | [] => some (ofText "/")
  | '~' :: _ => none
  | place => some (ofText (String.ofList place))

/-- A path with the home directory in place of a tilde at its front. The home directories of others
are not known. -/
def expandHome? (home : String) (p : DiskPath) : Option DiskPath :=
  match p.root.isEmpty, p.parts with
  | true, first :: rest =>
    if first == "~" then (ofHome? home).map (·.join { parts := rest })
    else if first.toList.head? == some '~' then none
    else some p
  | _, _ => some p

end DiskPath
end PatchReview
