/-!
# The diff of several files

A diff is a list of files, a file a list of hunks, and a hunk a header with the lines below it.
Lines carry their kind in place of the marker that a diff text puts in front of them.
-/

namespace PatchReview
namespace Diff

/-- What happens to a line. -/
inductive LineKind where
  | addition
  | deletion
  | context
  deriving DecidableEq, Repr

def LineKind.name : LineKind → String
  | .addition => "addition"
  | .deletion => "deletion"
  | .context => "context"

/-- A line of a hunk without its marker. -/
structure Line where
  kind : LineKind
  content : String
  deriving DecidableEq, Repr

/-- The numbers of a hunk header, and the text after its second mark if there is any. -/
structure Header where
  oldStart : Nat
  oldCount : Nat
  newStart : Nat
  newCount : Nat
  heading : Option String
  deriving DecidableEq, Repr

/-- A header and the lines that belong to it. -/
structure Hunk where
  header : Header
  lines : List Line
  deriving DecidableEq, Repr

namespace Hunk

def count (kind : LineKind) (h : Hunk) : Nat := h.lines.countP (·.kind == kind)

/-- Numbers the lines that the new file holds, from a first number on. -/
def numberFrom : Nat → List Line → List (Nat × Line)
  | _, [] => []
  | n, line :: lines =>
    if line.kind == .deletion then numberFrom n lines else (n, line) :: numberFrom (n + 1) lines

/-- The lines that the new file holds, with their numbers there. -/
def numberedLines (h : Hunk) : List (Nat × Line) := numberFrom h.header.newStart h.lines

end Hunk

/-- What happens to a file. -/
inductive Status where
  | added
  | modified
  | deleted
  | renamed
  | copied
  deriving DecidableEq, Repr

def Status.name : Status → String
  | .added => "added"
  | .modified => "modified"
  | .deleted => "deleted"
  | .renamed => "renamed"
  | .copied => "copied"

/-- A file of a diff, under its new path. -/
structure File where
  path : String
  status : Status := .modified
  /-- The path that the file was renamed or copied from. -/
  oldPath : Option String := none
  hunks : List Hunk := []
  deriving DecidableEq, Repr

def File.count (kind : LineKind) (f : File) : Nat := (f.hunks.map (Hunk.count kind)).foldl (· + ·) 0

end Diff

/-- The files of a diff in the order in which they first appear. -/
structure Diff where
  files : List Diff.File := []
  deriving DecidableEq, Repr

namespace Diff

def count (kind : LineKind) (d : Diff) : Nat := (d.files.map (File.count kind)).foldl (· + ·) 0

def paths (d : Diff) : List String := d.files.map (·.path)

def get? (d : Diff) (path : String) : Option File := d.files.find? (·.path == path)

end Diff
end PatchReview
