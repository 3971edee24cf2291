import PatchReview.Files.Tree

/-!
# The disk

All files, the working directory from which relative paths start, and the home directory. Operations
that change files may fail after they have changed some.
-/

namespace PatchReview

/-- The files with the working directory and the home directory. -/
structure Disk where
  tree : Tree
  workingDirectory : DiskPath
  home : String

namespace Disk

/-- The names on the way to a path from the root of the tree. -/
def names (d : Disk) (p : DiskPath) : Except FileFault (List String) :=
  d.tree.resolve [] (d.workingDirectory.join p).parts

def find (d : Disk) (p : DiskPath) : Except FileFault Tree := do d.tree.find (← d.names p)

def holds (d : Disk) (p : DiskPath) : Bool :=
  match d.find p with
  | .ok _ => true
  | .error _ => false

def holdsDirectory (d : Disk) (p : DiskPath) : Bool :=
  match d.find p with
  | .ok t => t.isDirectory
  | .error _ => false

def holdsFile (d : Disk) (p : DiskPath) : Bool :=
  match d.find p with
  | .ok t => !t.isDirectory
  | .error _ => false

def read (d : Disk) (p : DiskPath) : Except FileError (List UInt8) :=
  match d.find p with
  | .ok (.file bytes) => .ok bytes
  | .ok (.directory _) => .error ⟨.isDirectory, p⟩
  | .error fault => .error ⟨fault, p⟩

/-- Whether something new may stand at a place, whose directory must be there. -/
def checkParent (d : Disk) (p : DiskPath) (names : List String) : Except FileError Unit :=
  match d.tree.find names.dropLast with
  | .ok (.directory _) => .ok ()
  | .ok (.file _) => .error ⟨.notDirectory, p⟩
  | .error fault => .error ⟨fault, p⟩

def write (d : Disk) (p : DiskPath) (bytes : List UInt8) : Except FileError Disk := do
  let names ← (d.names p).mapError fun fault => ⟨fault, p⟩
  match d.tree.find names with
  | .ok (.directory _) => .error ⟨.isDirectory, p⟩
  | _ =>
    d.checkParent p names
    return { d with tree := d.tree.put names (.file bytes) }

/-- The disk with an empty directory at a path where nothing stands. -/
def makeDirectory (d : Disk) (p : DiskPath) : Except FileError Disk := do
  let names ← (d.names p).mapError fun fault => ⟨fault, p⟩
  match d.tree.find names with
  | .ok _ => .error ⟨.occupied, p⟩
  | .error _ =>
    d.checkParent p names
    return { d with tree := d.tree.put names (.directory []) }

/-- Makes a directory at a path; none is needed where there is one. -/
def ensureDirectory (d : Disk) (p : DiskPath) : Except FileError Unit × Disk :=
  match d.makeDirectory p with
  | .ok d => (.ok (), d)
  | .error e => if d.holdsDirectory p then (.ok (), d) else (.error e, d)

/-- Makes a directory of a root and names, with the directories on the way to it. The names come in
reverse. -/
def ensureDirectoriesAt (root : String) : List String → Disk → Except FileError Unit × Disk
  | [], d => d.ensureDirectory { root, parts := [] }
  | name :: names, d =>
    let p : DiskPath := { root, parts := (name :: names).reverse }
    match d.makeDirectory p with
    | .ok d => (.ok (), d)
    | .error e =>
      if e.fault == .missing then
        match ensureDirectoriesAt root names d with
        | (.ok _, d) => d.ensureDirectory p
        | (.error e, d) => (.error e, d)
      else if d.holdsDirectory p then (.ok (), d)
      else (.error e, d)

/-- Makes a directory at a path, with the directories on the way to it. -/
def ensureDirectories (d : Disk) (p : DiskPath) : Except FileError Unit × Disk :=
  ensureDirectoriesAt p.root p.parts.reverse d

end Disk
end PatchReview
