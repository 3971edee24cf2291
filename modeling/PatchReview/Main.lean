import PatchReview.Command.Reach
import PatchReview.Command.Run
import PatchReview.Files.Change

/-!
# The program

Reads what a command may look at, runs it, and writes what it has changed and printed.
-/

namespace PatchReview
namespace Program

def absolute (names : List String) : String := "/" ++ String.intercalate "/" names

/-- What stands at a place, with all that is below it if that is asked for. -/
partial def survey (names : List String) (deep : Bool) : IO (Option Tree) := do
  let place := (← IO.currentDir) / absolute names
  if ← place.isDir then
    if deep then
      let found ← (← place.readDir).toList.mapM fun entry => do
        return (← survey (names ++ [entry.fileName]) true).map (entry.fileName, ·)
      return some (.directory (found.filterMap id))
    else return some (.directory [])
  else if ← place.pathExists then
    return some (.file (← IO.FS.readBinFile place).toList)
  else return none

/-- Adds what stands at a place to a tree, with the directories on the way to it. -/
def addPlace (tree : Tree) (deep : Bool) (names : List String) : IO Tree := do
  let mut tree := tree
  for i in List.range names.length do
    let part := names.take (i + 1)
    let last := i + 1 == names.length
    match tree.find part with
    | .ok (.file _) => return tree
    | .ok (.directory _) => if !(last && deep) then continue
    | .error _ => pure ()
    match ← survey part (last && deep) with
    | some found => tree := tree.put part found
    | none => return tree
  return tree

/-- Adds what stands at a path to a disk. -/
def addPath (d : Disk) (deep : Bool) (path : DiskPath) : IO Disk := do
  return { d with tree := ← addPlace d.tree deep (d.workingDirectory.join path).parts }

def apply : TreeChange → IO Unit
  | .makeDirectory names => IO.FS.createDirAll (absolute names)
  | .writeFile names bytes => IO.FS.writeBinFile (absolute names) ⟨bytes.toArray⟩

def variableNames : List String :=
  ["DIFFSKILLS_SKILLS_DIR", "DIFFSKILLS_SKILLS", "DIFFSKILLS_FORMAT", "DIFFSKILLS_FAIL_ON",
    "DIFFSKILLS_MAX_WORKERS"]

/-- All bytes that are left in a stream. -/
partial def readAll (stream : IO.FS.Stream) (before : ByteArray) : IO ByteArray := do
  let bytes ← stream.read 65536
  if bytes.isEmpty then return before else readAll stream (before ++ bytes)

def settingOf (invocation : Command.Invocation) : IO Command.Setting := do
  let found ← variableNames.mapM fun name => do return (← IO.getEnv name).map (name, ·)
  let input ← if invocation.readsInput then readAll (← IO.getStdin) .empty else pure .empty
  let columns := ((← IO.getEnv "COLUMNS").bind String.toNat?).getD 80
  return { environment := found.filterMap id, input := input.toList, columns }

/-- The disk as far as an invocation reaches. -/
def diskOf (setting : Command.Setting) (invocation : Command.Invocation) : IO Disk := do
  let here := DiskPath.ofText (← IO.currentDir).toString
  let home := (← IO.getEnv "HOME").getD "/"
  let d ← addPath { tree := .directory [], workingDirectory := here, home } false here
  let d ← invocation.files.foldlM (addPath · false) d
  match setting.reachedDirectory? d invocation with
  | some directory => addPath d true directory
  | none => return d

end Program
end PatchReview

open PatchReview in
/-- The program: runs the command that the arguments ask for. -/
def main (args : List String) : IO UInt32 := do
  let invocation := Command.Invocation.ofArguments args
  let setting ← Program.settingOf invocation
  let disk ← Program.diskOf setting invocation
  let (result, desk) := (setting.run invocation).runOn { disk }
  (Tree.changes [] (some disk.tree) desk.disk.tree).forM Program.apply
  IO.print desk.output
  let log := LogEntry.filter invocation.logLevel desk.log
  log.forM fun entry => IO.eprintln (entry.level.name ++ " " ++ entry.message)
  IO.eprint desk.errors
  match result with
  | .ok _ => if let .usage _ := invocation then IO.println Command.usageText
  | .error fault => IO.eprintln fault.message
  return (Command.exitCode result).toUInt32
