import PatchReview.Skill.Bundled
import PatchReview.Work

/-!
# Libraries of skills

A directory whose files hold skills. All of its skills can be loaded, and the bundled ones can be
installed in it.
-/

namespace PatchReview
namespace Skill

/-! ## Loading -/

/-- The message about a file that holds no skill. -/
def passedOver (path : DiskPath) (error : LoadError) : String :=
  "Failed to load skill at " ++ path.text ++ ": " ++ error.message

/-- The message about a skill whose name is taken. -/
def nameTaken (new old : Loaded) : String :=
  "Skipping skill '" ++ new.skill.name ++ "' at " ++ new.source.text ++
    ": name already loaded from " ++
    old.source.text

def nowLoaded (new : Loaded) : String :=
  "Loaded skill '" ++ new.skill.name ++ "' (" ++ toString new.skill.rules.length ++
    " rules) from " ++
    new.source.text

def named? (name : String) (loaded : List Loaded) : Option Loaded :=
  loaded.find? (·.skill.name == name)

/-- Adds the skill of a file to the loaded ones. A file without a skill and a skill whose name is
taken are passed over. -/
def loadNext (loaded : List Loaded) (path : DiskPath) : Work (List Loaded) := do
  match load (← Work.disk) path with
  | .error error =>
    if error.isOfFile then
      Work.tell .warning (passedOver path error)
      return loaded
    else throw (.skill error)
  | .ok new =>
    match named? new.skill.name loaded with
    | some old =>
      Work.tell .warning (nameTaken new old)
      return loaded
    | none =>
      Work.tell .debug (nowLoaded new)
      return loaded ++ [new]

/-- The skills of a directory, with distinct names. A directory that is not there is made. -/
def loadAll (directory : DiskPath) : Work (List Loaded) := do
  let directory ← Work.expandHome directory
  if (← Work.disk).holds directory then
    (filesOf (← Work.disk) directory).foldlM loadNext []
  else
    match ← Work.orFileError (Work.ensureDirectories directory) with
    | .ok _ => return []
    | .error error =>
      Work.tell .warning
        ("Could not create skills directory " ++ directory.text ++ ": " ++ error.message)
      return []

/-! ## Installing -/

/-- Writes a bundled file unless there is one of its name; gives the paths that are written. -/
def installNext (directory : DiskPath) (written : List DiskPath) (file : String × String) :
    Work (List DiskPath) := do
  let path := directory.child file.1
  if (← Work.disk).holds path then return written
  else
    Work.write path file.2
    return written ++ [path]

/-- Writes the bundled files that are missing in a directory, which is made if need be; gives the
paths that are written. -/
def install (directory : DiskPath) : Work (List DiskPath) := do
  let directory ← Work.expandHome directory
  Work.ensureDirectories directory
  bundled.foldlM (installNext directory) []

end Skill
end PatchReview
