import PatchReview.Command.Setting

/-!
# The reach of a command

The files and directories that a command may look at, so that no others need to be read before it
runs.
-/

namespace PatchReview
namespace Command

def pathIn (text : String) : List DiskPath := if text.isEmpty then [] else [.ofText text]

/-- The file that is meant to hold the configuration, among others an invocation names. -/
def Invocation.files : Invocation → List DiskPath
  | .check o =>
    [.ofText Config.fileName] ++ pathIn o.config ++ pathIn (o.diffPath.getD "") ++ pathIn o.output
  | .validate place => [.ofText Config.fileName] ++ pathIn place.config
  | .list place => [.ofText Config.fileName] ++ pathIn place.config
  | .install place => [.ofText Config.fileName] ++ pathIn place.config
  | .init => [.ofText Config.fileName]
  | .version => []
  | .usage _ => []

def Invocation.place? : Invocation → Option Place
  | .check o => some { directory := o.skillsDirectory, config := o.config }
  | .validate place => some place
  | .list place => some place
  | .install place => some place
  | _ => none

/-- The directory of skills that an invocation leads to. -/
def Setting.reachedDirectory? (s : Setting) (d : Disk) (invocation : Invocation) :
    Option DiskPath := do
  let place ← invocation.place?
  match (s.skillsDirectory place).runOn { disk := d } with
  | (.ok directory, _) => directory
  | (.error _, _) => none

def Invocation.readsInput : Invocation → Bool
  | .check o => (o.diffPath.filter (· != "-")).isNone
  | _ => false

end Command
end PatchReview
