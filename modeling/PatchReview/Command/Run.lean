import PatchReview.Command.Library

/-!
# Running a command

Every invocation of the program as work on a desk.
-/

namespace PatchReview
namespace Command

/-- What the program says about its version. -/
def versionText : String := "diffskills 0.1.0"

/-- The screen that explains the program. -/
def usageText : String :=
"Usage: diffskills [--version] COMMAND [OPTIONS]

Run declarative review skills against a unified diff.

Commands:
  check             Run skills against a unified diff.
  validate          Load every skill file and report which ones are invalid.
  list              Show the skills that load cleanly from the skills directory.
  init              Generate a starter .diffskills.toml in the current directory.
  install-defaults  Install the bundled skills, keeping any files that already exist."

/-- Does what is asked for. The screen that explains the program is not printed here. -/
def Setting.run (s : Setting) : Invocation → Work Ending
  | .check options => s.check options
  | .validate place => s.validate place
  | .list place => s.list place
  | .init => s.start
  | .install place => s.install place
  | .version => do
    printOutput versionText
    return .success
  | .usage asked => return if asked then .success else .misuse

end Command
end PatchReview
