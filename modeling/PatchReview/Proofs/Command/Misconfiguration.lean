import PatchReview.Proofs.Command.Reporting
import PatchReview.Proofs.Config.Loading
import PatchReview.Proofs.Console.Markup
import PatchReview.Proofs.Console.Screen

/-!
# Checks without a configuration

A check that gets no configuration changes nothing and ends. It ends as misuse if the error is told
to the user, and is given up if the error is none of the configuration, or if its wording cannot be
shown because of tags in it.
-/

namespace PatchReview
namespace Command

/-! ## Printing -/

section Print

variable {s : Setting} {text : String} {desk : Desk}

end Print

/-! ## Errors of the configuration -/

section Check

variable {s : Setting} {o : CheckOptions} {desk : Desk} {error : ConfigError}

variable (hload : Config.load s.bounds desk.disk s.environment desk.disk.workingDirectory o.config =
  .error error)
include hload

end Check

/-! ## Checks -/

/-- The configuration that a command finds on a desk. -/
def Setting.configOn (s : Setting) (desk : Desk) (asked : String) : Except ConfigError Config :=
  Config.load s.bounds desk.disk s.environment desk.disk.workingDirectory asked

end Command
end PatchReview
