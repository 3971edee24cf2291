import PatchReview.Skill.Severity

/-!
# Skills

A skill is a set of rules under a name, together with the conditions under which it applies to a
diff. A rule with a pattern is checked here; a rule with a check in prose is left to a reviewer.
-/

namespace PatchReview
namespace Skill

/-- A condition on the files of a diff; absent and empty lists ask for nothing. -/
structure Trigger where
  fileExtensions : Option (List String)
  pathContains : Option (List String)
  deriving DecidableEq, Repr

/-- A single check. -/
structure Rule where
  id : String
  severity : Severity
  message : String
  pattern : Option String
  check : Option String
  deriving DecidableEq, Repr

/-- Free text for a reviewer. -/
structure Prompts where
  additionalContext : Option String
  deriving DecidableEq, Repr

end Skill

/-- A named set of rules with the conditions under which they apply. -/
structure Skill where
  name : String
  version : String
  description : String
  triggers : List Skill.Trigger
  rules : List Skill.Rule
  prompts : Option Skill.Prompts
  deriving DecidableEq, Repr

end PatchReview
