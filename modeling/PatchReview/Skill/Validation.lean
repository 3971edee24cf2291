import PatchReview.Pattern.Parser
import PatchReview.Skill.Basic

/-!
# Validation of skills

A skill is valid if it has a trigger, its rules have distinct ids and its patterns compile. The
first of these conditions that fails is the error.
-/

namespace PatchReview
namespace Skill

/-- Why a skill is not valid. -/
inductive ValidationError where
  | noTriggers
  | duplicateRule (id : String)
  | badPattern (pattern : String) (error : Pattern.PatternError)
  deriving DecidableEq, Repr

def ValidationError.message : ValidationError → String
  | .noTriggers => "Skill must have at least one trigger defined"
  | .duplicateRule id => "Duplicate rule ID found: " ++ id
  | .badPattern pattern error => "Invalid regex pattern '" ++ pattern ++ "': " ++ error.message

/-- The first text that occurs earlier in the list, given those that came before the list. -/
def firstRepeated (seen : List String) : List String → Option String
  | [] => none
  | s :: rest => if seen.contains s then some s else firstRepeated (s :: seen) rest

/-- The first pattern that does not compile, with the reason. -/
def firstBadPattern : List Rule → Option (String × Pattern.PatternError)
  | [] => none
  | rule :: rules =>
    match rule.pattern with
    | none => firstBadPattern rules
    | some pattern =>
      match Pattern.compile pattern with
      | .ok _ => firstBadPattern rules
      | .error error => some (pattern, error)

/-- Whether a skill is valid, and if not, why. -/
def validate (skill : Skill) : Except ValidationError Unit :=
  if skill.triggers.isEmpty then .error .noTriggers
  else match firstRepeated [] (skill.rules.map (·.id)) with
  | some id => .error (.duplicateRule id)
  | none =>
    match firstBadPattern skill.rules with
    | some (pattern, error) => .error (.badPattern pattern error)
    | none => .ok ()

end Skill
end PatchReview
