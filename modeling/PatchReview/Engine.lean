import PatchReview.Diff.Path
import PatchReview.Finding
import PatchReview.Log
import PatchReview.Pattern.Parser
import PatchReview.Skill.Basic
import PatchReview.Text.Quoted

/-!
# The rule engine

Runs skills against a diff. A skill runs if one of its triggers applies to one of the files; then
each of its patterns is searched for in the added lines, in the order of files, hunks and lines.
-/

namespace PatchReview
namespace Engine

/-! ## Triggers -/

/-- Whether a configured extension, with or without a star and dots in front, is the extension of a
file, or ends in it behind a dot. -/
def extensionMatches (configured ext : String) : Bool :=
  if ext.isEmpty then false
  else
    let wanted := Text.lower (Text.trimBy Text.isBlank configured.toList)
    let wanted := match wanted with
      | '*' :: rest => rest
      | _ => wanted
    wanted.dropWhile (· == '.') == ext.toList || ('.' :: ext.toList).isSuffixOf wanted

def triggerMatchesFile (t : Skill.Trigger) (f : Diff.File) : Bool :=
  (t.fileExtensions.getD []).any (extensionMatches · f.extension) ||
    (t.pathContains.getD []).any fun part => Text.occursIn part.toList f.path.toList

def triggerMatches (t : Skill.Trigger) (d : Diff) : Bool := d.files.any (triggerMatchesFile t)

/-- Whether a skill applies to a diff. -/
def shouldRun (skill : Skill) (d : Diff) : Bool := skill.triggers.any (triggerMatches · d)

/-! ## Rules -/

def addedLines (f : Diff.File) : List (Nat × String) :=
  f.hunks.flatMap fun hunk =>
    (hunk.numberedLines.filter fun (_, line) => line.kind == .addition).map
      fun (n, line) => (n, line.content)

/-- The findings of a rule in a file, by a test of lines. -/
def findingsInFile (rule : Skill.Rule) (found : String → Bool) (f : Diff.File) : List Finding :=
  ((addedLines f).filter fun (_, content) => found content).map fun (n, _) =>
    { ruleId := rule.id, message := rule.message, severity := rule.severity
      file := some f.path, line := some (n : Int) }

/-- The findings of a rule in a diff, by a test of lines. -/
def findingsOf (rule : Skill.Rule) (found : String → Bool) (d : Diff) : List Finding :=
  d.files.flatMap (findingsInFile rule found)

/-- The message about a rule whose pattern does not compile. -/
def skippedRule (rule : Skill.Rule) (pattern : String) (error : Pattern.PatternError) : LogEntry :=
  ⟨.warning, "Skipping rule '" ++ rule.id ++ "': invalid pattern " ++ Text.quoted pattern ++ ": " ++
    error.message⟩

/-- Computations that tell messages and may stop with an error of a pattern. -/
abbrev Run := ExceptT Pattern.PatternError (StateM (List LogEntry))

def tell (e : LogEntry) : Run Unit := modify (· ++ [e])

/-- The findings of a rule. A malformed pattern finds nothing and is told; other errors stop. -/
def checkRule (rule : Skill.Rule) (d : Diff) : Run (List Finding) :=
  match rule.pattern with
  | none => return []
  | some pattern =>
    match Pattern.compile pattern with
    | .ok p => return findingsOf rule p.occursIn d
    | .error .malformed => do
      tell (skippedRule rule pattern .malformed)
      return []
    | .error error => throw error

/-! ## Skills -/

/-- Runs a skill against a diff. -/
def executeSkill (skill : Skill) (d : Diff) : Run SkillResult := do
  if shouldRun skill d then
    let findings := (← skill.rules.mapM (checkRule · d)).flatten
    tell ⟨.debug, "Skill '" ++ skill.name ++ "' ran " ++ toString skill.rules.length ++
      " rules in 0.00ms: " ++ toString findings.length ++ " findings"⟩
    return { skill := skill.name, passed := findings.isEmpty, findings }
  else
    tell ⟨.debug, "Skill '" ++ skill.name ++ "' not triggered by this diff"⟩
    return { skill := skill.name, passed := true, skipped := true }

/-- Runs each of the skills; the results are in the order of the skills. -/
def runSkills (skills : List Skill) (d : Diff) : Run (List SkillResult) :=
  skills.mapM (executeSkill · d)

end Engine
end PatchReview
