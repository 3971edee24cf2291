import PatchReview.Command.Setting
import PatchReview.Diff.Parser
import PatchReview.Report.Prompt
import PatchReview.Report.Summary
import PatchReview.Report.Terminal

/-!
# Checking a diff

A check runs skills against a diff and reports the findings. It ends with a code that says whether
there are findings from a severity on.
-/

namespace PatchReview
namespace Command

/-- The code of a command that went well, of one that found something, and of one that is told why
it cannot be done. -/
inductive Ending where
  | success
  | failure
  | misuse
  deriving DecidableEq, Repr

def Ending.code : Ending → Nat
  | .success => 0
  | .failure => 1
  | .misuse => 2

/-- The exit code of a command; one that is given up has failed. -/
def exitCode : Except Fault Ending → Nat
  | .ok ending => ending.code
  | .error _ => Ending.failure.code

/-- The text of the diff: that of a file, or of the input. There is none if an error is told. -/
def Setting.readDiff (s : Setting) (path : Option String) : Work (Option String) := do
  match path.filter (· != "-") with
  | none =>
    match Text.decodeUtf8? s.input with
    | some text => return some (String.ofList (Text.normalizeLineEnds text))
    | none => throw .notText
  | some path =>
    match (← Work.disk).read (.ofText path) with
    | .ok bytes => return some (String.ofList (Text.normalizeLineEnds (Text.decodeUtf8Lossy bytes)))
    | .error error =>
      s.print ("[bold red]Error:[/bold red] cannot read " ++ path ++ ": " ++ error.message)
      return none

/-- A configured value, unless an option names another. There is none if the option names no value;
then an error is told. -/
def Setting.choose {α : Type} (s : Setting) (what : String) (ofName? : String → Option α)
    (option : String) (configured : α) : Work (Option α) := do
  if option.isEmpty then return some configured
  else match ofName? option with
    | some a => return some a
    | none =>
      s.print ("[bold red]Invalid " ++ what ++ ":[/bold red] " ++ option)
      return none

/-- Installs the bundled skills that are missing, if the configuration says so. An error is told. -/
def Setting.installMissing (s : Setting) (config : Config) (directory : DiskPath) : Work Bool := do
  if config.installDefaults.isTruthy then
    match ← Work.orFileError (Skill.install directory) with
    | .ok written =>
      written.forM fun path => Work.tell .info ("Installed default skill " ++ path.text)
      return true
    | .error error =>
      s.print ("[bold red]Error:[/bold red] cannot install default skills: " ++ error.message)
      return false
  else return true

/-- The text for a reviewer: the findings and the guidelines, where there are any. -/
def promptText (results : List SkillResult) (skills : List Skill) :
    Except Decimal.LimitError String := do
  let findings ← Report.findingsBlock results
  return String.intercalate "\n" ([findings, Report.guidelines skills].filter (!·.isEmpty))

def showingFault : Report.TerminalError → Fault
  | .markup error => .markup error
  | .digits error => .digits error

/-- Whether there are findings from a level on. -/
def failing (failOn : FailOn) (results : List SkillResult) : Bool :=
  match failOn with
  | none => false
  | some severity => results.any fun r => !(r.findingsAtOrAbove severity.name).isEmpty

/-- The skills that are asked for: those of the options, or else the configured ones. -/
def requestsOf (options : CheckOptions) (config : Config) : List Request :=
  if options.skills.isEmpty then config.enabled.map requestOf else options.skills.map .name

/-! ## Planning -/

/-- What a check is to do, by its options and the configuration. -/
structure CheckPlan where
  format : OutputFormat
  failOn : FailOn
  directory : DiskPath
  requests : List Request
  deriving DecidableEq, Repr

/-- Finds the directory of the skills for a plan and installs the bundled ones there. There is no
plan if an error is told. -/
def Setting.prepare (s : Setting) (o : CheckOptions) (config : Config) (format : OutputFormat)
    (failOn : FailOn) : Work (Option CheckPlan) := do
  let named ← if o.skillsDirectory.isEmpty then pathOf config.directory
    else pure (.ofText o.skillsDirectory)
  let directory ← Work.expandHome named
  unless ← s.installMissing config directory do return none
  let requests := requestsOf o config
  if requests.isEmpty then
    s.print "[yellow]⚠[/yellow]  No skills selected (use --skill or skills.enabled)."
  return some { format, failOn, directory, requests }

/-- Plans a check. There is no plan if an error is told. -/
def Setting.plan (s : Setting) (o : CheckOptions) : Work (Option CheckPlan) := do
  let some config ← s.loadConfig o.config | return none
  let some format ← s.choose "format" OutputFormat.ofName? o.format config.format | return none
  let some failOn ← s.choose "fail-on level" FailOn.ofName? o.failOn config.failOn | return none
  s.prepare o config format failOn

/-! ## Examining -/

/-- What a check has found out. -/
structure Examination where
  plan : CheckPlan
  diff : Diff
  selected : List Skill.Loaded
  results : List SkillResult

/-- Prints where the skills are and how many files are in the diff. -/
def Setting.printSizes (s : Setting) (directory : DiskPath) (d : Diff) : Work Unit := do
  s.print ("[dim]Skills dir: " ++ directory.text ++ "[/dim]")
  s.print ("[dim]Files in diff: " ++ toString d.files.length ++ "[/dim]")

/-- Runs the planned skills against the diff of a text. -/
def Setting.examineText (s : Setting) (o : CheckOptions) (plan : CheckPlan) (text : String) :
    Work Examination := do
  let diff ← Work.ofExcept .digits (Diff.parse text)
  if o.verbose || o.debug then s.printSizes plan.directory diff
  let selected ← Engine.requested plan.directory plan.requests
  let results ← Engine.runAll (selected.map (·.skill)) diff
  return { plan, diff, selected, results }

/-- Plans a check, reads the diff and runs the skills. There is nothing to report if an error is
told. -/
def Setting.examine (s : Setting) (o : CheckOptions) : Work (Option Examination) := do
  let some plan ← s.plan o | return none
  let some text ← s.readDiff o.diffPath | return none
  return some (← s.examineText o plan text)

/-! ## Reporting -/

/-- Prints the report of an examination; gives its text, unless that is one for the console. -/
def Setting.report (s : Setting) (x : Examination) : Work (Option String) := do
  match x.plan.format with
  | .terminal =>
    Work.onErrors showingFault (Report.terminal s.columns x.results (some x.diff) true)
    return none
  | .json =>
    let text ← Work.ofExcept .digits (Report.json x.results (some x.diff))
    printOutput text
    return some text
  | .prompt =>
    let skills ← Engine.select (← Work.expandHome x.plan.directory) x.plan.requests
    let text ← Work.ofExcept .digits (promptText x.results (skills.map (·.skill)))
    printOutput text
    return some text

/-- Writes the report to the file that is asked for; a report for the console is written as JSON. -/
def Setting.writeReport (s : Setting) (o : CheckOptions) (x : Examination)
    (report : Option String) : Work Unit := do
  if !o.output.isEmpty then
    let text ← match report with
      | some text => pure text
      | none => Work.ofExcept .digits (Report.json x.results (some x.diff))
    Work.write (.ofText o.output) text
    if o.verbose then s.print ("[dim]Report written to " ++ o.output ++ "[/dim]")

/-- Reports an examination; the ending says whether there are findings that make the check fail. -/
def Setting.conclude (s : Setting) (o : CheckOptions) (x : Examination) : Work Ending := do
  let report ← s.report x
  s.writeReport o x report
  return if failing x.plan.failOn x.results then .failure else .success

/-- Checks a diff. -/
def Setting.check (s : Setting) (o : CheckOptions) : Work Ending := do
  let some x ← s.examine o | return .misuse
  s.conclude o x

end Command
end PatchReview
