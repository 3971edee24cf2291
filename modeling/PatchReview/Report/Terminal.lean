import PatchReview.Console.Screen
import PatchReview.Decimal.Printing
import PatchReview.Diff.Basic
import PatchReview.Finding

/-!
# Reports on a console

The findings as a table, and a summary with the size of the diff and a line for each skill.
-/

namespace PatchReview
namespace Report

open Console

/-- Why results cannot be shown. -/
inductive TerminalError where
  | markup (error : MarkupError)
  | digits (error : Decimal.LimitError)
  deriving DecidableEq, Repr

def severityIcon : Severity → String
  | .critical => "🔴"
  | .warning => "🟡"
  | .info => "🔵"

/-- The word for a severity in capitals. -/
def shoutedName : Severity → String
  | .critical => "CRITICAL"
  | .warning => "WARNING"
  | .info => "INFO"

/-- The cell that shows a severity, which is no text with tags. -/
def severityCell (s : Severity) : List Char :=
  (" " ++ severityIcon s ++ " " ++ shoutedName s ++ " ").toList

/-- The texts of a row of the table, without the severity. -/
def rowTexts (skill : String) (f : Finding) : Except Decimal.LimitError (List String) :=
  let file := match f.file with
    | some path => if path.isEmpty then "-" else path
    | none => "-"
  f.lineText.map fun line => [skill, f.ruleId, file, line.getD "-", f.message]

def findingColumns : List Column :=
  [{ header := "Severity", justify := .center, fixedWidth := some 12 }, { header := "Skill" },
   { header := "Rule", leastWidth := 16, unbroken := true }, { header := "File" },
   { header := "Line", justify := .right }, { header := "Message" }]

/-- The lists of the first, second, … items of rows. -/
def transposed {α : Type} (rows : List (List α)) (count : Nat) : List (List α) :=
  (List.range count).map fun i => rows.filterMap fun row => row[i]?

/-- The plain texts of cells with tags; of several faulty cells the first column decides. -/
def plainCells (rows : List (List String)) (count : Nat) :
    Except MarkupError (List (List (List Char))) := do
  let columns ← (transposed rows count).mapM fun column => column.mapM renderMarkup
  return transposed columns rows.length

/-- The table of findings, each with the name of its skill. All numbers are written before any of
the texts is read. -/
def findingTable (findings : List (String × Finding)) : Except TerminalError Table := do
  let texts ← (findings.mapM fun (skill, f) => rowTexts skill f).mapError .digits
  let cells ← (plainCells texts 5).mapError .markup
  let rows := (findings.zip cells).map fun ((_, f), row) => severityCell f.severity :: row
  return { title := "Skill Findings", columns := findingColumns, rows, ruled := true }

/-- The findings of all results, each with the name of its skill. -/
def namedFindings (results : List SkillResult) : List (String × Finding) :=
  results.flatMap fun r => r.findings.map fun f => (r.skill, f)

/-- How a skill came out. -/
def statusText (r : SkillResult) : String :=
  if r.skipped then "[dim]not applicable[/dim]"
  else if r.passed then "[green]passed[/green]"
  else "[red]" ++ toString r.findings.length ++ " finding(s)[/red]"

def skillLine (r : SkillResult) : String :=
  "[dim]Skill:[/dim]      " ++ r.skill ++ "  " ++ statusText r ++ "  [dim]" ++
    Decimal.writeWhole (r.executionTime * 1000) ++ "ms[/dim]"

def diffLine (d : Diff) : String :=
  "[dim]Files:[/dim]      " ++ toString d.files.length ++ " (+" ++ toString (d.count .addition) ++
    " / -" ++ toString (d.count .deletion) ++ ")"

def printText (columns : Nat) (text : String) : Screen TerminalError Unit :=
  (print columns text).adapt .markup

/-- Prints the results on a console of a number of columns. -/
def terminal (columns : Nat) (results : List SkillResult) (diff : Option Diff)
    (showSummary : Bool) : Screen TerminalError Unit := do
  let findings := namedFindings results
  printLine []
  if results.isEmpty then printText columns "[dim]No skills selected.[/dim]"
  else if findings.isEmpty then printText columns "[bold green]✅ All skills passed.[/bold green]"
  else printTable (← findingTable findings)
  if showSummary then
    printLine []
    if let some d := diff then printText columns (diffLine d)
    results.forM fun r => printText columns (skillLine r)

end Report
end PatchReview
