import PatchReview.Command.Check

/-!
# Looking at and installing skills

The commands that validate the files of a directory, list its skills, install the bundled ones, and
write a configuration to start with.
-/

namespace PatchReview
namespace Command

/-! ## Validating -/

def validText (path : DiskPath) (skill : Skill) : String :=
  "[green]✓[/green] " ++ path.text ++ " (" ++ skill.name ++ ", " ++
    toString skill.rules.length ++ " rules)"

/-- The text about a file that holds no skill. -/
def rejectedText (path : DiskPath) (error : Skill.LoadError) : String :=
  "[red]✗[/red] " ++ path.text ++ ": " ++ error.message

/-- The text about a file with a skill whose name is taken. -/
def takenText (path : DiskPath) (skill : Skill) (old : Skill.Loaded) : String :=
  "[red]✗[/red] " ++ path.text ++ ": skill name '" ++ skill.name ++ "' already used by " ++
    old.source.text

/-- Prints whether a file holds a skill with a name of its own; gives the accepted skills, and
whether all files were fine. -/
def Setting.validateNext (s : Setting) (before : List Skill.Loaded × Bool) (path : DiskPath) :
    Work (List Skill.Loaded × Bool) := do
  let (accepted, fine) := before
  match Skill.load (← Work.disk) path with
  | .error error =>
    if error.isOfFile then
      s.print (rejectedText path error)
      return (accepted, false)
    else throw (.skill error)
  | .ok new =>
    match Skill.named? new.skill.name accepted with
    | some old =>
      s.print (takenText path new.skill old)
      return (accepted, false)
    | none =>
      s.print (validText path new.skill)
      return (accepted ++ [new], fine)

/-- Validates the files of a directory. -/
def Setting.validate (s : Setting) (place : Place) : Work Ending := do
  let some directory ← s.skillsDirectory place | return .misuse
  if (← Work.disk).holdsDirectory directory then
    let (_, fine) ← (Skill.filesOf (← Work.disk) directory).foldlM s.validateNext ([], true)
    return if fine then .success else .failure
  else
    s.print ("[bold red]Error:[/bold red] " ++ directory.text ++ " is not a directory")
    return .misuse

/-! ## Listing -/

def skillColumns : List Console.Column :=
  [{ header := "Name", unbroken := true }, { header := "Version" },
   { header := "Rules", justify := .right }, { header := "Description" }, { header := "Source" }]

def skillRow (l : Skill.Loaded) : List String :=
  [l.skill.name, l.skill.version, toString l.skill.rules.length, l.skill.description, l.source.text]

def skillTable (loaded : List Skill.Loaded) : Except Console.MarkupError Console.Table := do
  let rows ← Report.plainCells (loaded.map skillRow) skillColumns.length
  return { title := "Skills", columns := skillColumns, rows }

/-- Lists the skills of a directory. -/
def Setting.list (s : Setting) (place : Place) : Work Ending := do
  let some directory ← s.skillsDirectory place | return .misuse
  let loaded ← Skill.loadAll directory
  if loaded.isEmpty then s.print "[dim]No skills found.[/dim]"
  else Work.onOutput .markup do Console.printTable (← skillTable loaded)
  return .success

/-! ## Writing files -/

/-- Writes a configuration to start with, unless there is one. -/
def Setting.start (s : Setting) : Work Ending := do
  let d ← Work.disk
  let path := d.workingDirectory.child Config.fileName
  if d.holds path then
    s.print ("[yellow]⚠[/yellow]  " ++ Config.fileName ++ " already exists at " ++ path.text)
    return .failure
  else
    Work.write path Config.starter
    s.print ("[green]✓[/green] Created " ++ path.text)
    return .success

/-- Installs the bundled skills that are missing in a directory. -/
def Setting.install (s : Setting) (place : Place) : Work Ending := do
  let some directory ← s.skillsDirectory place | return .misuse
  match ← Work.orFileError (Skill.install directory) with
  | .error error =>
    s.print ("[bold red]Error:[/bold red] " ++ error.message)
    return .misuse
  | .ok written =>
    if written.isEmpty then
      s.print ("[dim]Default skills already present in " ++ directory.text ++ "[/dim]")
    written.forM fun path => s.print ("[green]✓[/green] Installed " ++ path.text)
    return .success

end Command
end PatchReview
