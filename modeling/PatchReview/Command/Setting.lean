import PatchReview.Engine.Selection
import PatchReview.Command.Invocation

/-!
# The setting of a command

What a command finds besides the disk, and what commands have in common: printing on the console,
loading the configuration and finding the directory of the skills.
-/

namespace PatchReview
namespace Command

/-- The variables of the environment, the bytes of the input, the number of columns of the console
and what bounds the loading of a configuration. -/
structure Setting where
  environment : Config.Environment := []
  input : List UInt8 := []
  columns : Nat := 80
  bounds : Config.Bounds := .unreached

/-- Prints a text with tags on the console for errors. -/
def Setting.print (s : Setting) (text : String) : Work Unit :=
  Work.onErrors .markup (Console.print s.columns text)

/-- Prints a line on the output, as it is. -/
def printOutput (text : String) : Work Unit :=
  Work.onOutput .markup (Console.printLine text.toList)

/-- The configuration for the working directory. There is none if an error is told. -/
def Setting.loadConfig (s : Setting) (asked : String) : Work (Option Config) := do
  let d ← Work.disk
  match Config.load s.bounds d s.environment d.workingDirectory asked with
  | .ok config => return some config
  | .error error =>
    if error.isReported then
      s.print ("[bold red]Config error:[/bold red] " ++ error.message)
      return none
    else throw (.config error)

def pathOf : Toml.Value → Work DiskPath
  | .text s => return .ofText s
  | v => throw (.notPath v.kind)

/-- The mark by which a value that is no text is told apart from others. Numbers are told apart by
their size alone. -/
def markOf : Toml.Value → Option String
  | .int n => some (toString n)
  | .bool b => some (if b then "1" else "0")
  | .float x =>
    match Decimal.Reading.ofFloat x with
    | .notANumber => none
    | .infinite _ => some (Decimal.plain.write x)
    | .finite value =>
      let size := value.magnitude
      if size.num % size.den == 0 then
        some (toString (Decimal.signed value.negative (size.num / size.den)))
      else some (Decimal.plain.write x)
  | .moment m => some m.literal
  | _ => none

/-- The skill that a value of a configuration asks for. -/
def requestOf : Toml.Value → Request
  | .text s => .name s
  | .list items => .unusable (Toml.Value.list items).kind
  | .table entries => .unusable (Toml.Value.table entries).kind
  | v => .stray ((v.plain.toOption).getD "") (markOf v)

/-- The directory of the skills: the one that is asked for, or else the configured one. There is
none if an error is told. -/
def Setting.skillsDirectory (s : Setting) (place : Place) : Work (Option DiskPath) := do
  if place.directory.isEmpty then
    match ← s.loadConfig place.config with
    | none => return none
    | some config => return some (← Work.expandHome (← pathOf config.directory))
  else return some (← Work.expandHome (.ofText place.directory))

end Command
end PatchReview
