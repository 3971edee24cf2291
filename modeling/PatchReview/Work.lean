import PatchReview.Config.Loading
import PatchReview.Console.Screen
import PatchReview.Log
import PatchReview.Skill.Loading

/-!
# Work

Work changes the disk, tells messages and prints. It may be given up with a fault; what it has done
until then stays done.
-/

namespace PatchReview

/-- What work is done on: the disk, the messages that are told, and what is printed as output and as
errors. -/
structure Desk where
  disk : Disk
  log : List LogEntry := []
  output : String := ""
  errors : String := ""

/-- Why work is given up. -/
inductive Fault where
  /-- A home directory is not known. -/
  | noHome
  | file (error : FileError)
  | skill (error : Skill.LoadError)
  | pattern (error : Pattern.PatternError)
  | markup (error : Console.MarkupError)
  | config (error : ConfigError)
  | digits (error : Decimal.LimitError)
  /-- The input is no text. -/
  | notText
  /-- A value of a kind stands where a path belongs. -/
  | notPath (kind : String)
  /-- A value of a kind stands where the name of a skill belongs. -/
  | notName (kind : String)
  deriving DecidableEq, Repr

def Fault.message : Fault → String
  | .noHome => "Could not determine home directory."
  | .file error => error.message
  | .skill error => error.message
  | .pattern error => error.message
  | .markup error => error.message
  | .config error => error.message
  | .digits error => error.message
  | .notText => ConfigError.message .notText
  | .notPath kind => "expected str, bytes or os.PathLike object, not " ++ kind
  | .notName kind => "unhashable type: " ++ Text.quoted kind

abbrev Work := ExceptT Fault (StateM Desk)

namespace Work

def runOn {α : Type} (work : Work α) (desk : Desk) : Except Fault α × Desk :=
  (ExceptT.run work).run desk

def disk : Work Disk := return (← get).disk

def tell (level : LogLevel) (message : String) : Work Unit :=
  modify fun desk => { desk with log := desk.log ++ [⟨level, message⟩] }

/-- A result or a fault. -/
def ofExcept {ε α : Type} (fault : ε → Fault) : Except ε α → Work α
  | .ok a => return a
  | .error e => throw (fault e)

/-- Does work, and gives the failure with a file instead of giving up because of it. -/
def orFileError {α : Type} (work : Work α) : Work (Except FileError α) := do
  let (result, desk) := work.runOn (← get)
  set desk
  match result with
  | .ok a => return .ok a
  | .error (.file error) => return .error error
  | .error fault => throw fault

/-! ## Files -/

/-- A path with the home directory in place of a tilde. -/
def expandHome (path : DiskPath) : Work DiskPath := do
  match path.expandHome? (← disk).home with
  | some path => return path
  | none => throw .noHome

/-- Makes a directory, with the directories on the way to it. -/
def ensureDirectories (path : DiskPath) : Work Unit := do
  let desk ← get
  let (result, disk) := desk.disk.ensureDirectories path
  set { desk with disk }
  ofExcept .file result

def write (path : DiskPath) (text : String) : Work Unit := do
  let desk ← get
  set { desk with disk := ← ofExcept .file (desk.disk.write path (Text.encodeUtf8 text)) }

/-! ## Printing -/

def onOutput {ε α : Type} (fault : ε → Fault) (screen : Console.Screen ε α) : Work α := do
  let desk ← get
  let (result, output) := screen.run.run desk.output
  set { desk with output }
  ofExcept fault result

def onErrors {ε α : Type} (fault : ε → Fault) (screen : Console.Screen ε α) : Work α := do
  let desk ← get
  let (result, errors) := screen.run.run desk.errors
  set { desk with errors }
  ofExcept fault result

end Work
end PatchReview
