import PatchReview.Config.Basic
import PatchReview.Files.Disk
import PatchReview.Text.Utf8
import PatchReview.Toml.Parser

/-!
# Loading a configuration

A configuration comes from a file, or from the defaults where there is none. Variables of the
environment take the place of what it says; those that make no sense are passed over.
-/

namespace PatchReview

/-- Why there is no configuration. -/
inductive ConfigError where
  /-- The file that was asked for is not there. -/
  | notFound (path : String)
  | unreadable (path : DiskPath) (error : FileError)
  /-- The file is no TOML; the wording says where and why. -/
  | malformed (path : DiskPath) (wording : String)
  | notTable (name : String)
  | badFormat (value : String)
  | badFailOn (value : String)
  | badWorkers
  | badEnabled
  /-- The bytes of the file are no text. -/
  | notText
  /-- A whole number has too many digits. -/
  | digits (error : Decimal.LimitError)
  /-- A text that is read, or a value whose text is asked for, is nested too deep. -/
  | nested
  /-- The system does not say what is at the path of the file. -/
  | refused (wording : String)
  deriving DecidableEq, Repr

namespace ConfigError

/-- The words between which one may choose. -/
def choices (words : List String) : String := String.intercalate " | " words

/-- The wording of an error. The reason why bytes are no text is shown by a mark. -/
def message : ConfigError → String
  | .notFound path => "Config file not found: " ++ path
  | .unreadable path error => "Failed to parse " ++ path.text ++ ": " ++ error.message
  | .malformed path wording => "Failed to parse " ++ path.text ++ ": " ++ wording
  | .notTable name => "[" ++ name ++ "] must be a table"
  | .badFormat value =>
    "output.format must be one of " ++ choices (OutputFormat.all.map (·.name)) ++ ", got '" ++
      value ++ "'"
  | .badFailOn value =>
    "output.fail_on must be one of " ++ choices (FailOn.all.map FailOn.name) ++ ", got '" ++
      value ++ "'"
  | .badWorkers => "engine.max_workers must be a positive integer"
  | .badEnabled => "skills.enabled must be a list of skill names"
  | .notText => "<utf-8 error>"
  | .digits error => error.message
  | .nested => "maximum recursion depth exceeded"
  | .refused wording => wording

/-- Whether an error is told to the user as one of the configuration. -/
def isReported : ConfigError → Bool
  | .notText => false
  | .digits _ => false
  | .nested => false
  | .refused _ => false
  | _ => true

/-- The error for a file whose text is no document. -/
def ofToml (path : DiskPath) (text : List Char) : Toml.Error → ConfigError
  | .malformed breach rest =>
    .malformed path (Toml.Error.message (Toml.joinLineEnds text) (.malformed breach rest))
  | .nested => .nested
  | .digits error => .digits error

end ConfigError

namespace Config

/-- What bounds the loading of a configuration, besides the text: the room there is for brackets
inside of each other when a text is read, the room for lists and tables inside of each other when
the text of a value is asked for, and what the system says about a path if it does not say what is
there. For a number of brackets, lists and tables there is always room. -/
structure Bounds where
  depth : Nat
  reading : List Char → Nat
  writing : Toml.Value → Nat
  le_reading : ∀ text, depth ≤ reading text
  le_writing : ∀ v, depth ≤ writing v
  refusal? : DiskPath → Option String

/-- Bounds that nothing reaches: there is room for all brackets of a text and all that is inside of
a value, and the system says what is at every path. -/
def Bounds.unreached : Bounds where
  depth := 0
  reading := List.length
  writing := Toml.Value.depth
  le_reading _ := Nat.zero_le _
  le_writing _ := Nat.zero_le _
  refusal? _ := none

variable (bounds : Bounds)

/-! ## From a file -/

/-- The entries of a table of the document, which may be missing. -/
def sectionOf (entries : Toml.Entries) (name : String) : Except ConfigError Toml.Entries :=
  match entries.lookup name with
  | none => .ok []
  | some (.table inner) => .ok inner
  | some _ => .error (.notTable name)

/-- The plain text of a value, if there is room for what is inside of it. -/
def plainText (v : Toml.Value) : Except ConfigError String :=
  if v.depth ≤ bounds.writing v then v.plain.mapError .digits else .error .nested

/-- The word that a value names, where it may be missing. -/
def chosen {α : Type} (ofName? : String → Option α) (default : α) (error : String → ConfigError) :
    Option Toml.Value → Except ConfigError α
  | none => .ok default
  | some v =>
    let word := match v with
      | .text s => ofName? s
      | _ => none
    match word with
    | some a => .ok a
    | none => do throw (error (← plainText bounds v))

/-- Whether a value is a number of workers. -/
def isWorkers : Toml.Value → Bool
  | .int n => 1 ≤ n
  | .bool b => b
  | _ => false

/-- The configuration that a document describes. Keys that are not known are passed over. -/
def ofEntries (entries : Toml.Entries) : Except ConfigError Config := do
  let standard : Config := {}
  let version ← plainText bounds ((entries.lookup "version").getD (.text standard.version))
  let skills ← sectionOf entries "skills"
  let engine ← sectionOf entries "engine"
  let output ← sectionOf entries "output"
  let format ← chosen bounds OutputFormat.ofName? standard.format .badFormat
    (output.lookup "format")
  let failOn ← chosen bounds FailOn.ofName? standard.failOn .badFailOn (output.lookup "fail_on")
  let maxWorkers := (engine.lookup "max_workers").getD standard.maxWorkers
  if !isWorkers maxWorkers then throw .badWorkers
  let enabled ← match skills.lookup "enabled" with
    | none => pure standard.enabled
    | some (.list items) => pure items
    | some _ => throw .badEnabled
  return {
    version
    directory := (skills.lookup "directory").getD standard.directory
    enabled
    installDefaults := (skills.lookup "install_defaults").getD standard.installDefaults
    maxWorkers, format, failOn }

/-- The configuration that the bytes of a file hold. -/
def ofBytes (path : DiskPath) (bytes : List UInt8) : Except ConfigError Config := do
  let some text := Text.decodeUtf8? bytes | throw .notText
  let entries ← (Toml.parse (bounds.reading text) text).mapError (.ofToml path text)
  ofEntries bounds entries

/-- The path where a configuration is looked for: the one that is asked for, or else that of the
file of a directory. -/
def pathFor (base : DiskPath) (asked : String) : DiskPath :=
  if asked.isEmpty then base.child fileName else .ofText asked

/-- The file that holds the configuration, which must be there if it is asked for. -/
def find (d : Disk) (base : DiskPath) (asked : String) : Except ConfigError (Option DiskPath) :=
  let path := pathFor base asked
  match bounds.refusal? path with
  | some wording => .error (.refused wording)
  | none =>
    if d.holdsFile path then .ok (some path)
    else if asked.isEmpty then .ok none
    else .error (.notFound asked)

/-! ## From the environment -/

abbrev Environment := List (String × String)

/-- The value of a variable that is set and not empty. -/
def Environment.get? (environment : Environment) (name : String) : Option String :=
  (environment.lookup name).filter (!·.isEmpty)

/-- The names between commas, without blanks around them. -/
def namesIn (text : String) : List String :=
  ((Text.splitAtChar ',' text.toList).map (Text.trimBy Text.isBlank)).filterMap fun name =>
    if name.isEmpty then none else some (String.ofList name)

def workersOf? (text : String) : Option Int :=
  match Decimal.readTyped 10 text.toList with
  | .ok (some n) => if 1 ≤ n then some n else none
  | _ => none

/-- The configuration with what the environment says in place of what it says itself. -/
def override (config : Config) (environment : Environment) : Config where
  version := config.version
  directory := ((environment.get? "DIFFSKILLS_SKILLS_DIR").map .text).getD config.directory
  enabled := ((environment.get? "DIFFSKILLS_SKILLS").map fun text =>
    (namesIn text).map .text).getD config.enabled
  installDefaults := config.installDefaults
  maxWorkers := (((environment.get? "DIFFSKILLS_MAX_WORKERS").bind workersOf?).map .int).getD
    config.maxWorkers
  format := ((environment.get? "DIFFSKILLS_FORMAT").bind OutputFormat.ofName?).getD config.format
  failOn := ((environment.get? "DIFFSKILLS_FAIL_ON").bind FailOn.ofName?).getD config.failOn

/-! ## Loading -/

/-- The configuration for a directory, from the file that is asked for or that of the directory. -/
def load (d : Disk) (environment : Environment) (base : DiskPath) (asked : String) :
    Except ConfigError Config := do
  match ← find bounds d base asked with
  | none => return ({} : Config).override environment
  | some path =>
    let bytes ← (d.read path).mapError (.unreadable path)
    return (← ofBytes bounds path bytes).override environment

end Config
end PatchReview
