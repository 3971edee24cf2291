import PatchReview.Log
import PatchReview.Skill.Directory
import PatchReview.Skill.Schema
import PatchReview.Skill.Validation
import PatchReview.Text.Utf8
import PatchReview.Yaml.Construction

/-!
# Loading skills

A skill is loaded from a file by decoding its bytes, reading the text as a document, reading the
document as a skill and validating that. In a directory, a file that holds no skill is passed over
with a message, and so is one whose name is taken; only a scalar that is no value of its kind and a
pattern with a number that cannot be counted stop the loading of all.
-/

namespace PatchReview
namespace Skill

/-- Why a file holds no skill. -/
inductive LoadError where
  | unreadable (path : DiskPath) (error : FileError)
  | notText (path : DiskPath)
  | notDocument (path : DiskPath)
  | scalar (error : Yaml.Error)
  | schema (error : SchemaError)
  | invalid (error : ValidationError)
  deriving DecidableEq, Repr

namespace LoadError

/-- The wording of an error. The reason why bytes are no text is shown by a mark. -/
def message : LoadError → String
  | .unreadable path error => "Failed to read " ++ path.text ++ ": " ++ error.message
  | .notText path => "Failed to parse " ++ path.text ++ ": <utf-8 error>"
  | .notDocument path => "Failed to parse " ++ path.text ++ ": " ++ Yaml.Error.message .malformed
  | .scalar error => error.message
  | .schema error => error.message
  | .invalid (.badPattern _ (.roundsTooLarge)) => Pattern.PatternError.message .roundsTooLarge
  | .invalid (.badPattern _ (.digits error)) => error.message
  | .invalid (.badPattern _ (.bothAlphabets)) => Pattern.PatternError.message .bothAlphabets
  | .invalid error => error.message

/-- Whether an error is one of a single file, which can be passed over. -/
def isOfFile : LoadError → Bool
  | .scalar _ => false
  | .schema (.digits _) => false
  | .invalid (.badPattern _ .malformed) => true
  | .invalid (.badPattern _ _) => false
  | _ => true

end LoadError

/-- The depth to which a document is looked into. -/
def schemaDepth : Nat := 6

/-- The skill that the bytes of a file hold. -/
def ofBytes (path : DiskPath) (bytes : List UInt8) : Except LoadError Skill := do
  let some text := Text.decodeUtf8? bytes | .error (.notText path)
  let value ← (Yaml.parse schemaDepth text).mapError fun error =>
    if error == .malformed then .notDocument path else .scalar error
  let skill ← (ofValue value).mapError .schema
  (validate skill).mapError .invalid
  return skill

/-- A skill with the path of the file that it comes from. -/
structure Loaded where
  source : DiskPath
  skill : Skill
  deriving DecidableEq, Repr

/-- The skill of a file. -/
def load (d : Disk) (path : DiskPath) : Except LoadError Loaded := do
  let bytes ← (d.read path).mapError (.unreadable path)
  let skill ← ofBytes path bytes
  return { source := path, skill }

end Skill
end PatchReview
