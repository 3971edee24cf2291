import PatchReview.Yaml.Error

/-!
# Tokens of YAML texts

A YAML text is a list of tokens. Where the text stops being one, the list ends with the reason, so
that the reader of tokens meets the first fault in the order of the text.
-/

namespace PatchReview
namespace Yaml

/-- A tag as it is written: a handle, unless the tag is written out, and what follows it. -/
structure TagText where
  handle : Option String
  suffix : String
  deriving DecidableEq, Repr

/-- What a directive says. -/
inductive Directive where
  | version (major : Nat)
  | tag (handle start : String)
  | unknown
  deriving DecidableEq, Repr

/-- A token. -/
inductive Token where
  | directive (d : Directive)
  | documentStart
  | documentEnd
  | blockSequenceStart
  | blockMappingStart
  | blockEnd
  | flowSequenceStart
  | flowSequenceEnd
  | flowMappingStart
  | flowMappingEnd
  | flowEntry
  | blockEntry
  | key
  | value
  | alias (name : String)
  | anchor (name : String)
  | tag (t : TagText)
  | scalar (text : String) (plain : Bool)
  | streamEnd
  | fault (error : Error)
  deriving DecidableEq, Repr

end Yaml
end PatchReview
