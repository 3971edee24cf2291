import PatchReview.Decimal.Natural
import PatchReview.Decimal.Printing
import PatchReview.Skill.Basic
import PatchReview.Text.CaseMap
import PatchReview.Value

/-!
# The schema of skills

Which documents describe a skill. Keys are read in a fixed order, and the first that is missing or
has a value of the wrong type is the error. Numbers stand for their texts where a text is required.
-/

namespace PatchReview
namespace Skill

/-! ## Errors -/

/-- The part of a document that an error is about. -/
inductive Place where
  | word (w : String)
  | named (outer : Place) (name : String)
  | numbered (outer : Place) (word : String) (n : Nat)
  | part (outer : Place) (word : String)
  deriving DecidableEq, Repr

def Place.text : Place → String
  | .word w => w
  | .named outer name => outer.text ++ " '" ++ name ++ "'"
  | .numbered outer w n => outer.text ++ " " ++ w ++ " #" ++ toString n
  | .part outer w => outer.text ++ " " ++ w

/-- Why a document describes no skill. -/
inductive SchemaError where
  | documentNotMapping
  | missingKey (place : Place) (key : String)
  | notText (place : Place) (key : String)
  | notTextList (place : Place) (key : String)
  | notMappingList (place : Place) (key : String)
  | notMapping (place : Place) (key : String)
  | unknownSeverity (place : Place) (word : String)
  /-- A number has too many digits to stand for a text. -/
  | digits (error : Decimal.LimitError)
  deriving DecidableEq, Repr

def SchemaError.message : SchemaError → String
  | .documentNotMapping => "skill document must be a mapping"
  | .missingKey place key => place.text ++ ": missing required key '" ++ key ++ "'"
  | .notText place key => place.text ++ ": '" ++ key ++ "' must be a string"
  | .notTextList place key => place.text ++ ": '" ++ key ++ "' must be a list of strings"
  | .notMappingList place key => place.text ++ ": '" ++ key ++ "' must be a list of mappings"
  | .notMapping place key => place.text ++ ": '" ++ key ++ "' must be a mapping"
  | .unknownSeverity place word =>
    place.text ++ ": severity must be one of critical | warning | info, got '" ++ word ++ "'"
  | .digits error => error.message

/-! ## Entries -/

abbrev Entries := List (String × Value)

/-- The value under a key; none where it is absent or null. -/
def entryOf? (data : Entries) (key : String) : Option Value :=
  match data.lookup key with
  | some .null => none
  | other => other

def requiredText (data : Entries) (key : String) (place : Place) : Except SchemaError String :=
  match entryOf? data key with
  | none => .error (.missingKey place key)
  | some (.text s) => .ok s
  | some (.int n) => (Decimal.writeInt n).mapError .digits
  | some (.float x) => .ok (Decimal.plain.write x)
  | some _ => .error (.notText place key)

/-- A text that may be left out. -/
def optionalText (data : Entries) (key : String) (place : Place) :
    Except SchemaError (Option String) :=
  match entryOf? data key with
  | none => .ok none
  | some (.text s) => .ok (some s)
  | some _ => .error (.notText place key)

def texts? : List Value → Option (List String)
  | [] => some []
  | .text s :: vs => (texts? vs).map (s :: ·)
  | _ :: _ => none

def mappings? : List Value → Option (List Entries)
  | [] => some []
  | .mapping es :: vs => (mappings? vs).map (es :: ·)
  | _ :: _ => none

/-- A list of texts, or a single text, that may be left out. -/
def optionalTexts (data : Entries) (key : String) (place : Place) :
    Except SchemaError (Option (List String)) :=
  match entryOf? data key with
  | none => .ok none
  | some (.text s) => .ok (some [s])
  | some (.list vs) =>
    match texts? vs with
    | some ss => .ok (some ss)
    | none => .error (.notTextList place key)
  | some _ => .error (.notTextList place key)

/-- A list of mappings; null stands for the empty list. -/
def mappingList (data : Entries) (key : String) (place : Place) :
    Except SchemaError (List Entries) :=
  match entryOf? data key with
  | none => .ok []
  | some (.list vs) =>
    match mappings? vs with
    | some es => .ok es
    | none => .error (.notMappingList place key)
  | some _ => .error (.notMappingList place key)

/-- A key that must be there, if only with null. -/
def requireKey (data : Entries) (key : String) (place : Place) : Except SchemaError Unit :=
  if (data.lookup key).isSome then .ok () else .error (.missingKey place key)

/-! ## Parts -/

def Trigger.ofEntries (data : Entries) (place : Place) : Except SchemaError Trigger := do
  let fileExtensions ← optionalTexts data "file_extension" place
  let pathContains ← optionalTexts data "path_contains" place
  return { fileExtensions, pathContains }

/-- A rule; once its id is known, the place of errors is named after it. -/
def Rule.ofEntries (data : Entries) (place : Place) : Except SchemaError Rule := do
  let id ← requiredText data "id" place
  let place := Place.named place id
  let word ← requiredText data "severity" place
  match Severity.ofName? (String.ofList (Text.lower word.toList)) with
  | none => .error (.unknownSeverity place word)
  | some severity =>
    let message ← requiredText data "message" place
    let pattern ← optionalText data "pattern" place
    let check ← optionalText data "check" place
    return { id, severity, message, pattern, check }

/-- The prompts of a skill, if there are any. -/
def Prompts.ofEntries (data : Entries) (place : Place) : Except SchemaError (Option Prompts) :=
  match entryOf? data "prompts" with
  | none => .ok none
  | some (.mapping es) => do
    let additionalContext ← optionalText es "additional_context" (.part place "prompts")
    return some { additionalContext }
  | some _ => .error (.notMapping place "prompts")

/-- Reads each of the mappings at its numbered place, counted from one. -/
def readNumbered {α : Type} (read : Entries → Place → Except SchemaError α) (place : Place)
    (word : String) (items : List Entries) : Except SchemaError (List α) :=
  (items.zipIdx 1).mapM fun (es, n) => read es (.numbered place word n)

/-! ## Documents -/

def ofEntries (data : Entries) : Except SchemaError Skill := do
  let name ← requiredText data "name" (.word "skill")
  let place := Place.named (.word "skill") name
  requireKey data "triggers" place
  requireKey data "rules" place
  let triggers ← readNumbered Trigger.ofEntries place "trigger"
    (← mappingList data "triggers" place)
  let rules ← readNumbered Rule.ofEntries place "rule" (← mappingList data "rules" place)
  let prompts ← Prompts.ofEntries data place
  let version ← requiredText data "version" place
  let description ← requiredText data "description" place
  return { name, version, description, triggers, rules, prompts }

def ofValue : Value → Except SchemaError Skill
  | .mapping data => ofEntries data
  | _ => .error .documentNotMapping

end Skill
end PatchReview
