import PatchReview.Engine
import PatchReview.Skill.Library

/-!
# Skills by request

The skills of a directory that are asked for run in the order in which they are asked for, each
once. What is asked for may come from a configuration, where values other than texts name no skill.
-/

namespace PatchReview

/-- What is asked for. -/
inductive Request where
  /-- The skill of a name. -/
  | name (word : String)
  /-- A value that names no skill. It is the same as another with the same mark; without a mark it
  is not even the same as itself. -/
  | stray (shown : String) (mark : Option String)
  /-- A value of a kind that cannot be asked for. -/
  | unusable (kind : String)
  deriving DecidableEq, Repr

namespace Request

/-- Whether two requests ask for the same. -/
def same : Request → Request → Bool
  | .name a, .name b => a == b
  | .stray _ (some a), .stray _ (some b) => a == b
  | _, _ => false

def text : Request → String
  | .name word => word
  | .stray shown _ => shown
  | .unusable kind => kind

/-- The kind of the value, if it cannot be asked for. -/
def unusable? : Request → Option String
  | .unusable kind => some kind
  | _ => none

def find? (loaded : List Skill.Loaded) : Request → Option Skill.Loaded
  | .name word => Skill.named? word loaded
  | _ => none

/-- The first of each of the requests that ask for the same. -/
def distinct (requests : List Request) : List Request :=
  requests.foldl (fun kept r => if kept.any (same · r) then kept else kept ++ [r]) []

end Request

namespace Engine

/-- Adds the skill that is asked for to those selected before it, if it is among the loaded ones. -/
def selectNext (loaded selected : List Skill.Loaded) (request : Request) :
    Work (List Skill.Loaded) := do
  match request.find? loaded with
  | some l => return selected ++ [l]
  | none =>
    Work.tell .debug ("Ignoring unknown skill id '" ++ request.text ++ "'")
    return selected

def select (directory : DiskPath) (requests : List Request) : Work (List Skill.Loaded) := do
  let loaded ← Skill.loadAll directory
  match requests.findSome? Request.unusable? with
  | some kind => throw (.notName kind)
  | none => (Request.distinct requests).foldlM (selectNext loaded) []

def runAll (skills : List Skill) (d : Diff) : Work (List SkillResult) := do
  let desk ← get
  let (result, log) := (runSkills skills d).run.run desk.log
  set { desk with log }
  Work.ofExcept .pattern result

/-- The skills of a directory that are to run; where nothing is asked for nothing is loaded. -/
def requested (directory : DiskPath) (requests : List Request) : Work (List Skill.Loaded) := do
  let directory ← Work.expandHome directory
  if requests.isEmpty then return []
  else select directory requests

end Engine
end PatchReview
