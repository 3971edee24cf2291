import PatchReview.Engine.Selection

/-!
# Pools of workers

Several skills may be run by several workers at a time. A skill waits until a worker is free, its
messages are told while it is run, and its result is kept at the place of the skill. Which skill
gets on next is not up to the engine; the results are read off once all skills have been run.
-/

namespace PatchReview
namespace Engine

/-! ## Tasks -/

/-- The result of a skill that is run on its own, and the messages that are told. -/
def alone (d : Diff) (skill : Skill) : Except Pattern.PatternError SkillResult × List LogEntry :=
  (executeSkill skill d).run.run []

/-- A skill that waits for a worker; one that is run, with its result and the messages that are
still to be told; and one that has been run. -/
inductive Task where
  | waiting (skill : Skill)
  | running (messages : List LogEntry) (result : Except Pattern.PatternError SkillResult)
  | finished (result : Except Pattern.PatternError SkillResult)

namespace Task

def isRunning : Task → Bool
  | .running _ _ => true
  | _ => false

def result? : Task → Option (Except Pattern.PatternError SkillResult)
  | .finished result => some result
  | _ => none

/-- A task after its next turn, and the messages that are told in it. A finished task has no
turn. -/
def next? (d : Diff) : Task → Option (Task × List LogEntry)
  | .waiting skill => some (.running (alone d skill).2 (alone d skill).1, [])
  | .running (message :: messages) result => some (.running messages result, [message])
  | .running [] result => some (.finished result, [])
  | .finished _ => none

def turnsLeft (d : Diff) : Task → Nat
  | .waiting skill => (alone d skill).2.length + 2
  | .running messages _ => messages.length + 1
  | .finished _ => 0

end Task

/-! ## Pools -/

/-- The tasks of a pool, each at the place of its skill, and the messages that have been told. -/
structure Pool where
  tasks : List Task
  log : List LogEntry := []

namespace Pool

def ofSkills (skills : List Skill) : Pool := { tasks := skills.map .waiting }

/-- Gives a turn to the task at a place. A task that waits needs a worker who is not busy. -/
def advance? (workers : Nat) (d : Diff) (p : Pool) (i : Nat) : Option Pool := do
  let task ← p.tasks[i]?
  let (next, told) ← task.next? d
  if task.isRunning || p.tasks.countP Task.isRunning < workers then
    some { tasks := p.tasks.set i next, log := p.log ++ told }
  else none

/-- Gives turns to the tasks at some places, one after the other. -/
def play? (workers : Nat) (d : Diff) (p : Pool) (turns : List Nat) : Option Pool :=
  turns.foldlM (advance? workers d) p

/-- The results in the order of the skills, or the first error in that order, once all are
finished. -/
def results? (p : Pool) : Option (Except Pattern.PatternError (List SkillResult)) :=
  (p.tasks.mapM Task.result?).map fun results => results.mapM id

/-- The results, and the messages that have been told, if the turns can be given and all skills have
been run after them. -/
def run? (workers : Nat) (d : Diff) (p : Pool) (turns : List Nat) :
    Option (Except Pattern.PatternError (List SkillResult) × List LogEntry) := do
  let p ← p.play? workers d turns
  return (← p.results?, p.log)

def turnsLeft (d : Diff) (p : Pool) : Nat := p.tasks.foldr (fun task n => task.turnsLeft d + n) 0

/-- Turns by which the last task that can get on always does, some number of them at most. -/
def lastFirst (workers : Nat) (d : Diff) : Nat → Pool → List Nat
  | 0, _ => []
  | n + 1, p =>
    match (List.range p.tasks.length).reverse.findSome? fun i =>
      (p.advance? workers d i).map fun next => (i, next) with
    | some (i, next) => i :: lastFirst workers d n next
    | none => []

end Pool

/-! ## Running with workers -/

/-- Runs each of the skills, by several workers if there are several skills; the results are in the
order of the skills. The turns that the tasks get are up to a schedule. There is no result if they
cannot be given, or leave a skill that is not run. -/
def runScheduled (workers : Nat) (schedule : Pool → List Nat) (skills : List Skill) (d : Diff) :
    Run (Option (List SkillResult)) :=
  if 1 < workers && 1 < skills.length then
    match (Pool.ofSkills skills).run? workers d (schedule (.ofSkills skills)) with
    | none => return none
    | some (result, told) => do
      modify (· ++ told)
      match result with
      | .ok results => return some results
      | .error error => throw error
  else return some (← runSkills skills d)

/-- The workers of an engine. There is one at least. -/
def workersOf (maxWorkers : Int) : Nat := if 1 < maxWorkers then maxWorkers.toNat else 1

/-- Runs the skills of a directory that are asked for. -/
def execute (maxWorkers : Int) (schedule : Pool → List Nat) (directory : DiskPath)
    (requests : List Request) (d : Diff) : Work (Option (List SkillResult)) := do
  let selected ← requested directory requests
  let desk ← get
  let (result, log) :=
    (runScheduled (workersOf maxWorkers) schedule (selected.map (·.skill)) d).run.run desk.log
  set { desk with log }
  Work.ofExcept .pattern result

end Engine
end PatchReview
