import Mathlib.Algebra.BigOperators.Group.List.Basic
import PatchReview.Engine.Pool
import PatchReview.Proofs.Engine.Outcome

/-!
# Whatever the schedule

A turn of a task changes neither what the task comes to in the end nor what it tells altogether, and
it takes one of a number of turns. So the results of a pool, at the places of the skills, are those
of the skills that are run on their own, whichever turns led to them; and turns can be given until
there are results, however they were given so far.
-/

namespace PatchReview
namespace Engine

/-! ## Turns of a task -/

namespace Task

/-- What a task comes to in the end. -/
def promised (d : Diff) : Task → Except Pattern.PatternError SkillResult
  | .waiting skill => (alone d skill).1
  | .running _ result => result
  | .finished result => result

/-- The messages that a task has still to tell. -/
def untold (d : Diff) : Task → List LogEntry
  | .waiting skill => (alone d skill).2
  | .running messages _ => messages
  | .finished _ => []

variable {d : Diff} {task next : Task} {told : List LogEntry}

/-- A turn leaves what a task comes to, tells the first of its messages, if any, and is one turn. -/
theorem of_next? (h : task.next? d = some (next, told)) :
    next.promised d = task.promised d ∧ task.untold d = told ++ next.untold d ∧
      task.turnsLeft d = next.turnsLeft d + 1 := by
  cases task with
  | waiting skill =>
    cases h
    exact ⟨rfl, rfl, rfl⟩
  | running messages result =>
    cases messages with
    | nil =>
      cases h
      exact ⟨rfl, rfl, rfl⟩
    | cons message messages =>
      cases h
      exact ⟨rfl, rfl, rfl⟩
  | finished result =>
    cases h

/-- A task that is not finished has a turn. -/
theorem exists_next? (h : task.result? = none) : ∃ next told, task.next? d = some (next, told) := by
  cases task with
  | waiting skill =>
    exact ⟨_, _, rfl⟩
  | running messages result =>
    cases messages with
    | nil =>
      exact ⟨_, _, rfl⟩
    | cons message messages =>
      exact ⟨_, _, rfl⟩
  | finished result =>
    cases h

/-- A task with a result is finished. -/
theorem eq_finished_of_result? {result : Except Pattern.PatternError SkillResult}
    (h : task.result? = some result) : task = .finished result := by
  cases task with
  | waiting skill =>
    cases h
  | running messages result =>
    cases h
  | finished result =>
    cases h
    rfl

end Task

/-! ## Turns in a pool -/

namespace Pool

variable {workers : Nat} {d : Diff} {p p' : Pool} {i : Nat} {skills : List Skill}

/-- A turn makes the task at its place go on, and leaves the others. -/
theorem advance?_eq (before after : List Task) (task : Task) (log : List LogEntry) :
    advance? workers d { tasks := before ++ task :: after, log } before.length =
      (task.next? d).bind fun turn =>
        if task.isRunning || (before ++ task :: after).countP Task.isRunning < workers then
          some { tasks := before ++ turn.1 :: after, log := log ++ turn.2 }
        else none := by
  have hset (next : Task) :
      (before ++ task :: after).set before.length next = before ++ next :: after := by
    rw [List.set_append_right _ _ (Nat.le_refl _), Nat.sub_self, List.set_cons_zero]
  have hget : (before ++ task :: after)[before.length]? = some task := by
    rw [List.getElem?_append_right (Nat.le_refl _), Nat.sub_self, List.getElem?_cons_zero]
  rw [advance?, hget, Option.bind_eq_bind, Option.bind_some]
  cases task.next? d with
  | none =>
    rfl
  | some turn =>
    rcases turn with ⟨next, told⟩
    simp only [Option.bind_eq_bind, Option.bind_some, hset]

/-- What a turn does, and when it can be given. -/
theorem exists_of_advance? (h : p.advance? workers d i = some p') :
    ∃ before task after next told, p.tasks = before ++ task :: after ∧
      task.next? d = some (next, told) ∧
      (task.isRunning = true ∨ p.tasks.countP Task.isRunning < workers) ∧
      p' = { tasks := before ++ next :: after, log := p.log ++ told } := by
  rcases p with ⟨tasks, log⟩
  have hlt : i < tasks.length := by
    by_contra hge
    rw [advance?, List.getElem?_eq_none (Nat.le_of_not_lt hge)] at h
    cases h
  -- the task at the place is split off from those around it
  have hsplit : tasks = tasks.take i ++ tasks[i] :: tasks.drop (i + 1) := by
    rw [← List.drop_eq_getElem_cons hlt, List.take_append_drop]
  have hlength : (tasks.take i).length = i := List.length_take_of_le (Nat.le_of_lt hlt)
  generalize tasks.take i = before, tasks[i] = task, tasks.drop (i + 1) = after at hsplit hlength
  subst hsplit hlength
  rw [advance?_eq] at h
  cases hnext : task.next? d with
  | none =>
    rw [hnext] at h
    cases h
  | some turn =>
    rw [hnext, Option.bind_some] at h
    split at h
    · rename_i hfree
      cases h
      exact ⟨before, task, after, turn.1, turn.2, rfl, hnext, by simpa using hfree, rfl⟩
    · cases h

/-! ## Results of a pool -/

/-- There are results if all tasks are finished. -/
theorem eq_of_mapM_result? {tasks : List Task}
    {results : List (Except Pattern.PatternError SkillResult)}
    (h : tasks.mapM Task.result? = some results) : tasks = results.map .finished := by
  induction tasks generalizing results with
  | nil =>
    cases h
    rfl
  | cons task tasks ih =>
    rw [List.mapM_cons, Option.bind_eq_bind, Option.bind_eq_some_iff] at h
    rcases h with ⟨result, htask, h⟩
    rw [Option.bind_eq_bind, Option.bind_eq_some_iff] at h
    rcases h with ⟨others, hothers, hdone⟩
    cases hdone
    rw [Task.eq_finished_of_result? htask, ih hothers, List.map_cons]

/-- While there are no results, some task is not finished. -/
theorem exists_unfinished (h : p.results? = none) : ∃ task ∈ p.tasks, task.result? = none := by
  have hnone : p.tasks.mapM Task.result? = none := by
    rwa [results?, Option.map_eq_none_iff] at h
  generalize p.tasks = tasks at hnone
  induction tasks with
  | nil =>
    cases hnone
  | cons task tasks ih =>
    cases htask : task.result? with
    | none =>
      exact ⟨task, List.mem_cons_self, htask⟩
    | some result =>
      rw [List.mapM_cons, htask, Option.bind_eq_bind, Option.bind_some] at hnone
      cases hothers : tasks.mapM Task.result? with
      | none =>
        rcases ih hothers with ⟨other, hmem, hother⟩
        exact ⟨other, List.mem_cons_of_mem _ hmem, hother⟩
      | some results =>
        rw [hothers] at hnone
        cases hnone

/-! ## What all turns keep -/

/-- A pool at work for skills: each task comes to what its skill comes to on its own, what has been
told and what is still to be told are the messages of the skills, and no more tasks run than there
are workers. -/
structure Serves (workers : Nat) (d : Diff) (skills : List Skill) (p : Pool) : Prop where
  promised : p.tasks.map (Task.promised d) = skills.map fun skill => (alone d skill).1
  told : (p.log ++ p.tasks.flatMap (Task.untold d)).Perm
    (skills.flatMap fun skill => (alone d skill).2)
  busy : p.tasks.countP Task.isRunning ≤ workers

/-- At the start the tasks serve the skills. -/
theorem serves_ofSkills (workers : Nat) (d : Diff) (skills : List Skill) :
    (ofSkills skills).Serves workers d skills where
  promised := by
    rw [ofSkills, List.map_map]
    rfl
  told := by
    rw [ofSkills, List.nil_append, List.flatMap_map]
    exact .refl _
  busy := by
    have hnone : (skills.map Task.waiting).countP Task.isRunning = 0 := by
      rw [List.countP_eq_zero]
      intro task htask
      rcases List.mem_map.1 htask with ⟨skill, _, rfl⟩
      exact Bool.false_ne_true
    rw [ofSkills, hnone]
    exact Nat.zero_le _

/-- One turn keeps a pool at work. -/
theorem Serves.advance (h : p.Serves workers d skills) (hturn : p.advance? workers d i = some p') :
    p'.Serves workers d skills := by
  rcases exists_of_advance? hturn with ⟨before, task, after, next, told, htasks, hnext, hfree, rfl⟩
  rcases Task.of_next? hnext with ⟨hpromised, huntold, _⟩
  refine ⟨?_, ?_, ?_⟩
  · rw [← h.promised, htasks, List.map_append, List.map_append, List.map_cons, List.map_cons,
      hpromised]
  · -- What is told now stood behind what the tasks in front have still to tell.
    refine List.Perm.trans ?_ h.told
    rw [htasks, List.flatMap_append, List.flatMap_append, List.flatMap_cons, List.flatMap_cons,
      huntold, List.append_assoc, List.append_assoc told]
    exact (List.perm_append_comm_assoc told _ _).append_left p.log
  · have hbusy := h.busy
    rw [htasks] at hbusy hfree
    simp only [List.countP_append, List.countP_cons] at hbusy hfree ⊢
    split
    · rcases hfree with hrunning | hless
      · rwa [if_pos hrunning] at hbusy
      · omega
    · omega

/-- Any turns keep a pool at work. -/
theorem Serves.play {turns : List Nat} (h : p.Serves workers d skills)
    (hplay : p.play? workers d turns = some p') : p'.Serves workers d skills := by
  induction turns generalizing p with
  | nil =>
    cases hplay
    exact h
  | cons i turns ih =>
    rw [play?, List.foldlM_cons, Option.bind_eq_bind, Option.bind_eq_some_iff] at hplay
    rcases hplay with ⟨next, hturn, hrest⟩
    exact ih (h.advance hturn) hrest

/-- The results are those of the skills on their own, and everything has been told. -/
theorem Serves.of_results? (h : p.Serves workers d skills)
    {result : Except Pattern.PatternError (List SkillResult)} (hresult : p.results? = some result) :
    result = (skills.map fun skill => (alone d skill).1).mapM id ∧
      p.log.Perm (skills.flatMap fun skill => (alone d skill).2) := by
  rw [results?, Option.map_eq_some_iff] at hresult
  rcases hresult with ⟨results, hall, rfl⟩
  have hfinished := eq_of_mapM_result? hall
  constructor
  · have hpromised : results.map (Task.promised d ∘ .finished) = results := List.map_id results
    rw [← h.promised, hfinished, List.map_map, hpromised]
  · have huntold : p.tasks.flatMap (Task.untold d) = [] := by
      rw [hfinished, List.flatMap_map, List.flatMap_eq_nil_iff]
      exact fun _ _ => rfl
    have htold := h.told
    rwa [huntold, List.append_nil] at htold

/-! ## Turns that are left -/

/-- Each turn is one turn less to go. -/
theorem turnsLeft_of_advance? (h : p.advance? workers d i = some p') :
    p.turnsLeft d = p'.turnsLeft d + 1 := by
  rcases exists_of_advance? h with ⟨before, task, after, next, told, htasks, hnext, _, rfl⟩
  rcases Task.of_next? hnext with ⟨_, _, hleft⟩
  have hsum (q : Pool) : q.turnsLeft d = (q.tasks.map (Task.turnsLeft d)).sum := by
    rw [turnsLeft, List.sum_eq_foldr, List.foldr_map]
  rw [hsum, hsum, htasks]
  simp only [List.map_append, List.map_cons, List.sum_append, List.sum_cons]
  omega

/-- While there are no results, some task can get on. -/
theorem exists_advance? (hworkers : 0 < workers) (d : Diff) (h : p.results? = none) :
    ∃ i p', p.advance? workers d i = some p' := by
  rcases p with ⟨tasks, log⟩
  -- A task that runs can get on; where none runs, all workers are free for one that waits.
  have htask : ∃ task ∈ tasks, task.result? = none ∧
      (task.isRunning = true ∨ tasks.countP Task.isRunning < workers) := by
    by_cases hrunning : ∃ task ∈ tasks, task.isRunning = true
    · rcases hrunning with ⟨task, hmem, hrunning⟩
      refine ⟨task, hmem, ?_, .inl hrunning⟩
      cases task with
      | running messages result =>
        rfl
      | waiting skill =>
        cases hrunning
      | finished result =>
        cases hrunning
    · rcases exists_unfinished h with ⟨task, hmem, hnone⟩
      have hidle : tasks.countP Task.isRunning = 0 :=
        List.countP_eq_zero.2 fun other hother hbusy => hrunning ⟨other, hother, hbusy⟩
      exact ⟨task, hmem, hnone, .inr (hidle ▸ hworkers)⟩
  rcases htask with ⟨task, hmem, hnone, hfree⟩
  rcases List.append_of_mem hmem with ⟨before, after, rfl⟩
  rcases Task.exists_next? (d := d) hnone with ⟨next, told, hnext⟩
  refine ⟨before.length, { tasks := before ++ next :: after, log := log ++ told }, ?_⟩
  rw [advance?_eq, hnext, Option.bind_some, if_pos (by simpa using hfree)]

/-- However far a pool has come, turns can be given until there are results. -/
theorem exists_play? (hworkers : 0 < workers) (d : Diff) (p : Pool) :
    ∃ turns p' result, p.play? workers d turns = some p' ∧ p'.results? = some result := by
  cases hresults : p.results? with
  | some result =>
    exact ⟨[], p, result, rfl, hresults⟩
  | none =>
    rcases exists_advance? hworkers d hresults with ⟨i, next, hturn⟩
    have hless : next.turnsLeft d < p.turnsLeft d := by
      rw [turnsLeft_of_advance? hturn]
      exact Nat.lt_succ_self _
    rcases exists_play? hworkers d next with ⟨turns, p', result, hplay, hresult⟩
    refine ⟨i :: turns, p', result, ?_, hresult⟩
    rw [play?, List.foldlM_cons, hturn]
    exact hplay
termination_by p.turnsLeft d

/-! ## From the start to the results -/

/-- Whatever turns lead to results, they are those of the skills on their own, in the order of the
skills, and the messages are theirs in some order. -/
theorem of_run? {turns : List Nat} {result : Except Pattern.PatternError (List SkillResult)}
    {told : List LogEntry} (h : (ofSkills skills).run? workers d turns = some (result, told)) :
    result = (skills.map fun skill => (alone d skill).1).mapM id ∧
      told.Perm (skills.flatMap fun skill => (alone d skill).2) := by
  rw [run?, Option.bind_eq_bind, Option.bind_eq_some_iff] at h
  rcases h with ⟨p, hplay, h⟩
  rw [Option.bind_eq_bind, Option.bind_eq_some_iff] at h
  rcases h with ⟨_, hresult, hdone⟩
  cases hdone
  exact ((serves_ofSkills workers d skills).play hplay).of_results? hresult

/-- Turns that can be given may be followed by others that lead to results. -/
theorem exists_run?_append {turns : List Nat} (hworkers : 0 < workers)
    (h : (ofSkills skills).play? workers d turns = some p) :
    ∃ more answer, (ofSkills skills).run? workers d (turns ++ more) = some answer := by
  rcases exists_play? hworkers d p with ⟨more, p', result, hplay, hresult⟩
  have hall : (ofSkills skills).play? workers d (turns ++ more) = some p' := by
    rw [play?, List.foldlM_append]
    rw [play?] at h
    rw [h]
    exact hplay
  refine ⟨more, (result, p'.log), ?_⟩
  rw [run?, hall, Option.bind_eq_bind, Option.bind_some, hresult]
  rfl

end Pool

/-! ## Skills whose patterns compile -/

section Compiles

variable {skills : List Skill} {d : Diff}

/-- A skill by itself has its outcome. -/
theorem alone_of_compiles {skill : Skill} (h : ∀ rule ∈ skill.rules, rule.Compiles) (d : Diff) :
    (alone d skill).1 = .ok (outcome d skill) := by
  rcases exists_executeSkill_eq h d with ⟨entry, -, heq⟩
  rw [alone, heq]
  rfl

/-- So have several. -/
theorem mapM_alone (h : ∀ skill ∈ skills, ∀ rule ∈ skill.rules, rule.Compiles) (d : Diff) :
    (skills.map fun skill => (alone d skill).1).mapM id = .ok (skills.map (outcome d)) := by
  induction skills with
  | nil =>
    rfl
  | cons skill skills ih =>
    rw [List.map_cons, List.mapM_cons, ih fun s hs => h s (List.mem_cons_of_mem _ hs),
      alone_of_compiles (h skill List.mem_cons_self) d]
    rfl

/-- Skills have their outcomes, in their order, if they are run one by one or if the schedule leads
to results. -/
theorem exists_run_runScheduled (h : ∀ skill ∈ skills, ∀ rule ∈ skill.rules, rule.Compiles)
    (d : Diff)
    {workers : Nat} {schedule : Pool → List Nat}
    (hschedule : 1 < workers → 1 < skills.length →
      ∃ answer, (Pool.ofSkills skills).run? workers d (schedule (.ofSkills skills)) = some answer)
    (log : List LogEntry) :
    ∃ log', (runScheduled workers schedule skills d).run.run log =
      (.ok (some (skills.map (outcome d))), log') := by
  rw [runScheduled]
  by_cases hpool : 1 < workers ∧ 1 < skills.length
  · rw [if_pos (by simpa using hpool)]
    rcases hschedule hpool.1 hpool.2 with ⟨⟨result, told⟩, hrun⟩
    rw [hrun, (Pool.of_run? hrun).1, mapM_alone h]
    exact ⟨_, rfl⟩
  · rw [if_neg (by simpa using hpool)]
    rcases exists_run_runSkills h d log with ⟨log', hrun⟩
    refine ⟨log', ?_⟩
    rw [run_bind, hrun]
    rfl

end Compiles

end Engine
end PatchReview
