import PatchReview.Work

/-!
# Doing work

What each piece of work comes to on a desk: its result or its fault, and the desk that it leaves.
-/

namespace PatchReview

/-! ## Errors in place of others -/

section Errors

variable {ε ε' α β : Type} {f : ε → ε'}

@[simp] theorem mapError_ok {a : α} : (.ok a : Except ε α).mapError f = .ok a :=
  rfl

@[simp] theorem mapError_error {e : ε} : (.error e : Except ε α).mapError f = .error (f e) :=
  rfl

/-- Changing errors makes no result, and takes none away. -/
theorem mapError_eq_ok_iff {x : Except ε α} {a : α} : x.mapError f = .ok a ↔ x = .ok a := by
  cases x <;> simp

/-- Changing results makes no error, and takes none away. -/
theorem map_eq_error_iff {x : Except ε α} {g : α → β} {e : ε} :
    x.map g = .error e ↔ x = .error e := by
  cases x <;> simp [Except.map]

/-- What may fail has a result if both of its parts have. -/
theorem bind_eq_ok_iff {x : Except ε α} {next : α → Except ε β} {b : β} :
    x >>= next = .ok b ↔ ∃ a, x = .ok a ∧ next a = .ok b := by
  cases x with
  | error e =>
    constructor
    · intro h
      cases h
    · rintro ⟨_, h, _⟩
      cases h
  | ok a =>
    constructor
    · intro h
      exact ⟨a, rfl, h⟩
    · rintro ⟨_, heq, h⟩
      cases heq
      exact h

end Errors

/-! ## Computations on a state -/

section Stateful

variable {ε σ α β : Type}

/-- A computation goes on with the state that its first part leaves, unless that stops with an
error. -/
theorem run_bind (x : ExceptT ε (StateM σ) α) (next : α → ExceptT ε (StateM σ) β) (s : σ) :
    (x >>= next).run.run s =
      match x.run.run s with
      | (.ok a, s) => (next a).run.run s
      | (.error e, s) => (.error e, s) := by
  show (ExceptT.bindCont next (x.run.run s).1) (x.run.run s).2 = _
  rcases x.run.run s with ⟨result, s'⟩
  cases result <;> rfl

/-- A computation that goes on with another has a result just if both have. -/
theorem run_bind_eq_ok_iff {x : ExceptT ε (StateM σ) α} {next : α → ExceptT ε (StateM σ) β}
    {s s' : σ} {b : β} :
    (x >>= next).run.run s = (.ok b, s') ↔
      ∃ a s₁, x.run.run s = (.ok a, s₁) ∧ (next a).run.run s₁ = (.ok b, s') := by
  rw [run_bind]
  rcases x.run.run s with ⟨result, s₁⟩
  cases result with
  | error e =>
    constructor
    · intro h
      cases h
    · rintro ⟨_, _, h, _⟩
      cases h
  | ok a =>
    constructor
    · intro h
      exact ⟨a, s₁, rfl, h⟩
    · rintro ⟨_, _, heq, h⟩
      cases heq
      exact h

/-- What holds of the result of each computation holds of all their results. -/
theorem forall_of_run_mapM {f : α → ExceptT ε (StateM σ) β} {P : β → Prop} {as : List α}
    (h : ∀ a ∈ as, ∀ s b s', (f a).run.run s = (.ok b, s') → P b) {s s' : σ} {bs : List β}
    (hrun : (as.mapM f).run.run s = (.ok bs, s')) : ∀ b ∈ bs, P b := by
  induction as generalizing s bs with
  | nil =>
    cases hrun
    simp
  | cons a as ih =>
    rw [List.mapM_cons] at hrun
    rcases run_bind_eq_ok_iff.1 hrun with ⟨b, s₁, hfirst, hrun⟩
    rcases run_bind_eq_ok_iff.1 hrun with ⟨rest, s₂, hrest, hrun⟩
    cases hrun
    refine List.forall_mem_cons.2 ⟨h a List.mem_cons_self s b s₁ hfirst, ?_⟩
    exact ih (fun x hx => h x (List.mem_cons_of_mem a hx)) hrest

/-- Computations that have a result on every state have their results one after the other. -/
theorem exists_run_mapM {f : α → ExceptT ε (StateM σ) β} {g : α → β} {as : List α}
    (h : ∀ a ∈ as, ∀ s, ∃ s', (f a).run.run s = (.ok (g a), s')) (s : σ) :
    ∃ s', (as.mapM f).run.run s = (.ok (as.map g), s') := by
  induction as generalizing s with
  | nil =>
    exact ⟨s, rfl⟩
  | cons a as ih =>
    rcases h a List.mem_cons_self s with ⟨s₁, hfirst⟩
    -- The others have their results on any state, so on the one that the first leaves.
    rcases ih (fun b hb => h b (List.mem_cons_of_mem _ hb)) s₁ with ⟨s₂, hrest⟩
    refine ⟨s₂, ?_⟩
    rw [List.mapM_cons, run_bind, hfirst]
    dsimp only
    rw [run_bind, hrest]
    rfl

/-- Every error of a computation is one of some. -/
def ErrsOnly (P : ε → Prop) (x : ExceptT ε (StateM σ) α) : Prop :=
  ∀ s e, (x.run.run s).1 = .error e → P e

section ErrsOnly

variable {P : ε → Prop}

theorem ErrsOnly.pure (a : α) : ErrsOnly P (Pure.pure a : ExceptT ε (StateM σ) α) := by
  intro s e h
  cases h

/-- Two steps err in a way that each of them does. -/
theorem ErrsOnly.bind {x : ExceptT ε (StateM σ) α} {next : α → ExceptT ε (StateM σ) β}
    (hx : ErrsOnly P x) (hnext : ∀ a, ErrsOnly P (next a)) : ErrsOnly P (x >>= next) := by
  intro s e h
  rw [run_bind] at h
  rcases hrun : x.run.run s with ⟨result, s'⟩
  rw [hrun] at h
  cases result with
  | ok a =>
    exact hnext a s' e h
  | error e' =>
    cases h
    exact hx s e (congrArg Prod.fst hrun)

/-- A step for each item errs in a way that one of them does. -/
theorem ErrsOnly.forM {f : α → ExceptT ε (StateM σ) PUnit} {as : List α}
    (h : ∀ a ∈ as, ErrsOnly P (f a)) : ErrsOnly P (as.forM f) := by
  induction as with
  | nil =>
    exact ErrsOnly.pure _
  | cons a as ih =>
    show ErrsOnly P (f a >>= fun _ => as.forM f)
    exact ErrsOnly.bind (h a List.mem_cons_self) fun _ => ih fun b hb =>
      h b (List.mem_cons_of_mem _ hb)

end ErrsOnly

end Stateful

/-! ## Work -/

namespace Work

variable {α β : Type}

@[simp] theorem runOn_pure (a : α) (desk : Desk) : (pure a : Work α).runOn desk = (.ok a, desk) :=
  rfl

/-- Work is followed by other work unless it is given up. -/
theorem runOn_bind (w : Work α) (next : α → Work β) (desk : Desk) :
    (w >>= next).runOn desk =
      match w.runOn desk with
      | (.ok a, desk) => (next a).runOn desk
      | (.error fault, desk) => (.error fault, desk) := by
  rw [runOn, run_bind, runOn]
  rcases (ExceptT.run w).run desk with ⟨result, desk'⟩
  cases result <;> rfl

/-- After a command that ends well the next one goes on at its desk. -/
theorem runOn_bind_of_ok {w : Work α} {next : α → Work β} {desk desk₁ : Desk} {a : α}
    (h : w.runOn desk = (.ok a, desk₁)) : (w >>= next).runOn desk = (next a).runOn desk₁ := by
  rw [runOn_bind, h]

/-- Work that is followed by other work has a result if both have. -/
theorem runOn_bind_eq_ok_iff {w : Work α} {next : α → Work β} {desk desk' : Desk} {b : β} :
    (w >>= next).runOn desk = (.ok b, desk') ↔
      ∃ a desk₁, w.runOn desk = (.ok a, desk₁) ∧ (next a).runOn desk₁ = (.ok b, desk') :=
  run_bind_eq_ok_iff

/-- A function is applied to the result, and the desk is left as the command leaves it. -/
theorem runOn_map (f : α → β) (w : Work α) (desk : Desk) :
    (f <$> w).runOn desk = ((w.runOn desk).1.map f, (w.runOn desk).2) := by
  rw [← bind_pure_comp, runOn_bind]
  rcases w.runOn desk with ⟨result, desk'⟩
  cases result <;> rfl

theorem runOn_disk_bind (next : Disk → Work α) (desk : Desk) :
    (disk >>= next).runOn desk = (next desk.disk).runOn desk :=
  rfl

theorem runOn_get_bind (next : Desk → Work α) (desk : Desk) :
    ((get : Work Desk) >>= next).runOn desk = (next desk).runOn desk :=
  rfl

@[simp] theorem runOn_set (old new : Desk) : (set new : Work Unit).runOn old = (.ok (), new) :=
  rfl

@[simp] theorem runOn_tell (level : LogLevel) (message : String) (desk : Desk) :
    (tell level message).runOn desk =
      (.ok (), { desk with log := desk.log ++ [⟨level, message⟩] }) :=
  rfl

@[simp] theorem ofExcept_ok {ε : Type} (fault : ε → Fault) (a : α) :
    ofExcept fault (.ok a) = pure a :=
  rfl

@[simp] theorem runOn_ofExcept {ε : Type} (fault : ε → Fault) (e : Except ε α) (desk : Desk) :
    (ofExcept fault e).runOn desk = (e.mapError fault, desk) := by
  cases e <;> rfl

/-- The home directory of a disk stands in for a tilde, where it is known. -/
theorem runOn_expandHome (path : DiskPath) (desk : Desk) :
    (expandHome path).runOn desk =
      match path.expandHome? desk.disk.home with
      | some path => (.ok path, desk)
      | none => (.error .noHome, desk) := by
  rw [expandHome, runOn_disk_bind]
  cases path.expandHome? desk.disk.home <;> rfl

/-- A failure with a file is a result; other faults stay. -/
theorem runOn_orFileError (w : Work α) (desk : Desk) :
    (orFileError w).runOn desk =
      match w.runOn desk with
      | (.ok a, desk) => (.ok (.ok a), desk)
      | (.error (.file error), desk) => (.ok (.error error), desk)
      | (.error fault, desk) => (.error fault, desk) := by
  rw [orFileError, runOn_get_bind]
  rcases w.runOn desk with ⟨result, desk'⟩
  cases result with
  | ok a =>
    rfl
  | error fault =>
    cases fault <;> rfl

/-- Making sure of directories changes the disk, also where it is given up on the way. -/
theorem runOn_ensureDirectories (path : DiskPath) (desk : Desk) :
    (ensureDirectories path).runOn desk =
      ((desk.disk.ensureDirectories path).1.mapError .file,
        { desk with disk := (desk.disk.ensureDirectories path).2 }) := by
  rw [ensureDirectories, runOn_get_bind]
  simp only [runOn_bind, runOn_set, runOn_ofExcept]

/-- Making directories fails with a file, if at all. -/
theorem exists_runOn_ensureDirectories (path : DiskPath) (desk : Desk) :
    ∃ result desk', (orFileError (ensureDirectories path)).runOn desk = (.ok result, desk') := by
  rw [runOn_orFileError, runOn_ensureDirectories]
  cases (desk.disk.ensureDirectories path).1 with
  | ok _ =>
    exact ⟨_, _, rfl⟩
  | error error =>
    exact ⟨_, _, rfl⟩

end Work
end PatchReview
