import PatchReview.Proofs.Work

/-!
# What work may do

A contract says how work may change the disk and with which faults it may be given up. Every
contract lets the disk be as it is, lets changes follow each other, and lets work be given up for
any other reason than the kind of a value. So work abides by a contract if its parts do, and of the
parts only those that write to the disk and those that ask for a value of a kind depend on the
contract.
-/

namespace PatchReview

/-- Work is given up because a value is not of the kind that belongs there. -/
def Fault.IsMistyped : Fault → Prop
  | .notPath _ => True
  | .notName _ => True
  | _ => False

/-- How a disk may change, and the faults that there may be. A home directory stays what it is. -/
structure Contract where
  change : Disk → Disk → Prop
  fault : Fault → Prop
  refl (d : Disk) : change d d
  trans {d d' d'' : Disk} : change d d' → change d' d'' → change d d''
  home {d d' : Disk} : change d d' → d'.home = d.home
  other {f : Fault} : ¬ f.IsMistyped → fault f

/-- Any fault there may be. -/
def Contract.Lenient (c : Contract) : Prop := ∀ fault, c.fault fault

namespace Work

variable {α β ε : Type}

/-- From some disks on, work changes the disk and is given up as a contract says; if it ends well,
something holds of its result. -/
def Abides (c : Contract) (start : Disk → Prop) (w : Work α) (result : α → Prop) : Prop :=
  ∀ desk, start desk.disk → c.change desk.disk (w.runOn desk).2.disk ∧
    (∀ fault, (w.runOn desk).1 = .error fault → c.fault fault) ∧ ∀ a,
      (w.runOn desk).1 = .ok a → result a

/-- Work abides by a contract wherever that leads from a disk, whatever comes of it. -/
abbrev AbidesAfter (c : Contract) (d₀ : Disk) (w : Work α) : Prop :=
  Abides c (c.change d₀) w fun _ => True

namespace Abides

variable {c : Contract} {start : Disk → Prop} {d₀ : Disk} {result : α → Prop}

/-- What changes nothing abides. -/
theorem pure {a : α} (ha : result a) : Abides c start (Pure.pure a) result := by
  intro desk _
  refine ⟨c.refl desk.disk, ?_, ?_⟩
  · intro fault h
    cases h
  · intro b h
    cases h
    exact ha

/-- A command may be given up in a way that the contract allows. -/
theorem throw {fault : Fault} (h : c.fault fault) :
    Abides c start (throw fault : Work α) result := by
  intro desk _
  refine ⟨c.refl desk.disk, ?_, ?_⟩
  · intro fault' heq
    cases heq
    exact h
  · intro a heq
    cases heq

/-- What abides wherever the contract leads does so at its beginning. -/
theorem first {w : Work α} (hw : Abides c (c.change d₀) w result) : Abides c (· = d₀) w result :=
  fun desk hdesk => hw desk (hdesk ▸ c.refl d₀)

/-- What is behind some work starts wherever the contract leads to. -/
theorem bind (hstart : ∀ d, start d → c.change d₀ d) {w : Work α} {next : α → Work β}
    {result' : β → Prop} (hw : Abides c start w result)
    (hnext : ∀ a, result a → Abides c (c.change d₀) (next a) result') :
    Abides c start (w >>= next) result' := by
  intro desk hdesk
  rcases hw desk hdesk with ⟨hchange, hfault, hresult⟩
  rw [runOn_bind]
  rcases hrun : w.runOn desk with ⟨fault | a, desk₁⟩
  · rw [hrun] at hchange hfault
    refine ⟨hchange, ?_, ?_⟩
    · intro fault' heq
      cases heq
      exact hfault _ rfl
    · intro b heq
      cases heq
  · rw [hrun] at hchange hresult
    rcases hnext a (hresult a rfl) desk₁ (c.trans (hstart _ hdesk) hchange) with ⟨hrest, hends⟩
    exact ⟨c.trans hchange hrest, hends⟩

/-- Work at the very beginning, and work behind it. -/
theorem firstThen {w : Work α} {next : α → Work β} {result' : β → Prop}
    (hw : Abides c (· = d₀) w result)
    (hnext : ∀ a, result a → Abides c (c.change d₀) (next a) result') :
    Abides c (· = d₀) (w >>= next) result' :=
  bind (fun _ h => h ▸ c.refl d₀) hw hnext

/-- Work behind other work, both wherever the contract leads to. -/
theorem andThen {w : Work α} {next : α → Work β} {result' : β → Prop}
    (hw : Abides c (c.change d₀) w result)
    (hnext : ∀ a, result a → Abides c (c.change d₀) (next a) result') :
    Abides c (c.change d₀) (w >>= next) result' :=
  bind (fun _ h => h) hw hnext

/-- Work that looks at the disk first goes on with the disk that it starts on. -/
theorem diskThen {next : Disk → Work α} (h : ∀ d, start d → Abides c (· = d) (next d) result) :
    Abides c start (Work.disk >>= next) result := by
  intro desk hdesk
  rw [runOn_disk_bind]
  exact h desk.disk hdesk desk rfl

/-! ## Work that leaves the disk as it is -/

/-- Work that leaves the disk, and is not given up because of the kind of a value, abides by any
contract. -/
theorem of_unchanged {w : Work α} (hdisk : ∀ desk, (w.runOn desk).2.disk = desk.disk)
    (hfault : ∀ desk fault, (w.runOn desk).1 = .error fault → ¬ fault.IsMistyped) :
    Abides c start w fun _ => True := by
  intro desk _
  rw [hdisk desk]
  exact ⟨c.refl desk.disk, fun fault h => c.other (hfault desk fault h), fun _ _ => trivial⟩

/-- The same of work that fails with the errors of something else. -/
theorem of_mapError {fault : ε → Fault} (h : ∀ e, ¬ (fault e).IsMistyped) {w : Work α}
    (hw : ∀ desk, ∃ (x : Except ε α) (desk' : Desk), w.runOn desk = (x.mapError fault, desk') ∧
      desk'.disk = desk.disk) : Abides c start w fun _ => True := by
  refine of_unchanged (fun desk => ?_) fun desk fault' heq => ?_
  · rcases hw desk with ⟨x, desk', hrun, hdisk⟩
    rw [hrun]
    exact hdisk
  · rcases hw desk with ⟨x, desk', hrun, -⟩
    rw [hrun] at heq
    cases x with
    | ok a => cases heq
    | error e =>
      cases heq
      exact h e

/-- A command may always be given up because of an error that is about no kind of value. -/
theorem ofExcept {fault : ε → Fault} (h : ∀ e, ¬ (fault e).IsMistyped) (x : Except ε α) :
    Abides c start (Work.ofExcept fault x) fun _ => True :=
  of_mapError h fun desk => ⟨x, desk, runOn_ofExcept fault x desk, rfl⟩

theorem disk : Abides c start Work.disk fun _ => True :=
  of_unchanged (fun _ => rfl) fun _ _ h => by cases h

theorem tell (level : LogLevel) (message : String) :
    Abides c start (Work.tell level message) fun _ => True :=
  of_unchanged (fun _ => rfl) fun _ _ h => by cases h

theorem onErrors {fault : ε → Fault} (h : ∀ e, ¬ (fault e).IsMistyped)
    (screen : Console.Screen ε α) : Abides c start (Work.onErrors fault screen) fun _ => True := by
  refine of_mapError h fun desk =>
    ⟨(screen.run.run desk.errors).1,
      { desk with errors := (screen.run.run desk.errors).2 }, ?_, rfl⟩
  rw [Work.onErrors, runOn_get_bind]
  rcases screen.run.run desk.errors with ⟨_ | _, errors⟩ <;> rfl

theorem onOutput {fault : ε → Fault} (h : ∀ e, ¬ (fault e).IsMistyped)
    (screen : Console.Screen ε α) : Abides c start (Work.onOutput fault screen) fun _ => True := by
  refine of_mapError h fun desk =>
    ⟨(screen.run.run desk.output).1,
      { desk with output := (screen.run.run desk.output).2 }, ?_, rfl⟩
  rw [Work.onOutput, runOn_get_bind]
  rcases screen.run.run desk.output with ⟨_ | _, output⟩ <;> rfl

/-- As home directories stay, that of the first disk stands in for a tilde. -/
theorem expandHome (path : DiskPath) :
    Abides c (c.change d₀) (Work.expandHome path) fun place =>
      path.expandHome? d₀.home = some place := by
  intro desk hchange
  rw [runOn_expandHome, c.home hchange]
  cases path.expandHome? d₀.home with
  | none =>
    refine ⟨c.refl desk.disk, ?_, ?_⟩
    · intro fault heq
      cases heq
      exact c.other id
    · intro place heq
      cases heq
  | some place =>
    refine ⟨c.refl desk.disk, ?_, ?_⟩
    · intro fault heq
      cases heq
    · intro found heq
      cases heq
      rfl

/-! ## Work put together -/

/-- A command that may be given up because of a file may be watched for that. -/
theorem orFileError {w : Work α} (hw : Abides c start w fun _ => True) :
    Abides c start (Work.orFileError w) fun _ => True := by
  intro desk hdesk
  rcases hw desk hdesk with ⟨hchange, hfault, -⟩
  rw [runOn_orFileError]
  rcases hrun : w.runOn desk with ⟨fault | a, desk₁⟩
  · rw [hrun] at hchange hfault
    -- a failure with a file is a result now, and every other fault is the one that there was
    refine ⟨by cases fault <;> exact hchange, fun fault' heq => ?_, fun _ _ => trivial⟩
    cases fault <;> cases heq <;> exact hfault _ rfl
  · rw [hrun] at hchange
    refine ⟨hchange, fun fault heq => ?_, fun _ _ => trivial⟩
    cases heq

/-- A command for each item abides if each abides. -/
theorem forM {f : α → Work PUnit} (hf : ∀ a, AbidesAfter c d₀ (f a)) (as : List α) :
    AbidesAfter c d₀ (as.forM f) := by
  induction as with
  | nil => exact pure trivial
  | cons a as ih => exact andThen (hf a) fun _ _ => ih

/-- So does one that carries a value from item to item. -/
theorem foldlM {f : β → α → Work β} {as : List α} (hf : ∀ b, ∀ a ∈ as, AbidesAfter c d₀ (f b a))
    (b : β) : AbidesAfter c d₀ (as.foldlM f b) := by
  induction as generalizing b with
  | nil => exact pure trivial
  | cons a as ih =>
    exact andThen (hf b a List.mem_cons_self) fun b _ =>
      ih (fun b x hx => hf b x (List.mem_cons_of_mem a hx)) b

end Abides
end Work
end PatchReview
