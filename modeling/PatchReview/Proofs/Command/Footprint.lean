import Mathlib.Data.List.Induction
import PatchReview.Proofs.Command.Conduct

/-!
# What commands leave on the disk

Commands build and destroy nothing. What stands on the disk before some calls of the program stands
there afterwards as it was, whatever the calls ask for and however they end; what is new are
directories on the way to a directory of skills, bundled files in it, and the configuration to start
with. Only a report that is to be written to a file is left out here.
-/

namespace PatchReview
namespace Command

/-! ## Calls -/

/-- A call of the program, with what it finds besides the disk. -/
structure Call where
  setting : Setting := {}
  arguments : List String

namespace Call

def invocation (c : Call) : Invocation := .ofArguments c.arguments

def WritesReport (c : Call) : Prop := ∃ o, c.invocation = .check o ∧ o.output ≠ ""

/-- The disk behind a call, however it ends. -/
def after (c : Call) (d : Disk) : Disk := ((c.setting.run c.invocation).runOn { disk := d }).2.disk

/-- What a call may make that begins on a disk. -/
inductive Makes (c : Call) (start d : Disk) : List String → Occupant → Prop where
  | skills {place : Place} {directory : DiskPath} {site : List String} {occupant : Occupant} :
      c.invocation.place? = some place → c.setting.SkillsDirectory start place directory →
      Skill.Makes directory d site occupant → Makes c start d site occupant
  | starter {site : List String} : c.invocation = .init →
      d.names (d.workingDirectory.child Config.fileName) = .ok site →
      Makes c start d site (.file (Text.encodeUtf8 Config.starter))

/-- What a call makes does not depend on what has been made. -/
theorem makes_stable (c : Call) (start : Disk) : Disk.Plan.Stable (c.Makes start) := by
  intro d d' site occupant hkeeps hmakes
  cases hmakes with
  | skills hplace hdirectory hmakes => exact .skills hplace hdirectory (hmakes.keeps hkeeps)
  | starter hinit hsite =>
    refine .starter hinit ?_
    rw [hkeeps.workingDirectory]
    exact hkeeps.names hsite

/-- What a call may make is a contract that lets it do what it asks for, unless a report is to be
written to a file. -/
theorem allows (c : Call) (h : ¬ c.WritesReport) (d : Disk) :
    c.setting.Allows (c.makes_stable d).contract d c.invocation where
  permits place hplace :=
    { furnishes := fun _ hdirectory =>
        Skill.furnishes (c.makes_stable d) (fun _ _ _ => .skills hplace hdirectory) d
      configured := fun _ _ => .inr fun _ => trivial }
  reports o hcheck x report := by
    have houtput : o.output = "" := by
      by_contra hne
      exact h ⟨o, hcheck, hne⟩
    rw [Setting.writeReport, houtput]
    exact .pure trivial
  starts hinit hfree := by
    refine Work.abides_write (c.makes_stable d) (fun _ heq => heq ▸ hfree) ?_
    rintro _ rfl site hsite
    exact .starter hinit hsite

/-- A call that writes no report to a file builds and destroys nothing. -/
theorem grows (c : Call) (h : ¬ c.WritesReport) (d : Disk) : Disk.Grows (c.Makes d) d (c.after d) :=
  ((c.allows h d).abides_run { disk := d } rfl).1

end Call

/-! ## Sessions -/

/-- The disk behind some calls, one after the other. -/
def session (calls : List Call) (d : Disk) : Disk := calls.foldl (fun d c => c.after d) d

/-- The last call finds what the others leave. -/
theorem session_concat (calls : List Call) (c : Call) (d : Disk) :
    session (calls ++ [c]) d = c.after (session calls d) :=
  List.foldl_concat _ d c calls

/-- What some calls may make, each on the disk that those before it leave. -/
def sessionPlan (calls : List Call) (start : Disk) : Disk.Plan := fun d site occupant =>
  ∃ before c later, calls = before ++ c :: later ∧ c.Makes (session before start) d site occupant

/-- What a session makes does not depend on what has been made. -/
theorem sessionPlan_stable (calls : List Call) (start : Disk) :
    (sessionPlan calls start).Stable := by
  rintro d d' site occupant hkeeps ⟨before, c, later, hcalls, hmakes⟩
  exact ⟨before, c, later, hcalls, c.makes_stable _ d d' site occupant hkeeps hmakes⟩

/-- The disk grows by what the calls make, call by call. -/
theorem session_grows {calls : List Call} (h : ∀ c ∈ calls, ¬ c.WritesReport) (d : Disk) :
    Disk.Grows (sessionPlan calls d) d (session calls d) := by
  -- by induction from the end: the last call begins on the disk that the others leave
  induction calls using List.reverseRecOn with
  | nil => exact .refl _ d
  | append_singleton calls c ih =>
    have hbefore : Disk.Grows (sessionPlan (calls ++ [c]) d) d (session calls d) := by
      refine (ih fun other hother => h other (List.mem_append_left _ hother)).mono ?_
      rintro site occupant ⟨before, other, later, rfl, hmakes⟩
      exact ⟨before, other, later ++ [c], by simp, hmakes⟩
    have hlast : Disk.Grows (sessionPlan (calls ++ [c]) d) (session calls d)
        (session (calls ++ [c]) d) := by
      rw [session_concat]
      refine (c.grows (h c (by simp)) (session calls d)).mono ?_
      intro site occupant hmakes
      exact ⟨calls, c, [], rfl, hmakes⟩
    exact hbefore.trans (sessionPlan_stable _ d) hlast

/-- Calls that write no report to a file destroy nothing: every file and directory that stood before
stands afterwards, with the same bytes. Everything else was made by one of the calls: a directory on
the way to a directory of skills, a bundled file in it, or the configuration to start with. -/
theorem session_keeps {calls : List Call} (h : ∀ c ∈ calls, ¬ c.WritesReport) (d : Disk) :
    (∀ site occupant, d.tree.occupant? site = some occupant →
      (session calls d).tree.occupant? site = some occupant) ∧
    ∀ site occupant, (session calls d).tree.occupant? site = some occupant →
      d.tree.occupant? site = none →
      ∃ before c later, calls = before ++ c :: later ∧
        c.Makes (session before d) (session calls d) site occupant := by
  have hgrows := session_grows h d
  refine ⟨hgrows.kept, ?_⟩
  intro site occupant hstands hnew
  rcases hgrows.made site occupant hstands with hbefore | hmade
  · rw [hnew] at hbefore
    cases hbefore
  · exact hmade

/-- A directory of skills with a file that was changed by hand, and a configuration that is
broken. -/
def customisedDisk : Disk where
  tree := .directory [("w", .directory [
    (".diffskills.toml", .file [91]),
    ("skills", .directory [("security.yaml", .file [35, 10])])])]
  workingDirectory := { root := "/", parts := ["w"] }
  home := "/home"

/-- Calls that install, check, list and begin with a configuration, where they can. -/
def mixedCalls : List Call :=
  [{ arguments := ["init"] }, { arguments := ["install-defaults", "skills"] },
   { arguments := ["check", "-s", "security-audit", "--skills-dir", "skills"] },
   { arguments := ["list", "new/place"] }, { arguments := ["validate"] }]

theorem session_keeps_customised :
    (session mixedCalls customisedDisk).tree.occupant? ["w", "skills", "security.yaml"] =
      some (.file [35, 10]) ∧
    ∀ site occupant, (session mixedCalls customisedDisk).tree.occupant? site = some occupant →
      customisedDisk.tree.occupant? site = none →
      ∃ before c later, mixedCalls = before ++ c :: later ∧
        c.Makes (session before customisedDisk) (session mixedCalls customisedDisk) site
          occupant := by
  have hreports : ∀ c ∈ mixedCalls, ¬ c.WritesReport := by
    rintro c hc ⟨o, hinvocation, houtput⟩
    have hcases : c.invocation =
        .check { skills := ["security-audit"], skillsDirectory := "skills" } ∨
        ∀ o, c.invocation ≠ .check o := by
      simp only [mixedCalls, List.mem_cons, List.not_mem_nil, or_false] at hc
      rcases hc with rfl | rfl | rfl | rfl | rfl
      · exact .inr fun _ heq => by cases heq
      · exact .inr fun _ heq => by cases heq
      · exact .inl rfl
      · exact .inr fun _ heq => by cases heq
      · exact .inr fun _ heq => by cases heq
    rcases hcases with hcheck | hother
    · rw [hcheck] at hinvocation
      cases hinvocation
      exact houtput rfl
    · exact hother o hinvocation
  rcases session_keeps hreports customisedDisk with ⟨hkept, hmade⟩
  exact ⟨hkept _ _ rfl, hmade⟩

end Command
end PatchReview
