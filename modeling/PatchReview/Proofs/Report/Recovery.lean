import Mathlib.Data.List.Forall2
import PatchReview.Proofs.Command.Reading
import PatchReview.Proofs.Json.Ascii
import PatchReview.Proofs.Json.RoundTrip
import PatchReview.Proofs.Report.Lines

/-!
# What a report for programs tells

Whoever reads a report has everything again but the execution times: the skills with their findings,
whether they passed or were skipped, the totals, and the size of the diff. A report is a JSON
document, unless an execution time is no finite number of milliseconds: then it holds a word that
only an extended reader knows.
-/

namespace PatchReview

/-! ## Members of objects -/

namespace Json

def text? : Json → Option String
  | .text s => some s
  | _ => none

/-- The truth value that a value is. -/
def bool? : Json → Option Bool
  | .bool b => some b
  | _ => none

def int? : Json → Option Int
  | .int n => some n
  | _ => none

def list? : Json → Option (List Json)
  | .list items => some items
  | _ => none

def required? {α : Type} (read? : Json → Option α) (name : String) (j : Json) : Option α :=
  (j.member? name).bind read?

/-- What is read of a member that may be absent. -/
def optional? {α : Type} (read? : Json → Option α) (name : String) (j : Json) : Option (Option α) :=
  match j.member? name with
  | some value => (read? value).map some
  | none => some none

end Json

/-- A severity is read by its name. -/
theorem Severity.ofName?_name (s : Severity) : ofName? s.name = some s := by
  cases s with
  | info =>
    rfl
  | warning =>
    rfl
  | critical =>
    rfl

namespace Report

/-! ## What is told -/

/-- What a report tells of a result. -/
structure Entry where
  skill : String
  passed : Bool
  skipped : Bool
  findings : List Finding
  deriving DecidableEq, Repr

/-- What a report tells of a diff. -/
structure Totals where
  files : Int
  additions : Int
  deletions : Int
  deriving DecidableEq, Repr

/-- What a report tells. -/
structure Record where
  passed : Bool
  totalFindings : Int
  entries : List Entry
  diff : Option Totals
  deriving DecidableEq, Repr

/-- A result without its execution time. -/
def Entry.of (r : SkillResult) : Entry := ⟨r.skill, r.passed, r.skipped, r.findings⟩

def Totals.of (d : Diff) : Totals := ⟨d.files.length, d.count .addition, d.count .deletion⟩

/-- What there is to tell of results and a diff. -/
def Record.of (results : List SkillResult) (diff : Option Diff) : Record where
  passed := results.all (·.passed)
  totalFindings := (allFindings results).length
  entries := results.map Entry.of
  diff := diff.map Totals.of

/-- Results with the same entry differ in nothing but execution time. -/
theorem eq_of_entry_eq {r r' : SkillResult} (h : Entry.of r = Entry.of r') :
    r' = { r with executionTime := r'.executionTime } := by
  rcases r with ⟨skill, passed, findings, executionTime, skipped⟩
  rcases r' with ⟨skill', passed', findings', executionTime', skipped'⟩
  cases h
  rfl

/-- Results with the same entries differ in their times at most. -/
theorem forall₂_of_entries_eq {results results' : List SkillResult}
    (h : results.map Entry.of = results'.map Entry.of) :
    List.Forall₂ (fun r r' => r' = { r with executionTime := r'.executionTime }) results
      results' := by
  have hentries : List.Forall₂ Eq (results.map Entry.of) (results'.map Entry.of) := by
    rw [h, List.forall₂_eq_eq_eq]
  rw [List.forall₂_map_left_iff, List.forall₂_map_right_iff] at hentries
  exact hentries.imp fun _ _ => eq_of_entry_eq

/-! ## Reading a document -/

def findingOf? (j : Json) : Option Finding := do
  let ruleId ← j.required? Json.text? "rule"
  let severity ← (← j.required? Json.text? "severity") |> Severity.ofName?
  let message ← j.required? Json.text? "message"
  let file ← j.optional? Json.text? "file"
  let line ← j.optional? Json.int? "line"
  return { ruleId, message, severity, file, line }

def Entry.ofJson? (j : Json) : Option Entry := do
  let skill ← j.required? Json.text? "skill"
  let passed ← j.required? Json.bool? "passed"
  let skipped ← j.required? Json.bool? "skipped"
  let findings ← (← j.required? Json.list? "findings").mapM findingOf?
  return { skill, passed, skipped, findings }

/-- The size that an object tells. -/
def Totals.ofJson? (j : Json) : Option Totals := do
  let files ← j.required? Json.int? "files"
  let additions ← j.required? Json.int? "additions"
  let deletions ← j.required? Json.int? "deletions"
  return { files, additions, deletions }

def Record.ofJson? (j : Json) : Option Record := do
  let passed ← j.required? Json.bool? "passed"
  let totalFindings ← j.required? Json.int? "total_findings"
  let entries ← (← j.required? Json.list? "results").mapM Entry.ofJson?
  let diff ← j.optional? Totals.ofJson? "diff"
  return { passed, totalFindings, entries, diff }

/-- The object of a finding tells the finding; what is not known of its place comes back as not
known. -/
theorem findingOf?_findingObject (f : Finding) : findingOf? (findingObject f) = some f := by
  have hrule : (findingObject f).required? Json.text? "rule" = some f.ruleId := rfl
  have hseverity : (findingObject f).required? Json.text? "severity" = some f.severity.name := rfl
  have hmessage : (findingObject f).required? Json.text? "message" = some f.message := rfl
  have hplace : (findingObject f).optional? Json.text? "file" = some f.file ∧
      (findingObject f).optional? Json.int? "line" = some f.line := by
    -- Which members there are depends on what is known, so the lookup of each has its case.
    rcases f with ⟨ruleId, message, severity, file, line⟩
    cases file with
    | none =>
      cases line with
      | none =>
        exact ⟨rfl, rfl⟩
      | some n =>
        exact ⟨rfl, rfl⟩
    | some path =>
      cases line with
      | none =>
        exact ⟨rfl, rfl⟩
      | some n =>
        exact ⟨rfl, rfl⟩
  rw [findingOf?, hrule, hseverity, hmessage, hplace.1, hplace.2]
  simp [Severity.ofName?_name]

/-- Findings are read again from their objects. -/
theorem mapM_findingOf? (findings : List Finding) :
    (findings.map findingObject).mapM findingOf? = some findings := by
  induction findings with
  | nil =>
    rfl
  | cons f findings ih =>
    rw [List.map_cons, List.mapM_cons, findingOf?_findingObject, ih]
    rfl

def resultWith (time : Json) (r : SkillResult) : Json :=
  .object [("skill", .text r.skill), ("passed", .bool r.passed), ("skipped", .bool r.skipped),
    ("execution_time_ms", time), ("findings", .list (r.findings.map findingObject))]

/-- Whatever is told of the time, the object of a result tells its entry. -/
theorem Entry.ofJson?_resultWith (time : Json) (r : SkillResult) :
    ofJson? (resultWith time r) = some (.of r) := by
  have hskill : (resultWith time r).required? Json.text? "skill" = some r.skill := rfl
  have hpassed : (resultWith time r).required? Json.bool? "passed" = some r.passed := rfl
  have hskipped : (resultWith time r).required? Json.bool? "skipped" = some r.skipped := rfl
  have hfindings : (resultWith time r).required? Json.list? "findings" =
      some (r.findings.map findingObject) := rfl
  rw [ofJson?, hskill, hpassed, hskipped, hfindings]
  simp only [Option.bind_eq_bind, Option.bind_some, mapM_findingOf?]
  rfl

/-- The document of results and a diff with some objects for the results. -/
def documentWith (objects : List Json) (results : List SkillResult) (diff : Option Diff) : Json :=
  .object ([("version", .text "1.0"), ("passed", .bool (results.all (·.passed))),
    ("total_findings", .int ((results.map (·.findings.length)).foldl (· + ·) 0 : Nat)),
    ("results", .list objects)] ++
    match diff with
    | some d => [("diff", diffObject d)]
    | none => [])

/-- If its objects tell the entries of the results, the document tells the record. -/
theorem Record.ofJson?_documentWith {objects : List Json} {results : List SkillResult}
    (diff : Option Diff) (h : objects.mapM Entry.ofJson? = some (results.map Entry.of)) :
    ofJson? (documentWith objects results diff) = some (.of results diff) := by
  have hpassed : (documentWith objects results diff).required? Json.bool? "passed" =
      some (results.all (·.passed)) := rfl
  have htotal : (documentWith objects results diff).required? Json.int? "total_findings" =
      some (((results.map (·.findings.length)).foldl (· + ·) 0 : Nat) : Int) := rfl
  have hresults : (documentWith objects results diff).required? Json.list? "results" =
      some objects := rfl
  have hdiff : (documentWith objects results diff).optional? Totals.ofJson? "diff" =
      some (diff.map Totals.of) := by
    cases diff with
    | none =>
      rfl
    | some d =>
      rfl
  rw [← List.sum_eq_foldl, ← List.length_flatMap] at htotal
  rw [ofJson?, hpassed, htotal, hresults, hdiff]
  simp only [Option.bind_eq_bind, Option.bind_some, h]
  rfl

/-! ## Reading the text of a document -/

/-- The execution time of a result in a report. -/
def milliseconds (r : SkillResult) : Float := Decimal.roundPlaces 2 (r.executionTime * 1000)

section Reread

variable (extended : Bool)

/-- Of a finding nothing is lost. -/
theorem reread?_findingObject (f : Finding) :
    Json.reread? extended (findingObject f) = some (findingObject f) := by
  rcases f with ⟨ruleId, message, severity, file, line⟩
  cases file with
  | none =>
    cases line with
    | none =>
      rfl
    | some n =>
      rfl
  | some path =>
    cases line with
    | none =>
      rfl
    | some n =>
      rfl

/-- Reading the objects as JSON again changes nothing about them. -/
theorem rereadItems?_findings (findings : List Finding) :
    Json.rereadItems? extended (findings.map findingObject) =
      some (findings.map findingObject) := by
  induction findings with
  | nil =>
    rfl
  | cons f findings ih =>
    rw [List.map_cons, Json.rereadItems?, reread?_findingObject, ih]
    rfl

/-- Of a result the time alone may change. -/
theorem reread?_resultObject (r : SkillResult) :
    Json.reread? extended (resultObject r) =
      (Json.bare? extended (Json.floatFormat.write (milliseconds r)).toList).map
        (resultWith · r) := by
  rw [resultObject, milliseconds]
  simp only [Json.reread?, Json.rereadMembers?, rereadItems?_findings, Option.map_some,
    Option.bind_some]
  cases Json.bare? extended _ <;> rfl

/-- Of a document the objects of the results alone may change. -/
theorem reread?_document (results : List SkillResult) (diff : Option Diff) :
    Json.reread? extended (document results diff) =
      (Json.rereadItems? extended (results.map resultObject)).map
        (documentWith · results diff) := by
  unfold document
  cases diff with
  | none =>
    simp only [Json.reread?, Json.rereadMembers?, List.append_nil]
    cases Json.rereadItems? extended (results.map resultObject) <;> rfl
  | some d =>
    simp only [Json.reread?, Json.rereadMembers?, List.cons_append, List.nil_append, diffObject]
    cases Json.rereadItems? extended (results.map resultObject) <;> rfl

end Reread

/-- The objects that are read for results tell their entries. -/
theorem mapM_entryOf? {extended : Bool} {results : List SkillResult} {objects : List Json}
    (h : Json.rereadItems? extended (results.map resultObject) = some objects) :
    objects.mapM Entry.ofJson? = some (results.map Entry.of) := by
  induction results generalizing objects with
  | nil =>
    cases h
    rfl
  | cons r results ih =>
    rw [List.map_cons, Json.rereadItems?, reread?_resultObject] at h
    rcases Option.bind_eq_some_iff.1 h with ⟨object, hobject, hrest⟩
    -- The time may be another than the one that was written; an entry says nothing of it.
    rcases Option.map_eq_some_iff.1 hobject with ⟨time, _, rfl⟩
    rcases Option.map_eq_some_iff.1 hrest with ⟨others, hothers, rfl⟩
    rw [List.mapM_cons, Entry.ofJson?_resultWith, ih hothers]
    rfl

/-- The objects of results are read, if all execution times are finite or the reader is extended. -/
theorem exists_rereadItems?_results {extended : Bool} {results : List SkillResult}
    (h : extended = true ∨ ∀ r ∈ results, Json.IsFinite (milliseconds r)) :
    ∃ objects, Json.rereadItems? extended (results.map resultObject) = some objects := by
  induction results with
  | nil =>
    exact ⟨[], rfl⟩
  | cons r results ih =>
    rcases Json.exists_bare?_write (h.imp_right fun hall => hall r List.mem_cons_self) with ⟨y, hy⟩
    rcases ih (h.imp_right fun hall r' hr' => hall r' (List.mem_cons_of_mem r hr')) with
      ⟨objects, hobjects⟩
    rw [List.map_cons, Json.rereadItems?, reread?_resultObject, hy, hobjects]
    exact ⟨_, rfl⟩

/-- Without extensions they are read only if all execution times are finite. -/
theorem isFinite_of_rereadItems? {results : List SkillResult} {objects : List Json}
    (h : Json.rereadItems? false (results.map resultObject) = some objects) :
    ∀ r ∈ results, Json.IsFinite (milliseconds r) := by
  induction results generalizing objects with
  | nil =>
    simp
  | cons r results ih =>
    rw [List.map_cons, Json.rereadItems?, reread?_resultObject] at h
    rcases Option.bind_eq_some_iff.1 h with ⟨object, hobject, hrest⟩
    rcases Option.map_eq_some_iff.1 hobject with ⟨time, htime, _⟩
    rcases Option.map_eq_some_iff.1 hrest with ⟨others, hothers, _⟩
    refine List.forall_mem_cons.2 ⟨?_, ih hothers⟩
    by_contra hinfinite
    rw [Json.bare?_write_of_not_finite hinfinite] at htime
    cases htime

/-! ## Recovery -/

/-- There is a report just if the numbers of all lines can be written; it is the text of the
document. -/
theorem json_eq_ok_iff {results : List SkillResult} {diff : Option Diff} {text : String} :
    json results diff = .ok text ↔
      (∀ f ∈ allFindings results, f.LineWritable) ∧ text = (document results diff).write := by
  have hwritten := json_written results diff
  rw [json] at hwritten ⊢
  -- the lines are written before the document is, and only to see whether they can be
  by_cases h : ∀ f ∈ allFindings results, f.LineWritable
  · rw [linesWritten_of_writable h] at hwritten
    cases hlines : (allFindings results).mapM Finding.lineText with
    | error error =>
      rw [hlines] at hwritten
      cases hwritten
    | ok lines =>
      constructor
      · intro htext
        cases htext
        exact ⟨h, rfl⟩
      · rintro ⟨_, rfl⟩
        rfl
  · rw [linesWritten_of_not_writable h] at hwritten
    cases hlines : (allFindings results).mapM Finding.lineText with
    | error error =>
      constructor
      · intro htext
        cases htext
      · intro hall
        exact absurd hall.1 h
    | ok lines =>
      rw [hlines] at hwritten
      cases hwritten

/-- Who reads the text of the document of results and a diff has their record. -/
theorem record_of_read? {extended : Bool} {results : List SkillResult} {diff : Option Diff}
    {j : Json} (h : Json.read? extended (document results diff).write = some j) :
    Record.ofJson? j = some (.of results diff) := by
  rw [Json.read?_write, reread?_document] at h
  rcases Option.map_eq_some_iff.1 h with ⟨objects, hobjects, rfl⟩
  exact Record.ofJson?_documentWith diff (mapM_entryOf? hobjects)

/-- A document is read if its times are finite, or the reader knows the other numbers as well. -/
theorem exists_read? {extended : Bool} {results : List SkillResult} (diff : Option Diff)
    (h : extended = true ∨ ∀ r ∈ results, Json.IsFinite (milliseconds r)) :
    ∃ j, Json.read? extended (document results diff).write = some j := by
  rcases exists_rereadItems?_results h with ⟨objects, hobjects⟩
  rw [Json.read?_write, reread?_document, hobjects]
  exact ⟨_, rfl⟩

/-- A reader that knows finite numbers only does not read others. -/
theorem isFinite_of_read? {results : List SkillResult} {diff : Option Diff} {j : Json}
    (h : Json.read? false (document results diff).write = some j) :
    ∀ r ∈ results, Json.IsFinite (milliseconds r) := by
  rw [Json.read?_write, reread?_document] at h
  rcases Option.map_eq_some_iff.1 h with ⟨objects, hobjects, _⟩
  exact isFinite_of_rereadItems? hobjects

/-- A report is made just if the numbers of all lines can be written. It is ASCII; an extended
reader reads it, and any other does just if all execution times are finite. Who reads it has the
record of the results and the diff, so results with the same report differ in nothing but execution
times. -/
theorem json_recovers (results : List SkillResult) (diff : Option Diff) :
    ((∃ text, json results diff = .ok text) ↔ ∀ f ∈ allFindings results, f.LineWritable) ∧
    ∀ text, json results diff = .ok text →
      Json.IsAscii text.toList ∧
      (∃ j, Json.read? true text = some j) ∧
      ((∃ j, Json.read? false text = some j) ↔ ∀ r ∈ results, Json.IsFinite (milliseconds r)) ∧
      (∀ extended j, Json.read? extended text = some j →
        Record.ofJson? j = some (.of results diff)) ∧
      ∀ results' diff', json results' diff' = .ok text →
        List.Forall₂ (fun r r' => r' = { r with executionTime := r'.executionTime }) results
          results' ∧
        diff'.map Totals.of = diff.map Totals.of := by
  refine ⟨⟨?_, ?_⟩, ?_⟩
  · rintro ⟨text, htext⟩
    exact (json_eq_ok_iff.1 htext).1
  · intro hwritable
    exact ⟨_, json_eq_ok_iff.2 ⟨hwritable, rfl⟩⟩
  · intro text htext
    rcases json_eq_ok_iff.1 htext with ⟨_, rfl⟩
    refine ⟨Json.isAscii_write _, exists_read? diff (.inl rfl), ⟨?_, ?_⟩, ?_, ?_⟩
    · rintro ⟨j, hj⟩
      exact isFinite_of_read? hj
    · intro hfinite
      exact exists_read? diff (.inr hfinite)
    · intro extended j hj
      exact record_of_read? hj
    · intro results' diff' htext'
      -- What an extended reader reads of the one text tells both records.
      have hread : ∃ j, Json.read? true (document results diff).write = some j :=
        exists_read? diff (.inl rfl)
      rcases hread with ⟨j, hj⟩
      have hrecord := record_of_read? hj
      rw [(json_eq_ok_iff.1 htext').2] at hj
      have hsame : Record.of results' diff' = .of results diff :=
        Option.some.inj ((record_of_read? hj).symm.trans hrecord)
      exact ⟨forall₂_of_entries_eq (congrArg Record.entries hsame).symm, congrArg Record.diff hsame⟩

/-- A message with a quote, a backslash, a control character and one beyond the basic plane, in no
known file. -/
def quotedFinding : Finding := ⟨"r", "say \"\\\x01\" 😀", .info, none, some 3⟩

theorem json_recovers_quoted :
    ∃ text j,
      json [{ skill := "s", passed := false, findings := [quotedFinding] }] none = .ok text ∧
      Json.read? true text = some j ∧
      Record.ofJson? j = some ⟨false, 1, [⟨"s", false, false, [quotedFinding]⟩], none⟩ := by
  have hlines : ∀ f ∈ [quotedFinding], f.LineWritable := by
    intro f hf n hn
    rw [List.mem_singleton.1 hf] at hn
    cases hn
    exact Decimal.lt_numberLimit_of_readDigits (s := "3".toList) (by decide)
  rcases json_recovers [{ skill := "s", passed := false, findings := [quotedFinding] }] none with
    ⟨hmade, hread⟩
  rcases hmade.2 hlines with ⟨text, htext⟩
  rcases hread text htext with ⟨_, ⟨j, hj⟩, _, hrecord, _⟩
  exact ⟨text, j, htext, hj, hrecord true j hj⟩

end Report
end PatchReview
