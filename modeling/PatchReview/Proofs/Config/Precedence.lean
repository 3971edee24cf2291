import PatchReview.Proofs.Config.Loading
import PatchReview.Proofs.Text.Pieces

/-!
# Where the values of a configuration come from

Each value comes from the variable of the environment for it, or from the document if there is no
such variable, or is the standard one if neither has it. What a document says is looked at before
the environment is, so that a document that cannot be accepted gives an error under every
environment.
-/

namespace PatchReview

/-! ## Words -/

/-- A form of report is named by its name, letter by letter. -/
theorem OutputFormat.ofName?_eq_some_iff {word : String} {format : OutputFormat} :
    OutputFormat.ofName? word = some format ↔ word = format.name := by
  constructor
  · intro h
    exact (eq_of_beq (List.find?_some h :)).symm
  · rintro rfl
    cases format <;> decide

/-- So is a level. -/
theorem FailOn.ofName?_eq_some_iff {word : String} {level : FailOn} :
    FailOn.ofName? word = some level ↔ word = level.name := by
  constructor
  · intro h
    exact (eq_of_beq (List.find?_some h :)).symm
  · rintro rfl
    rcases level with - | severity
    · decide
    · cases severity <;> decide

theorem OutputFormat.name_injective : Function.Injective OutputFormat.name := fun _ _ h =>
  Option.some.inj ((ofName?_eq_some_iff.2 rfl).symm.trans (ofName?_eq_some_iff.2 h))

theorem FailOn.name_injective : Function.Injective FailOn.name := fun _ _ h =>
  Option.some.inj ((ofName?_eq_some_iff.2 rfl).symm.trans (ofName?_eq_some_iff.2 h))

namespace Config

variable {bounds : Bounds}

/-! ## Documents -/

/-- The entries of the document from which a configuration is loaded; there are none if there is no
file. -/
inductive Documents (bounds : Bounds) (d : Disk) (base : DiskPath) (asked : String) :
    Toml.Entries → Prop where
  | absent (hfind : find bounds d base asked = .ok none) : Documents bounds d base asked []
  | file {path : DiskPath} {bytes : List UInt8} {text : List Char} {entries : Toml.Entries}
    (hfind : find bounds d base asked = .ok (some path)) (hread : d.read path = .ok bytes)
    (hdecode : Text.decodeUtf8? bytes = some text)
    (hparse : Toml.parse (bounds.reading text) text = .ok entries) :
    Documents bounds d base asked entries

/-- What a document says under a key of one of its tables. -/
def stated? (entries : Toml.Entries) (table key : String) : Option Toml.Value :=
  match entries.lookup table with
  | some (.table inner) => inner.lookup key
  | _ => none

/-- A document has nothing but a table under a name. -/
def TableOrNone (entries : Toml.Entries) (name : String) : Prop :=
  ∀ v, entries.lookup name = some v → ∃ inner, v = .table inner

/-- A document that is accepted. -/
structure Acceptable (bounds : Bounds) (entries : Toml.Entries) : Prop where
  version : ∀ v, entries.lookup "version" = some v → bounds.Writes v
  tables : ∀ name ∈ ["skills", "engine", "output"], TableOrNone entries name
  format : ∀ v, stated? entries "output" "format" = some v → ∃ format : OutputFormat,
    v = .text format.name
  failOn : ∀ v, stated? entries "output" "fail_on" = some v → ∃ level : FailOn, v = .text level.name
  maxWorkers : ∀ v, stated? entries "engine" "max_workers" = some v → v = .bool true ∨ ∃ n : Int,
    1 ≤ n ∧ v = .int n
  enabled : ∀ v, stated? entries "skills" "enabled" = some v → ∃ items, v = .list items

/-- The values of a configuration are those of a document where it has some, and the standard ones
elsewhere. -/
structure Follows (entries : Toml.Entries) (config : Config) : Prop where
  version : ((entries.lookup "version").getD (.text "1.0")).plain = .ok config.version
  directory : config.directory =
    (stated? entries "skills" "directory").getD (.text "~/.diffskills/skills")
  enabled : (stated? entries "skills" "enabled").getD (.list []) = .list config.enabled
  installDefaults : config.installDefaults =
    (stated? entries "skills" "install_defaults").getD (.bool true)
  maxWorkers : config.maxWorkers = (stated? entries "engine" "max_workers").getD (.int 1)
  format : (stated? entries "output" "format").getD (.text "terminal") = .text config.format.name
  failOn : (stated? entries "output" "fail_on").getD (.text "critical") = .text config.failOn.name

/-- A section is read if it is a table or left out; then it is empty. -/
theorem sectionOf_eq_ok_iff {entries inner : Toml.Entries} {name : String} :
    sectionOf entries name = .ok inner ↔
      TableOrNone entries name ∧
        inner = match entries.lookup name with
          | some (.table inner) => inner
          | _ => [] := by
  rw [sectionOf, TableOrNone]
  cases hlookup : entries.lookup name with
  | none => simp [eq_comm]
  | some v => cases v <;> simp [eq_comm]

/-- What stands in a section is what is stated there. -/
theorem lookup_of_sectionOf {entries inner : Toml.Entries} {name : String}
    (h : sectionOf entries name = .ok inner) (key : String) :
    inner.lookup key = stated? entries name key := by
  rw [(sectionOf_eq_ok_iff.1 h).2, stated?]
  cases entries.lookup name with
  | none => rfl
  | some v => cases v <;> rfl

theorem exists_sectionOf_iff {entries : Toml.Entries} {name : String} :
    (∃ inner, sectionOf entries name = .ok inner) ↔ TableOrNone entries name := by
  simp [sectionOf_eq_ok_iff]

/-- What is chosen is named by the value or is the standard one. -/
theorem chosen_eq_ok_iff {α : Type} {ofName? : String → Option α} {name : α → String} {default : α}
    {error : String → ConfigError} (hname : ∀ word a, ofName? word = some a ↔ word = name a)
    {v? : Option Toml.Value} {a : α} :
    chosen bounds ofName? default error v? = .ok a ↔
      v?.getD (.text (name default)) = .text (name a) := by
  have hinj {a b : α} : name a = name b ↔ a = b := by
    refine ⟨fun h => ?_, congrArg name⟩
    exact Option.some.inj (((hname _ a).2 rfl).symm.trans ((hname _ b).2 h))
  cases v? with
  | none => simp [chosen, hinj]
  | some v =>
    rw [Option.getD_some]
    cases v with
    | text s =>
      rw [chosen]
      cases hs : ofName? s with
      | some b => simp [(hname s b).1 hs, hinj]
      | none =>
        have hne : s ≠ name a := fun heq => by cases hs.symm.trans ((hname s a).2 heq)
        simp [bind_eq_ok_iff, hne]
    | _ => simp [chosen, bind_eq_ok_iff]

/-- A number of workers is at least one, and true counts as one. -/
theorem isWorkers_iff {v : Toml.Value} :
    isWorkers v = true ↔ v = .bool true ∨ ∃ n : Int, 1 ≤ n ∧ v = .int n := by
  cases v with
  | int n => simp [isWorkers]
  | bool b => simp [isWorkers]
  | _ => simp [isWorkers]

/-- A configuration comes from a document if it has the values of the document and these are looked
at with success. -/
theorem ofEntries_eq_ok_iff {entries : Toml.Entries} {config : Config} :
    ofEntries bounds entries = .ok config ↔
      (∀ name ∈ ["skills", "engine", "output"], ∃ inner, sectionOf entries name = .ok inner) ∧
        isWorkers config.maxWorkers = true ∧
        bounds.Writes ((entries.lookup "version").getD (.text "1.0")) ∧ Follows entries config := by
  rw [ofEntries]
  simp only [bind_eq_ok_iff]
  constructor
  · rintro ⟨version, hversion, skills, hskills, engine, hengine, output, houtput, format, hformat,
      failOn, hfailOn,
      hrest⟩
    rw [chosen_eq_ok_iff (fun _ _ => OutputFormat.ofName?_eq_some_iff),
      lookup_of_sectionOf houtput] at hformat
    rw [chosen_eq_ok_iff (fun _ _ => FailOn.ofName?_eq_some_iff),
      lookup_of_sectionOf houtput] at hfailOn
    rw [lookup_of_sectionOf hskills, lookup_of_sectionOf hskills, lookup_of_sectionOf hskills,
      lookup_of_sectionOf hengine] at hrest
    have htables : ∀ name ∈ ["skills", "engine", "output"], ∃ inner,
        sectionOf entries name = .ok inner := by
      simp only [List.forall_mem_cons]
      exact ⟨⟨_, hskills⟩, ⟨_, hengine⟩, ⟨_, houtput⟩, fun _ h => absurd h List.not_mem_nil⟩
    have hplain := (plainText_eq_ok.1 hversion).2
    have hwrites := plainText_eq_ok_iff.1 ⟨version, hversion⟩
    -- the number of workers and the enabled skills are looked at last
    cases hworkers : isWorkers ((stated? entries "engine" "max_workers").getD (.int 1)) with
    | false =>
      rw [hworkers] at hrest
      cases hrest
    | true =>
      rw [hworkers] at hrest
      cases henabled : stated? entries "skills" "enabled" with
      | none =>
        rw [henabled] at hrest
        cases hrest
        exact ⟨htables, hworkers, hwrites, hplain, rfl, by rw [henabled]; rfl, rfl, rfl, hformat,
          hfailOn⟩
      | some v =>
        rw [henabled] at hrest
        cases v with
        | list items =>
          cases hrest
          exact ⟨htables, hworkers, hwrites, hplain, rfl, by rw [henabled]; rfl, rfl, rfl, hformat,
            hfailOn⟩
        | _ => cases hrest
  · rintro ⟨htables, hworkers, hwrites, h⟩
    simp only [List.forall_mem_cons] at htables
    rcases htables with ⟨⟨skills, hskills⟩, ⟨engine, hengine⟩, ⟨output, houtput⟩, -⟩
    refine ⟨config.version, plainText_eq_ok.2 ⟨hwrites.room, h.version⟩, skills, hskills, engine,
      hengine, output, houtput, config.format, ?_, config.failOn, ?_, ?_⟩
    · rw [chosen_eq_ok_iff (fun _ _ => OutputFormat.ofName?_eq_some_iff),
        lookup_of_sectionOf houtput]
      exact h.format
    · rw [chosen_eq_ok_iff (fun _ _ => FailOn.ofName?_eq_some_iff), lookup_of_sectionOf houtput]
      exact h.failOn
    · have henabled := h.enabled
      -- nothing is left to choose, and the fields of the configuration are those of the document
      rw [lookup_of_sectionOf hskills, lookup_of_sectionOf hskills, lookup_of_sectionOf hskills,
        lookup_of_sectionOf hengine, ← h.maxWorkers, ← h.directory, ← h.installDefaults, hworkers]
      cases hstated : stated? entries "skills" "enabled" with
      | none =>
        rw [hstated] at henabled
        cases config
        cases henabled
        rfl
      | some v =>
        rw [hstated, Option.getD_some] at henabled
        cases config
        cases henabled
        rfl

section Stated

variable {α : Type} {f : α → Toml.Value} {a : α} {v? : Option Toml.Value}

/-- A value that may be missing is one of some values just if it is where it is there. -/
theorem exists_getD_iff : (∃ b, v?.getD (f a) = f b) ↔ ∀ v, v? = some v → ∃ b, v = f b := by
  cases v? with
  | none => simp
  | some v => simp

theorem getD_iff {P : Toml.Value → Prop} {v : Toml.Value} (hv : P v) :
    P (v?.getD v) ↔ ∀ w, v? = some w → P w := by
  cases v? with
  | none => simpa using hv
  | some w => simp

end Stated

/-- A document is accepted just if a configuration comes from it. -/
theorem acceptable_iff {entries : Toml.Entries} :
    Acceptable bounds entries ↔ ∃ config, ofEntries bounds entries = .ok config := by
  have hone : isWorkers (.int 1) = true := rfl
  have hversion : bounds.Writes ((entries.lookup "version").getD (.text "1.0")) ↔
      ∀ v, entries.lookup "version" = some v → bounds.Writes v :=
    getD_iff (bounds.writes_text "1.0")
  simp only [ofEntries_eq_ok_iff, exists_sectionOf_iff]
  constructor
  · intro h
    have hwrites := hversion.2 h.version
    -- each condition gives the field that it is about
    rcases (Toml.exists_plain_iff _).2 hwrites.writable with ⟨version, hplain⟩
    rcases exists_getD_iff (a := OutputFormat.terminal).2 h.format with ⟨format, hformat⟩
    rcases exists_getD_iff (a := some .critical).2 h.failOn with ⟨failOn, hfailOn⟩
    rcases exists_getD_iff (a := []).2 h.enabled with ⟨enabled, henabled⟩
    have hworkers := (getD_iff hone).2 fun v hv => isWorkers_iff.2 (h.maxWorkers v hv)
    exact
      ⟨{ version, enabled, format, failOn, directory := _, installDefaults := _, maxWorkers := _ },
        h.tables, hworkers, hwrites, hplain, rfl, henabled, rfl, rfl, hformat, hfailOn⟩
  · rintro ⟨config, htables, hworkers, hwrites, h⟩
    rw [h.maxWorkers] at hworkers
    exact {
      version := hversion.1 hwrites
      tables := htables
      format := exists_getD_iff (a := OutputFormat.terminal).1 ⟨_, h.format⟩
      failOn := exists_getD_iff (f := fun level : FailOn => .text level.name)
        (a := some .critical).1 ⟨_, h.failOn⟩
      maxWorkers := fun v hv =>
        isWorkers_iff.1 ((getD_iff (P := (isWorkers · = true)) hone).1 hworkers v hv)
      enabled := exists_getD_iff (a := []).1 ⟨_, h.enabled⟩ }

/-! ## The environment -/

/-- The value that is given by a variable, or else the one that is written in the document, or else
the standard one. -/
inductive FirstOf {α : Type} (given written : α → Prop) (standard : α) : α → Prop where
  | given {a : α} (h : given a) : FirstOf given written standard a
  | written {a : α} (hnone : ∀ b, ¬ given b) (h : written a) : FirstOf given written standard a
  | standard (hnone : ∀ b, ¬ given b) (hnone' : ∀ b, ¬ written b) :
    FirstOf given written standard standard

/-- A variable that is set and not empty is read as a value. -/
def Gives {α : Type} (environment : Environment) (name : String) (reads : String → α → Prop)
    (a : α) : Prop :=
  ∃ text, environment.lookup name = some text ∧ text ≠ "" ∧ reads text a

/-- A text lists names with commas between them. Blanks around a name do not count, and names of no
characters are left out. -/
def ListsNames (text : String) (names : List String) : Prop :=
  ∃ pieces, Text.joinWith [','] pieces = text.toList ∧ (∀ piece ∈ pieces, ',' ∉ piece) ∧
    names = ((pieces.map (Text.trimBy Text.isBlank)).filter (· ≠ [])).map String.ofList

/-- A text is that of a number of workers. -/
def CountsWorkers (text : String) (n : Int) : Prop :=
  Decimal.readTyped 10 text.toList = .ok (some n) ∧ 1 ≤ n

section Given

variable (environment : Environment)

def GivesDirectory : Toml.Value → Prop :=
  Gives environment "DIFFSKILLS_SKILLS_DIR" fun text v => v = .text text

def GivesEnabled : List Toml.Value → Prop :=
  Gives environment "DIFFSKILLS_SKILLS" fun text items =>
    ∃ names, ListsNames text names ∧ items = names.map .text

def GivesMaxWorkers : Toml.Value → Prop :=
  Gives environment "DIFFSKILLS_MAX_WORKERS" fun text v => ∃ n, CountsWorkers text n ∧ v = .int n

def GivesFormat : OutputFormat → Prop :=
  Gives environment "DIFFSKILLS_FORMAT" fun text format => text = format.name

def GivesFailOn : FailOn → Prop :=
  Gives environment "DIFFSKILLS_FAIL_ON" fun text level => text = level.name

end Given

/-- Each value of a configuration comes from the variable for it, from the document or from the
standard. -/
structure Layered (environment : Environment) (entries : Toml.Entries) (config : Config) :
    Prop where
  version : ((entries.lookup "version").getD (.text "1.0")).plain = .ok config.version
  directory : FirstOf (GivesDirectory environment)
    (fun v => stated? entries "skills" "directory" = some v) (.text "~/.diffskills/skills")
      config.directory
  enabled : FirstOf (GivesEnabled environment)
    (fun items => stated? entries "skills" "enabled" = some (.list items)) [] config.enabled
  installDefaults : FirstOf (fun _ => False)
    (fun v => stated? entries "skills" "install_defaults" = some v) (.bool true)
      config.installDefaults
  maxWorkers : FirstOf (GivesMaxWorkers environment)
    (fun v => stated? entries "engine" "max_workers" = some v) (.int 1) config.maxWorkers
  format : FirstOf (GivesFormat environment)
    (fun format => stated? entries "output" "format" = some (.text format.name)) .terminal
      config.format
  failOn : FirstOf (GivesFailOn environment)
    (fun level => stated? entries "output" "fail_on" = some (.text (FailOn.name level)))
      (some .critical) config.failOn

/-- A variable counts if it is set, and not empty. -/
theorem get?_eq_some_iff {environment : Environment} {name text : String} :
    environment.get? name = some text ↔ environment.lookup name = some text ∧ text ≠ "" := by
  rw [Environment.get?, Option.filter_eq_some_iff]
  simp

/-- What is given takes the place of a value that is written or standard. -/
theorem firstOf_getD {α : Type} {given : α → Prop} {f : α → Toml.Value} (hf : f.Injective)
    {given? : Option α} {written? : Option Toml.Value} {standard a : α}
    (h : written?.getD (f standard) = f a) (hgiven : ∀ b, given? = some b → given b)
    (hnone : given? = none → ∀ b, ¬ given b) :
    FirstOf given (fun b => written? = some (f b)) standard (given?.getD a) := by
  cases given? with
  | some b => exact .given (hgiven b rfl)
  | none =>
    cases written? with
    | some v => exact .written (hnone rfl) (congrArg some h)
    | none =>
      obtain rfl := hf h
      exact .standard (hnone rfl) fun b hb => by cases hb

/-- What a variable is read as takes the place of a value that is written or standard. -/
theorem firstOf_get? {α : Type} {environment : Environment} {name : String}
    {read? : String → Option α} {reads : String → α → Prop} {f : α → Toml.Value} (hf : f.Injective)
    {written? : Option Toml.Value} {standard a : α} (h : written?.getD (f standard) = f a)
    (hreads : ∀ text b, read? text = some b → reads text b)
    (hnone : ∀ text, read? text = none → ∀ b, ¬ reads text b) :
    FirstOf (Gives environment name reads) (fun b => written? = some (f b)) standard
      (((environment.get? name).bind read?).getD a) := by
  refine firstOf_getD hf h ?_ ?_
  · intro b hb
    rcases Option.bind_eq_some_iff.1 hb with ⟨text, htext, hread⟩
    rcases get?_eq_some_iff.1 htext with ⟨hlookup, hne⟩
    exact ⟨text, hlookup, hne, hreads text b hread⟩
  · rintro hread b ⟨text, hlookup, hne, hb⟩
    rw [get?_eq_some_iff.2 ⟨hlookup, hne⟩, Option.bind_some] at hread
    exact hnone text hread b hb

/-- What a text lists is found by taking it apart at its commas. -/
theorem listsNames_namesIn (text : String) : ListsNames text (namesIn text) := by
  refine ⟨_, Text.joinWith_splitAtChar ',' _, fun _ => Text.not_mem_of_mem_splitAtChar, ?_⟩
  rw [namesIn]
  generalize (Text.splitAtChar ',' text.toList).map (Text.trimBy Text.isBlank) = pieces
  induction pieces with
  | nil => rfl
  | cons piece pieces ih => cases piece <;> simp_all

/-- A text counts workers if it is a number that is at least one. -/
theorem workersOf?_eq_some_iff {text : String} {n : Int} :
    workersOf? text = some n ↔ CountsWorkers text n := by
  rw [workersOf?, CountsWorkers]
  cases Decimal.readTyped 10 text.toList with
  | error error => simp
  | ok n? =>
    cases n? with
    | none => simp
    | some m =>
      simp only [Option.ite_none_right_eq_some, Except.ok.injEq, Option.some.injEq]
      constructor
      · rintro ⟨hm, rfl⟩
        exact ⟨rfl, hm⟩
      · rintro ⟨rfl, hm⟩
        exact ⟨hm, rfl⟩

/-- The variables of the environment, each read by itself. -/
theorem override_eq (config : Config) (environment : Environment) :
    config.override environment = {
      version := config.version
      directory :=
        ((environment.get? "DIFFSKILLS_SKILLS_DIR").bind fun text => some (.text text)).getD
          config.directory
      enabled := ((environment.get? "DIFFSKILLS_SKILLS").bind fun text =>
        some ((namesIn text).map .text)).getD config.enabled
      installDefaults := config.installDefaults
      maxWorkers := ((environment.get? "DIFFSKILLS_MAX_WORKERS").bind fun text =>
        (workersOf? text).map .int).getD config.maxWorkers
      format := ((environment.get? "DIFFSKILLS_FORMAT").bind OutputFormat.ofName?).getD
        config.format
      failOn := ((environment.get? "DIFFSKILLS_FAIL_ON").bind FailOn.ofName?).getD
        config.failOn } := by
  rw [override, Option.map_eq_bind, Option.map_eq_bind, Option.map_bind]
  rfl

/-- The values of a document are put behind those of the environment. -/
theorem Follows.layered {entries : Toml.Entries} {config : Config} (h : Follows entries config)
    (environment : Environment) : Layered environment entries (config.override environment) := by
  have htext : Function.Injective Toml.Value.text := fun _ _ => Toml.Value.text.inj
  have hlist : Function.Injective Toml.Value.list := fun _ _ => Toml.Value.list.inj
  rw [override_eq]
  constructor
  · exact h.version
  · refine firstOf_get? Function.injective_id h.directory.symm ?_ ?_
    · rintro text v ⟨⟩
      rfl
    · rintro text ⟨⟩
  · refine firstOf_get? hlist h.enabled ?_ ?_
    · rintro text items ⟨⟩
      exact ⟨_, listsNames_namesIn text, rfl⟩
    · rintro text ⟨⟩
  -- no variable sets whether the bundled skills are installed
  · have hnone : FirstOf (fun _ => False)
        (fun v => stated? entries "skills" "install_defaults" = some v) (.bool true)
        ((none : Option Toml.Value).getD config.installDefaults) :=
      firstOf_getD Function.injective_id h.installDefaults.symm (fun _ hb => by cases hb)
        fun _ _ hb => hb
    exact hnone
  · refine firstOf_get? Function.injective_id h.maxWorkers.symm ?_ ?_
    · intro text v hv
      rcases Option.map_eq_some_iff.1 hv with ⟨n, hn, rfl⟩
      exact ⟨n, workersOf?_eq_some_iff.1 hn, rfl⟩
    · rintro text hread v ⟨n, hn, -⟩
      rw [workersOf?_eq_some_iff.2 hn] at hread
      cases hread
  · refine firstOf_get? (htext.comp OutputFormat.name_injective) h.format ?_ ?_
    · intro text format hread
      exact OutputFormat.ofName?_eq_some_iff.1 hread
    · intro text hread format htext
      rw [OutputFormat.ofName?_eq_some_iff.2 htext] at hread
      cases hread
  · refine firstOf_get? (htext.comp FailOn.name_injective) h.failOn ?_ ?_
    · intro text level hread
      exact FailOn.ofName?_eq_some_iff.1 hread
    · intro text hread level htext
      rw [FailOn.ofName?_eq_some_iff.2 htext] at hread
      cases hread

/-! ## What makes no difference -/

/-- Variables with texts that are read as something. -/
inductive Meaningful : String → String → Prop where
  | directory {text : String} (h : text ≠ "") : Meaningful "DIFFSKILLS_SKILLS_DIR" text
  | enabled {text : String} (h : text ≠ "") : Meaningful "DIFFSKILLS_SKILLS" text
  | maxWorkers {text : String} {n : Int} (h : CountsWorkers text n) :
    Meaningful "DIFFSKILLS_MAX_WORKERS" text
  | format (format : OutputFormat) : Meaningful "DIFFSKILLS_FORMAT" format.name
  | failOn (level : FailOn) : Meaningful "DIFFSKILLS_FAIL_ON" level.name

def Environment.without (environment : Environment) (name : String) : Environment :=
  environment.filter (·.1 != name)

/-- A variable that is taken out is unset, and others stay. -/
theorem lookup_without (environment : Environment) (name other : String) :
    (environment.without name).lookup other =
      if other = name then none else environment.lookup other := by
  unfold Environment.without
  induction environment with
  | nil => simp
  | cons entry rest ih =>
    by_cases hentry : entry.1 = name
    · rw [List.filter_cons_of_neg (by simpa using hentry), ih, List.lookup_cons, hentry]
      by_cases hother : other = name
      · rw [if_pos hother, if_pos hother]
      · rw [beq_false_of_ne hother]
    · rw [List.filter_cons_of_pos (by simpa using hentry), List.lookup_cons, List.lookup_cons, ih]
      by_cases hother : other = entry.1
      · simp [hother, hentry]
      · rw [beq_false_of_ne hother]

/-- A variable that is read as nothing may as well not be set. -/
theorem get?_without_bind {α : Type} {environment : Environment} {name text : String}
    {read? : String → Option α} (hlookup : environment.lookup name = some text) {other : String}
    (hread : other = name → text ≠ "" → read? text = none) :
    ((environment.without name).get? other).bind read? = (environment.get? other).bind read? := by
  rw [Environment.get?, lookup_without]
  split
  · next hother =>
    rw [Environment.get?, hother, hlookup]
    by_cases htext : text = ""
    · rw [htext]
      rfl
    · simp [Option.filter, htext, hread hother htext]
  · rfl

/-- A variable without a meaning may as well be unset. -/
theorem override_without {environment : Environment} {name text : String}
    (hlookup : environment.lookup name = some text) (h : ¬ Meaningful name text) (config : Config) :
    config.override (environment.without name) = config.override environment := by
  have hnone {α : Type} {read? : String → Option α}
      (hread : ∀ a, read? text = some a → Meaningful name text) :
      read? text = none :=
    Option.eq_none_iff_forall_ne_some.2 fun a ha => h (hread a ha)
  -- every variable is read as before: the one that is left out as nothing, the others as what they
  -- are
  rw [override_eq, override_eq, get?_without_bind hlookup ?_, get?_without_bind hlookup ?_,
    get?_without_bind hlookup ?_, get?_without_bind hlookup ?_, get?_without_bind hlookup ?_]
  · rintro rfl -
    exact hnone fun level hlevel => FailOn.ofName?_eq_some_iff.1 hlevel ▸ .failOn level
  · rintro rfl -
    exact hnone fun format hformat => OutputFormat.ofName?_eq_some_iff.1 hformat ▸ .format format
  · rintro rfl -
    have hworkers := hnone fun n hn => .maxWorkers (workersOf?_eq_some_iff.1 hn)
    rw [hworkers, Option.map_none]
  · rintro rfl htext
    exact absurd (.enabled htext) h
  · rintro rfl htext
    exact absurd (.directory htext) h

/-- The keys of each table that configurations are made from. -/
def schema : List (String × List String) :=
  [("skills", ["directory", "enabled", "install_defaults"]), ("engine", ["max_workers"]),
    ("output", ["format", "fail_on"])]

/-- Documents that differ outside of the schema alone. -/
structure SameSchema (entries others : Toml.Entries) : Prop where
  version : others.lookup "version" = entries.lookup "version"
  tables : ∀ table ∈ schema, (TableOrNone others table.1 ↔ TableOrNone entries table.1)
  keys : ∀ table ∈ schema, ∀ key ∈ table.2, stated? others table.1 key = stated? entries table.1 key

/-- A section that is no table is refused by its name. -/
theorem sectionOf_eq_error {entries : Toml.Entries} {name : String}
    (h : ¬ TableOrNone entries name) : sectionOf entries name = .error (.notTable name) := by
  unfold sectionOf
  split
  · next hlookup => exact absurd (fun v hv => by cases hlookup.symm.trans hv) h
  · next inner hlookup =>
      exact absurd (fun v hv => ⟨inner, Option.some.inj (hv.symm.trans hlookup)⟩) h
  · rfl

/-- A table gives the same error in two documents or is there in both. -/
theorem sectionOf_cases {entries others : Toml.Entries} {name : String}
    (h : TableOrNone others name ↔ TableOrNone entries name) :
    (∃ error, sectionOf entries name = .error error ∧ sectionOf others name = .error error) ∨
      ∃ inner inner', sectionOf entries name = .ok inner ∧ sectionOf others name = .ok inner' := by
  by_cases htable : TableOrNone entries name
  · rcases exists_sectionOf_iff.2 htable with ⟨inner, hinner⟩
    rcases exists_sectionOf_iff.2 (h.2 htable) with ⟨inner', hinner'⟩
    exact .inr ⟨inner, inner', hinner, hinner'⟩
  · exact .inl ⟨_, sectionOf_eq_error htable,
      sectionOf_eq_error fun hothers => htable (h.1 hothers)⟩

/-- What stands outside of the schema changes neither the configuration nor the error. -/
theorem SameSchema.ofEntries_eq {entries others : Toml.Entries} (h : SameSchema entries others) :
    ofEntries bounds others = ofEntries bounds entries := by
  have htables := h.tables
  have hkeys := h.keys
  simp only [schema, List.forall_mem_cons] at htables hkeys
  rcases htables with ⟨hskills, hengine, houtput, -⟩
  rcases hkeys with ⟨⟨hdirectory, henabled, hinstall, -⟩, ⟨hworkers, -⟩, ⟨hformat, hfailOn, -⟩, -⟩
  rw [ofEntries, ofEntries, h.version]
  dsimp only
  congr 1
  funext version
  -- the first table that is none is the error of both documents
  rcases sectionOf_cases hskills with
    ⟨error, herror, herror'⟩ | ⟨skills, skills', hskills, hskills'⟩
  · rw [herror, herror']
    rfl
  rcases sectionOf_cases hengine with
    ⟨error, herror, herror'⟩ | ⟨engine, engine', hengine, hengine'⟩
  · rw [hskills, hskills', herror, herror']
    rfl
  rcases sectionOf_cases houtput with
    ⟨error, herror, herror'⟩ | ⟨output, output', houtput, houtput'⟩
  · rw [hskills, hskills', hengine, hengine', herror, herror']
    rfl
  -- all tables are there, and the same keys are looked up in them
  rw [hskills, hskills', hengine, hengine', houtput, houtput']
  simp only [bind, Except.bind, lookup_of_sectionOf hskills, lookup_of_sectionOf hskills',
    lookup_of_sectionOf hengine, lookup_of_sectionOf hengine', lookup_of_sectionOf houtput,
    lookup_of_sectionOf houtput', hdirectory, henabled, hinstall, hworkers, hformat, hfailOn]

/-! ## Loading -/

/-- What is loaded for a document is what comes from it, behind the environment. -/
theorem Documents.load_eq {d : Disk} {base : DiskPath} {asked : String} {entries : Toml.Entries}
    (h : Documents bounds d base asked entries) (environment : Environment) :
    load bounds d environment base asked =
      (override · environment) <$> ofEntries bounds entries := by
  cases h with
  | absent hfind =>
    rw [load, hfind]
    rfl
  | file hfind hread hdecode hparse =>
    rw [load_of_file hfind hread, ofBytes, hdecode]
    simp only [hparse]
    rfl

/-- What is loaded for a document comes from one that is accepted, and its values are put in
layers. -/
theorem Documents.of_load {d : Disk} {base : DiskPath} {asked : String} {entries : Toml.Entries}
    (h : Documents bounds d base asked entries) {environment : Environment} {config : Config}
    (hload : load bounds d environment base asked = .ok config) :
    Acceptable bounds entries ∧ Layered environment entries config := by
  rw [h.load_eq] at hload
  cases hentries : ofEntries bounds entries with
  | error error =>
    rw [hentries] at hload
    cases hload
  | ok own =>
    rw [hentries] at hload
    cases hload
    exact ⟨acceptable_iff.2 ⟨own, hentries⟩,
      (ofEntries_eq_ok_iff.1 hentries).2.2.2.layered environment⟩

/-- If a document is accepted, every environment gives a configuration. Each of its values comes
from the variable for it, or else from the document, or else is the standard one. If a document is
not accepted, the error is the same under every environment; it is told as one of the configuration
unless the text of a value is asked for that cannot be written. A variable that is read as nothing,
and what stands outside of the schema in a document, make no difference. -/
theorem load_precedence {d : Disk} {base : DiskPath} {asked : String} {entries : Toml.Entries}
    (hdocument : Documents bounds d base asked entries) :
    (Acceptable bounds entries → ∀ environment, ∃ config,
      load bounds d environment base asked = .ok config ∧
      Layered environment entries config) ∧
      (¬ Acceptable bounds entries → ∃ error,
        (∀ environment, load bounds d environment base asked = .error error) ∧
        (error.isReported = true ↔ ¬ AsksTooMuch bounds entries)) ∧
      (∀ environment name text, environment.lookup name = some text → ¬ Meaningful name text →
        load bounds d (environment.without name) base asked =
          load bounds d environment base asked) ∧
      ∀ d' base' asked' others, Documents bounds d' base' asked' others →
        SameSchema entries others →
        ∀ environment, load bounds d' environment base' asked' =
          load bounds d environment base asked := by
  refine ⟨fun hacceptable environment => ?_, fun hacceptable => ?_,
    fun environment name text hlookup h => ?_,
    fun d' base' asked' others hothers hsame environment => ?_⟩
  · rcases acceptable_iff.1 hacceptable with ⟨config, hconfig⟩
    have hload : load bounds d environment base asked = .ok (config.override environment) := by
      rw [hdocument.load_eq, hconfig]
      rfl
    exact ⟨_, hload, (hdocument.of_load hload).2⟩
  · cases hentries : ofEntries bounds entries with
    | ok config => exact absurd (acceptable_iff.2 ⟨config, hentries⟩) hacceptable
    | error error =>
      refine ⟨error, fun environment => ?_, ?_⟩
      · rw [hdocument.load_eq, hentries]
        rfl
      · rw [← unreported_ofEntries_iff, hentries, unreported_error_iff, Bool.not_eq_false]
  · rw [hdocument.load_eq, hdocument.load_eq, funext (override_without hlookup h)]
  · rw [hdocument.load_eq, hothers.load_eq, hsame.ofEntries_eq]

/-- A disk with a configuration that asks for a form of the output and for workers. -/
def layeredDisk : Disk where
  tree := .directory [(".diffskills.toml", .file
    [0x5B, 0x6F, 0x75, 0x74, 0x70, 0x75, 0x74, 0x5D, 0x0A, 0x66, 0x6F, 0x72, 0x6D, 0x61, 0x74, 0x3D,
     0x27, 0x6A, 0x73, 0x6F, 0x6E, 0x27, 0x0A, 0x5B, 0x65, 0x6E, 0x67, 0x69, 0x6E, 0x65, 0x5D, 0x0A,
     0x6D, 0x61, 0x78, 0x5F, 0x77, 0x6F, 0x72, 0x6B, 0x65, 0x72, 0x73, 0x3D, 0x34])]
  workingDirectory := { root := "/", parts := [] }
  home := "/"

def layeredEntries : Toml.Entries :=
  [("output", .table [("format", .text "json")]), ("engine", .table [("max_workers", .int 4)])]

/-- No form of the output has another word. -/
theorem meaningful_format_iff {text : String} :
    Meaningful "DIFFSKILLS_FORMAT" text ↔ ∃ format : OutputFormat, text = format.name := by
  constructor
  · generalize hname : "DIFFSKILLS_FORMAT" = name
    intro h
    cases h with
    | format format => exact ⟨format, rfl⟩
    | _ => exact absurd hname (by decide)
  · rintro ⟨format, rfl⟩
    exact .format format

theorem load_precedence_layered :
    ∃ config, Layered [("DIFFSKILLS_FORMAT", "xml"), ("DIFFSKILLS_FAIL_ON", "none")]
      layeredEntries config ∧
      config.format = .json ∧ config.failOn = none ∧ config.maxWorkers = .int 4 ∧
      load .unreached layeredDisk [("DIFFSKILLS_FAIL_ON", "none")] { root := "/", parts := [] } "" =
        .ok config := by
  have hfind : find .unreached layeredDisk { root := "/", parts := [] } "" =
      .ok (some { root := "/", parts := [".diffskills.toml"] }) := rfl
  have hdocument : Documents .unreached layeredDisk { root := "/", parts := [] } ""
      layeredEntries := .file hfind rfl rfl rfl
  have hacceptable : Acceptable .unreached layeredEntries := acceptable_iff.2 ⟨_, rfl⟩
  rcases load_precedence hdocument with ⟨haccepted, -, hmeaningless, -⟩
  have hxml : ¬ Meaningful "DIFFSKILLS_FORMAT" "xml" := by
    rw [meaningful_format_iff]
    rintro ⟨format, hformat⟩
    exact absurd hformat (by cases format <;> decide)
  rcases haccepted hacceptable [("DIFFSKILLS_FORMAT", "xml"), ("DIFFSKILLS_FAIL_ON", "none")] with
    ⟨config, hload, hlayered⟩
  have hwithout := hmeaningless [("DIFFSKILLS_FORMAT", "xml"), ("DIFFSKILLS_FAIL_ON", "none")] _
    _ rfl hxml
  have hconfig := hload
  rw [hdocument.load_eq] at hconfig
  cases hconfig
  exact ⟨_, hlayered, rfl, rfl, rfl, hwithout.trans hload⟩

end Config
end PatchReview
