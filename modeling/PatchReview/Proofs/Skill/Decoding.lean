import PatchReview.Proofs.Decimal.Natural
import PatchReview.Proofs.Skill.Schema

/-!
# Decoding of skills

Which values are taken for skills, with nothing said about the skill: under each key of the schema
stands something of the form that the schema asks for. Decoding takes just these values, gives the
skill that the value describes, and looks under no other key.
-/

namespace PatchReview
namespace Skill

/-! ## Well-formed documents -/

/-- A mapping that can be read as a trigger. -/
structure Trigger.WellFormed (data : Entries) : Prop where
  fileExtensions : ∃ extensions, HasOptionalTexts data "file_extension" extensions
  pathContains : ∃ parts, HasOptionalTexts data "path_contains" parts

/-- A mapping that can be read as a rule. -/
structure Rule.WellFormed (data : Entries) : Prop where
  id : ∃ id, HasText data "id" id
  severity : ∃ word, HasText data "severity" word ∧
    ∃ severity : Severity, String.ofList (Text.lower word.toList) = severity.name
  message : ∃ message, HasText data "message" message
  pattern : ∃ pattern, HasOptionalText data "pattern" pattern
  check : ∃ check, HasOptionalText data "check" check

/-- Entries of a document that can be read as a skill. -/
structure WellFormed (data : Entries) : Prop where
  name : ∃ name, HasText data "name" name
  version : ∃ version, HasText data "version" version
  description : ∃ description, HasText data "description" description
  triggers : ∃ items, HasMappings data "triggers" items ∧ ∀ inner ∈ items, Trigger.WellFormed inner
  rules : ∃ items, HasMappings data "rules" items ∧ ∀ inner ∈ items, Rule.WellFormed inner
  prompts : ∃ prompts, HasPrompts data prompts

theorem exists_forall₂_iff {α β : Type} {P : α → β → Prop} {items : List β} :
    (∃ results, List.Forall₂ P results items) ↔ ∀ item ∈ items, ∃ result, P result item := by
  induction items with
  | nil =>
    simp
  | cons item items ih =>
    rw [List.forall_mem_cons, ← ih]
    constructor
    · rintro ⟨_, h⟩
      cases h with
      | cons hfirst hrest => exact ⟨⟨_, hfirst⟩, _, hrest⟩
    · rintro ⟨⟨_, hfirst⟩, _, hrest⟩
      exact ⟨_, .cons hfirst hrest⟩

/-- A mapping is a trigger if some trigger is described by it. -/
theorem Trigger.wellFormed_iff {data : Entries} :
    Trigger.WellFormed data ↔ ∃ t, Trigger.DescribedBy t data := by
  constructor
  · rintro ⟨⟨extensions, hextensions⟩, parts, hparts⟩
    exact ⟨⟨extensions, parts⟩, hextensions, hparts⟩
  · rintro ⟨t, hextensions, hparts⟩
    exact ⟨⟨_, hextensions⟩, _, hparts⟩

/-- A mapping is a rule if some rule is described by it. -/
theorem Rule.wellFormed_iff {data : Entries} :
    Rule.WellFormed data ↔ ∃ rule, Rule.DescribedBy rule data := by
  constructor
  · rintro ⟨⟨id, hid⟩, ⟨word, hword, severity, hseverity⟩, ⟨message, hmessage⟩, ⟨pattern, hpattern⟩,
      check, hcheck⟩
    exact ⟨⟨id, severity, message, pattern, check⟩, hid, ⟨word, hword, hseverity⟩, hmessage,
      hpattern, hcheck⟩
  · rintro ⟨rule, hid, ⟨word, hword, hseverity⟩, hmessage, hpattern, hcheck⟩
    exact ⟨⟨_, hid⟩, ⟨word, hword, _, hseverity⟩, ⟨_, hmessage⟩, ⟨_, hpattern⟩, _, hcheck⟩

/-- The well-formed documents are those that describe a skill. -/
theorem wellFormed_iff {data : Entries} :
    WellFormed data ↔ ∃ skill : Skill, DescribedBy skill data := by
  constructor
  · rintro ⟨⟨name, hname⟩, ⟨version, hversion⟩, ⟨description, hdescription⟩,
      ⟨triggerItems, hin, htriggers⟩,
      ⟨ruleItems, hruleItems, hrules⟩, prompts, hprompts⟩
    rcases exists_forall₂_iff.2 fun inner h => Trigger.wellFormed_iff.1 (htriggers inner h) with
      ⟨triggers, htriggers⟩
    rcases exists_forall₂_iff.2 fun inner h => Rule.wellFormed_iff.1 (hrules inner h) with
      ⟨rules, hrules⟩
    exact ⟨⟨name, version, description, triggers, rules, prompts⟩, hname, hversion, hdescription,
      ⟨_, hin, htriggers⟩, ⟨_, hruleItems, hrules⟩, hprompts⟩
  · rintro ⟨skill, hname, hversion, hdescription, ⟨triggerItems, hin, htriggers⟩,
      ⟨ruleItems, hruleItems, hrules⟩,
      hprompts⟩
    exact ⟨⟨_, hname⟩, ⟨_, hversion⟩, ⟨_, hdescription⟩,
      ⟨_, hin, fun inner h =>
        Trigger.wellFormed_iff.2 (exists_forall₂_iff.1 ⟨_, htriggers⟩ inner h)⟩,
      ⟨_, hruleItems, fun inner h =>
        Rule.wellFormed_iff.2 (exists_forall₂_iff.1 ⟨_, hrules⟩ inner h)⟩,
      _, hprompts⟩

/-! ## The keys of the schema -/

/-- The entries under the keys of some columns, each with what its column keeps of the value. -/
def select (columns : List (String × (Value → Value))) (data : Entries) : Entries :=
  columns.filterMap fun column => (data.lookup column.1).map fun v => (column.1, column.2 v)

/-- The entries under some keys. -/
def only (keys : List String) (data : Entries) : Entries :=
  select (keys.map fun key => (key, id)) data

/-- A mapping with nothing but what stands under some keys. -/
def withKeys (keys : List String) : Value → Value
  | .mapping data => .mapping (only keys data)
  | v => v

/-- A list of mappings with nothing but what stands under some keys of each. -/
def eachWithKeys (keys : List String) : Value → Value
  | .list items => .list (items.map (withKeys keys))
  | v => v

def Trigger.keys : List String := ["file_extension", "path_contains"]

def Rule.keys : List String := ["id", "severity", "message", "pattern", "check"]

def Prompts.keys : List String := ["additional_context"]

/-- The keys of a document, each with what the schema looks at in its value. -/
def columns : List (String × (Value → Value)) :=
  [("name", id), ("version", id), ("description", id), ("triggers", eachWithKeys Trigger.keys),
    ("rules", eachWithKeys Rule.keys), ("prompts", withKeys Prompts.keys)]

/-- A document without anything that stands under other keys than those of the schema. -/
def schematic : Value → Value
  | .mapping data => .mapping (select columns data)
  | v => v

/-- A selected key has the value of the whole, as the selection changes it. -/
theorem lookup_select (columns : List (String × (Value → Value))) (data : Entries) (key : String) :
    (select columns data).lookup key = (columns.lookup key).bind fun part =>
      (data.lookup key).map part := by
  induction columns with
  | nil =>
    rfl
  | cons column columns ih =>
    rw [select, List.filterMap_cons, List.lookup_cons]
    cases hkey : key == column.1 with
    | true =>
      obtain rfl : key = column.1 := eq_of_beq hkey
      cases hdata : data.lookup column.1 with
      | none =>
        -- no later column has an entry under this key either
        rw [hdata] at ih
        exact ih.trans (Option.bind_eq_none_iff.2 fun _ _ => rfl)
      | some v =>
        simp
    | false =>
      cases data.lookup column.1 with
      | none =>
        exact ih
      | some v =>
        rw [Option.map_some, List.lookup_cons, hkey]
        exact ih

/-- The keys that are kept have their values. -/
theorem lookup_only {keys : List String} {key : String} (hkey : key ∈ keys) (data : Entries) :
    (only keys data).lookup key = data.lookup key := by
  have hcolumn : (keys.map fun key => (key, (id : Value → Value))).lookup key = some id := by
    induction keys with
    | nil =>
      cases hkey
    | cons first keys ih =>
      rw [List.map_cons, List.lookup_cons]
      split
      · rfl
      · next hfirst =>
        refine ih ((List.mem_cons.1 hkey).resolve_left ?_)
        rintro rfl
        simp at hfirst
  rw [only, lookup_select, hcolumn]
  simp

section Congr

variable {a b : Entries} {key : String}

theorem entryOf?_congr (h : a.lookup key = b.lookup key) : entryOf? a key = entryOf? b key := by
  rw [entryOf?, entryOf?, h]

/-- What is read at a key depends on the value of that key. -/
theorem requiredText_congr (h : a.lookup key = b.lookup key) (place : Place) :
    requiredText a key place = requiredText b key place := by
  rw [requiredText, requiredText, entryOf?_congr h]

theorem optionalText_congr (h : a.lookup key = b.lookup key) (place : Place) :
    optionalText a key place = optionalText b key place := by
  rw [optionalText, optionalText, entryOf?_congr h]

theorem optionalTexts_congr (h : a.lookup key = b.lookup key) (place : Place) :
    optionalTexts a key place = optionalTexts b key place := by
  rw [optionalTexts, optionalTexts, entryOf?_congr h]

end Congr

/-- A trigger is read from its own keys alone. -/
theorem Trigger.ofEntries_only (data : Entries) (place : Place) :
    Trigger.ofEntries (only Trigger.keys data) place = Trigger.ofEntries data place := by
  have htexts (key : String) (hkey : key ∈ Trigger.keys) :=
    optionalTexts_congr (lookup_only hkey data)
  rw [Trigger.ofEntries, Trigger.ofEntries, htexts "file_extension" (by simp [Trigger.keys]),
    htexts "path_contains" (by simp [Trigger.keys])]

/-- So is a rule. -/
theorem Rule.ofEntries_only (data : Entries) (place : Place) :
    Rule.ofEntries (only Rule.keys data) place = Rule.ofEntries data place := by
  have htext (key : String) (hkey : key ∈ Rule.keys) := requiredText_congr (lookup_only hkey data)
  have hoptional (key : String) (hkey : key ∈ Rule.keys) :=
    optionalText_congr (lookup_only hkey data)
  simp only [Rule.ofEntries, htext "id" (by simp [Rule.keys]),
    htext "severity" (by simp [Rule.keys]), htext "message" (by simp [Rule.keys]),
    hoptional "pattern" (by simp [Rule.keys]), hoptional "check" (by simp [Rule.keys])]

/-- Mappings stay mappings with some of their keys. -/
theorem mappings?_map_withKeys (keys : List String) (vs : List Value) :
    mappings? (vs.map (withKeys keys)) = (mappings? vs).map (List.map (only keys)) := by
  induction vs with
  | nil =>
    rfl
  | cons v vs ih =>
    cases v with
    | mapping data =>
      rw [List.map_cons, withKeys, mappings?, mappings?, ih]
      cases mappings? vs <;> rfl
    | _ => rfl

/-- Reading a list of mappings commutes with leaving out keys of the mappings. -/
theorem mappingList_eachWithKeys {a b : Entries} {key : String} {keys : List String}
    (h : a.lookup key = (b.lookup key).map (eachWithKeys keys)) (place : Place) :
    mappingList a key place = List.map (only keys) <$> mappingList b key place := by
  rw [mappingList, mappingList, entryOf?, entryOf?, h]
  cases b.lookup key with
  | none =>
    rfl
  | some v =>
    cases v with
    | list vs =>
      simp only [Option.map_some, eachWithKeys, mappings?_map_withKeys]
      cases mappings? vs <;> rfl
    | _ => rfl

theorem readNumbered_map {α : Type} {read : Entries → Place → Except SchemaError α}
    {f : Entries → Entries} (h : ∀ data place, read (f data) place = read data place)
    (place : Place) (word : String) (items : List Entries) :
    readNumbered read place word (items.map f) = readNumbered read place word items := by
  rw [readNumbered, readNumbered, List.zipIdx_map, List.mapM_map]
  exact congrArg (List.mapM · (items.zipIdx 1)) (funext fun item => h item.1 _)

/-- The prompts are read from their own keys alone. -/
theorem Prompts.ofEntries_withKeys {a b : Entries}
    (h : a.lookup "prompts" = (b.lookup "prompts").map (withKeys Prompts.keys)) (place : Place) :
    Prompts.ofEntries a place = Prompts.ofEntries b place := by
  rw [Prompts.ofEntries, Prompts.ofEntries, entryOf?, entryOf?, h]
  cases b.lookup "prompts" with
  | none =>
    rfl
  | some v =>
    cases v with
    | mapping inner =>
      simp only [Option.map_some, withKeys]
      rw [optionalText_congr (lookup_only (by simp [Prompts.keys]) inner)]
    | _ => rfl

/-- What stands under other keys than those of the schema makes no difference. -/
theorem ofEntries_select_columns (data : Entries) :
    ofEntries (select columns data) = ofEntries data := by
  have htext (key : String) (hkey : columns.lookup key = some id) :
      requiredText (select columns data) key = requiredText data key :=
    funext (requiredText_congr (by rw [lookup_select, hkey]; simp))
  -- a column may change a value, but an entry stays there
  have hkey (key : String) (hkey : (columns.lookup key).isSome = true) (place : Place) :
      requireKey (select columns data) key place = requireKey data key place := by
    rcases Option.isSome_iff_exists.1 hkey with ⟨part, hpart⟩
    rw [requireKey, requireKey, lookup_select, hpart, Option.bind_some, Option.isSome_map]
  have hlist (key : String) (keys : List String)
      (hkey : columns.lookup key = some (eachWithKeys keys)) :=
    mappingList_eachWithKeys (a := select columns data) (b := data)
      (by rw [lookup_select, hkey]; rfl)
  have hprompts := Prompts.ofEntries_withKeys (a := select columns data) (b := data)
    (by rw [lookup_select,
      show columns.lookup "prompts" = some (withKeys Prompts.keys) from rfl]; rfl)
  simp only [ofEntries, htext "name" rfl, htext "version" rfl, htext "description" rfl,
    hkey "triggers" rfl, hkey "rules" rfl, hlist "triggers" Trigger.keys rfl,
    hlist "rules" Rule.keys rfl, hprompts, bind_map_left, readNumbered_map Trigger.ofEntries_only,
    readNumbered_map Rule.ofEntries_only]

/-! ## Decoding -/

/-- Decoding takes a value just if it is a well-formed document. It gives the skill that the
document describes: every part is what stands under its key, numbers as their texts, and no trigger
or rule is left out or moved. Anything else is refused for its form, never for the digits of a
number. Other keys have no influence on any of this. -/
theorem ofValue_decodes {v : Value} (hv : v.Writable) :
    ((∃ skill, ofValue v = .ok skill) ↔ ∃ data, v = .mapping data ∧ WellFormed data) ∧
      (∀ skill, ofValue v = .ok skill ↔ ∃ data, v = .mapping data ∧ DescribedBy skill data) ∧
      (∀ l, ofValue v ≠ .error (.digits l)) ∧ ofValue (schematic v) = ofValue v := by
  have hreads : Reads (ofValue v) fun skill =>
      ∃ data, v = .mapping data ∧ DescribedBy skill data := by
    cases v with
    | mapping data =>
      refine (reads_ofEntries hv).congr fun skill => ?_
      simp
    | _ =>
      refine (Reads.error (by intro l h; cases h)).congr fun skill => ?_
      simp
  refine ⟨?_, hreads.ok_iff, hreads.ne_digits, ?_⟩
  · simp only [hreads.ok_iff, wellFormed_iff]
    constructor
    · rintro ⟨skill, data, hdata, h⟩
      exact ⟨data, hdata, skill, h⟩
    · rintro ⟨data, hdata, skill, h⟩
      exact ⟨skill, data, hdata, h⟩
  · cases v with
    | mapping data => exact ofEntries_select_columns data
    | _ => rfl

/-- A document with numbers for texts, a single extension, a severity in capitals and keys of its
own. -/
def loggingDocument : Value :=
  .mapping [("name", .text "logging"), ("owner", .list [.bool true, .int 3]), ("version", .int 2),
    ("description", .text "No leftovers"),
    ("triggers",
    .list [.mapping [("file_extension", .text "py"), ("path_contains", .null), ("since", .int 1)]]),
    ("rules",
    .list [.mapping [("id", .int 7), ("severity", .text "CRITICAL"), ("message", .text "A print"),
      ("pattern", .text "print"), ("author", .other)]]),
    ("prompts", .null)]

def loggingSkill : Skill where
  name := "logging"
  version := "2"
  description := "No leftovers"
  triggers := [⟨some ["py"], none⟩]
  rules := [⟨"7", .critical, "A print", some "print", none⟩]
  prompts := none

theorem ofValue_loggingDocument :
    loggingDocument.Writable ∧ ofValue loggingDocument = .ok loggingSkill ∧
      ofValue (schematic loggingDocument) = .ok loggingSkill := by
  have hwritable : loggingDocument.Writable := by
    have hsmall : ∀ n ∈ loggingDocument.ints, n.natAbs < 10 := by decide
    exact fun n hn => Nat.lt_of_lt_of_le (hsmall n hn)
      (Decimal.powerOfTen_le (by decide : 1 ≤ Decimal.digitLimit))
  have htrigger : List.Forall₂ Trigger.DescribedBy loggingSkill.triggers
      [[("file_extension", .text "py"), ("path_contains", .null), ("since", .int 1)]] :=
    .cons ⟨.single rfl, .vacant (.inr rfl)⟩ .nil
  have hrule : List.Forall₂ Rule.DescribedBy loggingSkill.rules
      [[("id", .int 7), ("severity", .text "CRITICAL"), ("message", .text "A print"),
        ("pattern", .text "print"),
        ("author", .other)]] :=
    .cons ⟨⟨_, rfl, .int 7⟩, ⟨"CRITICAL", ⟨_, rfl, .text _⟩, rfl⟩, ⟨_, rfl, .text _⟩, .text rfl,
      .vacant (.inl rfl)⟩ .nil
  rcases ofValue_decodes hwritable with ⟨-, hdecodes, -, hkeys⟩
  have hskill : ofValue loggingDocument = .ok loggingSkill :=
    (hdecodes loggingSkill).2 ⟨_, rfl, ⟨_, rfl, .text _⟩, ⟨_, rfl, .int 2⟩, ⟨_, rfl, .text _⟩,
      ⟨_, .list rfl, htrigger⟩, ⟨_, .list rfl, hrule⟩, .vacant (.inr rfl)⟩
  exact ⟨hwritable, hskill, hkeys.trans hskill⟩

end Skill
end PatchReview
