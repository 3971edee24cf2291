import Mathlib.Data.List.Forall2
import PatchReview.Proofs.Work

/-!
# Documents that describe skills

The schema of skills, said without reading: what may stand under each key of a document, of its
triggers and of its rules, and which skill the document then describes. Reading takes just the
documents of that form, and gives every part of the skill what stands under its key. What stands
under other keys makes no difference.
-/

namespace PatchReview

/-! ## Whole numbers in documents -/

mutual

def Value.ints : Value → List Int
  | .int n => [n]
  | .list items => intsOfItems items
  | .mapping entries => intsOfEntries entries
  | _ => []

def intsOfItems : List Value → List Int
  | [] => []
  | v :: rest => v.ints ++ intsOfItems rest

def intsOfEntries : List (String × Value) → List Int
  | [] => []
  | (_, v) :: rest => v.ints ++ intsOfEntries rest

end

/-- No whole number in a value has more digits than can be written. -/
def Value.Writable (v : Value) : Prop := ∀ n ∈ v.ints, n.natAbs < Decimal.numberLimit

theorem mem_intsOfItems {n : Int} {v : Value} {items : List Value} (hv : v ∈ items)
    (hn : n ∈ v.ints) : n ∈ intsOfItems items := by
  induction items with
  | nil =>
    cases hv
  | cons first rest ih =>
    rw [intsOfItems, List.mem_append]
    rcases List.mem_cons.1 hv with rfl | hrest
    · exact .inl hn
    · exact .inr (ih hrest)

theorem mem_intsOfEntries {n : Int} {key : String} {v : Value} {entries : List (String × Value)}
    (hv : entries.lookup key = some v) (hn : n ∈ v.ints) : n ∈ intsOfEntries entries := by
  induction entries with
  | nil =>
    cases hv
  | cons entry rest ih =>
    rcases entry with ⟨name, first⟩
    rw [intsOfEntries, List.mem_append]
    rw [List.lookup_cons] at hv
    split at hv
    · cases hv
      exact .inl hn
    · exact .inr (ih hv)

/-- The value of a key can be written if the mapping can. -/
theorem Value.Writable.of_lookup {entries : List (String × Value)}
    (h : (Value.mapping entries).Writable) {key : String} {v : Value}
    (hv : entries.lookup key = some v) : v.Writable :=
  fun n hn => h n (mem_intsOfEntries hv hn)

/-- So can an item of a list. -/
theorem Value.Writable.of_mem {items : List Value} (h : (Value.list items).Writable) {v : Value}
    (hv : v ∈ items) : v.Writable :=
  fun n hn => h n (mem_intsOfItems hv hn)

namespace Skill

/-! ## The schema -/

/-- The text that a value stands for where a text is required: a text itself, and a number its
decimal text. -/
inductive StandsFor : Value → String → Prop where
  | text (s : String) : StandsFor (.text s) s
  | int (n : Int) : StandsFor (.int n) (toString n)
  | float (x : Float) : StandsFor (.float x) (Decimal.plain.write x)

/-- A required text under a key. -/
def HasText (data : Entries) (key s : String) : Prop :=
  ∃ v, data.lookup key = some v ∧ StandsFor v s

/-- Nothing, or null, under a key. -/
def IsVacant (data : Entries) (key : String) : Prop :=
  data.lookup key = none ∨ data.lookup key = some .null

/-- An optional text under a key. -/
inductive HasOptionalText (data : Entries) (key : String) : Option String → Prop where
  | vacant (h : IsVacant data key) : HasOptionalText data key none
  | text {s : String} (h : data.lookup key = some (.text s)) : HasOptionalText data key (some s)

/-- Optional texts under a key: a list of texts, or a single one. -/
inductive HasOptionalTexts (data : Entries) (key : String) : Option (List String) → Prop where
  | vacant (h : IsVacant data key) : HasOptionalTexts data key none
  | single {s : String} (h : data.lookup key = some (.text s)) :
    HasOptionalTexts data key (some [s])
  | list {ss : List String} (h : data.lookup key = some (.list (ss.map .text))) :
    HasOptionalTexts data key (some ss)

/-- A list of mappings under a key that is there; null stands for the empty list. -/
inductive HasMappings (data : Entries) (key : String) : List Entries → Prop where
  | null (h : data.lookup key = some .null) : HasMappings data key []
  | list {items : List Entries} (h : data.lookup key = some (.list (items.map .mapping))) :
    HasMappings data key items

/-- The trigger that a mapping describes. -/
structure Trigger.DescribedBy (t : Trigger) (data : Entries) : Prop where
  fileExtensions : HasOptionalTexts data "file_extension" t.fileExtensions
  pathContains : HasOptionalTexts data "path_contains" t.pathContains

/-- The rule that a mapping describes; the case of the word for its severity does not matter. -/
structure Rule.DescribedBy (rule : Rule) (data : Entries) : Prop where
  id : HasText data "id" rule.id
  severity : ∃ word, HasText data "severity" word ∧
    String.ofList (Text.lower word.toList) = rule.severity.name
  message : HasText data "message" rule.message
  pattern : HasOptionalText data "pattern" rule.pattern
  check : HasOptionalText data "check" rule.check

/-- The prompts that a document describes, if there are any. -/
inductive HasPrompts (data : Entries) : Option Prompts → Prop where
  | vacant (h : IsVacant data "prompts") : HasPrompts data none
  | mapping {inner : Entries} {context : Option String}
    (h : data.lookup "prompts" = some (.mapping inner))
    (hcontext : HasOptionalText inner "additional_context" context) :
      HasPrompts data (some ⟨context⟩)

/-- The skill that the entries of a document describe: the triggers and the rules are those of its
lists, all of them and in their order. -/
structure DescribedBy (skill : Skill) (data : Entries) : Prop where
  name : HasText data "name" skill.name
  version : HasText data "version" skill.version
  description : HasText data "description" skill.description
  triggers : ∃ items, HasMappings data "triggers" items ∧
    List.Forall₂ Trigger.DescribedBy skill.triggers items
  rules : ∃ items, HasMappings data "rules" items ∧ List.Forall₂ Rule.DescribedBy skill.rules items
  prompts : HasPrompts data skill.prompts

/-! ## Readings -/

/-- A reading has just the results with some property, and no number makes it fail. -/
structure Reads {α : Type} (x : Except SchemaError α) (P : α → Prop) : Prop where
  ok_iff : ∀ a, x = .ok a ↔ P a
  ne_digits : ∀ e, x ≠ .error (.digits e)

namespace Reads

variable {α β : Type}

theorem ok (a : α) : Reads (.ok a) fun b => b = a where
  ok_iff b := by
    rw [Except.ok.injEq]
    exact eq_comm
  ne_digits e h := by cases h

theorem error {e : SchemaError} (he : ∀ l, e ≠ .digits l) :
    Reads (.error e : Except SchemaError α) fun _ => False where
  ok_iff a := by simp
  ne_digits l h := he l (Except.error.inj h)

/-- The condition may be put in other words. -/
theorem congr {x : Except SchemaError α} {P Q : α → Prop} (hx : Reads x P) (h : ∀ a, P a ↔ Q a) :
    Reads x Q where
  ok_iff a := (hx.ok_iff a).trans (h a)
  ne_digits := hx.ne_digits

/-- What may be missing is read where it is there. -/
theorem ofOption {x : Except SchemaError β} {o : Option α} {g : α → β} {e : SchemaError}
    (hsome : ∀ a, o = some a → x = .ok (g a)) (hnone : o = none → x = .error e)
    (he : ∀ l, e ≠ .digits l) {P : β → Prop} (h : ∀ b, P b ↔ ∃ a, o = some a ∧ b = g a) :
    Reads x P := by
  cases ho : o with
  | some a =>
    rw [hsome a ho]
    exact (Reads.ok (g a)).congr fun b => by simp [h, ho]
  | none =>
    rw [hnone ho]
    exact (Reads.error he).congr fun b => by simp [h, ho]

/-- A reading that goes on with another has the results of the latter. -/
theorem bind {x : Except SchemaError α} {P : α → Prop} {next : α → Except SchemaError β}
    {Q : α → β → Prop} (hx : Reads x P) (hnext : ∀ a, P a → Reads (next a) (Q a)) :
    Reads (x >>= next) fun b => ∃ a, P a ∧ Q a b := by
  cases hresult : x with
  | ok a =>
    have ha : P a := (hx.ok_iff a).1 hresult
    -- the property has one result only, so that the second reading starts from it
    have honly : ∀ b, P b → b = a := by
      intro b hb
      have hb' := (hx.ok_iff b).2 hb
      rw [hresult, Except.ok.injEq] at hb'
      exact hb'.symm
    refine (hnext a ha).congr fun b => ⟨fun h => ⟨a, ha, h⟩, ?_⟩
    rintro ⟨a', ha', h⟩
    rwa [honly a' ha'] at h
  | error e =>
    have hnone : ∀ a, ¬ P a := by
      intro a ha
      rw [(hx.ok_iff a).2 ha] at hresult
      cases hresult
    have hne : ∀ l, e ≠ .digits l := by
      rintro l rfl
      exact hx.ne_digits l hresult
    refine (Reads.error hne).congr fun b => ⟨False.elim, ?_⟩
    rintro ⟨a, ha, -⟩
    exact hnone a ha

/-- Mappings that are read one after the other give one result each, in their order. -/
theorem mapM_zipIdx {read : Entries → Nat → Except SchemaError α} {P : α → Entries → Prop}
    {items : List Entries} (h : ∀ data ∈ items, ∀ n, Reads (read data n) fun a => P a data)
    (start : Nat) :
    Reads ((items.zipIdx start).mapM fun item => read item.1 item.2) fun results =>
      List.Forall₂ P results items := by
  induction items generalizing start with
  | nil =>
    refine (Reads.ok []).congr fun results => ?_
    rw [List.forall₂_nil_right_iff]
  | cons data items ih =>
    rw [List.zipIdx_cons, List.mapM_cons]
    have hrest := ih (fun other hother => h other (List.mem_cons_of_mem data hother)) (start + 1)
    refine ((h data List.mem_cons_self start).bind fun a _ => hrest.bind fun rest _ =>
      .ok (a :: rest)).congr ?_
    intro results
    rw [List.forall₂_cons_right_iff]
    constructor
    · rintro ⟨a, ha, rest, hrest, rfl⟩
      exact ⟨a, rest, ha, hrest, rfl⟩
    · rintro ⟨a, rest, ha, hrest, rfl⟩
      exact ⟨a, ha, rest, hrest, rfl⟩

end Reads

/-! ## Entries -/

section Entry

variable {data : Entries} {key : String}

/-- A key counts as missing if it is vacant. -/
theorem entryOf?_eq_none_iff : entryOf? data key = none ↔ IsVacant data key := by
  rw [entryOf?, IsVacant]
  cases data.lookup key with
  | none =>
    simp
  | some v =>
    cases v <;> simp

/-- Otherwise it has a value that is not null. -/
theorem lookup_of_entryOf? {v : Value} (h : entryOf? data key = some v) :
    data.lookup key = some v ∧ v ≠ .null := by
  rw [entryOf?] at h
  split at h
  · cases h
  · next hnull =>
    refine ⟨h, ?_⟩
    rintro rfl
    exact hnull h

theorem not_isVacant {v : Value} (h : data.lookup key = some v) (hv : v ≠ .null) :
    ¬ IsVacant data key := by
  rintro (hnone | hnull)
  · cases h.symm.trans hnone
  · exact hv (Option.some.inj (h.symm.trans hnull))

/-- A key has the text that its value stands for. -/
theorem hasText_iff {v : Value} (h : data.lookup key = some v) {s : String} :
    HasText data key s ↔ StandsFor v s := by
  constructor
  · rintro ⟨w, hw, hs⟩
    cases h.symm.trans hw
    exact hs
  · intro hs
    exact ⟨v, h, hs⟩

theorem not_hasText_of_vacant (h : IsVacant data key) (s : String) : ¬ HasText data key s := by
  rintro ⟨v, hv, hs⟩
  refine not_isVacant hv ?_ h
  rintro rfl
  cases hs

/-- A text stands for itself, and a number for what it is written as. -/
theorem standsFor_iff {v : Value} {s : String} :
    StandsFor v s ↔ match v with
      | .text t => s = t
      | .int n => s = toString n
      | .float x => s = Decimal.plain.write x
      | _ => False := by
  constructor
  · rintro (t | n | x) <;> rfl
  · intro h
    cases v with
    | text t =>
      obtain rfl : s = t := h
      exact .text s
    | int n =>
      obtain rfl : s = toString n := h
      exact .int n
    | float x =>
      obtain rfl : s = Decimal.plain.write x := h
      exact .float x
    | _ =>
      exact h.elim

/-- A required text is read where one stands; numbers that can be written stand for texts. -/
theorem reads_requiredText (hdata : (Value.mapping data).Writable) (place : Place) :
    Reads (requiredText data key place) (HasText data key) := by
  rw [requiredText]
  cases hentry : entryOf? data key with
  | none =>
    have hnone := not_hasText_of_vacant (entryOf?_eq_none_iff.1 hentry)
    exact (Reads.error (by intro l h; cases h)).congr fun s => ⟨False.elim, hnone s⟩
  | some v =>
    have hv := (lookup_of_entryOf? hentry).1
    have hwritable := hdata.of_lookup hv
    cases v with
    | text s =>
      exact (Reads.ok s).congr fun _ => ((hasText_iff hv).trans standsFor_iff).symm
    | int n =>
      have hn : Decimal.writeInt n = .ok (toString n) :=
        if_pos (hwritable n (List.mem_singleton_self n))
      dsimp only
      rw [hn]
      exact (Reads.ok (toString n)).congr fun _ => ((hasText_iff hv).trans standsFor_iff).symm
    | float x =>
      exact (Reads.ok (Decimal.plain.write x)).congr fun _ =>
        ((hasText_iff hv).trans standsFor_iff).symm
    | _ =>
      exact (Reads.error (by intro l h; cases h)).congr fun _ =>
        ((hasText_iff hv).trans standsFor_iff).symm

/-- A key that may be missing has a text, and nothing but a text. -/
theorem hasOptionalText_iff {v : Value} (h : data.lookup key = some v) (hv : v ≠ .null)
    {o : Option String} : HasOptionalText data key o ↔ ∃ s, v = .text s ∧ o = some s := by
  constructor
  · rintro (hvacant | htext)
    · exact absurd hvacant (not_isVacant h hv)
    · cases h.symm.trans htext
      exact ⟨_, rfl, rfl⟩
  · rintro ⟨s, rfl, rfl⟩
    exact .text h

/-- Where it is vacant there is none. -/
theorem hasOptionalText_of_vacant (h : IsVacant data key) {o : Option String} :
    HasOptionalText data key o ↔ o = none := by
  constructor
  · rintro (_ | htext)
    · rfl
    · exact absurd h (not_isVacant htext (by simp))
  · rintro rfl
    exact .vacant h

/-- Such a text is read as described. -/
theorem reads_optionalText (place : Place) :
    Reads (optionalText data key place) (HasOptionalText data key) := by
  rw [optionalText]
  cases hentry : entryOf? data key with
  | none =>
    have hvacant := entryOf?_eq_none_iff.1 hentry
    exact (Reads.ok none).congr fun _ => (hasOptionalText_of_vacant hvacant).symm
  | some v =>
    rcases lookup_of_entryOf? hentry with ⟨hv, hnull⟩
    cases v with
    | text s =>
      refine (Reads.ok (some s)).congr fun _ => ?_
      rw [hasOptionalText_iff hv hnull]
      simp
    | _ =>
      refine (Reads.error (by intro l h; cases h)).congr fun _ => ?_
      rw [hasOptionalText_iff hv hnull]
      simp

/-! ## Lists -/

/-- Values are texts if each is one. -/
theorem texts?_eq_some_iff {vs : List Value} {ss : List String} :
    texts? vs = some ss ↔ vs = ss.map .text := by
  induction vs generalizing ss with
  | nil =>
    rw [texts?, Option.some.injEq, eq_comm, eq_comm (a := []), List.map_eq_nil_iff]
  | cons v vs ih =>
    cases v with
    | text s =>
      rw [texts?, Option.map_eq_some_iff]
      cases ss <;> simp [ih, and_comm]
    | _ =>
      cases ss <;> simp [texts?]

/-- Values are mappings if each is one. -/
theorem mappings?_eq_some_iff {vs : List Value} {items : List Entries} :
    mappings? vs = some items ↔ vs = items.map .mapping := by
  induction vs generalizing items with
  | nil =>
    rw [mappings?, Option.some.injEq, eq_comm, eq_comm (a := []), List.map_eq_nil_iff]
  | cons v vs ih =>
    cases v with
    | mapping data =>
      rw [mappings?, Option.map_eq_some_iff]
      cases items <;> simp [ih, and_comm]
    | _ =>
      cases items <;> simp [mappings?]

/-- Texts may be given as a list, or as a single one. -/
theorem hasOptionalTexts_iff {v : Value} (h : data.lookup key = some v) (hv : v ≠ .null)
    {o : Option (List String)} :
    HasOptionalTexts data key o ↔ (∃ s, v = .text s ∧ o = some [s]) ∨ ∃ ss,
      v = .list (ss.map .text) ∧ o = some ss := by
  constructor
  · rintro (hvacant | htext | hlist)
    · exact absurd hvacant (not_isVacant h hv)
    · cases h.symm.trans htext
      exact .inl ⟨_, rfl, rfl⟩
    · cases h.symm.trans hlist
      exact .inr ⟨_, rfl, rfl⟩
  · rintro (⟨s, rfl, rfl⟩ | ⟨ss, rfl, rfl⟩)
    · exact .single h
    · exact .list h

theorem hasOptionalTexts_of_vacant (h : IsVacant data key) {o : Option (List String)} :
    HasOptionalTexts data key o ↔ o = none := by
  constructor
  · rintro (_ | htext | hlist)
    · rfl
    · exact absurd h (not_isVacant htext (by simp))
    · exact absurd h (not_isVacant hlist (by simp))
  · rintro rfl
    exact .vacant h

/-- Such texts are read as described. -/
theorem reads_optionalTexts (place : Place) :
    Reads (optionalTexts data key place) (HasOptionalTexts data key) := by
  rw [optionalTexts]
  cases hentry : entryOf? data key with
  | none =>
    have hvacant := entryOf?_eq_none_iff.1 hentry
    exact (Reads.ok none).congr fun _ => (hasOptionalTexts_of_vacant hvacant).symm
  | some v =>
    rcases lookup_of_entryOf? hentry with ⟨hv, hnull⟩
    cases v with
    | text s =>
      refine (Reads.ok (some [s])).congr fun _ => ?_
      rw [hasOptionalTexts_iff hv hnull]
      simp
    | list vs =>
      dsimp only
      refine Reads.ofOption (fun ss (h : texts? vs = some ss) => by rw [h]) (fun h => by rw [h])
        (by intro l h; cases h) fun o => ?_
      rw [hasOptionalTexts_iff hv hnull]
      simp [texts?_eq_some_iff]
    | _ =>
      refine (Reads.error (by intro l h; cases h)).congr fun _ => ?_
      rw [hasOptionalTexts_iff hv hnull]
      simp

/-- A key that must be there, with a list of mappings. -/
theorem reads_mappingList (hkey : (data.lookup key).isSome = true) (place : Place) :
    Reads (mappingList data key place) (HasMappings data key) := by
  rcases Option.isSome_iff_exists.1 hkey with ⟨v, hv⟩
  -- the key has a value, so what is asked of the key is asked of that value
  have hiff {items : List Entries} :
      HasMappings data key items ↔ v = .null ∧ items = [] ∨ v = .list (items.map .mapping) := by
    constructor
    · rintro (hnull | hlist)
      · cases hv.symm.trans hnull
        exact .inl ⟨rfl, rfl⟩
      · cases hv.symm.trans hlist
        exact .inr rfl
    · rintro (⟨rfl, rfl⟩ | rfl)
      · exact .null hv
      · exact .list hv
  rw [mappingList]
  cases hentry : entryOf? data key with
  | none =>
    have hnull : v = .null := by
      rcases entryOf?_eq_none_iff.1 hentry with hnone | hnull
      · cases hv.symm.trans hnone
      · exact Option.some.inj (hv.symm.trans hnull)
    refine (Reads.ok []).congr fun items => ?_
    rw [hiff, hnull]
    simp
  | some w =>
    rcases lookup_of_entryOf? hentry with ⟨hw, hnull⟩
    obtain rfl : v = w := Option.some.inj (hv.symm.trans hw)
    cases v with
    | list vs =>
      dsimp only
      refine Reads.ofOption (fun found (h : mappings? vs = some found) => by rw [h])
        (fun h => by rw [h])
        (by intro l h; cases h) fun items => ?_
      rw [hiff]
      simp [mappings?_eq_some_iff]
    | null =>
      exact absurd rfl hnull
    | _ =>
      refine (Reads.error (by intro l h; cases h)).congr fun items => ?_
      rw [hiff]
      simp

theorem HasMappings.isSome {items : List Entries} (h : HasMappings data key items) :
    (data.lookup key).isSome = true := by
  rcases h with h | h <;> rw [h] <;> rfl

/-- A key that is required has to be there, even if it is null. -/
theorem reads_requireKey (place : Place) :
    Reads (requireKey data key place) fun _ => (data.lookup key).isSome = true := by
  rw [requireKey]
  cases hkey : (data.lookup key).isSome with
  | true =>
    exact (Reads.ok ()).congr fun _ => by simp
  | false =>
    exact (Reads.error (by intro l h; cases h)).congr fun _ => by simp

end Entry

/-! ## Parts -/

/-- A trigger is read from the mapping that describes it. -/
theorem Trigger.reads (data : Entries) (place : Place) :
    Reads (Trigger.ofEntries data place) (Trigger.DescribedBy · data) := by
  refine ((reads_optionalTexts place).bind fun extensions _ =>
    (reads_optionalTexts place).bind fun parts _ =>
      .ok (⟨extensions, parts⟩ : Trigger)).congr fun t => ?_
  constructor
  · rintro ⟨extensions, hextensions, parts, hparts, rfl⟩
    exact ⟨hextensions, hparts⟩
  · rintro ⟨hextensions, hparts⟩
    exact ⟨_, hextensions, _, hparts, rfl⟩

/-- A severity is named by its name, letter by letter. -/
theorem ofName?_eq_some_iff {word : String} {severity : Severity} :
    Severity.ofName? word = some severity ↔ word = severity.name := by
  constructor
  · intro h
    unfold Severity.ofName? at h
    split at h
    · cases h
      rfl
    · cases h
      rfl
    · cases h
      rfl
    · cases h
  · rintro rfl
    cases severity <;> rfl

/-- What is left of a rule once its id and the word for its severity are known. -/
structure Rule.Completes (rule : Rule) (data : Entries) (id word : String) : Prop where
  id : rule.id = id
  severity : word = rule.severity.name
  message : HasText data "message" rule.message
  pattern : HasOptionalText data "pattern" rule.pattern
  check : HasOptionalText data "check" rule.check

/-- A rule is read from the mapping that describes it. -/
theorem Rule.reads {data : Entries} (hdata : (Value.mapping data).Writable) (place : Place) :
    Reads (Rule.ofEntries data place) (Rule.DescribedBy · data) := by
  have hsteps : Reads (Rule.ofEntries data place) fun rule =>
      ∃ id, HasText data "id" id ∧ ∃ word, HasText data "severity" word ∧
        rule.Completes data id (String.ofList (Text.lower word.toList)) := by
    refine (reads_requiredText hdata place).bind fun id _ =>
      (reads_requiredText hdata (.named place id)).bind fun word _ => ?_
    -- without a severity nothing else of the rule is read
    cases hname : Severity.ofName? (String.ofList (Text.lower word.toList)) with
    | none =>
      refine (Reads.error (by intro l h; cases h)).congr fun rule => ⟨False.elim, fun h => ?_⟩
      rw [ofName?_eq_some_iff.2 h.severity] at hname
      cases hname
    | some severity =>
      refine ((reads_requiredText hdata (.named place id)).bind fun message _ =>
        (reads_optionalText (.named place id)).bind fun pattern _ =>
          (reads_optionalText (.named place id)).bind fun check _ =>
            .ok (⟨id, severity, message, pattern, check⟩ : Rule)).congr fun rule => ?_
      constructor
      · rintro ⟨message, hmessage, pattern, hpattern, check, hcheck, rfl⟩
        exact ⟨rfl, ofName?_eq_some_iff.1 hname, hmessage, hpattern, hcheck⟩
      · rintro ⟨rfl, hword, hmessage, hpattern, hcheck⟩
        obtain rfl : severity = rule.severity :=
          Option.some.inj (hname.symm.trans (ofName?_eq_some_iff.2 hword))
        exact ⟨_, hmessage, _, hpattern, _, hcheck, rfl⟩
  refine hsteps.congr fun rule => ⟨?_, fun h => ?_⟩
  · rintro ⟨id, hid, word, hword, rfl, hname, hmessage, hpattern, hcheck⟩
    exact ⟨hid, ⟨word, hword, hname⟩, hmessage, hpattern, hcheck⟩
  · rcases h.severity with ⟨word, hword, hname⟩
    exact ⟨rule.id, h.id, word, hword, rfl, hname, h.message, h.pattern, h.check⟩

/-- The prompts are read from the mapping that describes them, or left out. -/
theorem Prompts.reads (data : Entries) (place : Place) :
    Reads (Prompts.ofEntries data place) (HasPrompts data) := by
  rw [Prompts.ofEntries]
  cases hentry : entryOf? data "prompts" with
  | none =>
    have hvacant := entryOf?_eq_none_iff.1 hentry
    refine (Reads.ok none).congr fun prompts => ⟨?_, ?_⟩
    · rintro rfl
      exact .vacant hvacant
    · rintro (_ | ⟨hvalue, _⟩)
      · rfl
      · exact absurd hvacant (not_isVacant hvalue (by simp))
  | some v =>
    rcases lookup_of_entryOf? hentry with ⟨hv, hnull⟩
    -- as for the other keys, what is asked of the key is asked of its value
    have hiff {prompts : Option Prompts} : HasPrompts data prompts ↔
        ∃ inner context, v = .mapping inner ∧ HasOptionalText inner "additional_context" context ∧
          prompts = some ⟨context⟩ := by
      constructor
      · rintro (hvacant | ⟨hvalue, hcontext⟩)
        · exact absurd hvacant (not_isVacant hv hnull)
        · cases hv.symm.trans hvalue
          exact ⟨_, _, rfl, hcontext, rfl⟩
      · rintro ⟨inner, context, rfl, hcontext, rfl⟩
        exact .mapping hv hcontext
    cases v with
    | mapping inner =>
      refine ((reads_optionalText (.part place "prompts")).bind fun context _ =>
        .ok (some (⟨context⟩ : Prompts))).congr fun prompts => ?_
      rw [hiff]
      constructor
      · rintro ⟨context, hcontext, rfl⟩
        exact ⟨inner, context, rfl, hcontext, rfl⟩
      · rintro ⟨_, context, hinner, hcontext, rfl⟩
        cases hinner
        exact ⟨context, hcontext, rfl⟩
    | _ =>
      refine (Reads.error (by intro l h; cases h)).congr fun _ => ?_
      rw [hiff]
      simp

/-- Items are read one by one, as each of them is described. -/
theorem reads_readNumbered {α : Type} {read : Entries → Place → Except SchemaError α}
    {P : α → Entries → Prop} {items : List Entries}
    (h : ∀ data ∈ items, ∀ place, Reads (read data place) fun a => P a data) (place : Place)
    (word : String) :
    Reads (readNumbered read place word items) fun results => List.Forall₂ P results items :=
  Reads.mapM_zipIdx (fun data hdata n => h data hdata (.numbered place word n)) 1

/-! ## Documents -/

/-- The mappings of a list can be written if the whole can. -/
theorem writable_of_hasMappings {data : Entries} (hdata : (Value.mapping data).Writable)
    {key : String} {items : List Entries} (h : HasMappings data key items) :
    ∀ inner ∈ items, (Value.mapping inner).Writable := by
  intro inner hinner
  rcases h with _ | hlist
  · cases hinner
  · exact (hdata.of_lookup hlist).of_mem (List.mem_map_of_mem hinner)

/-- The entries of a document are read as the skill that they describe. -/
theorem reads_ofEntries {data : Entries} (hdata : (Value.mapping data).Writable) :
    Reads (ofEntries data) (DescribedBy · data) := by
  have hrule {ruleItems : List Entries} (hitems : HasMappings data "rules" ruleItems)
      (place : Place) :
      Reads (readNumbered Rule.ofEntries place "rule" ruleItems) fun rules =>
        List.Forall₂ Rule.DescribedBy rules ruleItems :=
    reads_readNumbered (fun inner hinner =>
      Rule.reads (writable_of_hasMappings hdata hitems inner hinner)) place "rule"
  -- one reading for each step, in the order of the steps; that the two keys are there is asked
  -- before their lists
  refine ((reads_requiredText hdata (.word "skill")).bind fun name _ =>
    (reads_requireKey (.named (.word "skill") name)).bind fun _ htriggers =>
    (reads_requireKey (.named (.word "skill") name)).bind fun _ hrules =>
    (reads_mappingList htriggers (.named (.word "skill") name)).bind fun triggerItems _ =>
    (reads_readNumbered (fun inner _ => Trigger.reads inner) (.named (.word "skill") name)
      "trigger").bind fun triggers _ =>
    (reads_mappingList hrules (.named (.word "skill") name)).bind fun ruleItems hitems =>
    (hrule hitems (.named (.word "skill") name)).bind fun rules _ =>
    (Prompts.reads data (.named (.word "skill") name)).bind fun prompts _ =>
    (reads_requiredText hdata (.named (.word "skill") name)).bind fun version _ =>
    (reads_requiredText hdata (.named (.word "skill") name)).bind fun description _ =>
    .ok ({ name, version, description, triggers, rules, prompts } : Skill)).congr fun skill => ?_
  constructor
  · rintro ⟨name, hname, _, _, _, _, triggerItems, htriggerItems, triggers, htriggers, ruleItems,
      hruleItems, rules,
      hrules, prompts, hprompts, version, hversion, description, hdescription, rfl⟩
    exact ⟨hname, hversion, hdescription, ⟨_, htriggerItems, htriggers⟩, ⟨_, hruleItems, hrules⟩,
      hprompts⟩
  · intro h
    rcases h.triggers with ⟨triggerItems, htriggerItems, htriggers⟩
    rcases h.rules with ⟨ruleItems, hruleItems, hrules⟩
    exact ⟨_, h.name, (), htriggerItems.isSome, (), hruleItems.isSome, triggerItems, htriggerItems,
      _, htriggers, ruleItems, hruleItems, _, hrules, _, h.prompts, _, h.version, _, h.description,
      rfl⟩

end Skill
end PatchReview
