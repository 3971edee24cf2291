import PatchReview.Text.Pieces

/-!
# Arguments of a command line

Arguments are options, some of which take a value, and words that stand on their own. Short options
can be put together behind one dash, and a value can stand in the same argument as its option.
Behind two dashes alone all arguments are words.
-/

namespace PatchReview
namespace Command

/-- An option. A spelling is two dashes with a word, or a dash with a letter. -/
structure OptionRule where
  key : String
  spellings : List String
  takesValue : Bool := true

/-- Options with their values, in the order in which they are given, and words. -/
structure Arguments where
  options : List (String × String) := []
  words : List String := []
  deriving DecidableEq, Repr

namespace Arguments

/-- The value of an option; the last one counts, and none is empty. -/
def value (a : Arguments) (key : String) : String :=
  ((a.options.reverse.find? (·.1 == key)).map (·.2)).getD ""

def values (a : Arguments) (key : String) : List String :=
  a.options.filterMap fun (k, v) => if k == key then some v else none

def has (a : Arguments) (key : String) : Bool := a.options.any (·.1 == key)

end Arguments

/-- The options in one argument, and the key of one at its end that still needs a value. -/
abbrev OptionsRead := List (String × String) × Option String

def findRule? (rules : List OptionRule) (spelling : List Char) : Option OptionRule :=
  rules.find? fun rule => rule.spellings.any (·.toList == spelling)

/-- Short options by their letters; what follows an option that takes a value is its value. -/
def readLetters (rules : List OptionRule) : List Char → Option OptionsRead
  | [] => some ([], none)
  | c :: cs => do
    let rule ← findRule? rules ['-', c]
    if rule.takesValue then
      return if cs.isEmpty then ([], some rule.key) else ([(rule.key, String.ofList cs)], none)
    else
      let (done, waiting) ← readLetters rules cs
      return ((rule.key, "") :: done, waiting)

/-- A long option, perhaps with its value behind an equals sign. -/
def readLong (rules : List OptionRule) (argument : List Char) : Option OptionsRead := do
  let (spelling, value) := match Text.cutFirst? ['='] argument with
    | some (spelling, value) => (spelling, some (String.ofList value))
    | none => (argument, none)
  let rule ← findRule? rules spelling
  match rule.takesValue, value with
  | true, some value => some ([(rule.key, value)], none)
  | true, none => some ([], some rule.key)
  | false, none => some ([(rule.key, "")], none)
  | false, some _ => none

def readOptions (rules : List OptionRule) : List Char → Option OptionsRead
  | '-' :: '-' :: cs => readLong rules ('-' :: '-' :: cs)
  | _ :: letters => readLetters rules letters
  | [] => none

/-- Reads arguments by rules for options. Words may stand among the options, unless the first word
ends the options. There is nothing for an option without a rule, for one without its value, and for
a value that an option does not take. -/
def Arguments.read? (rules : List OptionRule) (amongWords : Bool) : List String → Option Arguments
  | [] => some {}
  | argument :: rest =>
    if argument == "--" then some { words := rest }
    else if argument.toList.head? == some '-' && argument != "-" then
      match readOptions rules argument.toList with
      | none => none
      | some (done, none) => do
        let a ← Arguments.read? rules amongWords rest
        return { a with options := done ++ a.options }
      | some (done, some key) =>
        match rest with
        | [] => none
        | value :: rest => do
          let a ← Arguments.read? rules amongWords rest
          return { a with options := done ++ (key, value) :: a.options }
    else if amongWords then do
      let a ← Arguments.read? rules amongWords rest
      return { a with words := argument :: a.words }
    else some { words := argument :: rest }

end Command
end PatchReview
