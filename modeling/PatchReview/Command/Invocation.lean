import PatchReview.Command.Arguments
import PatchReview.Log

/-!
# Invocations

What the arguments of the program ask for: a command with its options, the version, or a screen that
explains how the program is used.
-/

namespace PatchReview
namespace Command

/-- The options of a check. An empty text counts as none. -/
structure CheckOptions where
  diffPath : Option String := none
  skills : List String := []
  skillsDirectory : String := ""
  config : String := ""
  format : String := ""
  failOn : String := ""
  output : String := ""
  verbose : Bool := false
  debug : Bool := false
  deriving DecidableEq, Repr

/-- The directory of skills that is meant, and the file with the configuration. An empty text counts
as none. -/
structure Place where
  directory : String := ""
  config : String := ""
  deriving DecidableEq, Repr

/-- What is asked for. -/
inductive Invocation where
  | check (options : CheckOptions)
  | validate (place : Place)
  | list (place : Place)
  | init
  | install (place : Place)
  | version
  /-- The screen that explains the program, because it is asked for or because the arguments make no
  sense. -/
  | usage (asked : Bool)
  deriving DecidableEq, Repr

namespace Invocation

/-! ## Options -/

/-- The option for the screen that explains a command. -/
def helpRule : OptionRule := { key := "help", spellings := ["--help"], takesValue := false }

def versionRule : OptionRule :=
  { key := "version", spellings := ["--version", "-V"], takesValue := false }

def configRule : OptionRule := { key := "config", spellings := ["--config", "-c"] }

def checkRules : List OptionRule :=
  [{ key := "skill", spellings := ["--skill", "-s"] },
   { key := "skills-dir", spellings := ["--skills-dir", "-d"] },
   configRule,
   { key := "format", spellings := ["--format", "-f"] },
   { key := "fail-on", spellings := ["--fail-on"] },
   { key := "output", spellings := ["--output", "-o"] },
   { key := "verbose", spellings := ["--verbose", "-v"], takesValue := false },
   { key := "debug", spellings := ["--debug"], takesValue := false },
   helpRule]

/-! ## Commands -/

def checkOf (a : Arguments) : Invocation :=
  .check {
    diffPath := a.words.head?
    skills := a.values "skill"
    skillsDirectory := a.value "skills-dir"
    config := a.value "config"
    format := a.value "format"
    failOn := a.value "fail-on"
    output := a.value "output"
    verbose := a.has "verbose"
    debug := a.has "debug" }

/-- The place that arguments name. -/
def placeOf (a : Arguments) : Place :=
  { directory := a.words.head?.getD "", config := a.value "config" }

def readCommand (rules : List OptionRule) (words : Nat) (make : Arguments → Invocation)
    (arguments : List String) : Invocation :=
  match Arguments.read? rules true arguments with
  | none => .usage false
  | some a =>
    if a.has "help" then .usage true
    else if words < a.words.length then .usage false
    else make a

def ofCommand (name : String) (arguments : List String) : Invocation :=
  match name with
  | "check" => readCommand checkRules 1 checkOf arguments
  | "validate" => readCommand [configRule, helpRule] 1 (.validate ∘ placeOf) arguments
  | "list" => readCommand [configRule, helpRule] 1 (.list ∘ placeOf) arguments
  | "init" => readCommand [helpRule] 0 (fun _ => .init) arguments
  | "install-defaults" => readCommand [configRule, helpRule] 1 (.install ∘ placeOf) arguments
  | _ => .usage false

def ofArguments (arguments : List String) : Invocation :=
  match Arguments.read? [versionRule, helpRule] false arguments with
  | none => .usage false
  | some a =>
    match a.options, a.words with
    | (key, _) :: _, _ => if key == "help" then .usage true else .version
    | [], [] => .usage false
    | [], name :: rest => ofCommand name rest

/-- The least important messages that are shown. -/
def logLevel : Invocation → LogLevel
  | .check options => if options.debug then .debug else if options.verbose then .info else .warning
  | _ => .warning

end Invocation
end Command
end PatchReview
