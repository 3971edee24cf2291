import PatchReview.Files.Path
import PatchReview.Skill.Severity
import PatchReview.Toml.Value

/-!
# Configurations

What is configured: the directory of the skills, the skills that run, whether the bundled skills are
installed, the number of workers, the form of the output and the severity from which on a check
fails. Values whose kind is not looked at are kept as they were written.
-/

namespace PatchReview

/-- The form of the output. -/
inductive OutputFormat where
  | terminal
  | json
  | prompt
  deriving DecidableEq, Repr

namespace OutputFormat

def name : OutputFormat → String
  | .terminal => "terminal"
  | .json => "json"
  | .prompt => "prompt"

def all : List OutputFormat := [.terminal, .json, .prompt]

def ofName? (word : String) : Option OutputFormat := all.find? (·.name == word)

end OutputFormat

/-- The severity from which on findings make a check fail, if any do. -/
abbrev FailOn := Option Severity

namespace FailOn

def name : FailOn → String
  | some severity => severity.name
  | none => "none"

def all : List FailOn := [some .critical, some .warning, some .info, none]

def ofName? (word : String) : Option FailOn := all.find? (name · == word)

end FailOn

/-- A configuration. -/
structure Config where
  version : String := "1.0"
  /-- The directory of the skills. -/
  directory : Toml.Value := .text "~/.diffskills/skills"
  /-- The names of the skills that run if none are asked for. -/
  enabled : List Toml.Value := []
  /-- Whether the bundled skills are installed before a check. -/
  installDefaults : Toml.Value := .bool true
  /-- The number of workers, where a truth value stands for one. -/
  maxWorkers : Toml.Value := .int 1
  format : OutputFormat := .terminal
  failOn : FailOn := some .critical

namespace Config

def fileName : String := ".diffskills.toml"

/-- The configuration that a user starts with. -/
def starter : String :=
"# diffskills configuration
version = \"1.0\"

[skills]
directory = \"~/.diffskills/skills\"
enabled = [\"security-audit\", \"best-practices\"]   # run by \x60diffskills check\x60 without --skill
install_defaults = true                          # write any missing bundled skills before \x60check\x60

[engine]
max_workers = 1           # >1 runs skills on a thread pool

[output]
format = \"terminal\"       # terminal | json | prompt
fail_on = \"critical\"      # critical | warning | info | none
"

end Config
end PatchReview
