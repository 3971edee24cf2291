/-!
# Severities

How grave a finding is. Thresholds are words, and a word that names no severity counts as the least.
-/

namespace PatchReview

/-- How grave a finding is. -/
inductive Severity where
  | info
  | warning
  | critical
  deriving DecidableEq, Repr

namespace Severity

def name : Severity → String
  | .info => "info"
  | .warning => "warning"
  | .critical => "critical"

def ofName? : String → Option Severity
  | "info" => some .info
  | "warning" => some .warning
  | "critical" => some .critical
  | _ => none

/-- The place of a severity in the order from the least on. -/
def rank : Severity → Nat
  | .info => 0
  | .warning => 1
  | .critical => 2

/-- The place of what a word names; the least place where it names nothing. -/
def rankOf (word : String) : Nat := ((ofName? word).map rank).getD 0

/-- Whether what one word names is at least as grave as what another names. -/
def wordAtOrAbove (word threshold : String) : Bool := rankOf threshold ≤ rankOf word

/-- Whether a severity is at least as grave as what a word names. -/
def atOrAbove (s : Severity) (threshold : String) : Bool := rankOf threshold ≤ s.rank

end Severity
end PatchReview
