import PatchReview.Pattern.CharTest

/-!
# Flags

The flags of patterns, the letters that stand for them, and how flags change inside parentheses.
-/

namespace PatchReview
namespace Pattern

/-- The flags that hold at a place of a pattern. -/
structure Flags where
  ignoreCase : Bool := true
  multiline : Bool := false
  dotAll : Bool := false
  verbose : Bool := false
  ascii : Bool := false
  unicode : Bool := false
  template : Bool := false
  deriving DecidableEq, Repr

def Flags.caseRule (f : Flags) : CaseRule :=
  if !f.ignoreCase then .exact else if f.ascii then .ascii else .unicode

def Flags.turnOn? (f : Flags) : Char → Option Flags
  | 'i' => some { f with ignoreCase := true }
  | 'm' => some { f with multiline := true }
  | 's' => some { f with dotAll := true }
  | 'x' => some { f with verbose := true }
  | 'a' => some { f with ascii := true }
  | 'u' => some { f with unicode := true }
  | 't' => some { f with template := true }
  | _ => none

/-- A letter that stands for a flag; the locale flag among them, though patterns of text refuse
it. -/
def isFlag (c : Char) : Bool := ['i', 'L', 'm', 's', 'x', 'a', 't', 'u'].contains c

def noFlags : Flags := { ignoreCase := false }

/-- Flags with some turned on, some turned off and the alphabet replaced where one is turned on. -/
def Flags.change (f on off : Flags) : Flags :=
  let alphabet := on.ascii || on.unicode
  { ignoreCase := (f.ignoreCase || on.ignoreCase) && !off.ignoreCase
    multiline := (f.multiline || on.multiline) && !off.multiline
    dotAll := (f.dotAll || on.dotAll) && !off.dotAll
    verbose := (f.verbose || on.verbose) && !off.verbose
    ascii := if alphabet then on.ascii else f.ascii
    unicode := if alphabet then on.unicode else f.unicode
    template := f.template }

/-- Flags with others turned on too. -/
def Flags.add (f on : Flags) : Flags :=
  { ignoreCase := f.ignoreCase || on.ignoreCase
    multiline := f.multiline || on.multiline
    dotAll := f.dotAll || on.dotAll
    verbose := f.verbose || on.verbose
    ascii := f.ascii || on.ascii
    unicode := f.unicode || on.unicode
    template := f.template || on.template }

/-- Whether two sets of flags share one. -/
def Flags.meet (a b : Flags) : Bool :=
  (a.ignoreCase && b.ignoreCase) || (a.multiline && b.multiline) || (a.dotAll && b.dotAll) ||
    (a.verbose && b.verbose) || (a.ascii && b.ascii) || (a.unicode && b.unicode)

end Pattern
end PatchReview
