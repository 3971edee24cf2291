import PatchReview.Calendar
import PatchReview.Decimal.Natural
import PatchReview.Decimal.Printing
import PatchReview.Text.Quoted

/-!
# Values of TOML documents

What a TOML document is made of, and the texts of values: a plain one, and one in which texts stand
between quotes and moments show their numbers. Inside of lists and tables all values
are written in the latter way.
-/

namespace PatchReview
namespace Toml

/-- A value. The entries of a table are in the order in which they were first named. -/
inductive Value where
  | text (s : String)
  | int (n : Int)
  | float (x : Float)
  | bool (b : Bool)
  | moment (m : Calendar.Moment)
  | list (items : List Value)
  | table (entries : List (String × Value))
  deriving Inhabited

abbrev Entries := List (String × Value)

mutual

/-- How many lists and tables are inside of each other in a value. -/
def Value.depth : Value → Nat
  | .list items => depthOfItems items + 1
  | .table entries => depthOfEntries entries + 1
  | _ => 0

/-- How many lists and tables are inside of each other in the items of a list. -/
def depthOfItems : List Value → Nat
  | [] => 0
  | v :: rest => max v.depth (depthOfItems rest)

/-- How many lists and tables are inside of each other in the entries of a table. -/
def depthOfEntries : List (String × Value) → Nat
  | [] => 0
  | (_, v) :: rest => max v.depth (depthOfEntries rest)

end

mutual

def Value.literal : Value → Except Decimal.LimitError String
  | .text s => .ok (Text.quoted s)
  | .int n => Decimal.writeInt n
  | .float x => .ok (Decimal.plain.write x)
  | .bool b => .ok (if b then "True" else "False")
  | .moment m => .ok m.literal
  | .list items => do return "[" ++ String.intercalate ", " (← literals items) ++ "]"
  | .table entries => do
    return "\x7b" ++ String.intercalate ", " (← entryLiterals entries) ++ "\x7d"

def literals : List Value → Except Decimal.LimitError (List String)
  | [] => .ok []
  | v :: rest => do return (← v.literal) :: (← literals rest)

/-- The texts of entries, each with its key in quotes. -/
def entryLiterals : List (String × Value) → Except Decimal.LimitError (List String)
  | [] => .ok []
  | (key, v) :: rest => do
    return (Text.quoted key ++ ": " ++ (← v.literal)) :: (← entryLiterals rest)

end

def Value.plain : Value → Except Decimal.LimitError String
  | .text s => .ok s
  | .moment m => .ok m.text
  | v => v.literal

def Value.kind : Value → String
  | .text _ => "str"
  | .int _ => "int"
  | .float _ => "float"
  | .bool _ => "bool"
  | .moment (.date _) => "date"
  | .moment (.clock _) => "time"
  | .moment (.both _ _ _) => "datetime"
  | .list _ => "list"
  | .table _ => "dict"

/-- Whether a value stands for yes: numbers other than zero, texts, lists and tables that are not
empty, and all moments. -/
def Value.isTruthy : Value → Bool
  | .text s => !s.isEmpty
  | .int n => n != 0
  | .float x => x != 0
  | .bool b => b
  | .moment _ => true
  | .list items => !items.isEmpty
  | .table entries => !entries.isEmpty

end Toml
end PatchReview
