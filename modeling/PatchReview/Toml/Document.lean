import PatchReview.Toml.Error
import PatchReview.Toml.Value

/-!
# Building a TOML document

A document grows by statements. Some places are closed to later statements: the value of a statement
cannot be added to, and a table that has its own header, or was made by a dotted key in another
table's part, cannot get a header again.
-/

namespace PatchReview
namespace Toml

/-- A document that is being built. -/
structure Document where
  entries : Entries := []
  /-- The table to which keys are added. -/
  header : Key := []
  /-- The tables that cannot get a header. -/
  declared : List Key := []
  /-- The tables that cannot get a header once the part of the present table ends. -/
  dotted : List Key := []
  /-- The values that cannot be added to. -/
  closed : List Key := []

/-- Entries with the value of a key replaced, or added at the end. -/
def setEntry (key : String) (v : Value) : Entries → Entries
  | [] => [(key, v)]
  | (k, old) :: rest => if k == key then (k, v) :: rest else (k, old) :: setEntry key v rest

/-- Changes the entries of the table under a key. Tables on the way are made where they are missing;
lists of tables may be entered, where the last table is meant. -/
def changeTable (intoLists : Bool) : Key → (Entries → Option Entries) → Entries → Option Entries
  | [], change, entries => change entries
  | k :: ks, change, entries =>
    match entries.lookup k with
    | none => do return setEntry k (.table (← changeTable intoLists ks change [])) entries
    | some (.table inner) => do
      return setEntry k (.table (← changeTable intoLists ks change inner)) entries
    | some (.list items) =>
      match intoLists, items.getLast? with
      | true, some (.table inner) => do
        let last := Value.table (← changeTable intoLists ks change inner)
        return setEntry k (.list (items.dropLast ++ [last])) entries
      | _, _ => none
    | some _ => none

def addEntry (name : String) (v : Value) (entries : Entries) : Option Entries :=
  match entries.lookup name with
  | some _ => none
  | none => some (entries ++ [(name, v)])

/-- Adds an empty table to the list of tables under a name. -/
def addTable (name : String) (entries : Entries) : Option Entries :=
  match entries.lookup name with
  | none => some (entries ++ [(name, .list [.table []])])
  | some (.list items) => some (setEntry name (.list (items ++ [.table []])) entries)
  | some _ => none

/-- Whether a value that cannot be added to is on the way to a key. -/
def isClosed (closed : List Key) (key : Key) : Bool := closed.any (·.isPrefixOf key)

/-- Whether adding to a value is forbidden. -/
def Value.isClosed : Value → Bool
  | .list _ => true
  | .table _ => true
  | _ => false

/-- The keys of the tables that a dotted key leads through. -/
def tablesOn (key : Key) : List Key := (List.range (key.length - 1)).map fun i => key.take (i + 1)

namespace Document

def endPart (d : Document) : Document := { d with declared := d.declared ++ d.dotted, dotted := [] }

def openTable (d : Document) (key : Key) : Except Breach Document := do
  let d := d.endPart
  if d.declared.contains key || Toml.isClosed d.closed key then throw (.declaredTwice key)
  let some entries := changeTable true key some d.entries | throw .overwritten
  return { d with entries, header := key, declared := d.declared ++ [key] }

/-- Starts the part of one more table of a list. -/
def openListed (d : Document) (key : Key) : Except Breach Document := do
  let d := d.endPart
  if Toml.isClosed d.closed key then throw (.immutable key)
  let name := key.getLast?.getD ""
  let some entries := changeTable true key.dropLast (addTable name) d.entries | throw .overwritten
  let outside (k : Key) : Bool := !key.isPrefixOf k
  return { d with
    entries, header := key
    declared := d.declared.filter outside ++ [key]
    closed := d.closed.filter outside }

/-- Adds a value under a key of the present table. -/
def add (d : Document) (key : Key) (v : Value) : Except Breach Document := do
  let tables := (tablesOn key).map (d.header ++ ·)
  if let some table := tables.find? d.declared.contains then throw (.redefined table)
  let place := d.header ++ key.dropLast
  if Toml.isClosed d.closed place then throw (.immutable place)
  let name := key.getLast?.getD ""
  let some entries := changeTable true place (addEntry name v) d.entries | throw .overwritten
  return { d with
    entries
    dotted := d.dotted ++ tables
    closed := if v.isClosed then d.closed ++ [d.header ++ key] else d.closed }

end Document

/-- Adds a value under a key of a table that is written inside of braces, given the keys of its
values that cannot be added to. -/
def addInline (entries : Entries) (closed : List Key) (key : Key) (v : Value) :
    Except Breach Entries := do
  if isClosed closed key then throw (.immutable key)
  if (changeTable false key.dropLast some entries).isNone then throw .overwritten
  let name := key.getLast?.getD ""
  let some grown := changeTable false key.dropLast (addEntry name v) entries
    | throw (.duplicate name)
  return grown

end Toml
end PatchReview
