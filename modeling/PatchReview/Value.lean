/-!
# Values of documents

What a decoded document is made of. Only what a reader of documents can ask for is kept: entries of
a mapping that are not under a text key, and scalars that are neither texts, numbers nor truth
values, count as present and nothing more.
-/

namespace PatchReview

/-- A decoded value. -/
inductive Value where
  | null
  | bool (b : Bool)
  | int (n : Int)
  | float (x : Float)
  | text (s : String)
  | list (items : List Value)
  | mapping (entries : List (String × Value))
  /-- A value of a kind that no reader looks into. -/
  | other
  deriving Inhabited

end PatchReview
