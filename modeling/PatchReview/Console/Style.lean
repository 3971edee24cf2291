import PatchReview.Text.Blank
import PatchReview.Text.CaseMap
import PatchReview.Text.Pieces
import PatchReview.Text.DecimalDigit

/-!
# Names of styles

A style is written as a list of words for attributes and colours, and two lists that mean the same
style have the same normal form. A list with a word that means nothing is its own normal form, in
lower case.
-/

namespace PatchReview
namespace Console

/-- The attributes of a style with their short names, in the order of normal forms. -/
def attributeNames : List (String × List String) :=
  [("bold", ["b"]), ("dim", ["d"]), ("italic", ["i"]), ("underline", ["u"]), ("blink", []),
   ("blink2", []), ("reverse", ["r"]), ("conceal", ["c"]), ("strike", ["s"]),
   ("underline2", ["uu"]), ("frame", []), ("encircle", []), ("overline", ["o"])]

def attribute? (word : String) : Option String :=
  (attributeNames.find? fun (name, short) => name == word || short.contains word).map (·.1)

/-- The names of colours that come without a number. -/
def plainColors : List String :=
  ["black", "red", "green", "yellow", "blue", "magenta", "cyan", "white", "bright_black",
   "bright_red", "bright_green", "bright_yellow", "bright_blue", "bright_magenta", "bright_cyan",
   "bright_white", "default", "navy_blue", "dark_blue", "dark_green", "dark_cyan",
   "light_sea_green", "dark_turquoise", "medium_spring_green", "blue_violet", "steel_blue",
   "cornflower_blue", "cadet_blue", "medium_turquoise", "dark_red", "dark_magenta",
   "light_slate_grey", "light_slate_gray", "medium_purple", "light_slate_blue", "dark_sea_green",
   "light_green", "medium_violet_red", "dark_violet", "purple", "medium_orchid", "dark_goldenrod",
   "rosy_brown", "dark_khaki", "light_steel_blue", "green_yellow", "indian_red", "orchid", "violet",
   "tan", "hot_pink", "dark_orange", "light_coral", "sandy_brown"]

/-- The names of colours that come with numbers, and the numbers. -/
def numberedColors : List (String × List Nat) :=
  [("blue", [1, 3]), ("deep_sky_blue", [1, 2, 3, 4]), ("dodger_blue", [1, 2, 3]),
   ("green", [1, 3, 4]), ("spring_green", [1, 2, 3, 4]), ("turquoise", [2, 4]), ("cyan", [1, 2, 3]),
   ("purple", [3, 4]), ("medium_purple", [1, 2, 3, 4]), ("slate_blue", [1, 3]), ("royal_blue", [1]),
   ("chartreuse", [1, 2, 3, 4]), ("pale_turquoise", [1, 4]), ("steel_blue", [1, 3]),
   ("dark_sea_green", [1, 2, 3, 4]), ("sky_blue", [1, 2, 3]), ("sea_green", [1, 2, 3]),
   ("aquamarine", [1, 3]), ("dark_slate_gray", [1, 2, 3]), ("orange", [1, 3, 4]),
   ("light_pink", [1, 3, 4]), ("plum", [1, 2, 3, 4]), ("wheat", [1, 4]), ("yellow", [1, 2, 3, 4]),
   ("light_sky_blue", [1, 3]), ("pale_green", [1, 3]), ("deep_pink", [1, 2, 3, 4]),
   ("medium_orchid", [1, 3]), ("navajo_white", [1, 3]), ("light_steel_blue", [1, 3]),
   ("dark_olive_green", [1, 2, 3]), ("light_cyan", [1, 3]), ("red", [1, 3]), ("magenta", [1, 2, 3]),
   ("dark_orange", [3]), ("hot_pink", [2, 3]), ("light_salmon", [1, 3]), ("pink", [1, 3]),
   ("gold", [1, 3]), ("light_goldenrod", [1, 2, 3]), ("misty_rose", [1, 3]), ("thistle", [1, 3]),
   ("khaki", [1, 3]), ("light_yellow", [3]), ("honeydew", [2]), ("orange_red", [1]),
   ("indian_red", [1]), ("salmon", [1]), ("pale_violet_red", [1]), ("orchid", [1, 2]),
   ("cornsilk", [1]),
   ("grey", [0, 3, 7, 11, 15, 19, 23, 27, 30, 35, 37, 39, 42, 46, 50, 53, 54, 58, 62, 63, 66, 69,
     70, 74, 78, 82, 84, 85, 89, 93, 100]),
   ("gray", [0, 3, 7, 11, 15, 19, 23, 27, 30, 35, 37, 39, 42, 46, 50, 53, 54, 58, 62, 63, 66, 69,
     70, 74, 78, 82, 84, 85, 89, 93, 100])]

/-- A number of at most 255 in digits. -/
def isColorPart (s : List Char) : Bool :=
  !s.isEmpty && s.all Char.isDigit && ((String.ofList s).toNat?.getD 256) ≤ 255

/-- What stands between a word with an opening parenthesis and a closing parenthesis. -/
def between? (word : String) (s : List Char) : Option (List Char) :=
  match Text.afterStart? (word.toList ++ ['(']) s with
  | some rest => if rest.getLast? == some ')' then some rest.dropLast else none
  | none => none

/-- Whether a lower-case word is a colour. -/
def isColor (word : String) : Bool :=
  plainColors.contains word ||
    numberedColors.any (fun (name, numbers) => numbers.any fun n => name ++ toString n == word) ||
    match word.toList with
    | '#' :: ds =>
      ds.length == 6 && ds.all fun c => c.isDigit || ('a' ≤ c && c ≤ 'f')
    | s =>
      (between? "color" s).any (fun n => n.length ≤ 3 && isColorPart n) ||
        (between? "rgb" s).any fun parts =>
          let parts := Text.splitAtChar ',' parts
          parts.length == 3 && parts.all isColorPart

/-- A style in parts. -/
structure Style where
  attributes : List (String × Bool) := []
  color : Option String := none
  background : Option String := none
  link : Option String := none

/-- Sets an attribute; the last setting holds. -/
def Style.setAttribute (s : Style) (name : String) (on : Bool) : Style :=
  { s with attributes := (name, on) :: s.attributes }

def words (s : List Char) : List String :=
  let parts := s.splitBy fun a b => Text.isBlank a == Text.isBlank b
  (parts.filter fun part => !part.all Text.isBlank).map String.ofList

def lowerWord (word : String) : String := String.ofList (Text.lower word.toList)

/-- Reads words into a style; none where a word means nothing. -/
def Style.read? : Style → List String → Option Style
  | s, [] => some s
  | s, word :: rest =>
    match lowerWord word, rest with
    | "on", color :: rest =>
      if isColor (lowerWord color) then
        Style.read? { s with background := some (lowerWord color) } rest
      else none
    | "not", name :: rest =>
      match attribute? name with
      | some name => Style.read? (s.setAttribute name false) rest
      | none => none
    | "link", url :: rest => Style.read? { s with link := some url } rest
    | lowered, rest =>
      match attribute? lowered with
      | some name => Style.read? (s.setAttribute name true) rest
      | none => if isColor lowered then Style.read? { s with color := some lowered } rest else none

def Style.toWords (s : Style) : List String :=
  (attributeNames.filterMap fun (name, _) =>
    (s.attributes.lookup name).map fun on => if on then name else "not " ++ name) ++
  s.color.toList ++ (s.background.map ("on " ++ ·)).toList ++ (s.link.map ("link " ++ ·)).toList

/-- The normal form of a list of words for a style. -/
def normalizeStyle (text : List Char) : String :=
  match words text with
  | [] => "none"
  | ["none"] => "none"
  | ws =>
    match Style.read? {} ws with
    | some s => String.intercalate " " s.toWords
    | none => String.ofList (Text.lower (Text.trimBy Text.isBlank text))

end Console
end PatchReview
