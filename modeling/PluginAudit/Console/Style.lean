import PluginAudit.Text.Case
import PluginAudit.Text.Pieces
import PluginAudit.Value.DataFault

namespace PluginAudit

open PluginAudit.Text

structure Style where
  -- Attributes that are switched on or off.
  switches : List (String × Bool)
  colour : Option String
  background : Option String
  link : Option String

namespace Style

def attributes : List String :=
  ["bold", "dim", "italic", "underline", "blink", "blink2", "reverse", "conceal", "strike", "underline2", "frame",
    "encircle", "overline"]

def shortWords : List (String × String) :=
  [("b", "bold"), ("d", "dim"), ("i", "italic"), ("u", "underline"), ("r", "reverse"), ("c", "conceal"), ("s", "strike"),
    ("uu", "underline2"), ("o", "overline")]

def attribute? (word : String) : Option String :=
  if attributes.contains word then some word else shortWords.lookup word

def colourNames : List String := [
  "black", "red", "green", "yellow", "blue", "magenta", "cyan", "white", "bright_black", "bright_red", "bright_green",
  "bright_yellow", "bright_blue", "bright_magenta", "bright_cyan", "bright_white", "grey0", "gray0", "navy_blue",
  "dark_blue", "blue3", "blue1", "dark_green", "deep_sky_blue4", "dodger_blue3", "dodger_blue2", "green4",
  "spring_green4", "turquoise4", "deep_sky_blue3", "dodger_blue1", "green3", "spring_green3", "dark_cyan",
  "light_sea_green", "deep_sky_blue2", "deep_sky_blue1", "spring_green2", "cyan3", "dark_turquoise", "turquoise2",
  "green1", "spring_green1", "medium_spring_green", "cyan2", "cyan1", "dark_red", "deep_pink4", "purple4", "purple3",
  "blue_violet", "orange4", "grey37", "gray37", "medium_purple4", "slate_blue3", "royal_blue1", "chartreuse4",
  "dark_sea_green4", "pale_turquoise4", "steel_blue", "steel_blue3", "cornflower_blue", "chartreuse3", "cadet_blue",
  "sky_blue3", "steel_blue1", "pale_green3", "sea_green3", "aquamarine3", "medium_turquoise", "chartreuse2",
  "sea_green2", "sea_green1", "aquamarine1", "dark_slate_gray2", "dark_magenta", "dark_violet", "purple",
  "light_pink4", "plum4", "medium_purple3", "slate_blue1", "yellow4", "wheat4", "grey53", "gray53",
  "light_slate_grey", "light_slate_gray", "medium_purple", "light_slate_blue", "dark_olive_green3", "dark_sea_green",
  "light_sky_blue3", "sky_blue2", "dark_sea_green3", "dark_slate_gray3", "sky_blue1", "chartreuse1", "light_green",
  "pale_green1", "dark_slate_gray1", "red3", "medium_violet_red", "magenta3", "dark_orange3", "indian_red",
  "hot_pink3", "medium_orchid3", "medium_orchid", "medium_purple2", "dark_goldenrod", "light_salmon3", "rosy_brown",
  "grey63", "gray63", "medium_purple1", "gold3", "dark_khaki", "navajo_white3", "grey69", "gray69",
  "light_steel_blue3", "light_steel_blue", "yellow3", "dark_sea_green2", "light_cyan3", "light_sky_blue1",
  "green_yellow", "dark_olive_green2", "dark_sea_green1", "pale_turquoise1", "deep_pink3", "magenta2", "hot_pink2",
  "orchid", "medium_orchid1", "orange3", "light_pink3", "pink3", "plum3", "violet", "light_goldenrod3", "tan",
  "misty_rose3", "thistle3", "plum2", "khaki3", "light_goldenrod2", "light_yellow3", "grey84", "gray84",
  "light_steel_blue1", "yellow2", "dark_olive_green1", "honeydew2", "light_cyan1", "red1", "deep_pink2", "deep_pink1",
  "magenta1", "orange_red1", "indian_red1", "hot_pink", "dark_orange", "salmon1", "light_coral", "pale_violet_red1",
  "orchid2", "orchid1", "orange1", "sandy_brown", "light_salmon1", "light_pink1", "pink1", "plum1", "gold1",
  "navajo_white1", "misty_rose1", "thistle1", "yellow1", "light_goldenrod1", "khaki1", "wheat1", "cornsilk1",
  "grey100", "gray100", "grey3", "gray3", "grey7", "gray7", "grey11", "gray11", "grey15", "gray15", "grey19",
  "gray19", "grey23", "gray23", "grey27", "gray27", "grey30", "gray30", "grey35", "gray35", "grey39", "gray39",
  "grey42", "gray42", "grey46", "gray46", "grey50", "gray50", "grey54", "gray54", "grey58", "gray58", "grey62",
  "gray62", "grey66", "gray66", "grey70", "gray70", "grey74", "gray74", "grey78", "gray78", "grey82", "gray82",
  "grey85", "gray85", "grey89", "gray89", "grey93", "gray93"]

inductive ColourTrouble where
  | unknown
  | number (fault : DataFault)

def checkParts (parts : List (List Char)) : Except ColourTrouble Unit := do
  if parts.length ≠ 3 then throw .unknown
  let numbers ← parts.mapM fun part =>
    match Number.intText part with
    | .int n => pure n
    | .tooLong digits => throw (.number (.longInteger Number.digitLimit digits))
    | .other => throw (.number (.notInteger 10 (String.ofList part)))
  if numbers.any (255 < ·) then throw .unknown

def enclosed? (start : String) (word : List Char) : Option (List Char) := do
  let rest ← start.toList.isPrefixOf? word
  if rest.getLast? = some ')' then some rest.dropLast else none

/-- Checks that a word in small letters is a colour: a name, six digits in base sixteen, a number, or three numbers. -/
def checkColour (word : String) : Except ColourTrouble Unit :=
  let chars := word.toList
  if word = "default" ∨ colourNames.contains word then .ok ()
  else
    match chars, enclosed? "color(" chars, enclosed? "rgb(" chars with
    | '#' :: digits, _, _ =>
      if digits.length = 6 ∧ digits.all (fun c => (hexDigit? c).isSome) then .ok () else .error .unknown
    | _, some digits, _ =>
      if digits ≠ [] ∧ digits.length ≤ 3 ∧ digits.all Char.isDigit ∧ ofDigits 10 (digits.filterMap asciiDigit?) ≤ 255 then
        .ok ()
      else .error .unknown
    | _, _, some parts =>
      if parts ≠ [] ∧ parts.all (fun c => c = ',' || (digit? c).isSome) then checkParts (pieces (· == ',') parts)
      else .error .unknown
    | _, _, _ => .error .unknown

def plain : Style :=
  ⟨[], none, none, none⟩

def setSwitch (style : Style) (name : String) (on : Bool) : Style :=
  { style with switches := (name, on) :: style.switches.filter (·.1 ≠ name) }

def colourWord (word : String) : Except ColourTrouble String := do
  let word := String.ofList (small word.toList)
  checkColour word
  return word

def readWords (style : Style) : List String → Except ColourTrouble Style
  | [] => .ok style
  | [word] =>
    match attribute? (String.ofList (small word.toList)) with
    | some name => .ok (style.setSwitch name true)
    | none => do return { style with colour := some (← colourWord word) }
  | word :: next :: rest =>
    match String.ofList (small word.toList) with
    | "on" => do readWords { style with background := some (← colourWord next) } rest
    | "not" =>
      match attribute? next with
      | some name => readWords (style.setSwitch name false) rest
      | none => .error .unknown
    | "link" => readWords { style with link := some next } rest
    | small =>
      match attribute? small with
      | some name => readWords (style.setSwitch name true) (next :: rest)
      | none => do readWords { style with colour := some (← colourWord word) } (next :: rest)

def name (style : Style) : String :=
  let switched := attributes.filterMap fun name =>
    (style.switches.lookup name).map fun on => if on then name else "not " ++ name
  let words := switched ++ style.colour.toList ++ style.background.toList.map ("on " ++ ·) ++
    style.link.toList.map ("link " ++ ·)
  if words.isEmpty then "none" else " ".intercalate words

def read (text : List Char) : Except ColourTrouble Style :=
  let words := ((pieces isBlank text).filter (· ≠ [])).map String.ofList
  if words = ["none"] then .ok plain else readWords plain words

/-- The name of the style that a text spells. A text that spells none is its own name, in small letters. -/
def nameOf (text : List Char) : Except DataFault String :=
  match read text with
  | .ok style => .ok style.name
  | .error .unknown => .ok (String.ofList (small (trim text)))
  | .error (.number fault) => .error fault

def check (text : List Char) : Except DataFault Unit :=
  match read text with
  | .error (.number fault) => .error fault
  | _ => .ok ()

end Style

end PluginAudit
