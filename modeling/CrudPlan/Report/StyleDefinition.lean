import CrudPlan.Text.Blank
import CrudPlan.Text.LetterCase
import CrudPlan.Text.Split

/-!
# Definitions of styles

A style is defined by words: traits such as `bold`, which `not` turns off, the name of a colour, a
colour behind `on`, and an address behind `link`. Definitions of one style may differ in the order
of their words and in upper and lower case, but not in their normal form.

* `StyleDefinition.parse` reads a definition, and `StyleDefinition.text` writes its normal form;
* `StyleDefinition.nameOf` is the name of a style by which an open one is found again.
-/

namespace CrudPlan

/-- What a style is made of. -/
structure StyleDefinition where
  /-- The traits that are turned on or off. -/
  traits : List (String × Bool) := []
  /-- The colour of the text. -/
  colour : Option String := none
  /-- The colour behind the text. -/
  background : Option String := none
  /-- The address that the text leads to. -/
  link : Option String := none
  deriving DecidableEq, Repr

namespace StyleDefinition

/-- Why words define no style. -/
inductive Refusal where
  /-- They define nothing. -/
  | unknown
  /-- A number of a colour is left out. -/
  | missingNumber
  deriving DecidableEq, Repr

/-! ### Words -/

/-- The traits, in the order of the normal form. -/
def traitNames : List String := [
  "bold", "dim", "italic", "underline", "blink", "blink2", "reverse", "conceal", "strike",
  "underline2", "frame", "encircle", "overline"]

/-- Short words for traits. -/
def shortTraits : List (String × String) := [
  ("b", "bold"), ("d", "dim"), ("i", "italic"), ("u", "underline"), ("uu", "underline2"),
  ("r", "reverse"), ("c", "conceal"), ("s", "strike"), ("o", "overline")]

/-- The trait of a word. -/
def trait? (word : String) : Option String :=
  shortTraits.lookup word <|> traitNames.find? (· == word)

/-- The words of a text. -/
def wordsOf (s : List Char) : List String :=
  let stretches := s.splitBy fun a b => Text.isBlank a == Text.isBlank b
  (stretches.filter fun stretch => !stretch.any Text.isBlank).map String.ofList

/-- Names of colours. -/
def colourNames : List String := wordsOf "
  black red green yellow blue magenta cyan white bright_black bright_red bright_green bright_yellow
  bright_blue bright_magenta bright_cyan bright_white grey0 gray0 navy_blue dark_blue blue3 blue1
  dark_green deep_sky_blue4 dodger_blue3 dodger_blue2 green4 spring_green4 turquoise4
  deep_sky_blue3 dodger_blue1 green3 spring_green3 dark_cyan light_sea_green deep_sky_blue2
  deep_sky_blue1 spring_green2 cyan3 dark_turquoise turquoise2 green1 spring_green1
  medium_spring_green cyan2 cyan1 dark_red deep_pink4 purple4 purple3 blue_violet orange4 grey37
  gray37 medium_purple4 slate_blue3 royal_blue1 chartreuse4 dark_sea_green4 pale_turquoise4
  steel_blue steel_blue3 cornflower_blue chartreuse3 cadet_blue sky_blue3 steel_blue1 pale_green3
  sea_green3 aquamarine3 medium_turquoise chartreuse2 sea_green2 sea_green1 aquamarine1
  dark_slate_gray2 dark_magenta dark_violet purple light_pink4 plum4 medium_purple3 slate_blue1
  yellow4 wheat4 grey53 gray53 light_slate_grey light_slate_gray medium_purple light_slate_blue
  dark_olive_green3 dark_sea_green light_sky_blue3 sky_blue2 dark_sea_green3 dark_slate_gray3
  sky_blue1 chartreuse1 light_green pale_green1 dark_slate_gray1 red3 medium_violet_red magenta3
  dark_orange3 indian_red hot_pink3 medium_orchid3 medium_orchid medium_purple2 dark_goldenrod
  light_salmon3 rosy_brown grey63 gray63 medium_purple1 gold3 dark_khaki navajo_white3 grey69
  gray69 light_steel_blue3 light_steel_blue yellow3 dark_sea_green2 light_cyan3 light_sky_blue1
  green_yellow dark_olive_green2 dark_sea_green1 pale_turquoise1 deep_pink3 magenta2 hot_pink2
  orchid medium_orchid1 orange3 light_pink3 pink3 plum3 violet light_goldenrod3 tan misty_rose3
  thistle3 plum2 khaki3 light_goldenrod2 light_yellow3 grey84 gray84 light_steel_blue1 yellow2
  dark_olive_green1 honeydew2 light_cyan1 red1 deep_pink2 deep_pink1 magenta1 orange_red1
  indian_red1 hot_pink dark_orange salmon1 light_coral pale_violet_red1 orchid2 orchid1 orange1
  sandy_brown light_salmon1 light_pink1 pink1 plum1 gold1 navajo_white1 misty_rose1 thistle1
  yellow1 light_goldenrod1 khaki1 wheat1 cornsilk1 grey100 gray100 grey3 gray3 grey7 gray7 grey11
  gray11 grey15 gray15 grey19 gray19 grey23 gray23 grey27 gray27 grey30 gray30 grey35 gray35 grey39
  gray39 grey42 gray42 grey46 gray46 grey50 gray50 grey54 gray54 grey58 gray58 grey62 gray62 grey66
  gray66 grey70 gray70 grey74 gray74 grey78 gray78 grey82 gray82 grey85 gray85 grey89 gray89 grey93
  gray93".toList

/-! ### Colours -/

/-- The text between a head and a closing parenthesis. -/
def argument? (head : String) (s : List Char) : Option (List Char) :=
  let inner := s.drop head.length
  if s.take head.length = head.toList ∧ inner.getLast? = some ')' then some inner.dropLast else none

/-- Whether digits give a number that a colour may have. -/
def isColourNumber (s : List Char) : Bool := (String.ofList s).toNat?.any (· ≤ 255)

/-- Whether a word is a colour given by digits. -/
def isHexColour (s : List Char) : Bool :=
  s.head? = some '#' && s.length == 7 &&
    s.tail.all fun c => c.isDigit || ('a' ≤ c && c ≤ 'f')

/-- Whether a word is a colour given by a number. -/
def isNumberedColour (s : List Char) : Bool :=
  (argument? "color(" s).any fun n => n.length ≤ 3 && n.all Char.isDigit && isColourNumber n

/-- Whether a word is a colour given by three numbers. -/
def isMixedColour (s : List Char) : Except Refusal Bool :=
  match argument? "rgb(" s with
  | none => .ok false
  | some inner =>
    let parts := Text.splitAt (· == ',') inner
    if inner.isEmpty || parts.length != 3 || !inner.all (fun c => c.isDigit || c == ',') then
      .ok false
    else if parts.any List.isEmpty then .error .missingNumber
    else .ok (parts.all isColourNumber)

/-- The name of a colour in lower case. -/
def colourName (word : String) : Except Refusal String := do
  let name := Text.lower word
  if name = "default" ∨ colourNames.contains name ∨ isHexColour name.toList ∨
      isNumberedColour name.toList ∨ (← isMixedColour name.toList) then
    return name
  else throw .unknown

/-! ### Definitions -/

/-- A definition with a trait turned on or off. -/
def withTrait (d : StyleDefinition) (name : String) (isOn : Bool) : StyleDefinition :=
  { d with traits := (name, isOn) :: d.traits.filter (·.1 != name) }

/-- What a word defines, perhaps with the one after it, and the words that are left. -/
def step (d : StyleDefinition) (word : String) (rest : List String) :
    Except Refusal (StyleDefinition × List String) :=
  match Text.lower word, rest with
  | "on", next :: rest => do return ({ d with background := some (← colourName next) }, rest)
  | "link", next :: rest => .ok ({ d with link := some next }, rest)
  | "not", next :: rest =>
    match trait? next with
    | some name => .ok (d.withTrait name false, rest)
    | none => .error .unknown
  | "on", [] | "link", [] | "not", [] => .error .unknown
  | word, rest =>
    match trait? word with
    | some name => .ok (d.withTrait name true, rest)
    | none => do return ({ d with colour := some (← colourName word) }, rest)

/-- Reads words that follow a definition; each step takes one word at least. -/
def ofWords : Nat → StyleDefinition → List String → Except Refusal StyleDefinition
  | fuel + 1, d, word :: rest => do
    let (d, rest) ← d.step word rest
    ofWords fuel d rest
  | _, d, _ => .ok d

/-- Reads a definition. The word `none` alone defines a style without anything. -/
def parse (s : List Char) : Except Refusal StyleDefinition :=
  match wordsOf s with
  | ["none"] => .ok {}
  | words => ofWords words.length {} words

/-- The normal form of a definition. -/
def text (d : StyleDefinition) : String :=
  let traits := traitNames.filterMap fun name =>
    (d.traits.lookup name).map fun isOn => if isOn then name else "not " ++ name
  let words := traits ++ d.colour.toList ++ (d.background.map ("on " ++ ·)).toList ++
    (d.link.map ("link " ++ ·)).toList
  if words.isEmpty then "none" else " ".intercalate words

/-- The name of a style: the normal form of its definition, or, if it is none, the text itself in
lower case. -/
def nameOf (s : List Char) : Except Refusal String :=
  match parse s with
  | .ok d => .ok d.text
  | .error .unknown => .ok (Text.lower (String.ofList (Text.trim Text.isBlank s)))
  | .error .missingNumber => .error .missingNumber

/-- Whether the numbers of its colours can be read. -/
def isReadable (s : List Char) : Bool :=
  match parse s with
  | .error .missingNumber => false
  | _ => true

end StyleDefinition

end CrudPlan
