import EngineFit.Text.Blank
import EngineFit.Text.Case
import EngineFit.Text.Digit

/-!
# Console styles

The name in a tag (`[bold red on white]`) is a *style definition*: words, each an attribute
(`bold`, or its short form `b`), `not` and an attribute, a colour, `on` and a background colour,
or `link` and a target. Tags are matched by the *normal form* of their style: the attributes
set or cleared, in one fixed order, then the colour, the background and the link, so that
`[b red]` is closed by `[/red bold]`. A definition that is not a style keeps its own text,
trimmed and in lower case, as its normal form.

A colour is `default`, one of the named terminal colours, `#` and six hex digits,
`color(n)` with `n ≤ 255`, or `rgb(r,g,b)` with each component at most 255. An `rgb` colour
with an empty component cannot be read at all: that stops the printing instead of making the
definition plain text.
-/

namespace EngineFit
namespace Console

/-- A text attribute, in the order normal forms list them. -/
inductive Attribute where
  | bold
  | dim
  | italic
  | underline
  | blink
  | blink2
  | reverse
  | conceal
  | strike
  | underline2
  | frame
  | encircle
  | overline
deriving DecidableEq, Repr

/-- Every attribute, in the order normal forms list them. -/
def Attribute.all : List Attribute :=
  [.bold, .dim, .italic, .underline, .blink, .blink2, .reverse, .conceal, .strike, .underline2,
   .frame, .encircle, .overline]

/-- The full name of an attribute. -/
def Attribute.name : Attribute → String
  | .bold => "bold"
  | .dim => "dim"
  | .italic => "italic"
  | .underline => "underline"
  | .blink => "blink"
  | .blink2 => "blink2"
  | .reverse => "reverse"
  | .conceal => "conceal"
  | .strike => "strike"
  | .underline2 => "underline2"
  | .frame => "frame"
  | .encircle => "encircle"
  | .overline => "overline"

/-- The attribute a word names, by its full name or its short form. -/
def Attribute.ofWord? : String → Option Attribute
  | "bold" | "b" => some .bold
  | "dim" | "d" => some .dim
  | "italic" | "i" => some .italic
  | "underline" | "u" => some .underline
  | "blink" => some .blink
  | "blink2" => some .blink2
  | "reverse" | "r" => some .reverse
  | "conceal" | "c" => some .conceal
  | "strike" | "s" => some .strike
  | "underline2" | "uu" => some .underline2
  | "frame" => some .frame
  | "encircle" => some .encircle
  | "overline" | "o" => some .overline
  | _ => none

/-- The named terminal colours. -/
def colorNames : List String :=
  ["black", "red", "green", "yellow", "blue", "magenta", "cyan", "white", "bright_black",
   "bright_red", "bright_green", "bright_yellow", "bright_blue", "bright_magenta", "bright_cyan",
   "bright_white", "grey0", "gray0", "navy_blue", "dark_blue", "blue3", "blue1", "dark_green",
   "deep_sky_blue4", "dodger_blue3", "dodger_blue2", "green4", "spring_green4", "turquoise4",
   "deep_sky_blue3", "dodger_blue1", "green3", "spring_green3", "dark_cyan", "light_sea_green",
   "deep_sky_blue2", "deep_sky_blue1", "spring_green2", "cyan3", "dark_turquoise", "turquoise2",
   "green1", "spring_green1", "medium_spring_green", "cyan2", "cyan1", "dark_red", "deep_pink4",
   "purple4", "purple3", "blue_violet", "orange4", "grey37", "gray37", "medium_purple4",
   "slate_blue3", "royal_blue1", "chartreuse4", "dark_sea_green4", "pale_turquoise4",
   "steel_blue", "steel_blue3", "cornflower_blue", "chartreuse3", "cadet_blue", "sky_blue3",
   "steel_blue1", "pale_green3", "sea_green3", "aquamarine3", "medium_turquoise", "chartreuse2",
   "sea_green2", "sea_green1", "aquamarine1", "dark_slate_gray2", "dark_magenta", "dark_violet",
   "purple", "light_pink4", "plum4", "medium_purple3", "slate_blue1", "yellow4", "wheat4",
   "grey53", "gray53", "light_slate_grey", "light_slate_gray", "medium_purple",
   "light_slate_blue", "dark_olive_green3", "dark_sea_green", "light_sky_blue3", "sky_blue2",
   "dark_sea_green3", "dark_slate_gray3", "sky_blue1", "chartreuse1", "light_green",
   "pale_green1", "dark_slate_gray1", "red3", "medium_violet_red", "magenta3", "dark_orange3",
   "indian_red", "hot_pink3", "medium_orchid3", "medium_orchid", "medium_purple2",
   "dark_goldenrod", "light_salmon3", "rosy_brown", "grey63", "gray63", "medium_purple1",
   "gold3", "dark_khaki", "navajo_white3", "grey69", "gray69", "light_steel_blue3",
   "light_steel_blue", "yellow3", "dark_sea_green2", "light_cyan3", "light_sky_blue1",
   "green_yellow", "dark_olive_green2", "dark_sea_green1", "pale_turquoise1", "deep_pink3",
   "magenta2", "hot_pink2", "orchid", "medium_orchid1", "orange3", "light_pink3", "pink3",
   "plum3", "violet", "light_goldenrod3", "tan", "misty_rose3", "thistle3", "plum2", "khaki3",
   "light_goldenrod2", "light_yellow3", "grey84", "gray84", "light_steel_blue1", "yellow2",
   "dark_olive_green1", "honeydew2", "light_cyan1", "red1", "deep_pink2", "deep_pink1",
   "magenta1", "orange_red1", "indian_red1", "hot_pink", "dark_orange", "salmon1", "light_coral",
   "pale_violet_red1", "orchid2", "orchid1", "orange1", "sandy_brown", "light_salmon1",
   "light_pink1", "pink1", "plum1", "gold1", "navajo_white1", "misty_rose1", "thistle1",
   "yellow1", "light_goldenrod1", "khaki1", "wheat1", "cornsilk1", "grey100", "gray100", "grey3",
   "gray3", "grey7", "gray7", "grey11", "gray11", "grey15", "gray15", "grey19", "gray19",
   "grey23", "gray23", "grey27", "gray27", "grey30", "gray30", "grey35", "gray35", "grey39",
   "gray39", "grey42", "gray42", "grey46", "gray46", "grey50", "gray50", "grey54", "gray54",
   "grey58", "gray58", "grey62", "gray62", "grey66", "gray66", "grey70", "gray70", "grey74",
   "gray74", "grey78", "gray78", "grey82", "gray82", "grey85", "gray85", "grey89", "gray89",
   "grey93", "gray93"]

/-- Why a word or a definition is not a style. -/
inductive StyleProblem where
  /-- It is not written as a style. -/
  | malformed
  /-- A component of an `rgb` colour is empty, so it cannot be read as a number. -/
  | emptyComponent
deriving DecidableEq, Repr

/-- Whether a character is a lower-case hex digit. -/
def isLowerHex (c : Char) : Bool :=
  ('0' ≤ c && c ≤ '9') || ('a' ≤ c && c ≤ 'f')

/-- The value of a run of decimal digits of any script. -/
def digitsValue (cs : List Char) : Nat :=
  cs.foldl (fun n c => 10 * n + (Text.digitValue? c).getD 0) 0

/-- Checks the components between `rgb(` and `)`: three runs of digits, each at most 255. All
three are read before any is compared with 255. -/
def rgbComponents (body : List Char) : Except StyleProblem Unit :=
  if body.isEmpty || !body.all (fun c => c = ',' || Text.isDecimalDigit c) then .error .malformed
  else
    let parts := body.splitOn ','
    if parts.length != 3 then .error .malformed
    else if parts.any List.isEmpty then .error .emptyComponent
    else if parts.all (digitsValue · ≤ 255) then .ok ()
    else .error .malformed

/-- The name of the colour a word denotes: the word in lower case. A word holds no blanks. -/
def colorName (word : String) : Except StyleProblem String :=
  let c := Text.lower word
  if c == "default" || colorNames.contains c then .ok c
  else
    match c.toList with
    | '#' :: hex =>
      if hex.length = 6 && hex.all isLowerHex then .ok c else .error .malformed
    | 'c' :: 'o' :: 'l' :: 'o' :: 'r' :: '(' :: rest =>
      match rest.reverse with
      | ')' :: ds =>
        if 1 ≤ ds.length && ds.length ≤ 3 && ds.all Char.isDigit && digitsValue ds ≤ 255 then .ok c
        else .error .malformed
      | _ => .error .malformed
    | 'r' :: 'g' :: 'b' :: '(' :: rest =>
      match rest.reverse with
      | ')' :: body => (rgbComponents body.reverse).map fun _ => c
      | _ => .error .malformed
    | _ => .error .malformed

/-- A style: the attributes set or cleared (latest first), a colour, a background colour and a
link target. -/
structure Style where
  settings : List (Attribute × Bool) := []
  color : Option String := none
  background : Option String := none
  link : Option String := none
deriving DecidableEq, Repr

/-- Reads the words of a style definition into a style. `on`, `not` and `link` are recognised
in any case and take the next word; the word after `not` must be an attribute in lower case. -/
def Style.ofWords (style : Style) : List String → Except StyleProblem Style
  | [] => .ok style
  | w :: rest =>
    match Text.lower w, rest with
    | "on", [] => .error .malformed
    | "on", c :: rest => do
      let name ← colorName c
      Style.ofWords { style with background := some name } rest
    | "not", next :: rest =>
      match Attribute.ofWord? next with
      | some a => Style.ofWords { style with settings := (a, false) :: style.settings } rest
      | none => .error .malformed
    | "not", [] => .error .malformed
    | "link", [] => .error .malformed
    | "link", target :: rest => Style.ofWords { style with link := some target } rest
    | word, rest =>
      match Attribute.ofWord? word with
      | some a => Style.ofWords { style with settings := (a, true) :: style.settings } rest
      | none => do
        let name ← colorName w
        Style.ofWords { style with color := some name } rest

/-- Reads a style definition. A definition that is empty or `none` is the empty style. -/
def Style.parse (definition : String) : Except StyleProblem Style :=
  if Text.strip definition == "none" then .ok {}
  else Style.ofWords {} (Text.words definition)

/-- The normal form of a style: what is set or cleared, in attribute order, then the colour,
`on` and the background, `link` and the target; `none` for the empty style. -/
def Style.text (s : Style) : String :=
  let attributes := Attribute.all.filterMap fun a =>
    (s.settings.lookup a).map fun on => if on then a.name else "not " ++ a.name
  let words := attributes ++ s.color.toList ++ (s.background.map ("on " ++ ·)).toList ++
    (s.link.map ("link " ++ ·)).toList
  if words.isEmpty then "none" else " ".intercalate words

/-- The normal form of a style definition, by which tags are matched: the normal form of its
style, or the definition trimmed and in lower case when it is not a style. `none` when the
definition has an `rgb` colour with an empty component. -/
def normalStyle (definition : String) : Option String :=
  match Style.parse definition with
  | .ok s => some s.text
  | .error .malformed => some (Text.lower (Text.strip definition))
  | .error .emptyComponent => none

end Console
end EngineFit
