import Stencil.Console.Line
import Stencil.Source.Grammar.Suite
import Stencil.Text.CaseMap
import Stencil.Text.Emoji
import Stencil.Text.Words

/-!
The names of styles. A name is a row of words, each an attribute, a colour, a background behind
`on`, an attribute taken away behind `not` or an address behind `link`. Two names that ask for the
same have the same spelling; a name that breaks the rules keeps its own.
-/
namespace Stencil.Console
open Stencil.Text

private def colourNames : List String :=
  words "
black red green yellow blue magenta cyan white bright_black bright_red bright_green bright_yellow
bright_blue bright_magenta bright_cyan bright_white grey0 gray0 navy_blue dark_blue blue3 blue1
dark_green deep_sky_blue4 dodger_blue3 dodger_blue2 green4 spring_green4 turquoise4 deep_sky_blue3
dodger_blue1 green3 spring_green3 dark_cyan light_sea_green deep_sky_blue2 deep_sky_blue1
spring_green2 cyan3 dark_turquoise turquoise2 green1 spring_green1 medium_spring_green cyan2 cyan1
dark_red deep_pink4 purple4 purple3 blue_violet orange4 grey37 gray37 medium_purple4 slate_blue3
royal_blue1 chartreuse4 dark_sea_green4 pale_turquoise4 steel_blue steel_blue3 cornflower_blue
chartreuse3 cadet_blue sky_blue3 steel_blue1 pale_green3 sea_green3 aquamarine3 medium_turquoise
chartreuse2 sea_green2 sea_green1 aquamarine1 dark_slate_gray2 dark_magenta dark_violet purple
light_pink4 plum4 medium_purple3 slate_blue1 yellow4 wheat4 grey53 gray53 light_slate_grey
light_slate_gray medium_purple light_slate_blue dark_olive_green3 dark_sea_green light_sky_blue3
sky_blue2 dark_sea_green3 dark_slate_gray3 sky_blue1 chartreuse1 light_green pale_green1
dark_slate_gray1 red3 medium_violet_red magenta3 dark_orange3 indian_red hot_pink3 medium_orchid3
medium_orchid medium_purple2 dark_goldenrod light_salmon3 rosy_brown grey63 gray63 medium_purple1
gold3 dark_khaki navajo_white3 grey69 gray69 light_steel_blue3 light_steel_blue yellow3
dark_sea_green2 light_cyan3 light_sky_blue1 green_yellow dark_olive_green2 dark_sea_green1
pale_turquoise1 deep_pink3 magenta2 hot_pink2 orchid medium_orchid1 orange3 light_pink3 pink3
plum3 violet light_goldenrod3 tan misty_rose3 thistle3 plum2 khaki3 light_goldenrod2 light_yellow3
grey84 gray84 light_steel_blue1 yellow2 dark_olive_green1 honeydew2 light_cyan1 red1 deep_pink2
deep_pink1 magenta1 orange_red1 indian_red1 hot_pink dark_orange salmon1 light_coral
pale_violet_red1 orchid2 orchid1 orange1 sandy_brown light_salmon1 light_pink1 pink1 plum1 gold1
navajo_white1 misty_rose1 thistle1 yellow1 light_goldenrod1 khaki1 wheat1 cornsilk1 grey100
gray100 grey3 gray3 grey7 gray7 grey11 gray11 grey15 gray15 grey19 gray19 grey23 gray23 grey27
gray27 grey30 gray30 grey35 gray35 grey39 gray39 grey42 gray42 grey46 gray46 grey50 gray50 grey54
gray54 grey58 gray58 grey62 gray62 grey66 gray66 grey70 gray70 grey74 gray74 grey78 gray78 grey82
gray82 grey85 gray85 grey89 gray89 grey93 gray93"

/-- The attributes in the order in which they are spelled. -/
private def attributeNames : List String :=
  ["bold", "dim", "italic", "underline", "blink", "blink2", "reverse", "conceal", "strike",
    "underline2", "frame", "encircle", "overline"]

private def shortNames : List (String × String) :=
  [("b", "bold"), ("c", "conceal"), ("d", "dim"), ("i", "italic"), ("o", "overline"),
    ("r", "reverse"), ("s", "strike"), ("u", "underline"), ("uu", "underline2")]

private def attribute? (word : String) : Option String :=
  if attributeNames.contains word then some word else shortNames.lookup word

private def isHexDigit (c : Char) : Bool := c.isDigit || ('a' ≤ c && c ≤ 'f')

private def number? (cs : List Char) : Option Nat :=
  if cs.isEmpty then none
  else cs.foldlM (fun n c => (decimalValue? c).map fun d => n * 10 + d) 0

/-- What stands in brackets behind a name. -/
private def inBrackets? (name cs : List Char) : Option (List Char) :=
  (dropStart? cs name).bind fun rest =>
    if rest.getLast? == some ')' then some rest.dropLast else none

/-- Whether a word in lower case is a colour: a name, a number or three parts. -/
private def isColour (word : String) : Bool :=
  let cs := word.toList
  word == "default" || colourNames.contains word ||
    (match cs with
      | '#' :: digits => digits.length == 6 && digits.all isHexDigit
      | _ => false) ||
    (match inBrackets? "color(".toList cs with
      | some digits => digits.length ≤ 3 && digits.all Char.isDigit &&
          (number? digits).any (· ≤ 255)
      | none => false) ||
    (match inBrackets? "rgb(".toList cs with
      | some parts => (splitOnChar ',' parts).length == 3 &&
          (splitOnChar ',' parts).all fun p => (number? p).any (· ≤ 255)
      | none => false)

/-- What a name asks for. -/
private structure Style where
  attributes : List (String × Bool) := []
  colour : Option String := none
  background : Option String := none
  link : Option String := none

private def Style.put (s : Style) (name : String) (on : Bool) : Style :=
  { s with attributes := (name, on) :: s.attributes }

/-- What words ask for, if they follow the rules. -/
private def readWords (s : Style) : List String → Option Style
  | [] => some s
  | [word] =>
    let word := lower word
    match attribute? word with
    | some a => some (s.put a true)
    | none => if isColour word then some { s with colour := some word } else none
  | word :: next :: rest =>
    let word := lower word
    if word == "on" then
      if isColour (lower next) then readWords { s with background := some (lower next) } rest
      else none
    else if word == "not" then
      match attribute? next with
      | some a => readWords (s.put a false) rest
      | none => none
    else if word == "link" then readWords { s with link := some next } rest
    else match attribute? word with
      | some a => readWords (s.put a true) (next :: rest)
      | none =>
        if isColour word then readWords { s with colour := some word } (next :: rest) else none

private def Style.spelling (s : Style) : String :=
  let attributes := attributeNames.filterMap fun n =>
    (s.attributes.lookup n).map fun on => if on then n else "not " ++ n
  let parts := attributes ++ s.colour.toList ++
    ((s.background.map fun c => ["on", c]).getD []) ++ ((s.link.map fun l => ["link", l]).getD [])
  if parts.isEmpty then "none" else joinWith " " parts

/-- The spelling by which styles are compared. -/
def styleSpelling (name : String) : String :=
  if trim name == "none" then "none"
  else match readWords {} (words name) with
    | some s => s.spelling
    | none => lower (trim name)

/-!
Styled text for tables: tags in square brackets set a style and are not printed, a backslash keeps
a bracket, and names between colons stand for pictures. A closing tag needs an open one. The
parameters of a tag that names a handler are read when it closes.
-/

structure MarkupError where
  message : String
  deriving DecidableEq, Repr

/-- A piece of styled text. -/
private inductive Piece where
  | plain (cs : List Char)
  | tag (place : Nat) (name : List Char) (parameters : Option (List Char))

private def isTagStart (c : Char) : Bool := c.isLower || c == '#' || c == '/' || c == '@'

/-- The content of a tag that starts behind a bracket. -/
private def tagContent? (cs : List Char) : Option (List Char) :=
  match cs with
  | c :: rest =>
    if isTagStart c then
      let more := rest.takeWhile fun d => d != ']' && d != '['
      match rest.drop more.length with
      | ']' :: _ => some (c :: more)
      | _ => none
    else none
  | [] => none

private def tagOf (place : Nat) (content : List Char) : Piece :=
  let name := content.takeWhile (· != '=')
  match content.drop name.length with
  | _ :: parameters => .tag place name (some parameters)
  | [] => .tag place name none

/-- Cuts a text into plain pieces and tags; `plain` is collected backwards. -/
private def piecesFrom : Nat → Nat → List Char → List Char → List Piece
  | 0, _, plain, _ => [.plain plain.reverse]
  | _, _, plain, [] => if plain.isEmpty then [] else [.plain plain.reverse]
  | fuel + 1, place, plain, c :: rest =>
    let slashes := ((c :: rest).takeWhile (· == '\\')).length
    let before := if plain.isEmpty then [] else [Piece.plain plain.reverse]
    match (c :: rest).drop slashes with
    | '[' :: more =>
      match tagContent? more with
      | some content =>
        let whole := '[' :: content ++ [']']
        let next := place + slashes + whole.length
        let after := more.drop (content.length + 1)
        let kept := if slashes ≥ 2 then [Piece.plain (List.replicate (slashes / 2) '\\')] else []
        if slashes % 2 == 1 then
          before ++ kept ++ .plain whole :: piecesFrom fuel next [] after
        else
          before ++ kept ++ tagOf (place + slashes / 2 * 2) content ::
            piecesFrom fuel next [] after
      | none =>
        let taken := slashes + 1
        piecesFrom fuel (place + taken) (((c :: rest).take taken).reverse ++ plain)
          ((c :: rest).drop taken)
    | _ =>
      let taken := max 1 slashes
      piecesFrom fuel (place + taken) (((c :: rest).take taken).reverse ++ plain)
        ((c :: rest).drop taken)

/-- An open tag: the spelling of its style, and its parameters. -/
private structure OpenTag where
  style : String
  parameters : Option (List Char)

/-- Closes the innermost open tag of a style. -/
private def close? (style : String) : List OpenTag → Option (OpenTag × List OpenTag)
  | [] => none
  | t :: rest =>
    if t.style == style then some (t, rest)
    else (close? style rest).map fun (found, more) => (found, t :: more)

/-- The arguments in parameters: a handler's name may stand before them, or alone. -/
private def handlerArguments (parameters : List Char) : List Char :=
  match parameters.dropWhile fun c => isWordChar c || c == '.' with
  | [] => "()".toList
  | '(' :: rest => if rest.getLast? == some ')' then '(' :: rest else parameters
  | _ => parameters

private def checkParameters (t : OpenTag) : Except MarkupError PUnit :=
  let given := t.parameters.getD []
  if !t.style.startsWith "@" || given.isEmpty then .ok ()
  else
    let arguments := String.ofList (handlerArguments (trimBy isBlank given))
    let isGap (c : Char) : Bool := c == ' ' || c == '\t'
    match Source.Expr.read (.ofList (arguments.toList.dropWhile isGap)) with
    | .ok _ => .ok ()
    | .error f => .error ⟨"error parsing " ++ quoted arguments ++ " in " ++
        quoted (.ofList given) ++ "; " ++ f.message⟩

private def unescapeBrackets : List Char → List Char
  | '\\' :: '[' :: rest => '[' :: unescapeBrackets rest
  | c :: rest => c :: unescapeBrackets rest
  | [] => []

private def pictured (cs : List Char) : List Char := withPictures (cs.length + 1) cs

private def shownTag (name : List Char) : Option (List Char) → String
  | none => "[" ++ .ofList name ++ "]"
  | some parameters => "[" ++ .ofList name ++ "=" ++ .ofList parameters ++ "]"

private def plainFrom (stack : List OpenTag) : List Piece → Except MarkupError (List Char)
  | [] => .ok []
  | .plain cs :: rest => do return pictured (unescapeBrackets cs) ++ (← plainFrom stack rest)
  | .tag place name parameters :: rest =>
    match name with
    | '/' :: style =>
      let style := trimBy isBlank style
      if style.isEmpty then
        match stack with
        | t :: stack => do checkParameters t; plainFrom stack rest
        | [] => .error ⟨"closing tag '[/]' at position " ++ ofNat place ++
            " has nothing to close"⟩
      else
        match close? (styleSpelling (.ofList style)) stack with
        | some (t, stack) => do checkParameters t; plainFrom stack rest
        | none => .error ⟨"closing tag '" ++ shownTag name parameters ++ "' at position " ++
            ofNat place ++ " doesn't match any open tag"⟩
    | name => plainFrom (⟨styleSpelling (.ofList name), parameters⟩ :: stack) rest

/-- What a styled text prints. -/
def plainOf (s : String) : Except MarkupError (List Char) := do
  let cs := s.toList
  if !cs.contains '[' then return sanitize (pictured cs)
  return sanitize (← plainFrom [] (piecesFrom (cs.length + 1) 0 [] cs))

end Stencil.Console
