import Stencil.Console.Markup

/-!
A table of two columns, the item and its value, under a title. The item column keeps its lines
whole; the value column wraps between words. Where the table is wider than the screen, values
give way first. What does not fit ends in an ellipsis.
-/
namespace Stencil.Console
open Stencil.Text

def screenWidth : Nat := 80

/-- Columns that borders take. -/
private def borderWidth : Nat := 3

/-- Columns that the blanks around a cell take. -/
private def paddingWidth : Nat := 2

/-! Fitting lines. -/

/-- Cuts a line that is too wide and ends it in an ellipsis; fills up one that is too narrow. -/
private def fitLine (width : Nat) (line : List Char) : List Char :=
  if cellLength line > width then fitCells (width - 1) line ++ ['…'] else fitCells width line

/-- Drops white space at the end, as far as the line is too long. -/
private def cropEnd (width : Nat) (line : List Char) : List Char :=
  let blanks := (line.reverse.takeWhile isBlank).length
  line.take (line.length - min blanks (line.length - width))

/-- A word with the white space around it. -/
private def wordPieces : Nat → List Char → List (List Char)
  | 0, _ => []
  | fuel + 1, cs =>
    let before := cs.takeWhile isBlank
    let word := (cs.drop before.length).takeWhile fun c => !isBlank c
    if word.isEmpty then []
    else
      let rest := cs.drop (before.length + word.length)
      let after := rest.takeWhile isBlank
      (before ++ word ++ after) :: wordPieces fuel (rest.drop after.length)

/-- Where a line is cut so that its parts fit; words that are too long are cut when `fold` is
set. -/
private def cutsFrom (width : Nat) (fold : Bool) (start used : Nat) :
    List (List Char) → List Nat
  | [] => []
  | word :: rest =>
    let size := cellLength (trimRightBy isBlank word)
    let next := start + word.length
    if used + size ≤ width then cutsFrom width fold next (used + cellLength word) rest
    else if size > width then
      if fold then
        let parts := chopCells width word
        let starts := (parts.dropLast.foldl (fun (places : List Nat) part =>
          places ++ [(places.getLast?).getD start + part.length]) [start])
        let lastWidth := cellLength (parts.getLast?.getD [])
        (starts.filter (· > 0)) ++ cutsFrom width fold next lastWidth rest
      else
        (if start > 0 then [start] else []) ++
          cutsFrom width fold next (cellLength word) rest
    else if used > 0 && start > 0 then
      start :: cutsFrom width fold next (cellLength word) rest
    else cutsFrom width fold next used rest

private def cutAtPlaces (line : List Char) (from_ : Nat) : List Nat → List (List Char)
  | [] => [line]
  | place :: rest => line.take (place - from_) :: cutAtPlaces (line.drop (place - from_)) place rest

private def wrapLine (width : Nat) (fold : Bool) (line : List Char) : List (List Char) :=
  cutAtPlaces line 0 (cutsFrom width fold 0 0 (wordPieces (line.length + 1) line))

/-- The lines of a cell, each of the given width. -/
private def cellLines (width : Nat) (wraps : Bool) (cs : List Char) : List (List Char) :=
  (splitOnChar '\n' cs).flatMap fun line =>
    let line := expandTabs line
    let parts := if wraps then wrapLine width false line else [line]
    parts.map fun part => fitLine width (cropEnd width part)

/-! Widths. -/

private def widest (ls : List (List Char)) : Nat := (ls.map cellLength).foldl max 0

/-- The width a cell asks for, blanks around it included. -/
private def askedWidth (room : Nat) (cs : List Char) : Nat :=
  if room < paddingWidth + 1 then room
  else
    let content := min room (widest (lines false cs))
    min room (content + paddingWidth)

private def columnWidth (room : Nat) (cells : List (List Char)) : Nat :=
  if room == 0 then 0 else (cells.map (askedWidth room)).foldl max 0

/-- The widths of the two columns within the screen. -/
private def columnWidths (items values : List (List Char)) : Nat × Nat :=
  let room := screenWidth - borderWidth
  let item := max 1 (columnWidth room items)
  let value := max 1 (columnWidth room values)
  if item + value ≤ room then (item, value)
  else
    let value := value - (item + value - room)
    let item := item - (item + value - room)
    (columnWidth item items, columnWidth value values)

/-! Drawing. -/

private def rule (left fill middle right : Char) (widths : Nat × Nat) : String :=
  .ofList (left :: List.replicate widths.1 fill ++ middle ::
    List.replicate widths.2 fill ++ [right]) ++ "\n"

/-- The lines of a cell with blanks around them. -/
private def paddedLines (width : Nat) (wraps : Bool) (cs : List Char) : List (List Char) :=
  if width ≤ paddingWidth then []
  else (cellLines (width - paddingWidth) wraps cs).map fun l => ' ' :: l ++ [' ']

private def rowText (bar : Char) (widths : Nat × Nat) (item value : List Char) : String :=
  let left := paddedLines widths.1 false item
  let right := paddedLines widths.2 true value
  let at_ (ls : List (List Char)) (width i : Nat) := (ls[i]?).getD (List.replicate width ' ')
  joinWith "" ((List.range (max 1 (max left.length right.length))).map fun i =>
    .ofList (bar :: at_ left widths.1 i ++ bar :: at_ right widths.2 i ++ [bar]) ++ "\n")

private def centred (width : Nat) (line : List Char) : List Char :=
  let line := trimRightBy isBlank line
  let line := if cellLength line > width then fitCells width line else line
  let left := (width - cellLength line) / 2
  fitCells width (List.replicate left ' ' ++ line)

private def titleText (width : Nat) (cs : List Char) : String :=
  joinWith "" ((splitOnChar '\n' cs).flatMap fun line =>
    (wrapLine width true (expandTabs line)).map fun part =>
      String.ofList (centred width (cropEnd width part)) ++ "\n")

/-- Draws a table. -/
def table (title : String) (rows : List (String × String)) : Except MarkupError String := do
  let items ← rows.mapM fun r => plainOf r.1
  let values ← rows.mapM fun r => plainOf r.2
  let head := "Item".toList
  let headValue := "Value".toList
  let widths := columnWidths (head :: items) (headValue :: values)
  let total := widths.1 + widths.2 + borderWidth
  let titleLines ← if title == "" then pure "" else (titleText total) <$> plainOf title
  let body := (items.zip values).map fun (i, v) => rowText '│' widths i v
  return titleLines ++ rule '┏' '━' '┳' '┓' widths ++ rowText '┃' widths head headValue ++
    rule '┡' '━' '╇' '┩' widths ++ joinWith "" body ++ rule '└' '─' '┴' '┘' widths

end Stencil.Console
