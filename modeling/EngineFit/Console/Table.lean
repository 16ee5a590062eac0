import EngineFit.Console.Markup
import EngineFit.Text.Lines

/-!
# Tables without borders

`Table.render` lays out a header row and rows of markup cells as a console table with no box
and no outer padding. Each cell is padded with a space on each side, except on the outer edges
of the table, so columns are two spaces apart.

*Widths.* A cell needs the cells of its widest line, plus its padding; a column is as wide as
the most its cells need (at least one cell), and no wider than the console. When the columns do
not fit the console together, the wrapping columns give way first: the widest of them shrink
towards the next widest until the table fits (`collapse`); if the columns that do not wrap are
too wide on their own, every column then gives up a share of the excess (`reduceBy`).

*Cells.* A cell's text is laid out in its column less the padding (`Layout`): in a wrapping
column long lines break between words, and any line still too wide ends in `…`; every line is
padded with spaces to the full width. A cell left no room inside its padding shows nothing. A
row is as high as its tallest cell, and at least one line; the cells beside it are blank below
their text, and header cells above theirs.
-/

namespace EngineFit
namespace Console

/-- A column of a table: its header, and whether long cells wrap onto more lines. -/
structure Column where
  header : String
  wrap : Bool

/-- Rounds `a / b` to the nearest integer, halves to the even one (`b > 0`). -/
def roundHalfEven (a b : Int) : Int :=
  let q := a / b
  let r := a % b
  if 2 * r > b then q + 1
  else if 2 * r < b then q
  else if q % 2 = 0 then q else q + 1

/-- Takes `total` cells off the values with a nonzero ratio, in proportion to their ratios,
none by more than its maximum. `left` is what is still to take and `weight` the sum of the
ratios not yet served. -/
def reduceAux : List (Int × Int × Int) → Int → Int → List Int
  | [], _, _ => []
  | (ratio, most, value) :: rest, left, weight =>
    if ratio ≠ 0 ∧ left > 0 then
      let share := min most (roundHalfEven (ratio * left) weight)
      (value - share) :: reduceAux rest (left - share) (weight - ratio)
    else value :: reduceAux rest left weight

/-- Takes `total` cells off `values` in proportion to `ratios`, each value losing no more than
its entry of `maximums`; a value whose maximum is zero keeps its cells. -/
def reduceBy (total : Int) (ratios maximums values : List Int) : List Int :=
  let ratios := (ratios.zip maximums).map fun (r, m) => if m = 0 then 0 else r
  let weight := ratios.foldl (· + ·) 0
  if weight = 0 then values
  else reduceAux (ratios.zip (maximums.zip values)) total weight

/-- Sum of a list of widths. -/
def sumWidths (widths : List Int) : Int :=
  widths.foldl (· + ·) 0

/-- Shrinks the widest wrapping columns towards the next widest until the widths fit `limit`,
at most `fuel` rounds. -/
def collapseAux (wraps : List Bool) (limit : Int) : Nat → List Int → List Int
  | 0, widths => widths
  | fuel + 1, widths =>
    let excess := sumWidths widths - limit
    if sumWidths widths = 0 ∨ excess ≤ 0 then widths
    else
      let pairs := widths.zip wraps
      let widest := pairs.foldl (fun m (w, b) => if b then max m w else m) 0
      let next := pairs.foldl (fun m (w, b) => if b ∧ w ≠ widest then max m w else m) 0
      let ratios := pairs.map fun (w, b) => if b ∧ w = widest then (1 : Int) else 0
      if ratios.all (· = 0) ∨ widest = next then widths
      else
        let cut := min excess (widest - next)
        collapseAux wraps limit fuel (reduceBy excess ratios (widths.map fun _ => cut) widths)

/-- Widths that fit `limit` by shrinking the wrapping columns. Each round takes at least one
cell, so the total width bounds the rounds. -/
def collapse (widths : List Int) (wraps : List Bool) (limit : Int) : List Int :=
  if wraps.any id then collapseAux wraps limit (sumWidths widths).toNat widths else widths

/-- The padding of column `j` of `count`: a space on each side but the outer ones. -/
def padding (count j : Nat) : Nat × Nat :=
  (if j = 0 then 0 else 1, if j + 1 = count then 0 else 1)

/-- The cells that a text needs, within `limit`: its widest line, or none. -/
def textNeeds (limit : Int) (text : List Char) : Int :=
  if limit < 1 then 0
  else
    let widest := (Text.linesOf text []).foldl (fun m l => max m (cells l)) 0
    let w := min (max 0 widest) limit
    if w < 1 then 0 else w

/-- The cells that a padded text needs, within `limit`. -/
def cellNeeds (limit : Int) (pad : Nat × Nat) (text : List Char) : Int :=
  if limit < 1 then 0
  else
    let extra : Int := pad.1 + pad.2
    let w := if limit - extra < 1 then limit else min (textNeeds limit text + extra) limit
    let w := min (max 0 w) limit
    if w < 1 then 0 else w

/-- The width a column needs within `limit`: the most that one of its cells needs. -/
def columnNeeds (limit : Int) (pad : Nat × Nat) (texts : List (List Char)) : Int :=
  if limit < 1 then 0
  else min (texts.foldl (fun m t => max m (cellNeeds limit pad t)) 0) limit

/-- The widths of the columns, given the texts of each column and the console width. -/
def columnWidths (wraps : List Bool) (columns : List (List (List Char))) (limit : Int) :
    List Int :=
  let count := columns.length
  let pads := (List.range count).map (padding count)
  let needs := (pads.zip columns).map fun (p, texts) => columnNeeds limit p texts
  let widths := needs.map fun w => if w = 0 then 1 else w
  if sumWidths widths ≤ limit then widths
  else
    let widths := collapse widths wraps limit
    let widths :=
      if sumWidths widths > limit then
        reduceBy (sumWidths widths - limit) (widths.map fun _ => 1) widths widths
      else widths
    ((pads.zip columns).zip widths).map fun ((p, texts), w) => columnNeeds (max 0 w) p texts

/-- The lines of a cell of width `width`, padded by `pad`, each as its runs of text: the left
padding, the text, the spaces that fill it out, the right padding. A cell with no room for text
inside its padding has no lines at all. -/
def cellLines (width : Int) (pad : Nat × Nat) (wrap : Bool) (text : List Char) :
    List (List (List Char)) :=
  let inner := width - pad.1 - pad.2
  if inner < 1 then []
  else
    let layout : Layout := { width := inner.toNat, overflow := .ellipsis, pad := true, wrap }
    (layout.text text).map fun l =>
      let n := cells l
      let body := if n > inner then [fitCells l inner] else [l, spaces (inner - n)]
      [spaces pad.1] ++ body ++ [spaces pad.2]

/-- A cell's lines brought to `height`, blank lines of `width` added below (or above, for a
header). -/
def alignCell (width : Int) (height : Nat) (header : Bool) (lines : List (List (List Char))) :
    List (List (List Char)) :=
  let blank := List.replicate (height - lines.length) [spaces width]
  if header then blank ++ lines else lines ++ blank

/-- The lines of one row, each as its runs of text, given the lines of its cells. -/
def rowLines (cells : List (List (List (List Char)))) : List (List (List Char)) :=
  let height := cells.foldl (fun h c => max h c.length) 1
  (List.range height).map fun i => (cells.map fun c => c.getD i []).flatten

/-- A table's text: the header row, then the rows, each line ending with a line break and cut
to the console width. Cells are read column by column, each header first, so the first cell
with unprintable markup in that order is the one reported. -/
def Table.render (columns : List Column) (rows : List (List String)) :
    Except MarkupError String := do
  let count := columns.length
  let byColumn ← (List.range count).mapM fun j =>
    ((columns.map (·.header)).getD j "" :: rows.map (·.getD j "")).mapM fun cell =>
      (Console.render cell).map sanitized
  let texts := (List.range (rows.length + 1)).map fun i => byColumn.map (·.getD i [])
  let wraps := columns.map (·.wrap)
  let widths := columnWidths wraps byColumn consoleWidth
  let layoutRow (header : Bool) (row : List (List Char)) : List (List (List Char)) :=
    let cells := (List.range count).map fun j =>
      cellLines (widths.getD j 0) (padding count j) (wraps.getD j false) (row.getD j [])
    let height := cells.foldl (fun h c => max h c.length) 1
    rowLines ((cells.zip widths).map fun (c, w) => alignCell w height header c)
  let lines := match texts with
    | [] => []
    | head :: body => layoutRow true head ++ body.flatMap (layoutRow false)
  pure (String.join (lines.map fun l => String.ofList (fitRuns consoleWidth l) ++ "\n"))

end Console
end EngineFit
