import EngineFit.Text.Width
import EngineFit.Text.Blank

/-!
# Fitting text to a width

A console gives each line of text a number of cells. A line that does not fit is broken between
words: a word is a run of non-blank characters with the blanks after it (the first word also
takes the blanks before it), and a break falls before each word that would overrun what is left
of the line. A word wider than a whole line is settled by the overflow rule: `fold` cuts it
across lines a character at a time, `ellipsis` leaves it whole on a line of its own and ends the
line with `…` where it runs out, `ignore` keeps every line as it is.

Before a line is broken, its tabs become spaces up to the next multiple of eight cells. After
it, blanks that run past the width are dropped from the end of each piece, and pieces wider than
the width are cut (`fitCells`).

Widths are counted with `Text.cellLength`, so they are integers: joiners count below zero.
-/

namespace EngineFit
namespace Console

/-- What becomes of text too wide for its line. -/
inductive Overflow where
  /-- Long words are cut across lines, and long lines are cropped. -/
  | fold
  /-- Long words stay whole, and a long line ends in an ellipsis. -/
  | ellipsis
  /-- Lines stay as they are. -/
  | ignore
  deriving DecidableEq, Repr

/-- Cells taken by a run of characters. -/
def cells (cs : List Char) : Int :=
  Text.cellLength cs

/-- `n` spaces. -/
def spaces (n : Int) : List Char :=
  List.replicate n.toNat ' '

/-- The words of a line. `acc` holds the word being read, reversed; `core` tells whether it has
reached its non-blank characters and `tail` whether the blanks after them have begun. -/
def wordsAux : List Char → List Char → Bool → Bool → List (List Char)
  | [], acc, core, _ => if core then [acc.reverse] else []
  | c :: cs, acc, core, tail =>
    if Text.isBlank c then wordsAux cs (c :: acc) core core
    else if tail then acc.reverse :: wordsAux cs [c] true false
    else wordsAux cs (c :: acc) true false

/-- The words of a line, each with the offset at which it starts. A line of blanks alone has
none. -/
def wordsAt (cs : List Char) : List (Nat × List Char) :=
  let ws := wordsAux cs [] false false
  (ws.foldl (fun (acc : List (Nat × List Char) × Nat) w => ((acc.2, w) :: acc.1, acc.2 + w.length))
    ([], 0)).1.reverse

/-- Cuts `cs` into pieces of at most `width` cells, a code point at a time, given the reversed
piece so far and its cells. A code point that does not fit starts the next piece, even when the
current one is empty. -/
def chopAux (width : Int) : List Char → List Char → Int → List (List Char)
  | [], piece, _ => [piece.reverse]
  | [c], piece, total =>
    let w := cells [c]
    if total + w > width then [piece.reverse, [c]] else [(c :: piece).reverse]
  | c :: d :: cs, piece, total =>
    if c = Text.pairMark then
      let w := cells [d]
      if total + w > width then piece.reverse :: chopAux width cs [d, c] w
      else chopAux width cs (d :: c :: piece) (total + w)
    else
      let w := cells [c]
      if total + w > width then piece.reverse :: chopAux width (d :: cs) [c] w
      else chopAux width (d :: cs) (c :: piece) (total + w)

/-- Cuts a word into pieces of at most `width` cells. -/
def chopCells (width : Int) (cs : List Char) : List (List Char) :=
  chopAux width cs [] 0

/-- Breaks before the pieces of a cut word starting at `start`, and the cells of its last piece. -/
def pieceBreaks : Nat → List (List Char) → List Nat × Int
  | _, [] => ([], 0)
  | start, [p] => (if start = 0 then [] else [start], cells p)
  | start, p :: q :: ps =>
    let (rest, last) := pieceBreaks (start + p.length) (q :: ps)
    ((if start = 0 then [] else [start]) ++ rest, last)

/-- The offsets at which a line is broken to fit `width` cells, given its words and the cells
already used on the current line. -/
def breakOffsets (width : Int) (fold : Bool) : List (Nat × List Char) → Int → List Nat
  | [], _ => []
  | (start, word) :: rest, used =>
    let wordCells := cells (Text.dropBlanks word.reverse).reverse
    if width - used ≥ wordCells then breakOffsets width fold rest (used + cells word)
    else if wordCells > width then
      if fold then
        let (breaks, last) := pieceBreaks start (chopCells width word)
        breaks ++ breakOffsets width fold rest last
      else (if start = 0 then [] else [start]) ++ breakOffsets width fold rest (cells word)
    else if used ≠ 0 ∧ start ≠ 0 then start :: breakOffsets width fold rest (cells word)
    else breakOffsets width fold rest used

/-- Cuts `cs` at increasing offsets, the first piece starting at `pos`. -/
def divideAt (cs : List Char) : Nat → List Nat → List (List Char)
  | pos, [] => [cs.drop pos]
  | pos, o :: os => ((cs.drop pos).take (o - pos)) :: divideAt cs o os

/-- Looks for the longest prefix of `cs` of `total` cells between `start` and `stop` code
points, halving the range at each step; a prefix that overshoots by a wide last character ends
in a space instead. -/
def fitSearch (cs : List Char) (total : Int) : Nat → Nat → Nat → List Char
  | 0, _, _ => cs.take 0
  | fuel + 1, start, stop =>
    let pos := (start + stop) / 2
    let before := Text.takeCodes (pos + 1) cs
    let n := cells before
    if n = total + 1 ∧ cells [before.getLastD ' '] = 2 then before.dropLast ++ [' ']
    else if n = total then before
    else if n > total then fitSearch cs total fuel start pos
    else fitSearch cs total fuel pos stop

/-- `cs` cut or padded with spaces to `total` cells. -/
def fitCells (cs : List Char) (total : Int) : List Char :=
  if total ≤ 0 then []
  else
    let n := cells cs
    if n = total then cs
    else if n < total then cs ++ spaces (total - n)
    else fitSearch cs total 64 0 (Text.codesOf cs).length

/-- A line cut to `width` cells by the overflow rule, and padded to it when `pad` holds. -/
def truncate (width : Int) (overflow : Overflow) (pad : Bool) (cs : List Char) : List Char :=
  let n := cells cs
  let cut :=
    if n ≤ width then cs
    else match overflow with
      | .fold => fitCells cs width
      | .ellipsis => fitCells cs (width - 1) ++ ['…']
      | .ignore => cs
  if pad ∧ n < width ∧ overflow ≠ .ignore then cut ++ spaces (width - n) else cut

/-- Drops blanks from the end of a line that has more than `size` code points, no more than the
excess. -/
def rstripEnd (size : Int) (cs : List Char) : List Char :=
  let length := (Text.codesOf cs).length
  if (length : Int) > size then
    let excess := ((length : Int) - size).toNat
    let blanks := (cs.reverse.takeWhile Text.isBlank).length
    cs.take (cs.length - min blanks excess)
  else cs

/-- Expands the tabs of a line, `piece` being the reversed text since the last tab and `pos` the
cells before it: a tab becomes a space, and the piece it ends is padded with spaces to the next
multiple of eight cells. -/
def expandTabsAux : List Char → List Char → Int → List Char
  | [], piece, _ => piece.reverse
  | c :: cs, piece, pos =>
    if c = '\t' then
      let done := (' ' :: piece).reverse
      let pos := pos + cells done
      let pad := if pos % 8 = 0 then 0 else 8 - pos % 8
      done ++ spaces pad ++ expandTabsAux cs [] (pos + pad)
    else expandTabsAux cs (c :: piece) pos

/-- A line with its tabs expanded. -/
def expandTabs (cs : List Char) : List Char :=
  if cs.contains '\t' then expandTabsAux cs [] 0 else cs

/-- How text is laid out: the cells of a line, the overflow rule, whether short lines are padded
to the width, and whether long lines are broken between words. -/
structure Layout where
  width : Nat
  overflow : Overflow
  pad : Bool
  wrap : Bool

/-- The console lines of one line of text. -/
def Layout.lines (l : Layout) (line : List Char) : List (List Char) :=
  let line := expandTabs line
  let width : Int := l.width
  let pieces :=
    if l.wrap ∧ l.overflow ≠ .ignore then
      divideAt line 0 (breakOffsets width (l.overflow = .fold) (wordsAt line) 0)
    else [line]
  pieces.map fun p =>
    let p := rstripEnd width p
    let p := if l.pad then truncate width l.overflow true p else p
    truncate width l.overflow false p

/-- The console lines of a text, its line breaks kept. -/
def Layout.text (l : Layout) (cs : List Char) : List (List Char) :=
  (cs.splitOn '\n').flatMap l.lines

/-- A line cut to `width` cells, or padded to them when `pad` holds. -/
def adjustLine (width : Int) (pad : Bool) (cs : List Char) : List Char :=
  let n := cells cs
  if n < width then (if pad then cs ++ spaces (width - n) else cs)
  else if n > width then fitCells cs width
  else cs

/-- Runs of text laid end to end and cut at `width` cells, `used` being the cells before them:
runs are kept whole while they end before the width, and the run that reaches it is cut to what
is left, the rest dropped. -/
def cropRuns (width : Int) : List (List Char) → Int → List Char
  | [], _ => []
  | run :: rest, used =>
    let n := cells run
    if used + n < width then run ++ cropRuns width rest (used + n)
    else fitCells run (width - used)

/-- A line made of runs of text, cut to `width` cells when it is wider. -/
def fitRuns (width : Int) (runs : List (List Char)) : List Char :=
  if cells runs.flatten > width then cropRuns width runs 0 else runs.flatten

end Console
end EngineFit
