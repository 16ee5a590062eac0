import EngineFit.Text.Blank

/-!
# Lines of a text

A text is cut into lines at every line boundary: line feed, carriage return, the pair carriage
return and line feed (one boundary), vertical tab, form feed, the separators `\x1c`-`\x1e`,
next line `\x85`, and the Unicode line and paragraph separators. The boundaries themselves
are dropped. A boundary at the very end opens no further line, so `"a\n"` has one line and the
empty text none.
-/

namespace EngineFit
namespace Text

/-- Whether `c` ends a line. -/
def isLineBreak (c : Char) : Bool :=
  c = '\n' || c = '\r' || c = '\x0b' || c = '\x0c' || c = '\x1c' || c = '\x1d' ||
    c = '\x1e' || c = '\x85' || c = '\u2028' || c = '\u2029'

/-- The lines of `cs`, the characters of the current line collected in reverse in `acc`. -/
def linesOf : List Char → List Char → List (List Char)
  | [], acc => if acc.isEmpty then [] else [acc.reverse]
  | '\r' :: '\n' :: cs, acc => acc.reverse :: linesOf cs []
  | c :: cs, acc => if isLineBreak c then acc.reverse :: linesOf cs [] else linesOf cs (c :: acc)

/-- The lines of a text, without their boundaries. -/
def lines (s : String) : List String :=
  (linesOf s.toList []).map String.ofList

end Text
end EngineFit
