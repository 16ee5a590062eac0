import EngineFit.Text.Ranges

/-!
# Blank characters

The blanks are the characters with the Unicode white-space property together with the four
information separators `\x1c`-`\x1f`. Stripping removes them from both ends; splitting into
words cuts at every run of them.
-/

namespace EngineFit
namespace Text

/-- The blank characters, as intervals. -/
def blankRanges : Ranges :=
  ⟨#[(0x9, 0xd), (0x1c, 0x20), (0x85, 0x85), (0xa0, 0xa0), (0x1680, 0x1680),
     (0x2000, 0x200a), (0x2028, 0x2029), (0x202f, 0x202f), (0x205f, 0x205f),
     (0x3000, 0x3000)]⟩

/-- Whether `c` is a blank. -/
def isBlank (c : Char) : Bool :=
  blankRanges.contains c.toNat

/-- Drops blanks from the front of a character list. -/
def dropBlanks (cs : List Char) : List Char :=
  cs.dropWhile isBlank

/-- Removes blanks from both ends. -/
def strip (s : String) : String :=
  String.ofList (dropBlanks (dropBlanks s.toList).reverse).reverse

/-- Removes blanks from the front. -/
def stripStart (s : String) : String :=
  String.ofList (dropBlanks s.toList)

/-- Removes blanks from the end. -/
def stripEnd (s : String) : String :=
  String.ofList (dropBlanks s.toList.reverse).reverse

/-- The maximal runs of non-blank characters, in order. -/
def wordsOf : List Char → List Char → List (List Char)
  | [], acc => if acc.isEmpty then [] else [acc.reverse]
  | c :: cs, acc =>
    if isBlank c then
      if acc.isEmpty then wordsOf cs [] else acc.reverse :: wordsOf cs []
    else wordsOf cs (c :: acc)

/-- Splits at runs of blanks and drops empty pieces. -/
def words (s : String) : List String :=
  (wordsOf s.toList []).map String.ofList

end Text
end EngineFit
