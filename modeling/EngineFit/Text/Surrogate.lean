/-!
# Texts with lone surrogates

A text here is a sequence of code points, any of U+0000 to U+10FFFF, and it may hold a UTF-16
surrogate code (U+D800 to U+DFFF) that no pair completes: JSON joins an escaped high surrogate
with an escaped low surrogate that follows it, and leaves any other surrogate alone; YAML joins
none. A `Char` cannot be a surrogate, so a text is held in a `String` by a code that is one to
one:

* the surrogate `0xD800 + k` is the one character U+10F800 + k (its *stand-in*);
* a code point from U+10F7FF on, the top of the last private-use block, is two characters: the
  *pair mark* U+10F7FF, then the code point less `0x1000`;
* every other code point is its own character.

`spell` writes a code point so, and `codesOf` reads the code points back. The code keeps the
order of code points within each of the three groups; lengths and positions are counted on the
code points (`codeLength`), and writers work on them (`codes`).
-/

namespace EngineFit
namespace Text

/-- The first stand-in character, the one for U+D800. -/
def surrogateBase : Nat := 0x10F800

/-- The code point of the pair mark, which opens the two characters of a code point from it
on. -/
def pairMarkCode : Nat := 0x10F7FF

/-- The pair mark. -/
def pairMark : Char := Char.ofNat pairMarkCode

/-- How far below its code point the second character of a pair lies. -/
def pairShift : Nat := 0x1000

/-- Whether a code point is a UTF-16 surrogate. -/
def isSurrogateCode (n : Nat) : Bool := 0xD800 ≤ n && n ≤ 0xDFFF

/-- Whether a character is the stand-in of a surrogate. -/
def isStandIn (c : Char) : Bool := surrogateBase ≤ c.toNat

/-- The characters that hold a code point. -/
def spell (n : Nat) : List Char :=
  if isSurrogateCode n then [Char.ofNat (surrogateBase + (n - 0xD800))]
  else if pairMarkCode ≤ n then [pairMark, Char.ofNat (n - pairShift)]
  else [Char.ofNat n]

/-- A text with one more code point at its end. -/
def pushCode (s : String) (n : Nat) : String :=
  (spell n).foldl String.push s

/-- Characters read from outside, held as code points: each is spelled. -/
def holdChars (cs : List Char) : List Char :=
  cs.flatMap fun c => spell c.toNat

/-- A text read from outside, held as code points. -/
def hold (s : String) : String :=
  String.ofList (holdChars s.toList)

/-- The code point of a character that stands alone: a stand-in gives its surrogate. -/
def singleCode (c : Char) : Nat :=
  if isStandIn c then c.toNat - surrogateBase + 0xD800 else c.toNat

/-- The code points that characters hold. -/
def codesOf : List Char → List Nat
  | [] => []
  | [c] => [singleCode c]
  | c :: d :: rest =>
    if c = pairMark then (d.toNat + pairShift) :: codesOf rest
    else singleCode c :: codesOf (d :: rest)

/-- The code points of a text. -/
def codes (s : String) : List Nat := codesOf s.toList

/-- A text as plain characters for the outside, each surrogate shown as the replacement
character U+FFFD. -/
def release (s : String) : String :=
  String.ofList ((codes s).map fun n => if isSurrogateCode n then '\uFFFD' else Char.ofNat n)

/-- The number of code points of a text. -/
def codeLength (s : String) : Nat := (codes s).length

/-- The first code point of characters, and the characters after it. -/
def firstCode? : List Char → Option (Nat × List Char)
  | [] => none
  | [c] => some (singleCode c, [])
  | c :: d :: rest =>
    if c = pairMark then some (d.toNat + pairShift, rest) else some (singleCode c, d :: rest)

/-- The first `n` code points of characters, a pair kept whole. -/
def takeCodes : Nat → List Char → List Char
  | 0, _ => []
  | _, [] => []
  | _ + 1, [c] => [c]
  | n + 1, c :: d :: rest =>
    if c = pairMark then c :: d :: takeCodes n rest else c :: takeCodes n (d :: rest)

/-- Whether one text comes before another in the order of their code points. -/
def codesLt (a b : String) : Bool :=
  let rec go : List Nat → List Nat → Bool
    | [], [] => false
    | [], _ :: _ => true
    | _ :: _, [] => false
    | x :: xs, y :: ys => x < y || (x = y && go xs ys)
  go (codes a) (codes b)

end Text
end EngineFit
