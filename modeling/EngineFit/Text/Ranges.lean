/-!
# Sets of code points as sorted intervals

The character classes of the library (decimal digits, blanks, cased letters, printable
characters, display widths) are data of the Unicode standard. Each is kept as an array of
sorted, disjoint closed intervals, written in the source as one compact text of hexadecimal
bounds (`"30-39 660-669 b2"`), so that a table of hundreds of intervals is a single literal.
Membership is a binary search over the intervals.
-/

namespace EngineFit
namespace Text

/-- Value of one hexadecimal digit, either case. -/
def hexDigit? (c : Char) : Option Nat :=
  if '0' ≤ c ∧ c ≤ '9' then some (c.toNat - '0'.toNat)
  else if 'a' ≤ c ∧ c ≤ 'f' then some (c.toNat - 'a'.toNat + 10)
  else if 'A' ≤ c ∧ c ≤ 'F' then some (c.toNat - 'A'.toNat + 10)
  else none

/-- Value of a nonempty run of hexadecimal digits. -/
def hexNat? (cs : List Char) : Option Nat :=
  match cs with
  | [] => none
  | _ => cs.foldlM (fun acc c => (hexDigit? c).map (acc * 16 + ·)) 0

/-- A set of code points: sorted, disjoint closed intervals `[lo, hi]`. -/
structure Ranges where
  spans : Array (Nat × Nat)

namespace Ranges

/-- One item of a table text: `lo-hi`, or a single code point. -/
def parseItem (item : String) : Option (Nat × Nat) :=
  match item.splitOn "-" with
  | [a] => (hexNat? a.toList).map fun n => (n, n)
  | [a, b] => do
      let lo ← hexNat? a.toList
      let hi ← hexNat? b.toList
      pure (lo, hi)
  | _ => none

/-- Reads a table text of blank-separated items. -/
def parse (text : String) : Ranges :=
  ⟨((text.splitOn " ").filterMap parseItem).toArray⟩

/-- Index of the interval that contains `c`, searched in `[lo, hi)`. -/
def findIn (spans : Array (Nat × Nat)) (c : Nat) (lo hi : Nat) : Option Nat :=
  if _h : lo < hi then
    let mid := (lo + hi) / 2
    match spans[mid]? with
    | none => none
    | some (a, b) =>
      if c < a then findIn spans c lo mid
      else if b < c then findIn spans c (mid + 1) hi
      else some mid
  else none
termination_by hi - lo

/-- Index of the interval that holds `c`, if any. -/
def find? (t : Ranges) (c : Nat) : Option Nat :=
  findIn t.spans c 0 t.spans.size

/-- Whether the code point `c` lies in the set. -/
def contains (t : Ranges) (c : Nat) : Bool :=
  (t.find? c).isSome

end Ranges

end Text
end EngineFit
