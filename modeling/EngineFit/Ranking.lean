import EngineFit.Manifest.Basic
import EngineFit.Sorting.Adaptive

/-!
# Choosing and ordering engines

The chosen engine is a stable engine with a positive score, the highest such score, and of
engines with equal scores the first. Devel engines are never chosen, whatever their score.

For listing, engines are ordered by score, highest first; at equal score stable engines come
before devel ones, and otherwise the input order is kept. Scores are any numbers, NaN
included, so the listing uses `Sorting.adaptiveMergeSort`, whose steps are all fixed: with NaN the
order of comparisons decides the result.
-/

namespace EngineFit

/-- No stable engine has a positive score. -/
structure NoCompatibleEngine where
deriving Inhabited

/-- The wording of that error. -/
def NoCompatibleEngine.message (_ : NoCompatibleEngine) : String :=
  "no compatible engines found"

/-- Whether an engine can be chosen: stable, with a positive score. -/
def Scored.selectable (s : Scored) : Bool :=
  s.score.positive && s.manifest.isStable

/-- The first engine of highest score among `xs`, starting from `best`. -/
def firstBest (best : Scored) : List Scored → Scored
  | [] => best
  | x :: xs => if best.score.lt x.score then firstBest x xs else firstBest best xs

/-- The chosen engine. -/
def topEngine (xs : List Scored) : Except NoCompatibleEngine Scored :=
  match xs.filter Scored.selectable with
  | [] => .error ⟨⟩
  | c :: cs => .ok (firstBest c cs)

/-- Whether `a` stands strictly before `b` in a listing. The sort key is the pair (negated
score, devel), compared as pairs are: by the second part when the first parts are equal, and
otherwise by whether the first part is below. A NaN score is equal to nothing and below
nothing, so it stands before or after nothing. -/
def listedBefore (a b : Scored) : Bool :=
  if a.score.neg.eq b.score.neg then a.manifest.isStable && !b.manifest.isStable
  else a.score.neg.lt b.score.neg

/-- Engines in listing order. The sort reads its array only within bounds; the first engine
stands as the default read that never happens. -/
def displayOrder : List Scored → List Scored
  | [] => []
  | x :: rest =>
    letI : Inhabited Scored := ⟨x⟩
    (Sorting.adaptiveMergeSort listedBefore (x :: rest).toArray).toList

end EngineFit
