import EngineFit.Sorting.Gallop

/-!
# Merging two neighbouring runs

`mergeLow` and `mergeHigh` merge a run `a` with the run `b` that follows it, both sorted by `lt`,
into one run that keeps items that are not before one another in their order. `mergeLow` works
from the front and suits a shorter `a`; `mergeHigh` works from the back and suits a shorter `b`.
Both start knowing that the first item of `b` goes before the first of `a`, and that the last
item of `a` goes after the last of `b` (the caller has trimmed what is already in place).

A merge takes one item at a time, comparing the heads of the two runs, until one run has won
`threshold` times in a row. It then gallops (`gallopRight`, `gallopLeft`): it finds how many
items of each run in turn go before the next item of the other, and moves them at once. The
threshold falls by one at each round of galloping and rises by one on leaving it, so that runs
which often win in long streaks start galloping sooner; it is carried from one merge to the
next.

A merge also ends early: when one item of `a` is left in `mergeLow` it goes last, when one item
of `b` is left in `mergeHigh` it goes first, and when a run is used up the other is left as it
stands. With an order where some items are before or after nothing, these steps decide the
result, so they are followed exactly.
-/

namespace EngineFit
namespace Sorting

/-- How many items in a row one run must win, in a round of galloping, to keep galloping. -/
def gallopStreak : Nat := 7

/-- How a merge is taking items: one at a time, with the current streaks of wins of `a` and of
`b`, or by galloping. -/
inductive Pace where
  | oneByOne (aWins bWins : Nat)
  | galloping

/-- A galloping threshold lowered by one, but not below one. -/
def lowered (threshold : Nat) : Nat :=
  if threshold > 1 then threshold - 1 else threshold

section Low

variable [Inhabited α] (lt : α → α → Bool) (a b : Array α)

/-- The merge from the front is done: what has been taken, then the rest of `a`, then the rest
of `b` (one of them is empty). -/
def lowDone (i j : Nat) (out : Array α) : Array α :=
  out ++ a.extract i a.size ++ b.extract j b.size

/-- One item of `a` is left: it goes after the rest of `b`. -/
def lowLastOfA (i j : Nat) (out : Array α) : Array α :=
  out ++ b.extract j b.size ++ a.extract i a.size

/-- The merge from the front, from item `i` of `a` and item `j` of `b`, with `out` taken so far
and the galloping threshold `threshold`. Every step takes at least one item, so `fuel` of
`a.size + b.size` suffices. -/
def mergeLowFrom : Nat → Pace → Nat → Nat → Array α → Nat → Array α × Nat
  | 0, _, i, j, out, threshold => (lowDone a b i j out, threshold)
  | fuel + 1, .oneByOne aWins bWins, i, j, out, threshold =>
    if lt b[j]! a[i]! then
      let out := out.push b[j]!
      let j := j + 1
      if b.size - j = 0 then (lowDone a b i j out, threshold)
      else if bWins + 1 ≥ threshold then mergeLowFrom fuel .galloping i j out (threshold + 1)
      else mergeLowFrom fuel (.oneByOne 0 (bWins + 1)) i j out threshold
    else
      let out := out.push a[i]!
      let i := i + 1
      if a.size - i = 1 then (lowLastOfA a b i j out, threshold)
      else if aWins + 1 ≥ threshold then mergeLowFrom fuel .galloping i j out (threshold + 1)
      else mergeLowFrom fuel (.oneByOne (aWins + 1) 0) i j out threshold
  | fuel + 1, .galloping, i, j, out, threshold =>
    let threshold := lowered threshold
    let aRun := gallopRight lt b[j]! (fun t => a[i + t]!) (a.size - i) 0
    let out := out ++ a.extract i (i + aRun)
    let i := i + aRun
    if a.size - i = 1 then (lowLastOfA a b i j out, threshold)
    else if a.size - i = 0 then (lowDone a b i j out, threshold)
    else
      let out := out.push b[j]!
      let j := j + 1
      if b.size - j = 0 then (lowDone a b i j out, threshold)
      else
        let bRun := gallopLeft lt a[i]! (fun t => b[j + t]!) (b.size - j) 0
        let out := out ++ b.extract j (j + bRun)
        let j := j + bRun
        if b.size - j = 0 then (lowDone a b i j out, threshold)
        else
          let out := out.push a[i]!
          let i := i + 1
          if a.size - i = 1 then (lowLastOfA a b i j out, threshold)
          else if aRun ≥ gallopStreak ∨ bRun ≥ gallopStreak then
            mergeLowFrom fuel .galloping i j out threshold
          else mergeLowFrom fuel (.oneByOne 0 0) i j out (threshold + 1)

/-- Merges `a` and `b` from the front, given the galloping threshold; gives the merged run and
the threshold after it. Both runs are nonempty. -/
def mergeLow (threshold : Nat) : Array α × Nat :=
  let out := #[b[0]!]
  if b.size = 1 then (out ++ a, threshold)
  else if a.size = 1 then (out ++ b.extract 1 b.size ++ a, threshold)
  else mergeLowFrom lt a b (a.size + b.size) (.oneByOne 0 0) 0 1 out threshold

end Low

section High

variable [Inhabited α] (lt : α → α → Bool) (a b : Array α)

/-- The merge from the back is done: the first `na` items of `a`, then the first `nb` of `b`
(one of them is empty), then what has been taken. -/
def highDone (na nb : Nat) (out : List α) : Array α :=
  a.extract 0 na ++ b.extract 0 nb ++ out.toArray

/-- One item of `b` is left: it goes before the rest of `a`. -/
def highFirstOfB (na : Nat) (out : List α) : Array α :=
  #[b[0]!] ++ a.extract 0 na ++ out.toArray

/-- The merge from the back, with the first `na` items of `a` and the first `nb` of `b` left,
`out` taken so far, and the galloping threshold `threshold`. Every step takes at least one
item, so `fuel` of `a.size + b.size` suffices. -/
def mergeHighFrom : Nat → Pace → Nat → Nat → List α → Nat → Array α × Nat
  | 0, _, na, nb, out, threshold => (highDone a b na nb out, threshold)
  | fuel + 1, .oneByOne aWins bWins, na, nb, out, threshold =>
    if lt b[nb - 1]! a[na - 1]! then
      let out := a[na - 1]! :: out
      let na := na - 1
      if na = 0 then (highDone a b na nb out, threshold)
      else if aWins + 1 ≥ threshold then mergeHighFrom fuel .galloping na nb out (threshold + 1)
      else mergeHighFrom fuel (.oneByOne (aWins + 1) 0) na nb out threshold
    else
      let out := b[nb - 1]! :: out
      let nb := nb - 1
      if nb = 1 then (highFirstOfB a b na out, threshold)
      else if bWins + 1 ≥ threshold then mergeHighFrom fuel .galloping na nb out (threshold + 1)
      else mergeHighFrom fuel (.oneByOne 0 (bWins + 1)) na nb out threshold
  | fuel + 1, .galloping, na, nb, out, threshold =>
    let threshold := lowered threshold
    let aRun := na - gallopRight lt b[nb - 1]! (fun t => a[t]!) na (na - 1)
    let out := (a.extract (na - aRun) na).toList ++ out
    let na := na - aRun
    if na = 0 then (highDone a b na nb out, threshold)
    else
      let out := b[nb - 1]! :: out
      let nb := nb - 1
      if nb = 1 then (highFirstOfB a b na out, threshold)
      else
        let bRun := nb - gallopLeft lt a[na - 1]! (fun t => b[t]!) nb (nb - 1)
        let out := (b.extract (nb - bRun) nb).toList ++ out
        let nb := nb - bRun
        if nb = 1 then (highFirstOfB a b na out, threshold)
        else if nb = 0 then (highDone a b na nb out, threshold)
        else
          let out := a[na - 1]! :: out
          let na := na - 1
          if na = 0 then (highDone a b na nb out, threshold)
          else if aRun ≥ gallopStreak ∨ bRun ≥ gallopStreak then
            mergeHighFrom fuel .galloping na nb out threshold
          else mergeHighFrom fuel (.oneByOne 0 0) na nb out (threshold + 1)

/-- Merges `a` and `b` from the back, given the galloping threshold; gives the merged run and
the threshold after it. Both runs are nonempty. -/
def mergeHigh (threshold : Nat) : Array α × Nat :=
  let na := a.size - 1
  let out := [a[na]!]
  if na = 0 then (highDone a b na b.size out, threshold)
  else if b.size = 1 then (highFirstOfB a b na out, threshold)
  else mergeHighFrom lt a b (a.size + b.size) (.oneByOne 0 0) na b.size out threshold

end High

end Sorting
end EngineFit
