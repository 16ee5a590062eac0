/-!
# Galloping searches in a sorted run

A merge of two runs often finds that many items in a row come from the same run. It then
looks for where an item of one run falls in the other by *galloping*: from a starting point
(the hint) it steps away by offsets 1, 3, 7, 15, … until it passes the place, and then halves
the last step.

The order is given by a test `lt`, "strictly before". Nothing is assumed of it: with an order
where some items are before or after nothing (NaN among numbers), where a search stops depends
on which items it compares, so the steps are kept exactly as described.

* `gallopLeft` gives the place of `key` before every item it is not after: the `k` with
  `x (k - 1)` before `key` and `key` not after `x k`, found from the left of equal items.
* `gallopRight` gives the place after every item that `key` is not before.

A run is given as a function from positions `0 … n - 1` to items.
-/

namespace EngineFit
namespace Sorting

/-- Steps away from the hint while `further` holds at the offset reached, the offset going
`1, 3, 7, …` and stopping at `most`. Gives the last offset where `further` held (or the one
started from) and the offset where the stepping stopped. -/
def gallopSteps (further : Nat → Bool) (most last offset : Nat) : Nat × Nat :=
  if offset < most then
    if further offset then gallopSteps further most offset (2 * offset + 1)
    else (last, offset)
  else (last, offset)
termination_by most - offset

/-- The first place in `[lo, hi)` where `after` fails, assuming it holds below `lo` and
fails from `hi` on; the range is halved at `lo + (hi - lo) / 2`. -/
def bisect (after : Nat → Bool) (lo hi : Nat) : Nat :=
  if lo < hi then
    let m := lo + (hi - lo) / 2
    if after m then bisect after (m + 1) hi else bisect after lo m
  else hi
termination_by hi - lo

/-- The bounds `[lo, hi)` that galloping leaves for the halving, from the hint `hint` of a run
of `n` items. `past i` tells whether the place looked for lies after the item at `i`: when it
lies after the item at the hint, the steps go right, and otherwise left. -/
def gallopBounds (past : Nat → Bool) (n hint : Nat) : Nat × Nat :=
  if past hint then
    let most := n - hint
    let (last, offset) := gallopSteps (fun o => past (hint + o)) most 0 1
    (hint + last + 1, hint + min offset most)
  else
    let most := hint + 1
    let (last, offset) := gallopSteps (fun o => !past (hint - o)) most 0 1
    (hint + 1 - min offset most, hint - last)

/-- A galloping search: the first place, from the hint, past which `past` fails. -/
def gallop (past : Nat → Bool) (n hint : Nat) : Nat :=
  let (lo, hi) := gallopBounds past n hint
  bisect past lo hi

/-- Where `key` goes in a run of `n` items, before the items equal to it: the `k` such that
the items before it are before `key` and `key` is not after the item at `k`. -/
def gallopLeft (lt : α → α → Bool) (key : α) (x : Nat → α) (n hint : Nat) : Nat :=
  gallop (fun i => lt (x i) key) n hint

/-- Where `key` goes in a run of `n` items, after the items equal to it: the `k` such that
`key` is not before the items before it, and is before the item at `k`. -/
def gallopRight (lt : α → α → Bool) (key : α) (x : Nat → α) (n hint : Nat) : Nat :=
  gallop (fun i => !lt key (x i)) n hint

end Sorting
end EngineFit
