import EngineFit.Sorting.Merge

/-!
# An adaptive merge sort

`adaptiveMergeSort lt xs` sorts by the test `lt` ("strictly before") and keeps items that are
not before one another in their order. It takes the runs already present in the input, and
merges them in an order that keeps merges balanced:

* *Runs.* From the front, the next run is the longest stretch that never falls or that
  strictly falls (turned round). A run shorter than `minRunLength` of the whole is lengthened to
  it by binary insertion of the items that follow.
* *Merging.* Runs wait on a stack. Each boundary between two runs has a *power*, the depth at
  which a balanced binary split of the whole would first separate their midpoints
  (`runPower`). When a run is found, the runs on the stack whose boundary is deeper than the new
  one are merged first. At the end, the stack is merged from the top down.
* Two runs are merged (`mergeRuns`) after trimming the items already in place: the front of the
  first run that goes before the second, and the back of the second that goes after the first.
  The rest is merged from the side of the shorter run (`mergeLow`, `mergeHigh`).

For a strict weak order this is an ordinary stable sort. The order of listings compares scores,
and a NaN score is before and after nothing, so the result depends on which items are compared
and when: every step here is the one that fixes it.
-/

namespace EngineFit
namespace Sorting

/-- `n` halved until it is below 64, with one more if any halving dropped a one. -/
def minRunFrom (n carry : Nat) : Nat :=
  if n ≥ 64 then minRunFrom (n / 2) (carry ||| n % 2) else n + carry
termination_by n
decreasing_by omega

/-- The shortest run worth keeping in a sort of `n` items: short runs are lengthened to it. -/
def minRunLength (n : Nat) : Nat := minRunFrom n 0

/-- The first place from `k` on, before `hi`, where `continues` fails. -/
def runEnd (continues : Nat → Bool) (k hi : Nat) : Nat :=
  if k < hi then (if continues k then runEnd continues (k + 1) hi else k) else k
termination_by hi - k

/-- The length of the run that starts at `lo`, within `[lo, hi)`, and whether it strictly
falls: a run of two or more is falling when its second item is before its first, and goes on
while each item is before the one before it; otherwise it goes on while no item is before the
one before it. -/
def countRun [Inhabited α] (lt : α → α → Bool) (xs : Array α) (lo hi : Nat) : Nat × Bool :=
  if lo + 1 ≥ hi then (1, false)
  else if lt xs[lo + 1]! xs[lo]! then
    (runEnd (fun k => lt xs[k]! xs[k - 1]!) (lo + 2) hi - lo, true)
  else (runEnd (fun k => !lt xs[k]! xs[k - 1]!) (lo + 2) hi - lo, false)

/-- `xs` with the items from `start` on replaced by `run`. -/
def overwrite (xs : Array α) (start : Nat) (run : Array α) : Array α :=
  xs.extract 0 start ++ run ++ xs.extract (start + run.size) xs.size

/-- `xs` with the items of `[lo, hi)` in the opposite order. -/
def reverseRange (xs : Array α) (lo hi : Nat) : Array α :=
  overwrite xs lo (xs.extract lo hi).reverse

/-- Where `x` goes in `sorted` between positions `l` and `r`: found by halving, after every
item that `x` is not before. -/
def insertionPoint [Inhabited α] (lt : α → α → Bool) (sorted : Array α) (x : α) (l r : Nat) :
    Nat :=
  if l < r then
    let p := l + (r - l) / 2
    if lt x sorted[p]! then insertionPoint lt sorted x l p else insertionPoint lt sorted x (p + 1) r
  else l
termination_by r - l

/-- Inserts every item of `xs`, in turn, into `sorted` at its insertion point. -/
def insertAll [Inhabited α] (lt : α → α → Bool) (sorted : Array α) : List α → Array α
  | [] => sorted
  | x :: xs =>
    insertAll lt (sorted.insertIdxIfInBounds (insertionPoint lt sorted x 0 sorted.size) x) xs

/-- Sorts `[lo, hi)` of `xs` by binary insertion, given that `[lo, start)` is sorted. -/
def insertRange [Inhabited α] (lt : α → α → Bool) (xs : Array α) (lo hi start : Nat) :
    Array α :=
  overwrite xs lo (insertAll lt (xs.extract lo start) (xs.extract start hi).toList)

/-- Counts the leading binary digits that `a / n` and `b / n` share, plus one: `a` and `b` are
doubled at each digit, less `n` when the digit is one. -/
def powerFrom (n : Nat) : Nat → Nat → Nat → Nat → Nat
  | 0, _, _, power => power
  | fuel + 1, a, b, power =>
    if a ≥ n then powerFrom n fuel (2 * (a - n)) (2 * (b - n)) (power + 1)
    else if b ≥ n then power + 1
    else powerFrom n fuel (2 * a) (2 * b) (power + 1)

/-- The power of the boundary between a run of `n1` items at `s1` and the run of `n2` items
after it, in a sort of `n` items: where the binary digits of their midpoints, as fractions of
`n`, first differ. -/
def runPower (s1 n1 n2 n : Nat) : Nat :=
  let a := 2 * s1 + n1
  powerFrom n (n + 1) a (a + n1 + n2) 0

/-- A run waiting to be merged: where it starts, its length, and the power of its boundary with
the run after it. -/
structure Run where
  start : Nat
  len : Nat
  power : Nat
deriving Inhabited

/-- The state of a sort: the items, the runs waiting on the stack (the top last), and the
galloping threshold of merges. -/
structure Merging (α : Type) where
  items : Array α
  runs : Array Run
  threshold : Nat

variable [Inhabited α] (lt : α → α → Bool)

/-- Merges the runs at `i` and `i + 1` of the stack. The front of the first run that goes
before the first item of the second, and the back of the second that goes after the last item
of the first, stay where they are; the rest is merged from the side of the shorter part. -/
def mergeRuns (s : Merging α) (i : Nat) : Merging α :=
  let ra := s.runs[i]!
  let rb := s.runs[i + 1]!
  let runs := (s.runs.modify i fun r => { r with len := ra.len + rb.len }).eraseIdxIfInBounds (i + 1)
  let a := s.items.extract ra.start (ra.start + ra.len)
  let b := s.items.extract rb.start (rb.start + rb.len)
  let skip := gallopRight lt b[0]! (fun t => a[t]!) a.size 0
  let a := a.extract skip a.size
  if a.size = 0 then { s with runs }
  else
    let keep := gallopLeft lt a[a.size - 1]! (fun t => b[t]!) b.size (b.size - 1)
    if keep = 0 then { s with runs }
    else
      let b := b.extract 0 keep
      let (merged, threshold) :=
        if a.size ≤ b.size then mergeLow lt a b s.threshold else mergeHigh lt a b s.threshold
      { items := overwrite s.items (ra.start + skip) merged, runs, threshold }

/-- Merges the top two runs while the run below the top has a deeper boundary than `power`. -/
def mergeDeeper (power : Nat) : Nat → Merging α → Merging α
  | 0, s => s
  | fuel + 1, s =>
    if s.runs.size > 1 ∧ s.runs[s.runs.size - 2]!.power > power then
      mergeDeeper power fuel (mergeRuns lt s (s.runs.size - 2))
    else s

/-- Puts the run of `len` items at `start` on the stack, in a sort of `n` items: the boundary
with the run on top gets its power, and deeper boundaries below are merged first. -/
def pushRun (n start len : Nat) (s : Merging α) : Merging α :=
  let s := match s.runs.back? with
    | none => s
    | some top =>
      let power := runPower top.start top.len len n
      let s := mergeDeeper lt power s.runs.size s
      { s with runs := s.runs.modify (s.runs.size - 1) fun r => { r with power } }
  { s with runs := s.runs.push ⟨start, len, 0⟩ }

/-- Merges the whole stack, from the top down: the top two runs, or the two below the top when
the run under them is shorter than the top one. -/
def mergeAll : Nat → Merging α → Merging α
  | 0, s => s
  | fuel + 1, s =>
    if s.runs.size > 1 then
      let i := s.runs.size - 2
      let i := if i > 0 ∧ s.runs[i - 1]!.len < s.runs[i + 1]!.len then i - 1 else i
      mergeAll fuel (mergeRuns lt s i)
    else s

/-- Finds the runs from `lo` on in a sort of `n` items, each lengthened to `minRun` when
shorter, and puts each on the stack. Every run has at least one item, so `fuel` of `n`
suffices. -/
def takeRuns (n minRun : Nat) : Nat → Nat → Merging α → Merging α
  | 0, _, s => s
  | fuel + 1, lo, s =>
    if n ≤ lo then s
    else
      let (len, falling) := countRun lt s.items lo n
      let items := if falling then reverseRange s.items lo (lo + len) else s.items
      let (items, len) :=
        if len < minRun then
          let force := min (n - lo) minRun
          (insertRange lt items lo (lo + force) (lo + len), force)
        else (items, len)
      takeRuns n minRun fuel (lo + len) (pushRun lt n lo len { s with items })

/-- Sorts by `lt`, keeping items that are not before one another in their order. -/
def adaptiveMergeSort (xs : Array α) : Array α :=
  if xs.size < 2 then xs
  else
    let n := xs.size
    let s := takeRuns lt n (minRunLength n) n 0 { items := xs, runs := #[], threshold := gallopStreak }
    (mergeAll lt s.runs.size s).items

end Sorting
end EngineFit
