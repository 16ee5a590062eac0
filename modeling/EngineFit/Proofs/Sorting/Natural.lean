import Mathlib
import EngineFit.Sorting.Adaptive

/-!
# The sort is parametric

`adaptiveMergeSort` only moves items and asks `lt` about them: sending the items through a map
`f` before sorting by `lt` gives what sorting them by `lt` pulled back along `f` gives, sent
through `f` (`adaptiveMergeSort_map`). The one place where an item is made rather than moved is
an out-of-range read, which gives the default item, so `f` has to send the default to the
default.

This lets the sort be studied on a type where the test is a strict weak order even when it is
not one on the whole type it runs on: the listing of engines sorts scores that may be NaN, and
on the engines whose scores are whole numbers its test is a strict weak order.
-/

namespace EngineFit
namespace Sorting

variable {α β : Type} (lt : α → α → Bool) {f : β → α}

/-! ### Steps that do not read items out of range -/

theorem gallopLeft_comp (key : β) (x : Nat → β) (n hint : Nat) :
    gallopLeft lt (f key) (fun t => f (x t)) n hint =
      gallopLeft (fun a b => lt (f a) (f b)) key x n hint := rfl

theorem gallopRight_comp (key : β) (x : Nat → β) (n hint : Nat) :
    gallopRight lt (f key) (fun t => f (x t)) n hint =
      gallopRight (fun a b => lt (f a) (f b)) key x n hint := rfl

theorem overwrite_map (xs : Array β) (start : Nat) (run : Array β) :
    overwrite (xs.map f) start (run.map f) = (overwrite xs start run).map f := by
  simp only [overwrite, Array.size_map, ← Array.map_extract, ← Array.map_append]

/-- A state of the sort with its items sent through `f`. -/
def Merging.mapItems (f : β → α) (s : Merging β) : Merging α :=
  { items := s.items.map f, runs := s.runs, threshold := s.threshold }

@[simp] theorem Merging.runs_mapItems (s : Merging β) : (s.mapItems f).runs = s.runs := rfl

/-- A state whose items are replaced, sent through `f`. -/
theorem Merging.mapItems_with (s : Merging β) (items : Array β) :
    ({ items := items.map f, runs := (s.mapItems f).runs, threshold := (s.mapItems f).threshold } :
      Merging α) = ({ s with items } : Merging β).mapItems f := rfl

@[simp] theorem Merging.items_mapItems (s : Merging β) : (s.mapItems f).items = s.items.map f :=
  rfl

theorem reverseRange_map (xs : Array β) (lo hi : Nat) :
    reverseRange (xs.map f) lo hi = (reverseRange xs lo hi).map f := by
  rw [reverseRange, reverseRange, ← Array.map_extract, ← Array.map_reverse, overwrite_map]

theorem insertIdxIfInBounds_map (xs : Array β) (i : Nat) (x : β) :
    (xs.map f).insertIdxIfInBounds i (f x) = (xs.insertIdxIfInBounds i x).map f := by
  apply Array.toList_inj.1
  unfold Array.insertIdxIfInBounds
  by_cases hi : i ≤ xs.size
  · rw [dif_pos (by simpa using hi), dif_pos hi]
    simp [List.map_insertIdx]
  · rw [dif_neg (by simpa using hi), dif_neg hi]

/-! ### Steps that read items -/

section Defaults

variable [Inhabited α] [Inhabited β] (hf : f default = default)
include hf

theorem getElem!_map_of_default (xs : Array β) (i : Nat) :
    (xs.map f)[i]! = f xs[i]! := by
  by_cases hi : i < xs.size
  · rw [getElem!_pos _ i (by simpa using hi), getElem!_pos xs i hi, Array.getElem_map]
  · rw [getElem!_neg _ i (by simpa using hi), getElem!_neg xs i hi, hf]

theorem mergeLowFrom_map (a b : Array β) (fuel : Nat) (pace : Pace) (i j : Nat) (out : Array β)
    (threshold : Nat) :
    mergeLowFrom lt (a.map f) (b.map f) fuel pace i j (out.map f) threshold =
      (mergeLowFrom (fun x y => lt (f x) (f y)) a b fuel pace i j out threshold).map
        (Array.map f) id := by
  induction fuel generalizing pace i j out threshold with
  | zero =>
    simp only [mergeLowFrom, lowDone, Array.size_map, ← Array.map_extract, ← Array.map_append,
      Prod.map, id]
  | succ fuel ih =>
    cases pace with
    | oneByOne aWins bWins =>
      simp only [mergeLowFrom, getElem!_map_of_default hf, Array.size_map]
      split_ifs <;> simp only [lowDone, lowLastOfA, Array.size_map, ← Array.map_extract,
        ← Array.map_append, ← Array.map_push, ih, Prod.map, id]
    | galloping =>
      simp only [mergeLowFrom, getElem!_map_of_default hf, Array.size_map, gallopRight_comp,
        gallopLeft_comp]
      split_ifs <;> simp only [lowDone, lowLastOfA, Array.size_map, ← Array.map_extract,
        ← Array.map_append, ← Array.map_push, ih, Prod.map, id]

theorem mergeLow_map (a b : Array β) (threshold : Nat) :
    mergeLow lt (a.map f) (b.map f) threshold =
      (mergeLow (fun x y => lt (f x) (f y)) a b threshold).map (Array.map f) id := by
  unfold mergeLow
  simp only [getElem!_map_of_default hf, Array.size_map]
  rw [← Array.map_singleton, mergeLowFrom_map lt hf]
  split_ifs <;> simp only [← Array.map_extract, ← Array.map_append, Prod.map, id]

theorem mergeHighFrom_map (a b : Array β) (fuel : Nat) (pace : Pace) (na nb : Nat)
    (out : List β) (threshold : Nat) :
    mergeHighFrom lt (a.map f) (b.map f) fuel pace na nb (out.map f) threshold =
      (mergeHighFrom (fun x y => lt (f x) (f y)) a b fuel pace na nb out threshold).map
        (Array.map f) id := by
  induction fuel generalizing pace na nb out threshold with
  | zero =>
    simp only [mergeHighFrom, highDone, ← Array.map_extract, ← Array.map_append,
      ← List.map_toArray, Prod.map, id]
  | succ fuel ih =>
    cases pace with
    | oneByOne aWins bWins =>
      simp only [mergeHighFrom, getElem!_map_of_default hf]
      split_ifs <;> simp only [highDone, highFirstOfB, ← Array.map_extract,
        ← Array.map_append, ← List.map_cons, ← List.map_toArray, ih, Prod.map, id,
        getElem!_map_of_default hf, ← Array.map_singleton]
    | galloping =>
      simp only [mergeHighFrom, getElem!_map_of_default hf, gallopRight_comp,
        gallopLeft_comp]
      split_ifs <;> simp only [highDone, highFirstOfB, ← Array.map_extract,
        ← Array.map_append, ← List.map_cons, ← List.map_toArray, Array.toList_map,
        ← List.map_append, ih, Prod.map, id, getElem!_map_of_default hf, ← Array.map_singleton]

theorem mergeHigh_map (a b : Array β) (threshold : Nat) :
    mergeHigh lt (a.map f) (b.map f) threshold =
      (mergeHigh (fun x y => lt (f x) (f y)) a b threshold).map (Array.map f) id := by
  unfold mergeHigh
  simp only [getElem!_map_of_default hf, Array.size_map]
  rw [← List.map_singleton, mergeHighFrom_map lt hf]
  split_ifs <;> simp only [highDone, highFirstOfB, ← Array.map_extract, ← Array.map_append,
    ← List.map_toArray, Prod.map, id, getElem!_map_of_default hf, ← Array.map_singleton]

theorem mergeRuns_map (s : Merging β) (i : Nat) :
    mergeRuns lt (s.mapItems f) i = (mergeRuns (fun x y => lt (f x) (f y)) s i).mapItems f := by
  unfold mergeRuns
  simp only [Merging.mapItems, ← Array.map_extract, getElem!_map_of_default hf, Array.size_map,
    gallopRight_comp, gallopLeft_comp]
  split_ifs
  · rfl
  · rfl
  all_goals
    simp only [mergeLow_map lt hf, mergeHigh_map lt hf, Prod.map, overwrite_map, id]

theorem mergeDeeper_map (power fuel : Nat) (s : Merging β) :
    mergeDeeper lt power fuel (s.mapItems f) =
      (mergeDeeper (fun x y => lt (f x) (f y)) power fuel s).mapItems f := by
  induction fuel generalizing s with
  | zero => rfl
  | succ fuel ih =>
    rw [mergeDeeper, mergeDeeper, Merging.runs_mapItems]
    by_cases hc : s.runs.size > 1 ∧ s.runs[s.runs.size - 2]!.power > power
    · rw [if_pos hc, if_pos hc, mergeRuns_map lt hf, ih]
    · rw [if_neg hc, if_neg hc]

theorem pushRun_map (n start len : Nat) (s : Merging β) :
    pushRun lt n start len (s.mapItems f) =
      (pushRun (fun x y => lt (f x) (f y)) n start len s).mapItems f := by
  unfold pushRun
  simp only [Merging.runs_mapItems]
  split
  · rfl
  · simp only [mergeDeeper_map lt hf, Merging.runs_mapItems]
    rfl

theorem mergeAll_map (fuel : Nat) (s : Merging β) :
    mergeAll lt fuel (s.mapItems f) = (mergeAll (fun x y => lt (f x) (f y)) fuel s).mapItems f := by
  induction fuel generalizing s with
  | zero => rfl
  | succ fuel ih =>
    rw [mergeAll, mergeAll, Merging.runs_mapItems]
    by_cases hc : s.runs.size > 1
    · rw [if_pos hc, if_pos hc]
      dsimp only
      rw [mergeRuns_map lt hf, ih]
    · rw [if_neg hc, if_neg hc]

theorem countRun_map (xs : Array β) (lo hi : Nat) :
    countRun lt (xs.map f) lo hi = countRun (fun x y => lt (f x) (f y)) xs lo hi := by
  simp only [countRun, getElem!_map_of_default hf]

theorem insertionPoint_map (sorted : Array β) (x : β) (l r : Nat) :
    insertionPoint lt (sorted.map f) (f x) l r =
      insertionPoint (fun x y => lt (f x) (f y)) sorted x l r := by
  fun_induction insertionPoint (fun x y => lt (f x) (f y)) sorted x l r with
  | case1 l r hl p hp ih =>
    rw [insertionPoint, if_pos hl]
    dsimp only
    rw [getElem!_map_of_default hf, if_pos hp, ih]
  | case2 l r hl p hp ih =>
    rw [insertionPoint, if_pos hl]
    dsimp only
    rw [getElem!_map_of_default hf, if_neg hp, ih]
  | case3 l r hl => rw [insertionPoint, if_neg hl]

theorem insertAll_map (sorted : Array β) (xs : List β) :
    insertAll lt (sorted.map f) (xs.map f) =
      (insertAll (fun x y => lt (f x) (f y)) sorted xs).map f := by
  induction xs generalizing sorted with
  | nil => rfl
  | cons x xs ih =>
    rw [List.map_cons, insertAll, insertAll, Array.size_map, insertionPoint_map lt hf,
      insertIdxIfInBounds_map, ih]

theorem insertRange_map (xs : Array β) (lo hi start : Nat) :
    insertRange lt (xs.map f) lo hi start =
      (insertRange (fun x y => lt (f x) (f y)) xs lo hi start).map f := by
  rw [insertRange, insertRange, ← Array.map_extract, ← Array.map_extract, Array.toList_map,
    insertAll_map lt hf, overwrite_map]

theorem takeRuns_map (n minRun fuel lo : Nat) (s : Merging β) :
    takeRuns lt n minRun fuel lo (s.mapItems f) =
      (takeRuns (fun x y => lt (f x) (f y)) n minRun fuel lo s).mapItems f := by
  induction fuel generalizing lo s with
  | zero => rfl
  | succ fuel ih =>
    rw [takeRuns, takeRuns]
    by_cases hdone : n ≤ lo
    · rw [if_pos hdone, if_pos hdone]
    rw [if_neg hdone, if_neg hdone, Merging.items_mapItems, countRun_map lt hf]
    rcases countRun (fun x y => lt (f x) (f y)) s.items lo n with ⟨len, falling⟩
    dsimp only
    -- the run found, turned round or not, is the run of the items before `f`
    have hturned : (if falling = true then reverseRange (s.items.map f) lo (lo + len)
        else s.items.map f) =
        (if falling = true then reverseRange s.items lo (lo + len) else s.items).map f := by
      cases falling
      · rfl
      · exact reverseRange_map _ _ _
    rw [hturned]
    generalize (if falling = true then reverseRange s.items lo (lo + len) else s.items) = items
    by_cases hshort : len < minRun
    · rw [if_pos hshort, if_pos hshort, insertRange_map lt hf]
      dsimp only
      rw [Merging.mapItems_with, pushRun_map lt hf, ih]
    · rw [if_neg hshort, if_neg hshort]
      dsimp only
      rw [Merging.mapItems_with, pushRun_map lt hf, ih]

/-- **The sort is parametric.** Sorting items sent through `f` by a test on the images sorts
the items by the test pulled back along `f`, and sends the result through `f`. -/
theorem adaptiveMergeSort_map (xs : Array β) :
    adaptiveMergeSort lt (xs.map f) =
      (adaptiveMergeSort (fun x y => lt (f x) (f y)) xs).map f := by
  unfold adaptiveMergeSort
  rw [Array.size_map]
  split
  · rfl
  · have hstart : ({ items := xs.map f, runs := #[], threshold := gallopStreak } : Merging α) =
        ({ items := xs, runs := #[], threshold := gallopStreak } : Merging β).mapItems f := rfl
    rw [hstart]
    dsimp only
    rw [takeRuns_map lt hf, Merging.runs_mapItems, mergeAll_map lt hf, Merging.items_mapItems]

end Defaults

end Sorting
end EngineFit
