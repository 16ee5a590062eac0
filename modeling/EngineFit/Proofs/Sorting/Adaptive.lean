import EngineFit.Proofs.Sorting.Stack

/-!
# The adaptive merge sort is the stable sort

The sort finds a run at the front of what is left of the input, sorts it (a falling run is
turned round, `countRun_sorted`, and a short run is lengthened by binary insertion,
`insertRange_sorted`), and puts it on the stack. `stacked_takeRuns` follows this loop with the
invariant `Stacked`: the stack stands for the input up to where the runs reach, sorted
blockwise, and the items after it are the input's own. Once the runs reach the end and the
stack is merged down to one run, the items are the input sorted
(`adaptiveMergeSort_eq_mergeSort`).
-/

namespace EngineFit
namespace Sorting

variable {α : Type} {lt : α → α → Bool}

/-- Turning a stretch of an array round. -/
theorem toList_reverseRange (xs : Array α) {lo hi : Nat} (hlo : lo ≤ hi) (hhi : hi ≤ xs.size) :
    (reverseRange xs lo hi).toList =
      xs.toList.take lo ++ ((xs.toList.drop lo).take (hi - lo)).reverse ++ xs.toList.drop hi := by
  rw [reverseRange, toList_overwrite]
  simp only [Array.toList_reverse, toList_extract_eq_take_drop, Array.size_reverse,
    Array.size_extract]
  congr 3
  omega

/-- A stretch of an array whose neighbours are related is a chain. -/
theorem isChain_take_drop [Inhabited α] (xs : Array α) (lo len : Nat) (hfit : lo + len ≤ xs.size)
    {R : α → α → Prop} (hR : ∀ t, lo < t → t < lo + len → R xs[t - 1]! xs[t]!) :
    ((xs.toList.drop lo).take len).IsChain R := by
  rw [List.isChain_iff_getElem]
  intro i hi
  simp only [List.length_take, List.length_drop, Array.length_toList] at hi
  have := hR (lo + i + 1) (by omega) (by omega)
  rw [getElem!_pos xs _ (by omega), getElem!_pos xs _ (by omega)] at this
  simpa [Nat.add_assoc] using this

variable [Inhabited α] (h : StrictWeakOrder lt)
include h

/-- The run found at `lo`, turned round when it falls, holds its own items sorted. -/
theorem countRun_sorted (xs : Array α) {lo n : Nat} (hlo : lo < n) (hn : n ≤ xs.size) :
    (if (countRun lt xs lo n).2 then reverseRange xs lo (lo + (countRun lt xs lo n).1)
      else xs).toList =
      xs.toList.take lo ++ ((xs.toList.drop lo).take (countRun lt xs lo n).1).mergeSort
        (notAfter lt) ++ xs.toList.drop (lo + (countRun lt xs lo n).1) := by
  obtain ⟨hpos, hle, hstep⟩ := countRun_spec xs hlo
  generalize countRun lt xs lo n = r at hpos hle hstep
  obtain ⟨len, falling⟩ := r
  dsimp only at hpos hle hstep ⊢
  cases falling with
  | true =>
    -- a falling run is sorted by turning it round
    rw [if_pos rfl, toList_reverseRange xs (by omega) (by omega), Nat.add_sub_cancel_left,
      mergeSort_eq_reverse_of_isChain h (isChain_take_drop xs lo len (by omega) hstep)]
  | false =>
    -- a run that never falls is sorted already
    have hchain := isChain_take_drop xs lo len (R := fun a b => notAfter lt a b) (by omega)
      fun t h₁ h₂ => by simpa using hstep t h₁ h₂
    rw [if_neg (by simp), mergeSort_eq_self_of_isChain h hchain]
    conv_lhs =>
      rw [← List.take_append_drop lo xs.toList, ← List.take_append_drop len (xs.toList.drop lo)]
    simp [List.drop_drop, List.append_assoc]

/-- Inserting an item into a sorted array at its insertion point merges it in. -/
theorem toList_insertIdxIfInBounds_insertionPoint {sorted : Array α}
    (hs : sorted.toList.Pairwise fun x y => notAfter lt x y) (x : α) :
    (sorted.insertIdxIfInBounds (insertionPoint lt sorted x 0 sorted.size) x).toList =
      sorted.toList.merge [x] (notAfter lt) := by
  have hp := insertionPoint_splits h (sortedUpTo_getElem! hs le_rfl) x
  generalize insertionPoint lt sorted x 0 sorted.size = p at hp
  have hple := hp.le_hi
  rw [Array.insertIdxIfInBounds, dif_pos hple, Array.toList_insertIdx]
  refine insertIdx_eq_merge (by simpa using hple) (fun i hi => ?_) (fun hp' => ?_)
  · have := hp.holds i (Nat.zero_le _) hi
    rw [getElem!_pos sorted i (by omega)] at this
    simpa using this
  · have := hp.fails p le_rfl (by simpa using hp')
    simpa [getElem!_pos sorted p (by simpa using hp')] using this

/-- Binary insertion of items, one by one, into the sorted items of a list sorts the list
with the items after it. -/
theorem insertAll_eq_mergeSort (xs : List α) {sorted : Array α} {S : List α}
    (hS : sorted.toList = S.mergeSort (notAfter lt)) :
    (insertAll lt sorted xs).toList = (S ++ xs).mergeSort (notAfter lt) := by
  induction xs generalizing sorted S with
  | nil => simpa [insertAll] using hS
  | cons x xs ih =>
    rw [insertAll, ih (S := S ++ [x]), List.append_assoc, List.singleton_append]
    rw [toList_insertIdxIfInBounds_insertionPoint h
        (by rw [hS]; exact pairwise_notAfter_mergeSort h S),
      mergeSort_append h, hS, List.mergeSort_singleton]

/-- Binary insertion lengthens a sorted run at the front of the rest of the input to `force`
items, all sorted. -/
theorem insertRange_sorted (xs : Array α) {P R : List α} {len : Nat} (force : Nat)
    (hxs : xs.toList = P ++ (R.take len).mergeSort (notAfter lt) ++ R.drop len)
    (hlen : len ≤ force) (hforce : force ≤ R.length) :
    (insertRange lt xs P.length (P.length + force) (P.length + len)).toList =
      P ++ (R.take force).mergeSort (notAfter lt) ++ R.drop force := by
  have hM : ((R.take len).mergeSort (notAfter lt)).length = len := by simp; omega
  have hrun :
      (xs.extract P.length (P.length + len)).toList = (R.take len).mergeSort (notAfter lt) := by
    simp [hxs, hM]
  have hrest : (xs.extract (P.length + len) (P.length + force)).toList =
      (R.drop len).take (force - len) := by
    have hsub : P.length + force - (P.length + len) = force - len := by omega
    simp [hxs, hM, List.drop_append, List.take_append, hsub]
  have hsize : (insertAll lt (xs.extract P.length (P.length + len))
      (xs.extract (P.length + len) (P.length + force)).toList).size = force := by
    rw [← Array.length_toList, insertAll_eq_mergeSort h _ hrun, List.length_mergeSort, hrest]
    simp
    omega
  rw [insertRange, toList_overwrite, hsize, insertAll_eq_mergeSort h _ hrun, hrest, ← List.take_add,
    Nat.add_sub_cancel' hlen]
  have hdP : P.drop (P.length + force) = [] := List.drop_eq_nil_of_le (by omega)
  have hdM : ((R.take len).mergeSort (notAfter lt)).drop force = [] :=
    List.drop_eq_nil_of_le (by omega)
  simp [hxs, hM, hdP, hdM, List.drop_append, Nat.add_sub_cancel' hlen]

/-- Finding the runs from `lo` on, sorting each and putting it on the stack, makes the stack
stand for the whole input. -/
theorem stacked_takeRuns {orig : List α} {n : Nat} (hn : n = orig.length) (minRun fuel lo : Nat)
    (s : Merging α) (hs : Stacked lt orig lo (orig.drop lo) s) (hfuel : n - lo ≤ fuel) :
    Stacked lt orig n [] (takeRuns lt n minRun fuel lo s) := by
  fun_induction takeRuns lt n minRun fuel lo s with
  | case1 lo s =>
    have := hs.bound
    obtain rfl : lo = n := by omega
    simpa [hn] using hs
  | case2 fuel lo s hdone =>
    have := hs.bound
    obtain rfl : lo = n := by omega
    simpa [hn] using hs
  | case3 fuel lo s hmore len falling hrun items merged len' hnext ih =>
    obtain ⟨hadj, hbound, hitems⟩ := hs
    -- the items from `lo` on are the rest of the input
    have hP : (sortedBlocks lt orig s.runs.toList).length = lo := by
      rw [length_sortedBlocks orig hadj hbound]
      omega
    have hsize : n ≤ s.items.size := by
      rw [← Array.length_toList, hitems]
      simp
      omega
    obtain ⟨htake, hdrop⟩ : s.items.toList.take lo = sortedBlocks lt orig s.runs.toList ∧
        s.items.toList.drop lo = orig.drop lo := by
      rw [hitems, ← hP]
      simp
    -- the run found at `lo`, sorted
    have hspec := @countRun_spec α lt _ s.items lo n (by omega)
    have hsorted := countRun_sorted h s.items (by omega : lo < n) hsize
    rw [hrun] at hspec hsorted
    dsimp only at hspec hsorted
    obtain ⟨hpos, hle, -⟩ := hspec
    have hitems' : items.toList = sortedBlocks lt orig s.runs.toList ++
        ((orig.drop lo).take len).mergeSort (notAfter lt) ++ (orig.drop lo).drop len := by
      rw [hsorted, htake, hdrop, ← hdrop, List.drop_drop]
    -- lengthened to `minRun` when short
    have hmerged : merged.toList = sortedBlocks lt orig s.runs.toList ++
        ((orig.drop lo).take len').mergeSort (notAfter lt) ++ (orig.drop lo).drop len' ∧
        0 < len' ∧ lo + len' ≤ n := by
      split at hnext
      · obtain ⟨rfl, rfl⟩ := Prod.mk.inj hnext
        have := insertRange_sorted h items (min (n - lo) minRun) hitems' (by omega)
          (by simp; omega)
        rw [hP] at this
        exact ⟨this, by omega, by omega⟩
      · obtain ⟨rfl, rfl⟩ := Prod.mk.inj hnext
        exact ⟨hitems', hpos, hle⟩
    obtain ⟨hmerged, hpos', hle'⟩ := hmerged
    have hs' : Stacked lt orig lo (((orig.drop lo).take len').mergeSort (notAfter lt) ++
        orig.drop (lo + len')) { items := merged, runs := s.runs, threshold := s.threshold } :=
      ⟨hadj, hbound, by simpa [List.drop_drop] using hmerged⟩
    exact ih (stacked_pushRun h n hs' hpos' (by omega)) (by omega)

/-- **The adaptive merge sort is the stable sort.** For a strict weak order, it puts the
items in the order of their classes and keeps the items of each class in their input order. -/
theorem adaptiveMergeSort_eq_mergeSort (xs : Array α) :
    (adaptiveMergeSort lt xs).toList = xs.toList.mergeSort (notAfter lt) := by
  unfold adaptiveMergeSort
  split
  · -- at most one item is sorted already
    rename_i hsmall
    obtain ⟨l⟩ := xs
    simp only [List.size_toArray] at hsmall ⊢
    match l, hsmall with
    | [], _ => simp
    | [_], _ => simp
    | _ :: _ :: _, hsmall => simp at hsmall
  · have h0 : Stacked lt xs.toList 0 (xs.toList.drop 0)
        { items := xs, runs := #[], threshold := gallopStreak } :=
      ⟨rfl, Nat.zero_le _, by simp [sortedBlocks]⟩
    have hrun := stacked_takeRuns h (Array.length_toList).symm (minRunLength xs.size) xs.size 0 _ h0
      (by omega)
    obtain ⟨hall, hone⟩ := stacked_mergeAll h _ hrun le_self_add
    exact Stacked.items_eq_mergeSort hall hone

end Sorting
end EngineFit
