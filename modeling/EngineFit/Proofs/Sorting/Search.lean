import EngineFit.Proofs.Sorting.Order

/-!
# The searches of the sort find their boundaries

The sort looks for places in sorted runs in three ways: by halving (`bisect`,
`insertionPoint`), by galloping from a hint and then halving (`gallop`, `gallopLeft`,
`gallopRight`), and by scanning (`runEnd`). On a sorted run the test each one asks holds on a
prefix of the positions and fails after it; `Splits` names the end of that prefix, and every
search is proved to return it. A galloping search returns it from any hint within the run.
-/

namespace EngineFit
namespace Sorting

variable {α : Type} {lt : α → α → Bool}

/-- `k` splits `[lo, hi)` for `test`: the test holds on `[lo, k)` and fails on `[k, hi)`. -/
structure Splits (test : Nat → Bool) (lo hi k : Nat) : Prop where
  lo_le : lo ≤ k
  le_hi : k ≤ hi
  holds : ∀ i, lo ≤ i → i < k → test i
  fails : ∀ i, k ≤ i → i < hi → test i = false

namespace Splits

variable {test : Nat → Bool} {lo hi k : Nat}

/-- A split of a range splits every range within it that still contains the split. -/
theorem narrow (h : Splits test lo hi k) {lo' hi' : Nat} (hlo : lo ≤ lo') (hlo' : lo' ≤ k)
    (hk : k ≤ hi') (hhi : hi' ≤ hi) : Splits test lo' hi' k :=
  ⟨hlo', hk, fun i hi hik => h.holds i (hlo.trans hi) hik,
    fun i hki hi => h.fails i hki (Nat.lt_of_lt_of_le hi hhi)⟩

/-- Where a test holds, its split lies beyond. -/
theorem lt_of_holds (h : Splits test lo hi k) {i : Nat} (hi : i < hi)
    (ht : test i) : i < k := by
  by_contra hik
  simp [h.fails i (Nat.le_of_not_lt hik) hi] at ht

/-- Where a test fails, its split lies before or there. -/
theorem le_of_fails (h : Splits test lo hi k) {i : Nat} (hlo : lo ≤ i) (ht : test i = false) :
    k ≤ i := by
  by_contra hik
  simp [h.holds i hlo (by omega)] at ht

end Splits

/-- A test that never holds after failing splits every range starting at zero. -/
theorem exists_splits {test : Nat → Bool} (n : Nat)
    (hmono : ∀ i j, i ≤ j → j < n → test j → test i) : ∃ k, Splits test 0 n k := by
  induction n with
  | zero =>
    exact ⟨0, le_rfl, le_rfl, fun _ _ h => absurd h (by omega), fun _ _ h => absurd h (by omega)⟩
  | succ n ih =>
    obtain ⟨k, hk⟩ := ih fun i j hij hj => hmono i j hij (by omega)
    by_cases hn : k = n ∧ test n
    · obtain ⟨rfl, hn⟩ := hn
      refine ⟨k + 1, by omega, le_rfl, fun i _ hi => ?_, fun i hi hi' => absurd hi' (by omega)⟩
      rcases Nat.lt_or_ge i k with hik | hik
      · exact hk.holds i (by omega) hik
      · rwa [show i = k by omega]
    · refine ⟨k, hk.lo_le, by have := hk.le_hi; omega, hk.holds, fun i hki hi => ?_⟩
      rcases Nat.lt_or_ge i n with hin | hin
      · exact hk.fails i hki hin
      · obtain rfl : i = n := by omega
        -- past the old end the test fails, or it would hold at `k < n` too
        cases ht : test i
        · rfl
        · rcases Nat.lt_or_ge k i with hki' | hki'
          · have h₁ := hk.fails k le_rfl hki'
            simp [hmono k i hki'.le (by omega) ht] at h₁
          · exact absurd ⟨by omega, ht⟩ hn

/-! ### Halving -/

/-- Halving finds the split. -/
theorem bisect_eq {after : Nat → Bool} {lo hi k : Nat} (h : Splits after lo hi k) :
    bisect after lo hi = k := by
  fun_induction bisect after lo hi with
  | case1 lo hi hlt m hm ih =>
    exact ih ⟨by have := h.lt_of_holds (i := m) (by omega) hm; omega, h.le_hi,
      fun i _ hik => h.holds i (by omega) hik, h.fails⟩
  | case2 lo hi hlt m hm ih =>
    exact ih ⟨h.lo_le, h.le_of_fails (i := m) (by omega) (by simpa using hm),
      h.holds, fun i hki hi => h.fails i hki (by omega)⟩
  | case3 lo hi hge =>
    have := h.lo_le
    have := h.le_hi
    omega

/-! ### Galloping -/

/-- The steps of a gallop stop past the split of the offsets, having last seen the test hold
before it. -/
theorem gallopSteps_spec {further : Nat → Bool} {most K : Nat} (hK : Splits further 0 most K)
    (last offset : Nat) (hlast : last < K) (hoff : last < offset) :
    (gallopSteps further most last offset).1 < K ∧
      K ≤ min (gallopSteps further most last offset).2 most := by
  fun_induction gallopSteps further most last offset with
  | case1 last offset hmost hfurther ih =>
    exact ih (hK.lt_of_holds hmost hfurther) (by omega)
  | case2 last offset hmost hfurther =>
    have := hK.le_of_fails (Nat.zero_le _) (by simpa using hfurther)
    have := hK.le_hi
    exact ⟨hlast, by omega⟩
  | case3 last offset hmost =>
    have := hK.le_hi
    exact ⟨hlast, by omega⟩

/-- Galloping from a hint leaves bounds around the split for the halving. -/
theorem gallopBounds_spec {past : Nat → Bool} {n k hint : Nat} (h : Splits past 0 n k)
    (hhint : hint < n) :
    (gallopBounds past n hint).1 ≤ k ∧ k ≤ (gallopBounds past n hint).2 ∧
      (gallopBounds past n hint).2 ≤ n := by
  unfold gallopBounds
  split
  · rename_i hpast
    -- to the right: offsets `o` from the hint, where `past (hint + o)` holds below `k - hint`
    have hk : hint < k := h.lt_of_holds hhint hpast
    have hK : Splits (fun o => past (hint + o)) 0 (n - hint) (k - hint) :=
      ⟨Nat.zero_le _, by have := h.le_hi; omega, fun o _ ho => h.holds _ (by omega) (by omega),
        fun o ho ho' => h.fails _ (by omega) (by omega)⟩
    obtain ⟨h₁, h₂⟩ := gallopSteps_spec hK 0 1 (by omega) (by omega)
    dsimp only
    omega
  · rename_i hpast
    -- to the left: offsets `o` from the hint, where `past (hint - o)` fails down to `k`
    have hk : k ≤ hint := h.le_of_fails (Nat.zero_le _) (by simpa using hpast)
    have hK : Splits (fun o => !past (hint - o)) 0 (hint + 1) (hint + 1 - k) :=
      ⟨Nat.zero_le _, by omega, fun o _ ho => by simp [h.fails (hint - o) (by omega) (by omega)],
        fun o ho ho' => by simp [h.holds (hint - o) (Nat.zero_le _) (by omega)]⟩
    obtain ⟨h₁, h₂⟩ := gallopSteps_spec hK 0 1 (by omega) (by omega)
    dsimp only
    omega

/-- Galloping from any hint within the range finds the split. -/
theorem gallop_eq {past : Nat → Bool} {n k hint : Nat} (h : Splits past 0 n k) (hhint : hint < n) :
    gallop past n hint = k := by
  obtain ⟨h₁, h₂, h₃⟩ := gallopBounds_spec h hhint
  exact bisect_eq (h.narrow (Nat.zero_le _) h₁ h₂ h₃)

/-! ### Searches in sorted runs -/

/-- The items `x 0, …, x (n - 1)` are sorted: none is after a later one. -/
def SortedUpTo (lt : α → α → Bool) (x : Nat → α) (n : Nat) : Prop :=
  ∀ i j, i < j → j < n → notAfter lt (x i) (x j)

section Sorted

variable (h : StrictWeakOrder lt) {x : Nat → α} {n : Nat} (hx : SortedUpTo lt x n)
include h hx

/-- In a sorted run, the items before a key come first. -/
theorem exists_splits_before (key : α) : ∃ k, Splits (fun i => lt (x i) key) 0 n k := by
  refine exists_splits n fun i j hij hj hjk => ?_
  rcases Nat.lt_or_eq_of_le hij with hij | rfl
  · exact h.lt_of_notAfter_of_lt (hx i j hij hj) hjk
  · exact hjk

/-- In a sorted run, the items not after a key come first. -/
theorem exists_splits_notAfter (key : α) : ∃ k, Splits (fun i => !lt key (x i)) 0 n k := by
  refine exists_splits n fun i j hij hj hjk => ?_
  rcases Nat.lt_or_eq_of_le hij with hij | rfl
  · cases hki : lt key (x i)
    · rfl
    · simp [h.lt_of_lt_of_notAfter hki (hx i j hij hj)] at hjk
  · exact hjk

/-- In a sorted run, `gallopLeft` finds how many items are before the key. -/
theorem gallopLeft_splits (key : α) (hint : Nat) (hhint : hint < n) :
    Splits (fun i => lt (x i) key) 0 n (gallopLeft lt key x n hint) := by
  obtain ⟨k, hk⟩ := exists_splits_before h hx key
  rwa [gallopLeft, gallop_eq hk hhint]

/-- In a sorted run, `gallopRight` finds how many items are not after the key. -/
theorem gallopRight_splits (key : α) (hint : Nat) (hhint : hint < n) :
    Splits (fun i => !lt key (x i)) 0 n (gallopRight lt key x n hint) := by
  obtain ⟨k, hk⟩ := exists_splits_notAfter h hx key
  rwa [gallopRight, gallop_eq hk hhint]

end Sorted

/-- The halving of binary insertion is `bisect`, asking whether the item is not before the
item at the middle. -/
theorem insertionPoint_eq_bisect [Inhabited α] (sorted : Array α) (x : α) {l r : Nat}
    (hlr : l ≤ r) :
    insertionPoint lt sorted x l r = bisect (fun p => !lt x sorted[p]!) l r := by
  fun_induction insertionPoint lt sorted x l r with
  | case1 l r hl p hp ih =>
    rw [bisect, if_pos hl, ih (by omega)]
    dsimp only
    rw [if_neg (by simpa [p] using hp)]
  | case2 l r hl p hp ih =>
    rw [bisect, if_pos hl, ih (by omega)]
    dsimp only
    rw [if_pos (by simpa [p] using hp)]
  | case3 l r hl =>
    rw [bisect, if_neg hl]
    omega

/-- In a sorted array, binary insertion finds how many items are not after the item. -/
theorem insertionPoint_splits [Inhabited α] (h : StrictWeakOrder lt) {sorted : Array α}
    (hs : SortedUpTo lt (fun t => sorted[t]!) sorted.size) (x : α) :
    Splits (fun i => !lt x sorted[i]!) 0 sorted.size
      (insertionPoint lt sorted x 0 sorted.size) := by
  obtain ⟨k, hk⟩ := exists_splits_notAfter h hs x
  rwa [insertionPoint_eq_bisect sorted x (Nat.zero_le _), bisect_eq hk]

/-! ### Scanning -/

/-- A scan stops within its range, having seen its test hold at every place it passed. -/
theorem runEnd_spec (continues : Nat → Bool) (k hi : Nat) (hk : k ≤ hi) :
    k ≤ runEnd continues k hi ∧ runEnd continues k hi ≤ hi ∧
      ∀ t, k ≤ t → t < runEnd continues k hi → continues t := by
  fun_induction runEnd continues k hi with
  | case1 k hlt hc ih =>
    obtain ⟨h₁, h₂, h₃⟩ := ih (by omega)
    refine ⟨by omega, h₂, fun t hkt ht => ?_⟩
    rcases Nat.lt_or_eq_of_le hkt with hkt | rfl
    · exact h₃ t hkt ht
    · exact hc
  | case2 k hlt hc => exact ⟨le_rfl, hk, fun t hkt ht => absurd ht (by omega)⟩
  | case3 k hge => exact ⟨le_rfl, hk, fun t hkt ht => absurd ht (by omega)⟩

/-- The run found from `lo` has at least one item, stays within the range, and every item of it
after the first is before the one before it exactly when the run falls. -/
theorem countRun_spec [Inhabited α] (xs : Array α) {lo hi : Nat} (hlo : lo < hi) :
    0 < (countRun lt xs lo hi).1 ∧ lo + (countRun lt xs lo hi).1 ≤ hi ∧
      ∀ t, lo < t → t < lo + (countRun lt xs lo hi).1 →
        lt xs[t]! xs[t - 1]! = (countRun lt xs lo hi).2 := by
  unfold countRun
  split
  · exact ⟨by omega, by omega, fun t ht ht' => absurd ht' (by omega)⟩
  · split
    · rename_i hfirst
      obtain ⟨h₁, h₂, h₃⟩ := runEnd_spec (fun k => lt xs[k]! xs[k - 1]!) (lo + 2) hi
        (by omega)
      refine ⟨by omega, by omega, fun t ht ht' => ?_⟩
      rcases Nat.lt_or_ge t (lo + 2) with htl | htl
      · rw [show t = lo + 1 by omega]
        exact hfirst
      · exact h₃ t htl (by omega)
    · rename_i hfirst
      obtain ⟨h₁, h₂, h₃⟩ := runEnd_spec (fun k => !lt xs[k]! xs[k - 1]!) (lo + 2) hi
        (by omega)
      refine ⟨by omega, by omega, fun t ht ht' => ?_⟩
      rcases Nat.lt_or_ge t (lo + 2) with htl | htl
      · rw [show t = lo + 1 by omega]
        simpa using hfirst
      · simpa using h₃ t htl (by omega)

end Sorting
end EngineFit
