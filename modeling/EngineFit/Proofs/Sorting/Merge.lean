import EngineFit.Proofs.Sorting.Search

/-!
# The merges of two runs are the stable merge

`mergeLow` and `mergeHigh` merge two sorted neighbouring runs, one item or one galloped block
at a time, with early exits. Each is proved to give `List.merge` of the two runs by
`notAfter lt`, the merge that keeps the items of the first run before the items of the second
that they are not after.

The proofs follow the loops. A state of the merge from the front stands for what it has taken
followed by the merge of what is left of both runs (`lowTarget`), and every step is shown to
keep that list: a single item is the head of the merge, a galloped block is a prefix of it, and
an exit gives it whole. The merge from the back stands for the merge of what is left followed
by what it has taken (`highTarget`), and its steps take the last items of the merge. The
caller's promises, that the second run starts before the first and the first ends after the
second, are what make the exits with one item left correct.
-/

namespace EngineFit
namespace Sorting

variable {α : Type} {lt : α → α → Bool}

@[simp] theorem toList_extract_eq_take_drop (a : Array α) (i j : Nat) :
    (a.extract i j).toList = (a.toList.drop i).take (j - i) := by
  simp [List.extract]

/-- A sorted array, read from `i` on, is a sorted run. -/
theorem sortedUpTo_of_pairwise [Inhabited α] {a : Array α}
    (ha : a.toList.Pairwise fun x y => notAfter lt x y) {i m : Nat} (hm : i + m ≤ a.size) :
    SortedUpTo lt (fun t => a[i + t]!) m := by
  intro s t hst ht
  show notAfter lt a[i + s]! a[i + t]!
  rw [getElem!_pos a (i + s) (by omega), getElem!_pos a (i + t) (by omega)]
  exact List.pairwise_iff_getElem.1 ha (i + s) (i + t) (by simp; omega) (by simp; omega) (by omega)

/-- The first `n` items of a sorted array are a sorted run. -/
theorem sortedUpTo_getElem! [Inhabited α] {a : Array α}
    (ha : a.toList.Pairwise fun x y => notAfter lt x y) {n : Nat} (hn : n ≤ a.size) :
    SortedUpTo lt (fun t => a[t]!) n := by
  simpa using sortedUpTo_of_pairwise ha (i := 0) (m := n) (by omega)

/-! ### The merge from the front -/

section Low

variable [Inhabited α] (lt) (a b : Array α)

/-- What a state of the merge from the front stands for: what it has taken, then the merge of
what is left of both runs. -/
def lowTarget (i j : Nat) (out : Array α) : List α :=
  out.toList ++ (a.toList.drop i).merge (b.toList.drop j) (notAfter lt)

variable {lt a b}

/-- Taking the next item of `b`, which is before the next item of `a`. -/
theorem lowTarget_takeB {i j : Nat} (out : Array α) (hi : i < a.size) (hj : j < b.size)
    (hlt : lt b[j]! a[i]! = true) :
    lowTarget lt a b i j out = lowTarget lt a b i (j + 1) (out.push b[j]!) := by
  rw [getElem!_pos a i hi, getElem!_pos b j hj] at hlt
  have hnot : notAfter lt a[i] b[j] = false := by simp [notAfter, hlt]
  simp only [lowTarget, List.drop_eq_getElem_cons (show i < a.toList.length by simpa),
    List.drop_eq_getElem_cons (show j < b.toList.length by simpa), List.cons_merge_cons,
    Array.getElem_toList, hnot, Bool.false_eq_true, if_false, Array.toList_push,
    List.append_assoc, List.singleton_append, getElem!_pos b j hj]

/-- Taking the next item of `a`, which is not after the next item of `b`. -/
theorem lowTarget_takeA {i j : Nat} (out : Array α) (hi : i < a.size) (hj : j < b.size)
    (hlt : lt b[j]! a[i]! = false) :
    lowTarget lt a b i j out = lowTarget lt a b (i + 1) j (out.push a[i]!) := by
  rw [getElem!_pos a i hi, getElem!_pos b j hj] at hlt
  have hnot : notAfter lt a[i] b[j] = true := by simp [notAfter, hlt]
  simp only [lowTarget, List.drop_eq_getElem_cons (show i < a.toList.length by simpa),
    List.drop_eq_getElem_cons (show j < b.toList.length by simpa), List.cons_merge_cons,
    Array.getElem_toList, hnot, if_true, Array.toList_push, List.append_assoc,
    List.singleton_append, getElem!_pos a i hi]

/-- Taking the block of `a` that is not after the next item of `b`. -/
theorem lowTarget_gallopA {i j k : Nat} (out : Array α) (hj : j < b.size)
    (hk : Splits (fun t => !lt b[j]! a[i + t]!) 0 (a.size - i) k) :
    lowTarget lt a b i j out = lowTarget lt a b (i + k) j (out ++ a.extract i (i + k)) := by
  have hblock : ∀ x ∈ (a.toList.drop i).take k, notAfter lt x b[j]! := by
    intro x hx
    obtain ⟨t, ht, rfl⟩ := List.getElem_of_mem hx
    simp only [List.length_take, List.length_drop, Array.length_toList] at ht
    have := hk.holds t (Nat.zero_le _) (by omega)
    simpa [notAfter, getElem!_pos a (i + t) (by omega)] using this
  have hsplit : a.toList.drop i = (a.toList.drop i).take k ++ a.toList.drop (i + k) := by
    rw [← List.drop_drop, List.take_append_drop]
  have hbj : b.toList.drop j = b[j]! :: b.toList.drop (j + 1) := by
    rw [getElem!_pos b j hj]
    exact List.drop_eq_getElem_cons (by simpa)
  rw [lowTarget, lowTarget, hsplit, hbj, merge_append_of_notAfter hblock]
  simp

/-- Taking the block of `b` that is before the next item of `a`. -/
theorem lowTarget_gallopB {i j k : Nat} (out : Array α) (hi : i < a.size)
    (hk : Splits (fun t => lt b[j + t]! a[i]!) 0 (b.size - j) k) :
    lowTarget lt a b i j out = lowTarget lt a b i (j + k) (out ++ b.extract j (j + k)) := by
  have hblock : ∀ y ∈ (b.toList.drop j).take k, lt y a[i]! := by
    intro y hy
    obtain ⟨t, ht, rfl⟩ := List.getElem_of_mem hy
    simp only [List.length_take, List.length_drop, Array.length_toList] at ht
    have := hk.holds t (Nat.zero_le _) (by omega)
    simpa [getElem!_pos b (j + t) (by omega)] using this
  have hsplit : b.toList.drop j = (b.toList.drop j).take k ++ b.toList.drop (j + k) := by
    rw [← List.drop_drop, List.take_append_drop]
  have hai : a.toList.drop i = a[i]! :: a.toList.drop (i + 1) := by
    rw [getElem!_pos a i hi]
    exact List.drop_eq_getElem_cons (by simpa)
  rw [lowTarget, lowTarget, hsplit, hai, merge_append_of_lt hblock]
  simp

omit [Inhabited α] in
/-- The merge from the front is done when a run is used up. -/
theorem lowDone_eq {i j : Nat} (out : Array α) (hdone : a.size ≤ i ∨ b.size ≤ j) :
    (lowDone a b i j out).toList = lowTarget lt a b i j out := by
  rcases hdone with hdone | hdone
  · simp [lowDone, lowTarget, List.drop_eq_nil_of_le (show a.toList.length ≤ i by simpa)]
  · simp [lowDone, lowTarget, List.drop_eq_nil_of_le (show b.toList.length ≤ j by simpa)]

/-- One item of `a` is left, after every item of `b`: it goes last. -/
theorem lowLastOfA_eq {i j : Nat} (out : Array α) (hi : i + 1 = a.size)
    (hlast : ∀ y ∈ b.toList, lt y a[i]!) :
    (lowLastOfA a b i j out).toList = lowTarget lt a b i j out := by
  have hai : a.toList.drop i = [a[i]!] := by
    rw [getElem!_pos a i (by omega), List.drop_eq_getElem_cons (by simp; omega),
      List.drop_eq_nil_of_le (by simp; omega)]
    rfl
  have hblock : ∀ y ∈ b.toList.drop j, lt y a[i]! := fun y hy => hlast y (List.mem_of_mem_drop hy)
  rw [lowTarget, hai, ← List.append_nil (b.toList.drop j), merge_append_of_lt hblock]
  simp [lowLastOfA, hai, List.take_of_length_le, show 1 ≤ a.size - i by omega]

section Loop

variable (h : StrictWeakOrder lt) (ha : a.toList.Pairwise fun x y => notAfter lt x y)
  (hb : b.toList.Pairwise fun x y => notAfter lt x y)
  (hlast : ∀ y ∈ b.toList, lt y a[a.size - 1]!)
include h ha hb hlast

/-- The merge from the front, from a state with two items of `a` and one of `b` left at least,
gives what the state stands for: every step keeps `lowTarget`, and the fuel covers one step per
item. -/
theorem mergeLowFrom_eq (fuel : Nat) (pace : Pace) (i j : Nat) (out : Array α) (threshold : Nat)
    (hi : i + 2 ≤ a.size) (hj : j < b.size) (hfuel : a.size - i + (b.size - j) ≤ fuel) :
    (mergeLowFrom lt a b fuel pace i j out threshold).1.toList = lowTarget lt a b i j out := by
  -- the last item of `a` is after every item of `b`, wherever the merge stands
  have hafter : ∀ i', i' + 1 = a.size → ∀ y ∈ b.toList, lt y a[i']! := by
    intro i' hi' y hy
    rw [show i' = a.size - 1 by omega]
    exact hlast y hy
  have hsa := fun i' (hi' : i' ≤ a.size) => sortedUpTo_of_pairwise ha (i := i') (m := a.size - i')
    (by omega)
  have hsb := fun j' (hj' : j' ≤ b.size) => sortedUpTo_of_pairwise hb (i := j') (m := b.size - j')
    (by omega)
  fun_induction mergeLowFrom lt a b fuel pace i j out threshold with
  | case1 => omega
  | case2 fuel aWins bWins i j out threshold hlt out' j' hdone =>
    dsimp only
    rw [lowDone_eq out' (.inr (by omega)), lowTarget_takeB out (by omega) hj hlt]
  | case3 fuel aWins bWins i j out threshold hlt out' j' hdone hwins ih
  | case4 fuel aWins bWins i j out threshold hlt out' j' hdone hwins ih =>
    rw [ih hi (by omega) (by omega), lowTarget_takeB out (by omega) hj hlt]
  | case5 fuel aWins bWins i j out threshold hlt out' i' hlast' =>
    dsimp only
    rw [lowLastOfA_eq out' (by omega) (hafter _ (by omega)),
      lowTarget_takeA out (by omega) hj (by simpa using hlt)]
  | case6 fuel aWins bWins i j out threshold hlt out' i' hlast' hwins ih
  | case7 fuel aWins bWins i j out threshold hlt out' i' hlast' hwins ih =>
    rw [ih (by omega) hj (by omega), lowTarget_takeA out (by omega) hj (by simpa using hlt)]
  | case8 fuel i j out threshold threshold' aRun out₁ i₁ hlast₁ =>
    have hA := gallopRight_splits h (hsa i (by omega)) b[j]! 0 (by omega)
    dsimp only
    rw [lowLastOfA_eq out₁ (by omega) (hafter _ (by omega)), lowTarget_gallopA out hj hA]
  | case9 fuel i j out threshold threshold' aRun out₁ i₁ hlast₁ hdone₁ =>
    have hA := gallopRight_splits h (hsa i (by omega)) b[j]! 0 (by omega)
    dsimp only
    rw [lowDone_eq out₁ (.inl (by omega)), lowTarget_gallopA out hj hA]
  | case10 fuel i j out threshold threshold' aRun out₁ i₁ hlast₁ hdone₁ out₂ j₁ hdone₂ =>
    have hA := gallopRight_splits h (hsa i (by omega)) b[j]! 0 (by omega)
    have hB : lt b[j]! a[i₁]! := by
      simpa using hA.fails aRun le_rfl (by omega)
    dsimp only
    rw [lowDone_eq out₂ (.inr (by omega)), lowTarget_gallopA out hj hA,
      lowTarget_takeB out₁ (by omega) hj hB]
  | case11 fuel i j out threshold threshold' aRun out₁ i₁ hlast₁ hdone₁ out₂ j₁ hdone₂ bRun out₃
      j₂ hdone₃ =>
    have hA := gallopRight_splits h (hsa i (by omega)) b[j]! 0 (by omega)
    have hB : lt b[j]! a[i₁]! := by
      simpa using hA.fails aRun le_rfl (by omega)
    have hB' := gallopLeft_splits h (hsb j₁ (by omega)) a[i₁]! 0 (by omega)
    dsimp only
    rw [lowDone_eq out₃ (.inr (by omega)), lowTarget_gallopA out hj hA,
      lowTarget_takeB out₁ (by omega) hj hB, lowTarget_gallopB out₂ (by omega) hB']
  | case12 fuel i j out threshold threshold' aRun out₁ i₁ hlast₁ hdone₁ out₂ j₁ hdone₂ bRun out₃
      j₂ hdone₃ out₄ i₂ hlast₂ =>
    have hA := gallopRight_splits h (hsa i (by omega)) b[j]! 0 (by omega)
    have hB : lt b[j]! a[i₁]! := by
      simpa using hA.fails aRun le_rfl (by omega)
    have hB' := gallopLeft_splits h (hsb j₁ (by omega)) a[i₁]! 0 (by omega)
    have hA' : lt b[j₂]! a[i₁]! = false := hB'.fails bRun le_rfl (by omega)
    dsimp only
    rw [lowLastOfA_eq out₄ (by omega) (hafter _ (by omega)), lowTarget_gallopA out hj hA,
      lowTarget_takeB out₁ (by omega) hj hB, lowTarget_gallopB out₂ (by omega) hB',
      lowTarget_takeA out₃ (by omega) (by omega) hA']
  | case13 fuel i j out threshold threshold' aRun out₁ i₁ hlast₁ hdone₁ out₂ j₁ hdone₂ bRun out₃
      j₂ hdone₃ out₄ i₂ hlast₂ hstreak ih
  | case14 fuel i j out threshold threshold' aRun out₁ i₁ hlast₁ hdone₁ out₂ j₁ hdone₂ bRun out₃
      j₂ hdone₃ out₄ i₂ hlast₂ hstreak ih =>
    have hA := gallopRight_splits h (hsa i (by omega)) b[j]! 0 (by omega)
    have hB : lt b[j]! a[i₁]! := by
      simpa using hA.fails aRun le_rfl (by omega)
    have hB' := gallopLeft_splits h (hsb j₁ (by omega)) a[i₁]! 0 (by omega)
    have hA' : lt b[j₂]! a[i₁]! = false := hB'.fails bRun le_rfl (by omega)
    rw [ih (by omega) (by omega) (by omega), lowTarget_gallopA out hj hA,
      lowTarget_takeB out₁ (by omega) hj hB, lowTarget_gallopB out₂ (by omega) hB',
      lowTarget_takeA out₃ (by omega) (by omega) hA']

/-- **The merge from the front is the stable merge.**  Given two sorted runs, the first item of
the second before the first of the first, and the last of the first after all of the second,
`mergeLow` gives their merge by `notAfter lt`. -/
theorem mergeLow_eq (threshold : Nat) (hsa : 0 < a.size) (hsb : 0 < b.size)
    (hfirst : lt b[0]! a[0]!) :
    (mergeLow lt a b threshold).1.toList = a.toList.merge b.toList (notAfter lt) := by
  have hstart : a.toList.merge b.toList (notAfter lt) = lowTarget lt a b 0 1 #[b[0]!] :=
    calc a.toList.merge b.toList (notAfter lt) = lowTarget lt a b 0 0 #[] := by simp [lowTarget]
      _ = _ := lowTarget_takeB #[] hsa hsb hfirst
  rw [hstart, mergeLow]
  split
  · rename_i hb1
    rw [← lowDone_eq #[b[0]!] (.inr (by omega))]
    simp [lowDone, hb1]
  · split
    · rename_i hb1 ha1
      rw [← lowLastOfA_eq #[b[0]!] (by omega) fun y hy => by simpa [ha1] using hlast y hy]
      simp [lowLastOfA, ha1]
    · rename_i hb1 ha1
      exact mergeLowFrom_eq h ha hb hlast _ _ 0 1 _ _ (by omega) (by omega) (by omega)

end Loop

end Low

/-! ### The merge from the back -/

section High

variable [Inhabited α] (lt) (a b : Array α)

/-- What a state of the merge from the back stands for: the merge of the first `na` items of
`a` and the first `nb` of `b`, then what it has taken. -/
def highTarget (na nb : Nat) (out : List α) : List α :=
  (a.toList.take na).merge (b.toList.take nb) (notAfter lt) ++ out

variable {lt a b}

/-- The first `n` items of an array, as the first `n - 1` and the last of them. -/
theorem take_eq_take_append_getElem! {a : Array α} {n : Nat} (hn : 0 < n) (hna : n ≤ a.size) :
    a.toList.take n = a.toList.take (n - 1) ++ [a[n - 1]!] := by
  obtain ⟨m, rfl⟩ : ∃ m, n = m + 1 := ⟨n - 1, by omega⟩
  rw [Nat.add_sub_cancel, getElem!_pos a m (by omega), ← Array.getElem_toList,
    List.take_append_getElem]

variable (h : StrictWeakOrder lt) (ha : a.toList.Pairwise fun x y => notAfter lt x y)
  (hb : b.toList.Pairwise fun x y => notAfter lt x y)

include h hb in
/-- Taking the last item of `a`, which is after the last item of `b`. -/
theorem highTarget_takeA {na nb : Nat} (out : List α) (hna : 0 < na) (hna' : na ≤ a.size)
    (hnb : 0 < nb) (hnb' : nb ≤ b.size) (hlt : lt b[nb - 1]! a[na - 1]! = true) :
    highTarget lt a b na nb out = highTarget lt a b (na - 1) nb (a[na - 1]! :: out) := by
  have hbefore : ∀ x ∈ [a[na - 1]!], ∀ y ∈ b.toList.take nb, lt y x := by
    intro x hx y hy
    rw [List.mem_singleton.1 hx]
    rw [take_eq_take_append_getElem! hnb hnb', List.mem_append, List.mem_singleton] at hy
    rcases hy with hy | rfl
    · obtain ⟨t, ht, rfl⟩ := List.getElem_of_mem hy
      simp only [List.length_take, Array.length_toList] at ht
      have hsorted := List.pairwise_iff_getElem.1 hb t (nb - 1) (by simp; omega) (by simp; omega)
        (by omega)
      rw [getElem!_pos b (nb - 1) (by omega)] at hlt
      simpa using h.lt_of_notAfter_of_lt hsorted hlt
    · exact hlt
  rw [highTarget, take_eq_take_append_getElem! hna hna', merge_append_right_of_lt hbefore,
    highTarget]
  simp

include h ha in
/-- Taking the last item of `b`, which is not before the last item of `a`. -/
theorem highTarget_takeB {na nb : Nat} (out : List α) (hna : 0 < na) (hna' : na ≤ a.size)
    (hnb : 0 < nb) (hnb' : nb ≤ b.size) (hlt : lt b[nb - 1]! a[na - 1]! = false) :
    highTarget lt a b na nb out = highTarget lt a b na (nb - 1) (b[nb - 1]! :: out) := by
  have hafter : ∀ x ∈ a.toList.take na, ∀ y ∈ [b[nb - 1]!], notAfter lt x y := by
    intro x hx y hy
    rw [List.mem_singleton.1 hy]
    rw [take_eq_take_append_getElem! hna hna', List.mem_append, List.mem_singleton] at hx
    have hlast : notAfter lt a[na - 1]! b[nb - 1]! := by simp [notAfter, hlt]
    rcases hx with hx | rfl
    · obtain ⟨t, ht, rfl⟩ := List.getElem_of_mem hx
      simp only [List.length_take, Array.length_toList] at ht
      rw [List.getElem_take]
      have hsorted := List.pairwise_iff_getElem.1 ha t (na - 1) (by simp; omega) (by simp; omega)
        (by omega)
      rw [getElem!_pos a (na - 1) (by omega)] at hlast
      exact h.notAfter_trans hsorted hlast
    · exact hlast
  rw [highTarget, take_eq_take_append_getElem! hnb hnb', merge_append_right_of_notAfter hafter,
    highTarget]
  simp

include h hb in
/-- Taking the block at the end of `a` whose items are after the last item of `b`: the run
found by `gallopRight` from the end. -/
theorem highTarget_gallopA {na nb k r : Nat} (out : List α) (hna' : na ≤ a.size) (hnb : 0 < nb)
    (hnb' : nb ≤ b.size) (hk : Splits (fun t => !lt b[nb - 1]! a[t]!) 0 na k) (hr : r = na - k) :
    highTarget lt a b na nb out =
      highTarget lt a b (na - r) nb ((a.extract (na - r) na).toList ++ out) := by
  have hkr : na - r = k := by have := hk.le_hi; omega
  rw [hkr]
  have hsplit : a.toList.take na = a.toList.take k ++ (a.toList.take na).drop k := by
    conv_lhs => rw [← List.take_append_drop k (a.toList.take na)]
    rw [List.take_take, Nat.min_eq_left hk.le_hi]
  -- the block is after the last item of `b`, so after all of the first `nb` items of `b`
  have hbefore : ∀ x ∈ (a.toList.take na).drop k, ∀ y ∈ b.toList.take nb, lt y x := by
    intro x hx y hy
    obtain ⟨t, ht, rfl⟩ := List.getElem_of_mem hx
    simp only [List.length_drop, List.length_take, Array.length_toList] at ht
    have hkey : lt b[nb - 1]! a[k + t]! := by
      simpa using hk.fails (k + t) (by omega) (by omega)
    rw [List.getElem_drop, List.getElem_take, Array.getElem_toList, ← getElem!_pos a (k + t)
      (by omega)]
    rw [take_eq_take_append_getElem! hnb hnb', List.mem_append, List.mem_singleton] at hy
    rcases hy with hy | rfl
    · obtain ⟨s, hs, rfl⟩ := List.getElem_of_mem hy
      simp only [List.length_take, Array.length_toList] at hs
      rw [List.getElem_take]
      have hsorted := List.pairwise_iff_getElem.1 hb s (nb - 1) (by simp; omega) (by simp; omega)
        (by omega)
      rw [getElem!_pos b (nb - 1) (by omega)] at hkey
      exact h.lt_of_notAfter_of_lt hsorted hkey
    · exact hkey
  rw [highTarget, hsplit, merge_append_right_of_lt hbefore, highTarget]
  simp [List.drop_take]

include h ha in
/-- Taking the block at the end of `b` whose items are not before the last item of `a`: the
run found by `gallopLeft` from the end. -/
theorem highTarget_gallopB {na nb k r : Nat} (out : List α) (hna : 0 < na) (hna' : na ≤ a.size)
    (hnb' : nb ≤ b.size) (hk : Splits (fun t => lt b[t]! a[na - 1]!) 0 nb k) (hr : r = nb - k) :
    highTarget lt a b na nb out =
      highTarget lt a b na (nb - r) ((b.extract (nb - r) nb).toList ++ out) := by
  have hkr : nb - r = k := by have := hk.le_hi; omega
  rw [hkr]
  have hsplit : b.toList.take nb = b.toList.take k ++ (b.toList.take nb).drop k := by
    conv_lhs => rw [← List.take_append_drop k (b.toList.take nb)]
    rw [List.take_take, Nat.min_eq_left hk.le_hi]
  -- the block is not before the last item of `a`, so not before any of the first `na` items
  have hafter : ∀ x ∈ a.toList.take na, ∀ y ∈ (b.toList.take nb).drop k, notAfter lt x y := by
    intro x hx y hy
    obtain ⟨t, ht, rfl⟩ := List.getElem_of_mem hy
    simp only [List.length_drop, List.length_take, Array.length_toList] at ht
    have hkey : notAfter lt a[na - 1]! b[k + t]! := by
      simpa [notAfter] using hk.fails (k + t) (by omega) (by omega)
    rw [List.getElem_drop, List.getElem_take, Array.getElem_toList, ← getElem!_pos b (k + t)
      (by omega)]
    rw [take_eq_take_append_getElem! hna hna', List.mem_append, List.mem_singleton] at hx
    rcases hx with hx | rfl
    · obtain ⟨s, hs, rfl⟩ := List.getElem_of_mem hx
      simp only [List.length_take, Array.length_toList] at hs
      rw [List.getElem_take]
      have hsorted := List.pairwise_iff_getElem.1 ha s (na - 1) (by simp; omega) (by simp; omega)
        (by omega)
      rw [getElem!_pos a (na - 1) (by omega)] at hkey
      exact h.notAfter_trans hsorted hkey
    · exact hkey
  rw [highTarget, hsplit, merge_append_right_of_notAfter hafter, highTarget]
  simp [List.drop_take]

omit [Inhabited α] in
/-- The merge from the back is done when a run is used up. -/
theorem highDone_eq {na nb : Nat} (out : List α) (hdone : na = 0 ∨ nb = 0) :
    (highDone a b na nb out).toList = highTarget lt a b na nb out := by
  rcases hdone with rfl | rfl <;> simp [highDone, highTarget]

/-- One item of `b` is left, before every item of `a`: it goes first. -/
theorem highFirstOfB_eq {na nb : Nat} (out : List α) (hnb : nb = 1) (hb1 : 1 ≤ b.size)
    (hfirst : ∀ x ∈ a.toList, lt b[0]! x) :
    (highFirstOfB a b na out).toList = highTarget lt a b na nb out := by
  subst hnb
  have hb : b.toList.take 1 = [b[0]!] := by
    rw [getElem!_pos b 0 (by omega), List.take_one, List.head?_eq_getElem?,
      List.getElem?_eq_getElem (by simpa)]
    rfl
  have hblock : ∀ y ∈ [b[0]!], ∀ x ∈ a.toList.take na, lt y x := by
    intro y hy x hx
    rw [List.mem_singleton.1 hy]
    exact hfirst x (List.mem_of_mem_take hx)
  rw [highTarget, hb]
  cases hA : a.toList.take na with
  | nil => simp [highFirstOfB, hA]
  | cons x xs =>
    rw [← List.append_nil [b[0]!], merge_append_of_lt fun y hy => hblock y hy x (by simp [hA])]
    simp [highFirstOfB, hA]

section Loop

variable (hfirst : ∀ x ∈ a.toList, lt b[0]! x)
include h ha hb hfirst

/-- The merge from the back, from a state with one item of `a` and two of `b` left at least,
gives what the state stands for: every step keeps `highTarget`, and the fuel covers one step
per item. -/
theorem mergeHighFrom_eq (fuel : Nat) (pace : Pace) (na nb : Nat) (out : List α)
    (threshold : Nat) (hna : 0 < na) (hna' : na ≤ a.size) (hnb : 2 ≤ nb) (hnb' : nb ≤ b.size)
    (hfuel : na + nb ≤ fuel) :
    (mergeHighFrom lt a b fuel pace na nb out threshold).1.toList =
      highTarget lt a b na nb out := by
  have hsa : ∀ n ≤ a.size, SortedUpTo lt (fun t => a[t]!) n := fun _ hn => sortedUpTo_getElem! ha hn
  have hsb : ∀ n ≤ b.size, SortedUpTo lt (fun t => b[t]!) n := fun _ hn => sortedUpTo_getElem! hb hn
  fun_induction mergeHighFrom lt a b fuel pace na nb out threshold with
  | case1 => omega
  | case2 fuel aWins bWins na nb out threshold hlt out' na' hdone =>
    dsimp only
    rw [highDone_eq out' (.inl hdone), highTarget_takeA h hb out hna hna' (by omega) hnb' hlt]
  | case3 fuel aWins bWins na nb out threshold hlt out' na' hdone hwins ih
  | case4 fuel aWins bWins na nb out threshold hlt out' na' hdone hwins ih =>
    rw [ih (by omega) (by omega) hnb hnb' (by omega),
      highTarget_takeA h hb out hna hna' (by omega) hnb' hlt]
  | case5 fuel aWins bWins na nb out threshold hlt out' nb' hdone =>
    dsimp only
    rw [highFirstOfB_eq out' hdone (by omega) hfirst,
      highTarget_takeB h ha out hna hna' (by omega) hnb' (by simpa using hlt)]
  | case6 fuel aWins bWins na nb out threshold hlt out' nb' hdone hwins ih
  | case7 fuel aWins bWins na nb out threshold hlt out' nb' hdone hwins ih =>
    rw [ih hna hna' (by omega) (by omega) (by omega),
      highTarget_takeB h ha out hna hna' (by omega) hnb' (by simpa using hlt)]
  | case8 fuel na nb out threshold threshold' aRun out₁ na₁ hdone₁ =>
    have hA := gallopRight_splits h (hsa na hna') b[nb - 1]! (na - 1) (by omega)
    dsimp only
    rw [highDone_eq out₁ (.inl hdone₁), highTarget_gallopA h hb out hna' (by omega) hnb' hA rfl]
  | case9 fuel na nb out threshold threshold' aRun out₁ na₁ hdone₁ out₂ nb₁ hdone₂ =>
    have hA := gallopRight_splits h (hsa na hna') b[nb - 1]! (na - 1) (by omega)
    have hB : lt b[nb - 1]! a[na₁ - 1]! = false := by
      simpa using hA.holds (na₁ - 1) (Nat.zero_le _) (by omega)
    dsimp only
    rw [highFirstOfB_eq out₂ hdone₂ (by omega) hfirst,
      highTarget_gallopA h hb out hna' (by omega) hnb' hA rfl,
      highTarget_takeB h ha out₁ (by omega) (by omega) (by omega) hnb' hB]
  | case10 fuel na nb out threshold threshold' aRun out₁ na₁ hdone₁ out₂ nb₁ hdone₂ bRun out₃ nb₂
      hdone₃ =>
    have hA := gallopRight_splits h (hsa na hna') b[nb - 1]! (na - 1) (by omega)
    have hB : lt b[nb - 1]! a[na₁ - 1]! = false := by
      simpa using hA.holds (na₁ - 1) (Nat.zero_le _) (by omega)
    have hB' := gallopLeft_splits h (hsb nb₁ (by omega)) a[na₁ - 1]! (nb₁ - 1)
      (by omega)
    dsimp only
    rw [highFirstOfB_eq out₃ hdone₃ (by omega) hfirst,
      highTarget_gallopA h hb out hna' (by omega) hnb' hA rfl,
      highTarget_takeB h ha out₁ (by omega) (by omega) (by omega) hnb' hB,
      highTarget_gallopB h ha out₂ (by omega) (by omega) (by omega) hB' rfl]
  | case11 fuel na nb out threshold threshold' aRun out₁ na₁ hdone₁ out₂ nb₁ hdone₂ bRun out₃ nb₂
      hdone₃ hdone₄ =>
    have hA := gallopRight_splits h (hsa na hna') b[nb - 1]! (na - 1) (by omega)
    have hB : lt b[nb - 1]! a[na₁ - 1]! = false := by
      simpa using hA.holds (na₁ - 1) (Nat.zero_le _) (by omega)
    have hB' := gallopLeft_splits h (hsb nb₁ (by omega)) a[na₁ - 1]! (nb₁ - 1)
      (by omega)
    dsimp only
    rw [highDone_eq out₃ (.inr hdone₄),
      highTarget_gallopA h hb out hna' (by omega) hnb' hA rfl,
      highTarget_takeB h ha out₁ (by omega) (by omega) (by omega) hnb' hB,
      highTarget_gallopB h ha out₂ (by omega) (by omega) (by omega) hB' rfl]
  | case12 fuel na nb out threshold threshold' aRun out₁ na₁ hdone₁ out₂ nb₁ hdone₂ bRun out₃ nb₂
      hdone₃ hdone₄ out₄ na₂ hdone₅ =>
    have hA := gallopRight_splits h (hsa na hna') b[nb - 1]! (na - 1) (by omega)
    have hB : lt b[nb - 1]! a[na₁ - 1]! = false := by
      simpa using hA.holds (na₁ - 1) (Nat.zero_le _) (by omega)
    have hB' := gallopLeft_splits h (hsb nb₁ (by omega)) a[na₁ - 1]! (nb₁ - 1)
      (by omega)
    have hA' : lt b[nb₂ - 1]! a[na₁ - 1]! := hB'.holds (nb₂ - 1) (Nat.zero_le _) (by omega)
    dsimp only
    rw [highDone_eq out₄ (.inl hdone₅),
      highTarget_gallopA h hb out hna' (by omega) hnb' hA rfl,
      highTarget_takeB h ha out₁ (by omega) (by omega) (by omega) hnb' hB,
      highTarget_gallopB h ha out₂ (by omega) (by omega) (by omega) hB' rfl,
      highTarget_takeA h hb out₃ (by omega) (by omega) (by omega) (by omega) hA']
  | case13 fuel na nb out threshold threshold' aRun out₁ na₁ hdone₁ out₂ nb₁ hdone₂ bRun out₃ nb₂
      hdone₃ hdone₄ out₄ na₂ hdone₅ hstreak ih
  | case14 fuel na nb out threshold threshold' aRun out₁ na₁ hdone₁ out₂ nb₁ hdone₂ bRun out₃ nb₂
      hdone₃ hdone₄ out₄ na₂ hdone₅ hstreak ih =>
    have hA := gallopRight_splits h (hsa na hna') b[nb - 1]! (na - 1) (by omega)
    have hB : lt b[nb - 1]! a[na₁ - 1]! = false := by
      simpa using hA.holds (na₁ - 1) (Nat.zero_le _) (by omega)
    have hB' := gallopLeft_splits h (hsb nb₁ (by omega)) a[na₁ - 1]! (nb₁ - 1)
      (by omega)
    have hA' : lt b[nb₂ - 1]! a[na₁ - 1]! := hB'.holds (nb₂ - 1) (Nat.zero_le _) (by omega)
    rw [ih (by omega) (by omega) (by omega) (by omega) (by omega),
      highTarget_gallopA h hb out hna' (by omega) hnb' hA rfl,
      highTarget_takeB h ha out₁ (by omega) (by omega) (by omega) hnb' hB,
      highTarget_gallopB h ha out₂ (by omega) (by omega) (by omega) hB' rfl,
      highTarget_takeA h hb out₃ (by omega) (by omega) (by omega) (by omega) hA']

/-- **The merge from the back is the stable merge.**  Given two sorted runs, the first item of
the second before every item of the first, and the last of the first after the last of the
second, `mergeHigh` gives their merge by `notAfter lt`. -/
theorem mergeHigh_eq (threshold : Nat) (hsa : 0 < a.size) (hsb : 0 < b.size)
    (hlast : lt b[b.size - 1]! a[a.size - 1]!) :
    (mergeHigh lt a b threshold).1.toList = a.toList.merge b.toList (notAfter lt) := by
  have hstart : a.toList.merge b.toList (notAfter lt) =
      highTarget lt a b (a.size - 1) b.size [a[a.size - 1]!] :=
    calc a.toList.merge b.toList (notAfter lt) = highTarget lt a b a.size b.size [] := by
          rw [highTarget, List.take_of_length_le (by simp), List.take_of_length_le (by simp),
            List.append_nil]
      _ = _ := highTarget_takeA h hb [] hsa le_rfl hsb le_rfl hlast
  rw [hstart, mergeHigh]
  split
  · rename_i ha1
    rw [← highDone_eq [a[a.size - 1]!] (.inl ha1)]
  · split
    · rename_i ha1 hb1
      rw [← highFirstOfB_eq [a[a.size - 1]!] hb1 (by omega) hfirst]
    · rename_i ha1 hb1
      exact mergeHighFrom_eq h ha hb hfirst _ _ _ _ _ _ (by omega) (by omega) (by omega) le_rfl
        (by omega)

end Loop

end High

/-- Whichever side a merge starts from, it gives the stable merge, when the first item of the
second run is before every item of the first, and the last item of the first after every item
of the second. -/
theorem mergeLow_or_mergeHigh_eq [Inhabited α] (h : StrictWeakOrder lt) {a b : Array α}
    (ha : a.toList.Pairwise fun x y => notAfter lt x y)
    (hb : b.toList.Pairwise fun x y => notAfter lt x y) (hsa : 0 < a.size) (hsb : 0 < b.size)
    (hfirst : ∀ x ∈ a.toList, lt b[0]! x) (hlast : ∀ y ∈ b.toList, lt y a[a.size - 1]!)
    (threshold : Nat) :
    (if a.size ≤ b.size then mergeLow lt a b threshold else mergeHigh lt a b threshold).1.toList =
      a.toList.merge b.toList (notAfter lt) := by
  split
  · exact mergeLow_eq h ha hb hlast threshold hsa hsb
      (hfirst _ (by rw [getElem!_pos a 0 hsa]; exact Array.getElem_mem_toList hsa))
  · exact mergeHigh_eq h ha hb hfirst threshold hsa hsb
      (hlast _ (by rw [getElem!_pos b (b.size - 1) (by omega)]; exact Array.getElem_mem_toList _))

end Sorting
end EngineFit
