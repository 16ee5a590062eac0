import EngineFit.Proofs.Sorting.Merge

/-!
# The stack of runs stands for a sorted prefix

While the sort runs, its stack holds runs that lie side by side from the front of the items,
and each run holds, sorted, the input items of its range. `Stacked` says so of a state, and the
theorems here show that merging two neighbouring runs (`mergeRuns`), merging while the stack is
too deep (`mergeDeeper`), and putting a new sorted run on the stack (`pushRun`) keep it. The
powers that decide which runs to merge play no part: any merge of neighbours keeps the items
sorted blockwise, which is why the merge policy can be followed exactly without being proved
anything about.

A merge of two runs first leaves in place the front of the first run that is not after the
second, and the back of the second that is not before the first
(`merge_eq_trimmed`): the rest is merged by `mergeLow` or `mergeHigh`.
-/

namespace EngineFit
namespace Sorting

variable {α : Type} {lt : α → α → Bool}

/-! ### Runs side by side -/

/-- Runs that lie side by side from `lo` to `hi`, none of them empty. -/
def Adjacent : List Run → Nat → Nat → Prop
  | [], lo, hi => lo = hi
  | r :: rs, lo, hi => r.start = lo ∧ 0 < r.len ∧ Adjacent rs (lo + r.len) hi

theorem adjacent_append {l₁ l₂ : List Run} {lo hi : Nat} :
    Adjacent (l₁ ++ l₂) lo hi ↔ ∃ m, Adjacent l₁ lo m ∧ Adjacent l₂ m hi := by
  induction l₁ generalizing lo with
  | nil => simp [Adjacent]
  | cons r rs ih =>
    simp only [List.cons_append, Adjacent, ih]
    constructor
    · rintro ⟨h₁, h₂, m, h₃, h₄⟩
      exact ⟨m, ⟨h₁, h₂, h₃⟩, h₄⟩
    · rintro ⟨m, ⟨h₁, h₂, h₃⟩, h₄⟩
      exact ⟨h₁, h₂, m, h₃, h₄⟩

theorem Adjacent.le {rs : List Run} {lo hi : Nat} (h : Adjacent rs lo hi) : lo ≤ hi := by
  induction rs generalizing lo with
  | nil => exact (h : lo = hi) ▸ le_rfl
  | cons r rs ih =>
    have := ih h.2.2
    omega

/-- Changing what a run carries besides its place keeps runs side by side. -/
theorem adjacent_modify {f : Run → Run} (hf : ∀ r, (f r).start = r.start ∧ (f r).len = r.len)
    {rs : List Run} {i lo hi : Nat} : Adjacent (rs.modify i f) lo hi ↔ Adjacent rs lo hi := by
  induction rs generalizing i lo with
  | nil => simp
  | cons r rs ih =>
    cases i with
    | zero => simp [Adjacent, (hf r).1, (hf r).2]
    | succ i => simp [Adjacent, ih]

/-- The items of the runs `rs` of the input `orig`, each run sorted: what a stack of runs
stands for. -/
def sortedBlocks (lt : α → α → Bool) (orig : List α) (rs : List Run) : List α :=
  rs.flatMap fun r => ((orig.drop r.start).take r.len).mergeSort (notAfter lt)

theorem sortedBlocks_append (orig : List α) (rs₁ rs₂ : List Run) :
    sortedBlocks lt orig (rs₁ ++ rs₂) = sortedBlocks lt orig rs₁ ++ sortedBlocks lt orig rs₂ := by
  simp [sortedBlocks]

theorem sortedBlocks_modify (orig : List α) {f : Run → Run}
    (hf : ∀ r, (f r).start = r.start ∧ (f r).len = r.len) (rs : List Run) (i : Nat) :
    sortedBlocks lt orig (rs.modify i f) = sortedBlocks lt orig rs := by
  induction rs generalizing i with
  | nil => simp
  | cons r rs ih =>
    cases i with
    | zero => simp [sortedBlocks, (hf r).1, (hf r).2]
    | succ i => simpa [sortedBlocks] using ih i

/-- Runs side by side within the input stand for as many items as they span. -/
theorem length_sortedBlocks (orig : List α) {rs : List Run} {lo hi : Nat}
    (h : Adjacent rs lo hi) (hhi : hi ≤ orig.length) :
    (sortedBlocks lt orig rs).length = hi - lo := by
  induction rs generalizing lo with
  | nil =>
    have : lo = hi := h
    simp [sortedBlocks, this]
  | cons r rs ih =>
    obtain ⟨hstart, hlen, hrest⟩ := h
    have hrs := ih hrest
    have := hrest.le
    simp only [sortedBlocks, List.flatMap_cons, List.length_append, List.length_mergeSort,
      List.length_take, List.length_drop] at hrs ⊢
    rw [hrs]
    omega

/-- A state of the sort whose stack holds, sorted blockwise, the items of `orig` from the front
to `lo`, followed in the items by `rest`. -/
structure Stacked (lt : α → α → Bool) (orig : List α) (lo : Nat) (rest : List α)
    (s : Merging α) : Prop where
  adjacent : Adjacent s.runs.toList 0 lo
  bound : lo ≤ orig.length
  items : s.items.toList = sortedBlocks lt orig s.runs.toList ++ rest

/-! ### Merging two neighbouring runs -/

/-- Merging two runs leaves in place the front of the first that is not after the first item
of the second, and the back of the second that no item of the first is after. -/
theorem merge_eq_trimmed {A B : List α} (skip keep : Nat)
    (hskip : ∀ y ∈ B.head?, ∀ x ∈ A.take skip, notAfter lt x y)
    (hkeep : ∀ x ∈ A.drop skip, ∀ y ∈ B.drop keep, notAfter lt x y) :
    A.merge B (notAfter lt) =
      A.take skip ++ (A.drop skip).merge (B.take keep) (notAfter lt) ++ B.drop keep := by
  cases B with
  | nil => simp
  | cons b B =>
    rw [← List.take_append_drop skip A, merge_append_of_notAfter (hskip b rfl),
      List.take_append_drop, List.append_assoc, ← merge_append_right_of_notAfter hkeep,
      List.take_append_drop]

/-- The items of an array with a stretch overwritten. -/
theorem toList_overwrite (xs : Array α) (start : Nat) (run : Array α) :
    (overwrite xs start run).toList =
      xs.toList.take start ++ run.toList ++ xs.toList.drop (start + run.size) := by
  simp only [overwrite, Array.toList_append, toList_extract_eq_take_drop, List.drop_zero,
    Nat.sub_zero, List.append_assoc]
  rw [List.take_of_length_le (l := List.drop (start + run.size) xs.toList) (by simp)]

/-- A list cut into what stands before `p`, two blocks after it, and the rest. -/
theorem eq_take_append_blocks (l : List α) (p x y : Nat) :
    l = l.take p ++ (l.drop p).take x ++ (l.drop (p + x)).take y ++ l.drop (p + x + y) := by
  conv_lhs => rw [← List.take_append_drop p l, ← List.take_append_drop x (l.drop p),
    ← List.take_append_drop y ((l.drop p).drop x)]
  simp [List.drop_drop, List.append_assoc]

/-- Cutting a list made of four blocks inside its second and third blocks. -/
theorem take_drop_around (P A B R : List α) (skip keep : Nat) (hs : skip ≤ A.length)
    (hk : keep ≤ B.length) :
    (P ++ A ++ B ++ R).take (P.length + skip) = P ++ A.take skip ∧
      (P ++ A ++ B ++ R).drop (P.length + skip + (A.length - skip + keep)) = B.drop keep ++ R := by
  constructor
  · simp [List.take_append, List.take_of_length_le, hs]
  · have : P.length + skip + (A.length - skip + keep) = (P ++ A).length + keep := by simp; omega
    rw [this, List.append_assoc (P ++ A), List.drop_append, List.drop_eq_nil_of_le (by omega),
      List.nil_append, Nat.add_sub_cancel_left, List.drop_append_of_le_length hk]

/-- A split of an array by a test on its items: the test holds of every item before the
split. -/
theorem Splits.of_mem_take [Inhabited α] {a : Array α} {p : α → Bool} {k : Nat}
    (h : Splits (fun i => p a[i]!) 0 a.size k) {x : α} (hx : x ∈ a.toList.take k) : p x := by
  obtain ⟨t, ht, rfl⟩ := List.getElem_of_mem hx
  simp only [List.length_take, Array.length_toList] at ht
  simpa [getElem!_pos a t (by omega)] using h.holds t (Nat.zero_le _) (by omega)

/-- A split of an array by a test on its items: the test fails on every item from the split
on. -/
theorem Splits.of_mem_drop [Inhabited α] {a : Array α} {p : α → Bool} {k : Nat}
    (h : Splits (fun i => p a[i]!) 0 a.size k) {x : α} (hx : x ∈ a.toList.drop k) :
    p x = false := by
  obtain ⟨t, ht, rfl⟩ := List.getElem_of_mem hx
  simp only [List.length_drop, Array.length_toList] at ht
  simpa [getElem!_pos a (k + t) (by omega)] using h.fails (k + t) (by omega) (by omega)

/-- Every item of a sorted array is not after its last one. -/
theorem notAfter_last [Inhabited α] (h : StrictWeakOrder lt) {a : Array α}
    (ha : a.toList.Pairwise fun x y => notAfter lt x y) {x : α} (hx : x ∈ a.toList) :
    notAfter lt x a[a.size - 1]! := by
  obtain ⟨k, hk, rfl⟩ := List.getElem_of_mem hx
  have hk' : k < a.size := by simpa using hk
  rw [getElem!_pos a (a.size - 1) (by omega)]
  rcases Nat.lt_or_ge k (a.size - 1) with hlt | hge
  · exact List.pairwise_iff_getElem.1 ha k (a.size - 1) hk (by simp; omega) hlt
  · simp [show k = a.size - 1 by omega, h.irrefl]

/-- What merging the runs at `i` and `i + 1` of the stack does to the items: the items of the
two runs are replaced by their merge, and the others stay where they are. -/
theorem mergeRuns_items [Inhabited α] (h : StrictWeakOrder lt) (s : Merging α) {i : Nat}
    {ra rb : Run} (hra : s.runs[i]! = ra) (hrb : s.runs[i + 1]! = rb)
    (hadj : ra.start + ra.len = rb.start) (hend : rb.start + rb.len ≤ s.items.size)
    (hla : 0 < ra.len) (hlb : 0 < rb.len)
    (hA : ((s.items.toList.drop ra.start).take ra.len).Pairwise fun x y => notAfter lt x y)
    (hB : ((s.items.toList.drop rb.start).take rb.len).Pairwise fun x y => notAfter lt x y) :
    (mergeRuns lt s i).items.toList = s.items.toList.take ra.start ++
      ((s.items.toList.drop ra.start).take ra.len).merge
        ((s.items.toList.drop rb.start).take rb.len) (notAfter lt) ++
      s.items.toList.drop (rb.start + rb.len) := by
  -- the items are the two runs with what stands before and after them
  have hsplit := eq_take_append_blocks s.items.toList ra.start ra.len rb.len
  rw [hadj] at hsplit
  unfold mergeRuns
  dsimp only
  rw [hra, hrb]
  generalize hadef : s.items.extract ra.start (ra.start + ra.len) = a
  generalize hbdef : s.items.extract rb.start (rb.start + rb.len) = b
  have haL : a.toList = (s.items.toList.drop ra.start).take ra.len := by simp [← hadef]
  have hbL : b.toList = (s.items.toList.drop rb.start).take rb.len := by simp [← hbdef]
  have hsa : a.size = ra.len := by rw [← Array.length_toList, haL]; simp; omega
  have hsb : b.size = rb.len := by rw [← Array.length_toList, hbL]; simp; omega
  rw [← haL, ← hbL] at hsplit ⊢
  rw [← haL] at hA
  rw [← hbL] at hB
  -- the front of `a` that is not after the first item of `b` stays
  have hskip := gallopRight_splits h (sortedUpTo_getElem! hA le_rfl) b[0]! 0 (by omega)
  generalize gallopRight lt b[0]! (fun t => a[t]!) a.size 0 = skip at hskip ⊢
  have hb0 : b.toList.head? = some b[0]! := by
    rw [List.head?_eq_getElem?, List.getElem?_eq_getElem (by simp; omega), Array.getElem_toList,
      getElem!_pos b 0 (by omega)]
  have hfront : ∀ y ∈ b.toList.head?, ∀ x ∈ a.toList.take skip, notAfter lt x y := by
    intro y hy x hx
    rw [hb0, Option.mem_some_iff] at hy
    subst hy
    exact hskip.of_mem_take (p := fun x => notAfter lt x b[0]!) hx
  have hskip_le := hskip.le_hi
  split
  · -- all of `a` stays in front: the runs are merged already
    rename_i hempty
    have hskip_eq : skip = a.size := by simp at hempty; omega
    have hdA : a.toList.drop a.size = [] := List.drop_of_length_le (by simp)
    have hdB : b.toList.drop b.size = [] := List.drop_of_length_le (by simp)
    have htA : a.toList.take a.size = a.toList := List.take_of_length_le (by simp)
    have htB : b.toList.take b.size = b.toList := List.take_of_length_le (by simp)
    dsimp only
    rw [merge_eq_trimmed skip b.size hfront (by simp [hskip_eq, hdA])]
    simpa [hskip_eq, hdA, hdB, htA, htB] using hsplit
  rename_i hne
  have hne' : skip < a.size := by simp at hne; omega
  -- the last item of what is left of `a` is the last item of `a`
  have hlastA : (a.extract skip)[(a.extract skip).size - 1]! = a[a.size - 1]! := by
    rw [getElem!_pos _ _ (by simp; omega), getElem!_pos a _ (by omega), Array.getElem_extract]
    congr 1
    simp
    omega
  rw [hlastA]
  -- the back of `b` that is not before the last item of `a` stays
  have hkeep := gallopLeft_splits h (sortedUpTo_getElem! hB le_rfl) a[a.size - 1]!
    (b.size - 1) (by omega)
  generalize gallopLeft lt a[a.size - 1]! (fun t => b[t]!) b.size (b.size - 1) = keep at hkeep ⊢
  have hback : ∀ x ∈ a.toList.drop skip, ∀ y ∈ b.toList.drop keep, notAfter lt x y := by
    intro x hx y hy
    have hy' : notAfter lt a[a.size - 1]! y := by
      simpa using hkeep.of_mem_drop (p := fun y => lt y a[a.size - 1]!) hy
    exact h.notAfter_trans (notAfter_last h hA (List.mem_of_mem_drop hx)) hy'
  have hkeep_le := hkeep.le_hi
  split
  · -- all of `b` goes after `a`: the runs are merged already
    rename_i hk0
    subst hk0
    dsimp only
    rw [merge_eq_trimmed skip 0 hfront hback]
    simpa using hsplit
  rename_i hk0
  -- what is left of the two runs is merged by `mergeLow` or `mergeHigh`
  have ha'L : (a.extract skip).toList = a.toList.drop skip := by simp
  have hb'L : (b.extract 0 keep).toList = b.toList.take keep := by simp
  have hfirst : ∀ x ∈ (a.extract skip).toList, lt (b.extract 0 keep)[0]! x := by
    intro x hx
    rw [ha'L] at hx
    rw [getElem!_pos _ 0 (by simp; omega), Array.getElem_extract, ← getElem!_pos b 0 (by omega)]
    simpa using hskip.of_mem_drop (p := fun x => !lt b[0]! x) hx
  have hlast : ∀ y ∈ (b.extract 0 keep).toList,
      lt y (a.extract skip)[(a.extract skip).size - 1]! := by
    intro y hy
    rw [hb'L] at hy
    rw [hlastA]
    exact hkeep.of_mem_take (p := fun y => lt y a[a.size - 1]!) hy
  have hm := mergeLow_or_mergeHigh_eq h (ha'L ▸ hA.drop) (hb'L ▸ hB.take) (by simp; omega)
    (by simp; omega) hfirst hlast s.threshold
  generalize a.extract skip = a' at hm ha'L ⊢
  generalize b.extract 0 keep = b' at hm hb'L ⊢
  generalize (if a'.size ≤ b'.size then mergeLow lt a' b' s.threshold
    else mergeHigh lt a' b' s.threshold) = p at hm ⊢
  obtain ⟨merged, th⟩ := p
  dsimp only at hm ⊢
  have hsize : merged.size = a.toList.length - skip + keep := by
    rw [← Array.length_toList, hm, List.length_merge, ha'L, hb'L]
    simp
    omega
  -- cut the items where the merged stretch starts and ends
  have hP : (s.items.toList.take ra.start).length = ra.start := by simp; omega
  obtain ⟨hfrontL, hbackL⟩ := take_drop_around (s.items.toList.take ra.start) a.toList b.toList
    (s.items.toList.drop (rb.start + rb.len)) skip keep (by simpa using hskip_le)
    (by simpa using hkeep_le)
  rw [← hsplit, hP] at hfrontL hbackL
  rw [toList_overwrite, hm, ha'L, hb'L, hsize, hfrontL, hbackL,
    merge_eq_trimmed skip keep hfront hback]
  simp

/-- The blocks of a list made of four blocks. -/
theorem take_drop_of_eq_append {L P A B Q : List α} (hL : L = P ++ A ++ B ++ Q) :
    L.take P.length = P ∧ (L.drop P.length).take A.length = A ∧
      (L.drop (P.length + A.length)).take B.length = B ∧
      L.drop (P.length + A.length + B.length) = Q := by
  subst hL
  refine ⟨by simp, by simp, by simp, ?_⟩
  rw [← List.length_append, ← List.length_append, List.drop_left]

/-- A list cut around its items at `i` and `i + 1`. -/
theorem eq_take_append_cons_cons {β : Type} (l : List β) {i : Nat} (hi : i + 1 < l.length) :
    l = l.take i ++ l[i] :: l[i + 1] :: l.drop (i + 2) := by
  rw [← List.drop_eq_getElem_cons, ← List.drop_eq_getElem_cons, List.take_append_drop]

/-- Changing the item at `i` and dropping the one after it. -/
theorem modify_eraseIdx_succ {β : Type} (l : List β) (f : β → β) {i : Nat}
    (hi : i + 1 < l.length) :
    (l.modify i f).eraseIdx (i + 1) = l.take i ++ f l[i] :: l.drop (i + 2) := by
  rw [List.modify_eq_take_cons_drop (by omega), List.eraseIdx_append_of_length_le (by simp),
    List.length_take_of_le (by omega), List.drop_eq_getElem_cons hi]
  simp

/-- Merging two runs leaves one run in their place, spanning both. -/
theorem mergeRuns_runs [Inhabited α] (s : Merging α) (i : Nat) :
    (mergeRuns lt s i).runs =
      (s.runs.modify i fun r =>
        { r with len := s.runs[i]!.len + s.runs[i + 1]!.len }).eraseIdxIfInBounds (i + 1) := by
  unfold mergeRuns
  dsimp only
  split
  · rfl
  · split
    · rfl
    · rfl

/-! ### The stack through merges and pushes -/

section Stack

variable [Inhabited α] (h : StrictWeakOrder lt) {orig : List α} {lo : Nat} {rest : List α}
  {s : Merging α}
include h

/-- Merging two neighbouring runs of the stack keeps it standing for the same sorted prefix,
with one run fewer. -/
theorem stacked_mergeRuns (hs : Stacked lt orig lo rest s) {i : Nat} (hi : i + 1 < s.runs.size) :
    Stacked lt orig lo rest (mergeRuns lt s i) ∧
      (mergeRuns lt s i).runs.size + 1 = s.runs.size := by
  obtain ⟨hadj, hbound, hitems⟩ := hs
  have hi' : i + 1 < s.runs.toList.length := by simpa using hi
  have hra : s.runs[i]! = s.runs.toList[i] := by simp [getElem!_pos s.runs i (by omega)]
  have hrb : s.runs[i + 1]! = s.runs.toList[i + 1] := by simp [getElem!_pos s.runs (i + 1) hi]
  have hnew : (mergeRuns lt s i).runs.toList = s.runs.toList.take i ++
      { s.runs.toList[i] with len := s.runs.toList[i].len + s.runs.toList[i + 1].len } ::
        s.runs.toList.drop (i + 2) := by
    rw [mergeRuns_runs, Array.toList_eraseIdxIfInBounds, Array.toList_modify, hra, hrb,
      modify_eraseIdx_succ _ _ hi']
  have hcut := eq_take_append_cons_cons s.runs.toList hi'
  generalize s.runs.toList.take i = pre at hcut hnew
  generalize s.runs.toList.drop (i + 2) = post at hcut hnew
  generalize hra' : s.runs.toList[i] = ra at hcut hnew hra
  generalize hrb' : s.runs.toList[i + 1] = rb at hcut hnew hrb
  rw [hcut] at hadj hitems
  obtain ⟨m, hpre, hstart, hla, hrbstart, hlb, hpost⟩ := adjacent_append.1 hadj
  subst hstart
  have hadj' : ra.start + ra.len = rb.start := hrbstart.symm
  have hmlo := hpost.le
  -- the items, cut around the blocks of the two runs
  have hP : (sortedBlocks lt orig pre).length = ra.start := by
    rw [length_sortedBlocks orig hpre (by omega)]
    omega
  have hA : (((orig.drop ra.start).take ra.len).mergeSort (notAfter lt)).length = ra.len := by
    simp
    omega
  have hB : (((orig.drop rb.start).take rb.len).mergeSort (notAfter lt)).length = rb.len := by
    simp
    omega
  have hL : s.items.toList = sortedBlocks lt orig pre ++
      ((orig.drop ra.start).take ra.len).mergeSort (notAfter lt) ++
      ((orig.drop rb.start).take rb.len).mergeSort (notAfter lt) ++
      (sortedBlocks lt orig post ++ rest) := by
    rw [hitems, sortedBlocks_append]
    simp [sortedBlocks]
  obtain ⟨h₁, h₂, h₃, h₄⟩ := take_drop_of_eq_append hL
  rw [hP, hA] at h₂
  rw [hP, hA, hB, hadj'] at h₃
  rw [hP, hA, hB, hadj'] at h₄
  rw [hP] at h₁
  have hend : rb.start + rb.len ≤ s.items.size := by
    rw [← Array.length_toList, hL]
    simp
    omega
  have hitems' := mergeRuns_items h s hra hrb hadj' hend hla hlb
    (by rw [h₂]; exact pairwise_notAfter_mergeSort h _)
    (by rw [h₃]; exact pairwise_notAfter_mergeSort h _)
  -- the two sorted blocks merge into the sorted block of the run spanning both
  rw [h₁, h₂, h₃, h₄, ← mergeSort_append h, ← hadj', ← List.drop_drop, ← List.take_add]
    at hitems'
  dsimp only at hnew
  refine ⟨⟨?_, hbound, ?_⟩, ?_⟩
  · rw [hnew]
    refine adjacent_append.2 ⟨ra.start, hpre, rfl, ?_, ?_⟩
    · show 0 < ra.len + rb.len
      omega
    · simpa [Nat.add_assoc] using hpost
  · rw [hitems', hnew, sortedBlocks_append]
    simp [sortedBlocks]
  · rw [mergeRuns_runs]
    simp [hi]
    omega

/-- Merging while the stack is too deep keeps it standing for the same sorted prefix. -/
theorem stacked_mergeDeeper (power fuel : Nat) (hs : Stacked lt orig lo rest s) :
    Stacked lt orig lo rest (mergeDeeper lt power fuel s) := by
  fun_induction mergeDeeper lt power fuel s with
  | case1 s => exact hs
  | case2 fuel s hdeep ih => exact ih (stacked_mergeRuns h hs (by omega)).1
  | case3 fuel s _ => exact hs

omit h [Inhabited α] in
/-- The power of a run plays no part in what the stack stands for. -/
theorem stacked_modify_power (hs : Stacked lt orig lo rest s) (k power : Nat) :
    Stacked lt orig lo rest { s with runs := s.runs.modify k fun r => { r with power } } := by
  obtain ⟨hadj, hbound, hitems⟩ := hs
  have hf : ∀ r : Run,
      ({ r with power } : Run).start = r.start ∧ ({ r with power } : Run).len = r.len :=
    fun _ => ⟨rfl, rfl⟩
  refine ⟨?_, hbound, ?_⟩
  · simpa [adjacent_modify hf] using hadj
  · simpa [sortedBlocks_modify orig hf] using hitems

omit h [Inhabited α] in
/-- A sorted run of the items that follow the stack goes on top of it. -/
theorem stacked_push {len : Nat} (hs : Stacked lt orig lo
      (((orig.drop lo).take len).mergeSort (notAfter lt) ++ rest) s)
    (hlen : 0 < len) (hfit : lo + len ≤ orig.length) :
    Stacked lt orig (lo + len) rest { s with runs := s.runs.push ⟨lo, len, 0⟩ } := by
  obtain ⟨hadj, hbound, hitems⟩ := hs
  refine ⟨?_, hfit, ?_⟩
  · rw [Array.toList_push]
    exact adjacent_append.2 ⟨lo, hadj, rfl, hlen, rfl⟩
  · simpa [sortedBlocks_append, sortedBlocks] using hitems

/-- Putting a sorted run on the stack, after the merges its boundary calls for, makes the stack
stand for the prefix up to the end of the run. -/
theorem stacked_pushRun (n : Nat) {len : Nat}
    (hs : Stacked lt orig lo (((orig.drop lo).take len).mergeSort (notAfter lt) ++ rest) s)
    (hlen : 0 < len) (hfit : lo + len ≤ orig.length) :
    Stacked lt orig (lo + len) rest (pushRun lt n lo len s) := by
  unfold pushRun
  apply stacked_push _ hlen hfit
  split
  · exact hs
  · exact stacked_modify_power (stacked_mergeDeeper h _ _ hs) _ _

/-- Merging the whole stack, with a step for every run but one, leaves at most one run. -/
theorem stacked_mergeAll (fuel : Nat) (hs : Stacked lt orig lo rest s)
    (hfuel : s.runs.size ≤ fuel + 1) :
    Stacked lt orig lo rest (mergeAll lt fuel s) ∧ (mergeAll lt fuel s).runs.size ≤ 1 := by
  fun_induction mergeAll lt fuel s with
  | case1 s => exact ⟨hs, hfuel⟩
  | case2 fuel s hmore i i' ih =>
    -- either choice of the pair to merge lies within the stack
    have hi' : i' + 1 < s.runs.size := by
      simp only [i', i]
      split <;> omega
    obtain ⟨hs', hsize⟩ := stacked_mergeRuns h hs hi'
    exact ih hs' (by omega)
  | case3 fuel s hone => exact ⟨hs, by omega⟩

omit h [Inhabited α] in
/-- A stack of at most one run that spans the whole input holds it sorted. -/
theorem Stacked.items_eq_mergeSort (hs : Stacked lt orig orig.length [] s)
    (hone : s.runs.size ≤ 1) : s.items.toList = orig.mergeSort (notAfter lt) := by
  obtain ⟨hadj, -, hitems⟩ := hs
  have hlen : s.runs.toList.length ≤ 1 := by simpa using hone
  rw [hitems, List.append_nil]
  generalize s.runs.toList = rs at hadj hlen
  match rs, hadj, hlen with
  | [], hadj, _ =>
    have : orig = [] := List.eq_nil_of_length_eq_zero (hadj : 0 = orig.length).symm
    simp [sortedBlocks, this]
  | [r], ⟨hstart, _, hend⟩, _ =>
    have hend : r.len = orig.length := by
      have : 0 + r.len = orig.length := hend
      omega
    simp [sortedBlocks, hstart, hend]
  | _ :: _ :: _, _, hlen => simp at hlen

end Stack

end Sorting
end EngineFit
