import Mathlib
import EngineFit.Sorting.Adaptive

/-!
# Stable sorting by a strict weak order

The sorts of `EngineFit.Sorting` take a test `lt`, "strictly before". When `lt` is a strict
weak order, the items that are not before one another fall into classes, and the classes are
ordered. A stable sort puts the classes in that order and keeps the items of each class in
their order: that is what `List.mergeSort` does with the test `notAfter lt a b = !lt b a`, and
it is the result every sort here is proved to give.

The proofs of the sorts compare their steps with `List.merge` by `notAfter lt`. This module
gives the facts about that merge they rest on: a block of one run that goes before the next
item of the other is taken whole (`merge_append_of_notAfter`, `merge_append_of_lt`), a block
that goes after all of the other run is left at the end (`merge_append_right_of_lt`,
`merge_append_right_of_notAfter`), and merging two sorted neighbouring blocks sorts their
concatenation (`mergeSort_append`).

The last two sections serve the listing of engines: comparing by a key into a linear order is a
strict weak order (`strictWeakOrder_of_key`), and the first item of a stable sort that passes a
test is the first of the least passing items of the input (`firstLeast_of_find?_mergeSort`).
-/

namespace EngineFit
namespace Sorting

variable {α : Type} {lt : α → α → Bool}

/-- A test that orders items strictly and weakly: nothing is before itself, being before is
transitive, and an item before another is also before or after any third one (so the items
that are not before one another form classes). -/
structure StrictWeakOrder (lt : α → α → Bool) : Prop where
  irrefl : ∀ a, lt a a = false
  trans : ∀ {a b c}, lt a b → lt b c → lt a c
  split : ∀ {a b c}, lt a c → lt a b ∨ lt b c

/-- `a` is not after `b`: the order a stable sort by `lt` leaves its items in. -/
def notAfter (lt : α → α → Bool) (a b : α) : Bool := !lt b a

@[simp] theorem notAfter_eq_true {a b : α} : notAfter lt a b = true ↔ lt b a = false := by
  simp [notAfter]

namespace StrictWeakOrder

variable (h : StrictWeakOrder lt)
include h

theorem asymm {a b : α} (hab : lt a b) : lt b a = false := by
  cases hba : lt b a
  · rfl
  · simpa [h.irrefl] using h.trans hab hba

theorem lt_of_lt_of_notAfter {a b c : α} (hab : lt a b) (hbc : notAfter lt b c) : lt a c := by
  rcases h.split (b := c) hab with hac | hcb
  · exact hac
  · simp_all

theorem lt_of_notAfter_of_lt {a b c : α} (hab : notAfter lt a b) (hbc : lt b c) : lt a c := by
  rcases h.split (b := a) hbc with hba | hac
  · simp_all
  · exact hac

theorem notAfter_trans {a b c : α} (hab : notAfter lt a b) (hbc : notAfter lt b c) :
    notAfter lt a c := by
  rw [notAfter_eq_true]
  cases hca : lt c a
  · rfl
  · simp [h.lt_of_lt_of_notAfter hca hab] at hbc

theorem notAfter_total (a b : α) : (notAfter lt a b || notAfter lt b a) = true := by
  cases hab : lt a b
  · simp [notAfter, hab]
  · simp [notAfter, h.asymm hab]

theorem notAfter_of_lt {a b : α} (hab : lt a b) : notAfter lt a b := by
  simpa using h.asymm hab

end StrictWeakOrder

/-! ### Blocks that a merge takes whole -/

section Blocks

/-- A block of the first run whose items are not after the next item of the second run is
taken before it. -/
theorem merge_append_of_notAfter {xs ys zs : List α} {y : α}
    (hxs : ∀ x ∈ xs, notAfter lt x y) :
    (xs ++ ys).merge (y :: zs) (notAfter lt) = xs ++ ys.merge (y :: zs) (notAfter lt) := by
  induction xs with
  | nil => rfl
  | cons x xs ih =>
    rw [List.cons_append, List.cons_merge_cons, if_pos (hxs x List.mem_cons_self),
      ih fun x' hx' => hxs x' (List.mem_cons_of_mem _ hx'), List.cons_append]

/-- A block of the second run whose items are before the next item of the first run is taken
before it. -/
theorem merge_append_of_lt {x : α} {xs ys zs : List α} (hys : ∀ y ∈ ys, lt y x) :
    (x :: xs).merge (ys ++ zs) (notAfter lt) = ys ++ (x :: xs).merge zs (notAfter lt) := by
  induction ys with
  | nil => rfl
  | cons y ys ih =>
    have hyx : notAfter lt x y = false := by simp [notAfter, hys y List.mem_cons_self]
    rw [List.cons_append, List.cons_merge_cons, hyx, if_neg Bool.false_ne_true,
      ih fun y' hy' => hys y' (List.mem_cons_of_mem _ hy'), List.cons_append]

/-- A second run whose items are all before every item of a block is merged with what comes
before the block. -/
theorem merge_append_right_of_lt {xs xs' ys : List α}
    (h : ∀ x ∈ xs', ∀ y ∈ ys, lt y x) :
    (xs ++ xs').merge ys (notAfter lt) = xs.merge ys (notAfter lt) ++ xs' := by
  induction xs generalizing ys with
  | nil =>
    induction ys with
    | nil => simp
    | cons y ys ih =>
      cases xs' with
      | nil => simp
      | cons x xs' =>
        have hyx : notAfter lt x y = false := by
          simp [notAfter, h x List.mem_cons_self y List.mem_cons_self]
        rw [List.nil_append, List.cons_merge_cons, hyx, if_neg Bool.false_ne_true,
          ← List.nil_append (x :: xs'),
          ih fun x' hx' y' hy' => h x' hx' y' (List.mem_cons_of_mem _ hy')]
        simp
  | cons x xs ih =>
    induction ys with
    | nil => simp
    | cons y ys ihy =>
      rw [List.cons_append, List.cons_merge_cons, List.cons_merge_cons]
      split
      · rw [ih h, List.cons_append]
      · rw [← List.cons_append, ihy fun x' hx' y' hy' => h x' hx' y' (List.mem_cons_of_mem _ hy'),
          List.cons_append]

/-- A block of the second run whose items are all not before any item of the first run is left
at the end. -/
theorem merge_append_right_of_notAfter {xs ys ys' : List α}
    (h : ∀ x ∈ xs, ∀ y ∈ ys', notAfter lt x y) :
    xs.merge (ys ++ ys') (notAfter lt) = xs.merge ys (notAfter lt) ++ ys' := by
  induction ys generalizing xs with
  | nil =>
    induction xs with
    | nil => simp
    | cons x xs ih =>
      cases ys' with
      | nil => simp
      | cons y ys' =>
        rw [List.nil_append, List.cons_merge_cons,
          if_pos (h x List.mem_cons_self y List.mem_cons_self), ← List.nil_append (y :: ys'),
          ih fun x' hx' y' hy' => h x' (List.mem_cons_of_mem _ hx') y' hy']
        simp
  | cons y ys ih =>
    induction xs with
    | nil => simp
    | cons x xs ihx =>
      rw [List.cons_append, List.cons_merge_cons, List.cons_merge_cons]
      split
      · rw [← List.cons_append, ihx fun x' hx' y' hy' => h x' (List.mem_cons_of_mem _ hx') y' hy',
          List.cons_append]
      · rw [ih h, List.cons_append]

/-- Inserting an item after the items of a sorted list that are not after it, and before the
first that is after it, is merging it in. -/
theorem insertIdx_eq_merge {S : List α} {x : α} {p : Nat} (hp : p ≤ S.length)
    (hle : ∀ i (hi : i < p), notAfter lt S[i] x)
    (hlt : ∀ hp' : p < S.length, lt x S[p]) :
    S.insertIdx p x = S.merge [x] (notAfter lt) := by
  induction p generalizing S with
  | zero =>
    cases S with
    | nil => simp
    | cons s S =>
      have hxs' : lt x s := hlt (by simp)
      have hxs : notAfter lt s x = false := by simp [notAfter, hxs']
      rw [List.insertIdx_zero, List.cons_merge_cons, hxs, if_neg Bool.false_ne_true,
        List.merge_right]
  | succ p ih =>
    cases S with
    | nil => simp at hp
    | cons s S =>
      have hs : notAfter lt s x := hle 0 (by omega)
      rw [List.insertIdx_succ_cons, List.cons_merge_cons, if_pos hs,
        ih (by simpa using hp) (fun i hi => hle (i + 1) (by omega))
          (fun hp' => hlt (by simpa using hp'))]

end Blocks

/-! ### Sorting by blocks -/

section Sorts

/-- Two tagged items of a list with the same tag are the same. -/
theorem eq_of_mem_zipIdx_of_snd_eq {l : List α} {a b : α × Nat} (ha : a ∈ l.zipIdx)
    (hb : b ∈ l.zipIdx) (hab : a.2 = b.2) : a = b := by
  obtain ⟨x, i⟩ := a
  obtain ⟨y, j⟩ := b
  obtain ⟨-, hx⟩ := List.mem_zipIdx' ha
  obtain ⟨-, hy⟩ := List.mem_zipIdx' hb
  simp only at hab
  subst hab
  rw [hx, hy]

/-- Sorting a list tagged from any place and dropping the tags sorts the list. -/
theorem map_fst_mergeSort_zipIdx (le : α → α → Bool) (l : List α) (k : Nat) :
    ((l.zipIdx k).mergeSort (List.zipIdxLE le)).map (·.1) = l.mergeSort le := by
  rw [List.zipIdx_eq_map_add, ← List.map_mergeSort (r := List.zipIdxLE le), List.map_map]
  · exact List.mergeSort_zipIdx
  · intro a _ b _
    simp [List.zipIdxLE]

variable (h : StrictWeakOrder lt)
include h

/-- What the stable sort gives is sorted. -/
theorem pairwise_notAfter_mergeSort (l : List α) :
    (l.mergeSort (notAfter lt)).Pairwise fun a b => notAfter lt a b :=
  List.pairwise_mergeSort (fun a b _ (hab : notAfter lt a b) hbc => h.notAfter_trans hab hbc)
    h.notAfter_total l

/-- Merging the sorted halves of a list sorts it, so sorted blocks that stand side by side can
be merged in any grouping. Tagging each item with its place makes the order total, and a
sorted permutation by a total order is unique. -/
theorem mergeSort_append (l₁ l₂ : List α) :
    (l₁ ++ l₂).mergeSort (notAfter lt) =
      (l₁.mergeSort (notAfter lt)).merge (l₂.mergeSort (notAfter lt)) (notAfter lt) := by
  have trans :=
    List.zipIdxLE_trans fun a b c (hab : notAfter lt a b) hbc => h.notAfter_trans hab hbc
  have total := List.zipIdxLE_total h.notAfter_total
  let T₁ := l₁.zipIdx
  let T₂ := l₂.zipIdx l₁.length
  have hT : (l₁ ++ l₂).zipIdx = T₁ ++ T₂ := by simp [T₁, T₂, List.zipIdx_append]
  -- the tags of `l₁` are below those of `l₂`
  have hidx : ∀ x y, x ∈ T₁.mergeSort (List.zipIdxLE (notAfter lt)) →
      y ∈ T₂.mergeSort (List.zipIdxLE (notAfter lt)) → x.2 ≤ y.2 := by
    intro x y hx hy
    rw [List.mem_mergeSort] at hx hy
    have := List.le_snd_of_mem_zipIdx hy
    have := List.snd_lt_add_of_mem_zipIdx hx
    omega
  -- sorting the tagged list merges its sorted tagged halves
  have htagged : (T₁ ++ T₂).mergeSort (List.zipIdxLE (notAfter lt)) =
      (T₁.mergeSort (List.zipIdxLE (notAfter lt))).merge
        (T₂.mergeSort (List.zipIdxLE (notAfter lt))) (List.zipIdxLE (notAfter lt)) := by
    refine List.Perm.eq_of_pairwise ?_ (List.pairwise_mergeSort trans total _)
      (List.pairwise_merge trans total _ _ (List.pairwise_mergeSort trans total _)
        (List.pairwise_mergeSort trans total _)) ?_
    · intro a b ha hb hab hba
      rw [List.mem_mergeSort, ← hT] at ha
      rw [List.mem_merge, List.mem_mergeSort, List.mem_mergeSort, ← List.mem_append, ← hT] at hb
      refine eq_of_mem_zipIdx_of_snd_eq ha hb ?_
      simp only [List.zipIdxLE] at hab hba
      have h₁ : notAfter lt a.1 b.1 := by
        by_contra hc
        simp [hc] at hab
      have h₂ : notAfter lt b.1 a.1 := by
        by_contra hc
        simp [hc] at hba
      simp only [h₁, h₂, if_true, decide_eq_true_eq] at hab hba
      omega
    · exact (List.mergeSort_perm _ _).trans ((List.merge_perm_append _).trans
        ((List.mergeSort_perm _ _).append (List.mergeSort_perm _ _))).symm
  calc (l₁ ++ l₂).mergeSort (notAfter lt)
      = ((l₁ ++ l₂).zipIdx.mergeSort (List.zipIdxLE (notAfter lt))).map (·.1) :=
        List.mergeSort_zipIdx.symm
    _ = ((T₁.mergeSort (List.zipIdxLE (notAfter lt))).merge
          (T₂.mergeSort (List.zipIdxLE (notAfter lt)))
          (List.zipIdxLE (notAfter lt))).map (·.1) := by
        rw [hT, htagged]
    _ = ((T₁.mergeSort (List.zipIdxLE (notAfter lt))).map (·.1)).merge
          ((T₂.mergeSort (List.zipIdxLE (notAfter lt))).map (·.1)) (notAfter lt) :=
        List.merge_stable _ _ hidx
    _ = _ := by rw [map_fst_mergeSort_zipIdx, map_fst_mergeSort_zipIdx]

/-- A list that never falls is sorted already. -/
theorem mergeSort_eq_self_of_isChain {l : List α} (hl : l.IsChain fun a b => notAfter lt a b) :
    l.mergeSort (notAfter lt) = l := by
  have : Trans (fun a b => notAfter lt a b = true) (fun a b => notAfter lt a b = true)
      (fun a b => notAfter lt a b = true) := ⟨h.notAfter_trans⟩
  exact List.mergeSort_of_pairwise (List.isChain_iff_pairwise.1 hl)

/-- A list that strictly falls is sorted by turning it round: no two of its items are in one
class, so its order is the only sorted one. -/
theorem mergeSort_eq_reverse_of_isChain {l : List α} (hl : l.IsChain fun a b => lt b a) :
    l.mergeSort (notAfter lt) = l.reverse := by
  have : Trans (fun a b => lt b a = true) (fun a b => lt b a = true) (fun a b => lt b a = true) :=
    ⟨fun hab hbc => h.trans hbc hab⟩
  have hfall : l.Pairwise fun a b => lt b a := List.isChain_iff_pairwise.1 hl
  refine List.Perm.eq_of_pairwise ?_ (pairwise_notAfter_mergeSort h l) ?_
    ((List.mergeSort_perm l _).trans (List.reverse_perm l).symm)
  · -- two items of the list are in one class only if they are the same
    intro a b ha hb hab hba
    rw [List.mem_mergeSort] at ha
    rw [List.mem_reverse] at hb
    by_contra hne
    have hcmp : l.Pairwise fun x y => lt x y ∨ lt y x := hfall.imp Or.inr
    have : Std.Symm fun x y => lt x y ∨ lt y x := ⟨fun _ _ => Or.symm⟩
    have hab' : lt a b ∨ lt b a := hcmp.forall ha hb hne
    simp only [notAfter_eq_true] at hab hba
    rcases hab' with hlt | hlt <;> simp_all
  · rw [List.pairwise_reverse]
    exact hfall.imp fun hba => h.notAfter_of_lt hba

end Sorts

/-! ### Sorting by a key -/

section Key

variable {κ : Type} [LinearOrder κ] (key : α → κ)

/-- Comparing by a key into a linear order is a strict weak order. -/
theorem strictWeakOrder_of_key : StrictWeakOrder fun a b => decide (key a < key b) where
  irrefl a := by simp
  trans hab hbc := by
    simp only [decide_eq_true_eq] at hab hbc ⊢
    exact lt_trans hab hbc
  split {a b c} hac := by
    simp only [decide_eq_true_eq] at hac ⊢
    rcases lt_or_ge (key a) (key b) with hab | hba
    · exact .inl hab
    · exact .inr (lt_of_le_of_lt hba hac)

/-- Not after, by a key: the key is not greater. -/
theorem notAfter_of_key (a b : α) :
    notAfter (fun a b => decide (key a < key b)) a b = decide (key a ≤ key b) := by
  simp only [notAfter, ← decide_not, not_lt]

theorem keyLe_trans (a b c : α) (hab : decide (key a ≤ key b)) (hbc : decide (key b ≤ key c)) :
    decide (key a ≤ key c) := by
  simp only [decide_eq_true_eq] at hab hbc ⊢
  exact hab.trans hbc

theorem keyLe_total (a b : α) : (decide (key a ≤ key b) || decide (key b ≤ key a)) = true := by
  simpa using le_total (key a) (key b)

end Key

/-! ### The first least item -/

section First

/-- `r` is the first of the least items of `l` by `le`: every item before it is strictly
after it, and it is not after any item that follows. -/
def FirstLeast (le : α → α → Bool) (l : List α) (r : α) : Prop :=
  ∃ pre post, l = pre ++ r :: post ∧ (∀ s ∈ pre, le s r = false) ∧ ∀ s ∈ post, le r s = true

/-- Of two places in one list, the earlier item lies before the later place, and the later item
after the earlier place. -/
theorem mem_of_append_cons_eq {pre post pre' post' : List α} {r r' : α}
    (h : pre ++ r :: post = pre' ++ r' :: post') (hlt : pre.length < pre'.length) :
    r ∈ pre' ∧ r' ∈ post := by
  rcases List.append_eq_append_iff.1 h with ⟨as, hpre', has⟩ | ⟨bs, hpre, hbs⟩
  · cases as with
    | nil => simp [hpre'] at hlt
    | cons b as =>
      obtain ⟨rfl, rfl⟩ := List.cons_eq_cons.1 has
      exact ⟨by simp [hpre'], by simp⟩
  · have := congrArg List.length hpre
    simp at this
    omega

theorem FirstLeast.unique {le : α → α → Bool} {l : List α} {r r' : α} (h : FirstLeast le l r)
    (h' : FirstLeast le l r') : r = r' := by
  obtain ⟨pre, post, hl, hpre, hpost⟩ := h
  obtain ⟨pre', post', hl', hpre', hpost'⟩ := h'
  have hsame := hl.symm.trans hl'
  rcases lt_trichotomy pre.length pre'.length with hlt | heq | hgt
  · -- an `r` earlier than `r'` would be both strictly after it and not after it
    obtain ⟨hr, hr'⟩ := mem_of_append_cons_eq hsame hlt
    exact absurd (hpost r' hr') (by simp [hpre' r hr])
  · exact (List.cons_eq_cons.1 (List.append_inj hsame heq).2).1
  · obtain ⟨hr', hr⟩ := mem_of_append_cons_eq hsame.symm hgt
    exact absurd (hpost' r hr) (by simp [hpre r' hr'])

/-- The first least item of a list with a head is the head, when it is not after any item of
the tail, or else the first least item of the tail, which the head is strictly after. -/
theorem firstLeast_cons_iff {le : α → α → Bool} {a r : α} {l : List α} :
    FirstLeast le (a :: l) r ↔
      (r = a ∧ ∀ s ∈ l, le a s = true) ∨ (le a r = false ∧ FirstLeast le l r) := by
  constructor
  · rintro ⟨pre, post, hl, hpre, hpost⟩
    cases pre with
    | nil =>
      obtain ⟨rfl, rfl⟩ := List.cons_eq_cons.1 hl
      exact .inl ⟨rfl, hpost⟩
    | cons b pre =>
      obtain ⟨rfl, rfl⟩ := List.cons_eq_cons.1 hl
      exact .inr ⟨hpre a List.mem_cons_self, pre, post, rfl,
        fun s hs => hpre s (List.mem_cons_of_mem a hs), hpost⟩
  · rintro (⟨rfl, hl⟩ | ⟨har, pre, post, rfl, hpre, hpost⟩)
    · exact ⟨[], l, rfl, by simp, hl⟩
    · refine ⟨a :: pre, post, rfl, ?_, hpost⟩
      rintro s (_ | ⟨_, hs⟩)
      · exact har
      · exact hpre s hs

/-- The first item of a stable sort that passes a test is the first least item that passes it.
The proof follows the sort item by item (`List.mergeSort_cons`): the item put in front of the
sort of the rest either goes after some passing item, which stays the first, or before all of
them, and is then the first if it passes. -/
theorem firstLeast_of_find?_mergeSort {le : α → α → Bool}
    (trans : ∀ a b c, le a b → le b c → le a c) (total : ∀ a b, (le a b || le b a) = true)
    (p : α → Bool) : ∀ (l : List α) {r : α}, (l.mergeSort le).find? p = some r →
      FirstLeast le (l.filter p) r
  | [], r, hr => by simp at hr
  | a :: l, r, hr => by
    obtain ⟨l₁, l₂, h₁, h₂, h₃⟩ := List.mergeSort_cons trans total a l
    rw [h₁, List.find?_append] at hr
    cases hfind : l₁.find? p with
    | some r₁ =>
      -- a passing item of the sort of the rest goes before `a`: it is the first
      rw [hfind, Option.some_or, Option.some.injEq] at hr
      subst hr
      have hrest : (l.mergeSort le).find? p = some r₁ := by
        rw [h₂, List.find?_append, hfind, Option.some_or]
      have ih := firstLeast_of_find?_mergeSort trans total p l hrest
      have har : le a r₁ = false := by simpa using h₃ r₁ (List.mem_of_find?_eq_some hfind)
      cases hpa : p a
      · rwa [List.filter_cons_of_neg (by simp [hpa])]
      · rw [List.filter_cons_of_pos hpa]
        exact firstLeast_cons_iff.2 (.inr ⟨har, ih⟩)
    | none =>
      rw [hfind, Option.none_or] at hr
      have hnone : ∀ s ∈ l₁, p s = false := by simpa using List.find?_eq_none.1 hfind
      cases hpa : p a
      · -- `a` fails the test: the first passing item is that of the sort of the rest
        rw [List.find?_cons_of_neg (by simp [hpa])] at hr
        have hrest : (l.mergeSort le).find? p = some r := by
          rw [h₂, List.find?_append, hfind, Option.none_or, hr]
        rw [List.filter_cons_of_neg (by simp [hpa])]
        exact firstLeast_of_find?_mergeSort trans total p l hrest
      · -- `a` passes and goes before every passing item of the rest
        rw [List.find?_cons_of_pos hpa, Option.some.injEq] at hr
        subst hr
        rw [List.filter_cons_of_pos hpa]
        refine firstLeast_cons_iff.2 (.inl ⟨rfl, fun s hs => ?_⟩)
        obtain ⟨hsl, hps⟩ := List.mem_filter.1 hs
        have hs₂ : s ∈ l₂ := by
          have : s ∈ l₁ ++ l₂ := by rw [← h₂, List.mem_mergeSort]; exact hsl
          rcases List.mem_append.1 this with hs₁ | hs₂
          · simp [hnone s hs₁] at hps
          · exact hs₂
        have hsorted := List.pairwise_mergeSort trans total (a :: l)
        rw [h₁, List.pairwise_append, List.pairwise_cons] at hsorted
        exact hsorted.2.1.1 s hs₂

/-- Tests that agree on the items of a list have the same first least item. -/
theorem FirstLeast.congr {le le' : α → α → Bool} {l : List α} {r : α}
    (hle : ∀ a ∈ l, ∀ b ∈ l, le a b = le' a b) (h : FirstLeast le l r) : FirstLeast le' l r := by
  obtain ⟨pre, post, hl, hpre, hpost⟩ := h
  have hr : r ∈ l := by simp [hl]
  refine ⟨pre, post, hl, fun s hs => ?_, fun s hs => ?_⟩
  · rw [← hle s (by simp [hl, hs]) r hr]
    exact hpre s hs
  · rw [← hle r hr s (by simp [hl, hs])]
    exact hpost s hs

/-- The first least item of the items that pass a test, seen in the whole list. -/
theorem FirstLeast.of_filter {le : α → α → Bool} {p : α → Bool} {l : List α} {r : α}
    (h : FirstLeast le (l.filter p) r) :
    ∃ pre post, l = pre ++ r :: post ∧ p r ∧ (∀ s ∈ pre, p s → le s r = false) ∧
      ∀ s ∈ post, p s → le r s = true := by
  obtain ⟨P, Q, hl, hP, hQ⟩ := h
  obtain ⟨l₁, l₂, rfl, hl₁, hl₂⟩ := List.filter_eq_append_iff.1 hl
  obtain ⟨l₃, l₄, rfl, hl₃, hpr, hl₄⟩ := List.filter_eq_cons_iff.1 hl₂
  refine ⟨l₁ ++ l₃, l₄, by simp, hpr, fun s hs hps => ?_, fun s hs hps => ?_⟩
  · rcases List.mem_append.1 hs with hs₁ | hs₃
    · exact hP s (hl₁ ▸ List.mem_filter.2 ⟨hs₁, hps⟩)
    · exact absurd hps (hl₃ s hs₃)
  · exact hQ s (hl₄ ▸ List.mem_filter.2 ⟨hs, hps⟩)

end First

end Sorting
end EngineFit
