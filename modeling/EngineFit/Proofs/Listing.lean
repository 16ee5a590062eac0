import Mathlib
import EngineFit.Ranking
import EngineFit.Proofs.Sorting.Adaptive
import EngineFit.Proofs.Sorting.Natural

/-!
# The listing and the chosen engine

Scores are whole numbers when they come from the engine checks, but a listing may be asked of
any numbers, NaN included. On whole-number scores `displayOrder` is the stable sort by the key
(negated score, devel) (`displayOrder_eq_mergeSort`): the sort it runs is the stable merge sort
(`Sorting.adaptiveMergeSort_eq_mergeSort`), its test is the key's order there, and the sort
commutes with forgetting that the scores are whole (`Sorting.adaptiveMergeSort_map`).

The chosen engine is the first of the highest score among those that can be chosen
(`topEngine_firstLeast`), and so is the first row of the listing that can be chosen: both are
the first least item by points (`Sorting.FirstLeast`), which is unique.

With a NaN score this fails: no comparison with NaN holds, so the sort finds nothing out of
order around it and the listing keeps the input order (`displayOrder_nan_misleads`).
-/

namespace EngineFit

namespace Score

/-- The score as a whole number, when it is one; a boolean counts as 0 or 1, and a double is
not one. -/
def toInt? : Score → Option Int
  | .whole n => some n
  | .truth b => some (if b then 1 else 0)
  | .real _ => none

variable {a b : Score} {m n : Int}

theorem compare?_of_toInt? (ha : a.toInt? = some m) (hb : b.toInt? = some n) :
    compare? a b = some (compare m n) := by
  cases a <;> cases b <;>
    simp_all [toInt?, compare?, toValue, Value.numCompare, Value.numeral?]

theorem lt_of_toInt? (ha : a.toInt? = some m) (hb : b.toInt? = some n) :
    a.lt b = decide (m < n) := by
  rw [lt, compare?_of_toInt? ha hb, Option.some_beq_some, Bool.eq_iff_iff, beq_iff_eq,
    decide_eq_true_iff, compare_lt_iff_lt]

theorem eq_of_toInt? (ha : a.toInt? = some m) (hb : b.toInt? = some n) :
    a.eq b = decide (m = n) := by
  rw [eq, compare?_of_toInt? ha hb, Option.some_beq_some, Bool.eq_iff_iff, beq_iff_eq,
    decide_eq_true_iff, compare_eq_iff_eq]

theorem toInt?_neg (ha : a.toInt? = some m) : a.neg.toInt? = some (-m) := by
  cases a with
  | whole k => simp_all [toInt?, neg]
  | real x => simp [toInt?] at ha
  | truth t => cases t <;> cases ha <;> rfl

end Score

namespace Scored

/-- The engine's score as a whole number; 0 for a double, which has none. -/
def points (s : Scored) : Int := s.score.toInt?.getD 0

/-- Where an engine with a whole-number score stands in a listing: its score negated, then
whether it is devel, compared in that order. -/
def listingKey (s : Scored) : Int ×ₗ Bool :=
  toLex (-s.points, !s.manifest.isStable)

variable {s t : Scored}

/-- A whole-number score is its points. -/
theorem toInt?_eq_points (hs : s.score.toInt?.isSome) : s.score.toInt? = some s.points := by
  obtain ⟨m, hm⟩ := Option.isSome_iff_exists.1 hs
  rw [points, hm, Option.getD_some]

/-- Between whole-number scores, being lower is having fewer points. -/
theorem score_lt_eq (hs : s.score.toInt?.isSome) (ht : t.score.toInt?.isSome) :
    s.score.lt t.score = decide (s.points < t.points) :=
  Score.lt_of_toInt? (toInt?_eq_points hs) (toInt?_eq_points ht)

end Scored

/-- On whole-number scores, standing before in a listing is having the smaller key. -/
theorem listedBefore_eq_key {a b : Scored} (ha : a.score.toInt?.isSome)
    (hb : b.score.toInt?.isSome) :
    listedBefore a b = decide (a.listingKey < b.listingKey) := by
  have ha' := Score.toInt?_neg (Scored.toInt?_eq_points ha)
  have hb' := Score.toInt?_neg (Scored.toInt?_eq_points hb)
  rw [listedBefore, Score.eq_of_toInt? ha' hb', Score.lt_of_toInt? ha' hb', Scored.listingKey,
    Scored.listingKey]
  simp only [Prod.Lex.toLex_lt_toLex, neg_inj, neg_lt_neg_iff]
  -- at equal points the devel flag decides, and otherwise the points alone
  by_cases hab : a.points = b.points
  · cases a.manifest.isStable <;> cases b.manifest.isStable <;> simp [hab]
  · simp [hab]

/-- **The listing is the stable sort by key.** On engines whose scores are whole numbers, the
listing is the stable sort by the key (negated score, devel): highest score first, stable
before devel at equal score, and otherwise the input order. -/
theorem displayOrder_eq_mergeSort {xs : List Scored}
    (hwhole : ∀ s ∈ xs, s.score.toInt?.isSome) :
    displayOrder xs = xs.mergeSort fun a b => decide (a.listingKey ≤ b.listingKey) := by
  match xs, hwhole with
  | [], _ => simp [displayOrder]
  | x :: rest, hwhole =>
    -- the sort runs as on the engines with whole-number scores, where its test compares keys
    let ys := (x :: rest).attachWith (fun s => s.score.toInt?.isSome = true) hwhole
    have hkey : ∀ a b : {s : Scored // s.score.toInt?.isSome = true},
        listedBefore a.1 b.1 = decide (a.1.listingKey < b.1.listingKey) :=
      fun a b => listedBefore_eq_key a.2 b.2
    have hswo : Sorting.StrictWeakOrder
        fun a b : {s : Scored // s.score.toInt?.isSome = true} => listedBefore a.1 b.1 := by
      simp only [hkey]
      exact Sorting.strictWeakOrder_of_key fun a : {s : Scored // s.score.toInt?.isSome = true} =>
        a.1.listingKey
    let _ : Inhabited Scored := ⟨x⟩
    let _ : Inhabited {s : Scored // s.score.toInt?.isSome = true} :=
      ⟨⟨x, hwhole x List.mem_cons_self⟩⟩
    have hmap := Sorting.adaptiveMergeSort_map listedBefore (f := Subtype.val) rfl ys.toArray
    rw [displayOrder, ← List.attachWith_map_subtype_val hwhole, ← List.map_toArray, hmap,
      Array.toList_map, Sorting.adaptiveMergeSort_eq_mergeSort hswo, List.toList_toArray]
    refine List.map_mergeSort fun a _ b _ => ?_
    simp only [hkey]
    exact Sorting.notAfter_of_key (fun a => a.1.listingKey) a b

/-- Whether `a` has at least the points of `c`: the order in which the chosen engine is the
first least, that is, the first of the highest score. -/
def morePoints (a c : Scored) : Bool := decide (c.points ≤ a.points)

@[simp] theorem morePoints_eq_true {a c : Scored} :
    morePoints a c = true ↔ c.points ≤ a.points :=
  decide_eq_true_iff

@[simp] theorem morePoints_eq_false {a c : Scored} :
    morePoints a c = false ↔ a.points < c.points := by
  simp [morePoints]

/-- The engine `firstBest` keeps is the first of the highest score. The scan keeps the best so
far and replaces it only by a strictly higher score. -/
theorem firstBest_firstLeast :
    ∀ (b : Scored) (l : List Scored), (∀ s ∈ b :: l, s.score.toInt?.isSome) →
      Sorting.FirstLeast morePoints (b :: l) (firstBest b l)
  | b, [], _ => Sorting.firstLeast_cons_iff.2 (.inl ⟨rfl, by simp⟩)
  | b, x :: xs, hwhole => by
    have hb := hwhole b (by simp)
    have hx := hwhole x (by simp)
    rw [firstBest, Scored.score_lt_eq hb hx]
    by_cases hbx : b.points < x.points
    · -- a higher score replaces `b`, and the best of the rest is at least as high as `x`
      rw [if_pos (decide_eq_true hbx)]
      have ih := firstBest_firstLeast x xs fun s hs => hwhole s (List.mem_cons_of_mem b hs)
      have hxr : x.points ≤ (firstBest x xs).points := by
        rcases Sorting.firstLeast_cons_iff.1 ih with ⟨hr, -⟩ | ⟨hxr, -⟩
        · rw [hr]
        · exact (morePoints_eq_false.1 hxr).le
      exact Sorting.firstLeast_cons_iff.2 (.inr ⟨morePoints_eq_false.2 (by omega), ih⟩)
    · -- `b` stays the best, and `x` is not above it
      rw [if_neg (by simpa using hbx)]
      have hsub : b :: xs ⊆ b :: x :: xs := ((List.sublist_cons_self x xs).cons_cons b).subset
      have ih := firstBest_firstLeast b xs fun s hs => hwhole s (hsub hs)
      rcases Sorting.firstLeast_cons_iff.1 ih with ⟨hr, hxs⟩ | ⟨hbr, hrest⟩
      · refine Sorting.firstLeast_cons_iff.2 (.inl ⟨hr, ?_⟩)
        rintro s (_ | ⟨_, hs⟩)
        · exact morePoints_eq_true.2 (by omega)
        · exact hxs s hs
      · have hxr : morePoints x (firstBest b xs) = false :=
          morePoints_eq_false.2 (by have := morePoints_eq_false.1 hbr; omega)
        exact Sorting.firstLeast_cons_iff.2
          (.inr ⟨hbr, Sorting.firstLeast_cons_iff.2 (.inr ⟨hxr, hrest⟩)⟩)

/-- The chosen engine is missing exactly when no engine can be chosen. -/
theorem topEngine_eq_error_iff (xs : List Scored) :
    topEngine xs = .error ⟨⟩ ↔ ∀ s ∈ xs, s.selectable = false := by
  rw [topEngine]
  split
  case h_1 hnil => simpa using List.filter_eq_nil_iff.1 hnil
  case h_2 c cs hcons =>
    have hc : c ∈ xs.filter Scored.selectable := by simp [hcons]
    simp only [reduceCtorEq, false_iff, not_forall, Bool.not_eq_false]
    exact ⟨c, (List.mem_filter.1 hc).1, (List.mem_filter.1 hc).2⟩

/-- The chosen engine is the first of the highest score among those that can be chosen. -/
theorem topEngine_firstLeast {xs : List Scored} {c : Scored}
    (hwhole : ∀ s ∈ xs, s.score.toInt?.isSome) (h : topEngine xs = .ok c) :
    Sorting.FirstLeast morePoints (xs.filter Scored.selectable) c := by
  rw [topEngine] at h
  split at h
  case h_1 => cases h
  case h_2 b bs hcons =>
    cases h
    rw [hcons]
    exact firstBest_firstLeast b bs fun s hs =>
      hwhole s (List.mem_filter.1 (hcons ▸ hs)).1

/-- Among engines that can be chosen, which are all stable, the listing order is the order of
points, highest first. -/
theorem listingKey_le_eq_morePoints {a b : Scored} (ha : a.selectable) (hb : b.selectable) :
    decide (a.listingKey ≤ b.listingKey) = morePoints a b := by
  have hsa : a.manifest.isStable := (Bool.and_eq_true_iff.1 ha).2
  have hsb : b.manifest.isStable := (Bool.and_eq_true_iff.1 hb).2
  simp only [Scored.listingKey, hsa, hsb, Prod.Lex.toLex_le_toLex, morePoints]
  rw [Bool.eq_iff_iff]
  simp only [decide_eq_true_eq, neg_lt_neg_iff, neg_inj, Bool.not_true, le_refl, and_true]
  omega

/-- Comparing listing keys by `≤` is transitive and total, as `List.mergeSort` needs. -/
theorem listingKey_trans (a b c : Scored) :
    decide (a.listingKey ≤ b.listingKey) → decide (b.listingKey ≤ c.listingKey) →
      decide (a.listingKey ≤ c.listingKey) :=
  Sorting.keyLe_trans Scored.listingKey a b c

theorem listingKey_total (a b : Scored) :
    (decide (a.listingKey ≤ b.listingKey) || decide (b.listingKey ≤ a.listingKey)) = true :=
  Sorting.keyLe_total Scored.listingKey a b

/-- The first row of the stable sort by key that can be chosen is the chosen engine: both are
the first of the highest score among engines that can be chosen. -/
theorem find?_mergeSort_eq_topEngine {xs : List Scored} {c : Scored}
    (hwhole : ∀ s ∈ xs, s.score.toInt?.isSome) (hc : topEngine xs = .ok c) :
    (xs.mergeSort fun a b => decide (a.listingKey ≤ b.listingKey)).find? Scored.selectable =
      some c := by
  have hbest := topEngine_firstLeast hwhole hc
  -- a first row that can be chosen exists, since `c` can be
  obtain ⟨r, hr⟩ : ∃ r, (xs.mergeSort fun a b => decide (a.listingKey ≤ b.listingKey)).find?
      Scored.selectable = some r := by
    obtain ⟨pre, post, hl, -, -⟩ := hbest
    have hmem : c ∈ xs.filter Scored.selectable := by simp [hl]
    refine Option.isSome_iff_exists.1 (List.find?_isSome.2 ⟨c, ?_, (List.mem_filter.1 hmem).2⟩)
    exact List.mem_mergeSort.2 (List.mem_filter.1 hmem).1
  -- on engines that can be chosen the key orders by points alone, so `r` is `c`
  have hsorted :=
    Sorting.firstLeast_of_find?_mergeSort listingKey_trans listingKey_total _ xs hr
  have hfirst : Sorting.FirstLeast morePoints (xs.filter Scored.selectable) r :=
    hsorted.congr fun a ha b hb =>
      listingKey_le_eq_morePoints (List.mem_filter.1 ha).2 (List.mem_filter.1 hb).2
  rw [hfirst.unique hbest] at hr
  exact hr

/-- **The chosen engine is the first of the highest score.** In the input, every engine before
it that can be chosen has a lower score, and none after it a higher one. -/
theorem topEngine_first_of_highest {xs : List Scored} {c : Scored}
    (hwhole : ∀ s ∈ xs, s.score.toInt?.isSome) (hc : topEngine xs = .ok c) :
    ∃ pre post, xs = pre ++ c :: post ∧ c.selectable ∧
      (∀ s ∈ pre, s.selectable → s.score.lt c.score) ∧
      ∀ s ∈ post, s.selectable → c.score.lt s.score = false := by
  obtain ⟨pre, post, hl, hsel, hpre, hpost⟩ := (topEngine_firstLeast hwhole hc).of_filter
  have hc := hwhole c (by simp [hl])
  refine ⟨pre, post, hl, hsel, fun s hs hss => ?_, fun s hs hss => ?_⟩
  · rw [Scored.score_lt_eq (hwhole s (by simp [hl, hs])) hc]
    simpa using hpre s hs hss
  · rw [Scored.score_lt_eq hc (hwhole s (by simp [hl, hs]))]
    simpa using hpost s hs hss

/-- **The listing and the choice agree.** With scores that are whole numbers, the listing is
the stable sort by (highest score, stable first): a permutation, ordered by that key, that keeps
the input order of engines of equal key. The choice fails exactly when no engine can be chosen;
otherwise it is the first row of the listing that can be chosen, and in the input the first
engine of the highest score among those that can be chosen, never a devel one. -/
theorem displayOrder_sorts_topEngine_leads (xs : List Scored)
    (hwhole : ∀ s ∈ xs, s.score.toInt?.isSome) :
    (displayOrder xs).Perm xs ∧
    (displayOrder xs).Pairwise (fun a b => a.listingKey ≤ b.listingKey) ∧
    (∀ a b, a.listingKey = b.listingKey → [a, b].Sublist xs →
      [a, b].Sublist (displayOrder xs)) ∧
    (topEngine xs = .error ⟨⟩ ↔ ∀ s ∈ xs, s.selectable = false) ∧
    ∀ c, topEngine xs = .ok c → (displayOrder xs).find? Scored.selectable = some c ∧
      ∃ pre post, xs = pre ++ c :: post ∧ c.selectable ∧
        (∀ s ∈ pre, s.selectable → s.score.lt c.score) ∧
        ∀ s ∈ post, s.selectable → c.score.lt s.score = false := by
  rw [displayOrder_eq_mergeSort hwhole]
  refine ⟨List.mergeSort_perm _ _, ?sorted, ?stable, topEngine_eq_error_iff xs, ?choice⟩
  case sorted => simpa using List.pairwise_mergeSort listingKey_trans listingKey_total xs
  case stable =>
    intro a b hab hsub
    exact List.pair_sublist_mergeSort listingKey_trans listingKey_total (by simp [hab]) hsub
  case choice =>
    intro c hc
    exact ⟨find?_mergeSort_eq_topEngine hwhole hc, topEngine_first_of_highest hwhole hc⟩

/-- A stable engine of score 1, a devel engine of score 3 and a stable engine of score 2: the
chosen engine, the one of score 2, is the first row of the listing that can be chosen. -/
theorem topEngine_leads_past_devel :
    let engine (name : String) (grade : Grade) (points : Int) : Scored :=
      { manifest := { name := name, description := "", vendor := "", grade := grade },
        score := .whole points }
    let xs := [engine "a" .stable 1, engine "d" .devel 3, engine "b" .stable 2]
    (∀ s ∈ xs, s.score.toInt?.isSome) ∧ (topEngine xs).toOption.map Scored.name = some "b" ∧
      ((displayOrder xs).find? Scored.selectable).map Scored.name = some "b" := by
  intro engine xs
  have hwhole : ∀ s ∈ xs, s.score.toInt?.isSome := by simp [xs, engine, Score.toInt?]
  have hchoice :=
    ((displayOrder_sorts_topEngine_leads xs hwhole).2.2.2.2 (engine "b" .stable 2) rfl).1
  exact ⟨hwhole, rfl, by rw [hchoice]; rfl⟩

/-- With a NaN score between scores 1 and 2 the listing keeps the input order, since no
comparison with NaN holds: the engine of score 1 is listed before the one of score 2 and is the
first row that can be chosen, yet the one of score 2 is chosen. -/
theorem displayOrder_nan_misleads :
    let engine (name : String) (score : Score) : Scored :=
      { manifest := { name := name, description := "", vendor := "", grade := .stable },
        score := score }
    let xs := [engine "a" (.whole 1), engine "n" (.real (0 / 0)), engine "b" (.whole 2)]
    (displayOrder xs).map Scored.name = ["a", "n", "b"] ∧
      ((displayOrder xs).find? Scored.selectable).map Scored.name = some "a" ∧
      (topEngine xs).toOption.map Scored.name = some "b" := by
  decide +kernel

end EngineFit
