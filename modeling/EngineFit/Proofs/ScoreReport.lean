import Mathlib
import EngineFit.Score
import EngineFit.Proofs.Matching

/-!
# Scoring an engine, stated declaratively

`checkEngine` runs its checks as loops with running totals: a score and a list of issues for
the all-of group, counts and two issue lists for the any-of group. `engineReport` says the
same without loops, from the outcome `R r` of matching each requirement `r`:

* memory is unchecked when the engine names none, and otherwise passes (one point) when memory
  and swap together reach it; disk space likewise against the disk entry at the storage path;
* the all-of group passes when every requirement matched, for the sum of their scores, and
  otherwise gives, for each unmatched requirement in order, its issues and its summary line;
* the any-of group fails with the issues of its unmatched alternatives and a closing line when
  it is not empty and none matched; otherwise it fails with the issues of its USB alternatives
  when it has one, and otherwise passes for the sum of the scores of those that matched;
* the engine scores the sum of the parts when no part has an issue, and otherwise 0 with every
  issue in order.

`checkEngine_eq_ok_iff` proves that scoring returns exactly when the machine is `Scorable`
for the engine (memory measured when needed, a disk entry when needed, and every requirement
matched without a breakdown), and that its result is then the report.
-/

namespace EngineFit

/-! ### The outcome of matching one requirement -/

namespace Requirement

/-- The outcome of matching `r` against the machine; an outcome with no device when the
matching broke down (scoring then stops, so it is never used). -/
def outcome (r : Requirement) (s : Snapshot) (conns : Connections) : Outcome :=
  match r.matchOn s conns with
  | .ok o => o
  | .error _ => {}

theorem outcome_eq {r : Requirement} {s : Snapshot} {conns : Connections} {o : Outcome}
    (h : r.matchOn s conns = .ok o) : r.outcome s conns = o := by
  simp [outcome, h]

/-- A USB requirement is never matched: its one issue says so. -/
@[simp] theorem outcome_usb (n : UsbNeed) (s : Snapshot) (conns : Connections) :
    (Requirement.usb n).outcome s conns = .failed ["usb device matching not implemented"] :=
  rfl

/-- So a USB requirement always carries an issue. -/
theorem issues_ne_nil_of_isUsb {r : Requirement} (hu : r.isUsb) (s : Snapshot)
    (conns : Connections) : (r.outcome s conns).issues ≠ [] := by
  cases r <;> simp_all [isUsb, Outcome.failed]

end Requirement

/-! ### The report -/

/-- A memory or disk check: unchecked when nothing is needed, one point when what is
available reaches what is needed, and otherwise the issue. -/
def resourceReport (need : Option Size) (available : Nat) (issue : String) : Nat × List String :=
  match need with
  | none => (0, [])
  | some n => if n.bytes ≤ available then (1, []) else (0, [issue])

/-- The all-of group: the sum of the scores when every requirement matched, and otherwise the
issues and the summary line of each unmatched requirement, in order. -/
def allOfReport (R : Requirement → Outcome) (rs : List Requirement) : Nat × List String :=
  if rs.all fun r => (R r).matched then ((rs.map fun r => (R r).score).sum, [])
  else (0, (rs.filter fun r => !(R r).matched).flatMap fun r => (R r).issues ++ [r.summary])

/-- The any-of group: with alternatives and none matched, their issues and a closing line;
otherwise the issues of its USB alternatives when it has one; otherwise the sum of the scores
of the alternatives that matched. -/
def anyOfReport (R : Requirement → Outcome) (rs : List Requirement) : Nat × List String :=
  if !rs.isEmpty && rs.all fun r => !(R r).matched then
    (0, ((rs.filter fun r => !(R r).matched).flatMap fun r => (R r).issues) ++
      ["required device not found"])
  else if rs.any Requirement.isUsb then
    (0, (rs.filter Requirement.isUsb).flatMap fun r => (R r).issues)
  else (((rs.filter fun r => (R r).matched).map fun r => (R r).score).sum, [])

/-- The space available at the storage path; 0 when the snapshot has no entry there. -/
def availableAt (s : Snapshot) (storage : Value) : Nat :=
  match diskAt s storage with
  | .ok (some d) => d.avail
  | _ => 0

/-- The report of an engine on a machine: the sum of its four parts when none has an issue,
and otherwise 0 with the issues of all parts in order. -/
def engineReport (s : Snapshot) (m : Manifest) (conns : Connections) (storage : Value) :
    Nat × List String :=
  let memory := resourceReport m.memory (s.memory.ram + s.memory.swap) "host system memory too small"
  let disk := resourceReport m.diskSpace (availableAt s storage) "host system disk space too small"
  let all := allOfReport (·.outcome s conns) m.allOf
  let any := anyOfReport (·.outcome s conns) m.anyOf
  let issues := memory.2 ++ disk.2 ++ all.2 ++ any.2
  if issues.isEmpty then (memory.1 + disk.1 + all.1 + any.1, []) else (0, issues)

/-- What scoring an engine needs of the machine: measured memory when the engine needs
memory, a disk entry at the storage path when it needs disk space, and an outcome for every
requirement of its two groups. -/
structure Scorable (s : Snapshot) (m : Manifest) (conns : Connections) (storage : Value) :
    Prop where
  memory : m.memory.isSome → s.memory.ram ≠ 0
  disk : m.diskSpace.isSome → ∃ d, diskAt s storage = .ok (some d)
  devices : ∀ r ∈ m.allOf ++ m.anyOf, r.matchOn s conns = .ok (r.outcome s conns)

/-! ### The all-of group -/

section Groups

variable {s : Snapshot} {conns : Connections}

theorem matchOn_outcome_of_eq {r : Requirement} {o : Outcome} (h : r.matchOn s conns = .ok o) :
    r.matchOn s conns = .ok (r.outcome s conns) := by
  rw [Requirement.outcome_eq h, h]

/-- The all-of loop, when every requirement has an outcome: the scores of the matched
requirements are added to the running score, and the issues and summary line of each unmatched
one appended to the running issues. -/
theorem allOf_foldlM {step : Nat × List String → Requirement → Except Breakdown (Nat × List String)}
    (hstep : ∀ acc r o, r.matchOn s conns = .ok o →
      step acc r = .ok (if o.matched then (acc.1 + o.score, acc.2)
        else (acc.1, acc.2 ++ o.issues ++ [r.summary])))
    {rs : List Requirement} (hR : ∀ r ∈ rs, r.matchOn s conns = .ok (r.outcome s conns))
    (acc : Nat × List String) :
    rs.foldlM step acc = .ok (acc.1 + ((rs.filter fun r => (r.outcome s conns).matched).map
        fun r => (r.outcome s conns).score).sum,
      acc.2 ++ (rs.filter fun r => !(r.outcome s conns).matched).flatMap
        fun r => (r.outcome s conns).issues ++ [r.summary]) := by
  induction rs generalizing acc with
  | nil => simp [pure, Except.pure]
  | cons r rs ih =>
    rw [List.foldlM_cons, hstep acc r _ (hR r List.mem_cons_self), bind_eq_ok]
    refine ⟨_, rfl, ?_⟩
    rw [ih (fun r' h => hR r' (List.mem_cons_of_mem r h))]
    by_cases hm : (r.outcome s conns).matched <;> simp [hm, Nat.add_assoc]

/-- A loop whose steps need an outcome of each requirement has one when it returns. -/
theorem outcomes_of_foldlM {β : Type}
    {step : β → Requirement → Except Breakdown β}
    (hstep : ∀ acc r res, step acc r = .ok res → ∃ o, r.matchOn s conns = .ok o) :
    ∀ {rs : List Requirement} {acc res : β}, rs.foldlM step acc = .ok res →
      ∀ r ∈ rs, r.matchOn s conns = .ok (r.outcome s conns)
  | [], _, _, _ => by simp
  | r :: rs, acc, res, h => by
    rw [List.foldlM_cons, bind_eq_ok] at h
    obtain ⟨acc', hr, h⟩ := h
    intro r' hr'
    rcases List.mem_cons.1 hr' with rfl | hr'
    · obtain ⟨o, ho⟩ := hstep _ _ _ hr
      exact matchOn_outcome_of_eq ho
    · exact outcomes_of_foldlM hstep h r' hr'

/-- The issues of the unmatched requirements are none exactly when all matched: each unmatched
one adds at least its summary line. -/
theorem unmatched_issues_eq_nil (R : Requirement → Outcome) (rs : List Requirement) :
    ((rs.filter fun r => !(R r).matched).flatMap fun r => (R r).issues ++ [r.summary]) = [] ↔
      rs.all fun r => (R r).matched := by
  simp [List.flatMap_eq_nil_iff]

/-- **The all-of check, declaratively.**  It returns exactly when every requirement has an
outcome, and then gives the all-of report. -/
theorem checkAllOf_eq_ok_iff {rs : List Requirement} {g : Nat × List String} :
    checkAllOf s rs conns = .ok g ↔
      (∀ r ∈ rs, r.matchOn s conns = .ok (r.outcome s conns)) ∧
        g = allOfReport (fun r => r.outcome s conns) rs := by
  have hstep : ∀ (acc : Nat × List String) (r : Requirement) (o : Outcome),
      r.matchOn s conns = .ok o →
      (do
        let o ← r.matchOn s conns
        if o.matched then pure (acc.1 + o.score, acc.2)
        else pure (acc.1, acc.2 ++ o.issues ++ [r.summary]) : Except Breakdown _) =
      .ok (if o.matched then (acc.1 + o.score, acc.2)
        else (acc.1, acc.2 ++ o.issues ++ [r.summary])) := by
    intro acc r o ho
    rw [ho]
    by_cases hm : o.matched <;> simp [hm, bind, Except.bind, pure, Except.pure]
  unfold checkAllOf
  constructor
  · intro h
    rw [bind_eq_ok] at h
    obtain ⟨⟨sc, is⟩, hf, h⟩ := h
    have hR := outcomes_of_foldlM (fun acc r res h => by
      rw [bind_eq_ok] at h
      obtain ⟨o, ho, -⟩ := h
      exact ⟨o, ho⟩) hf
    rw [allOf_foldlM hstep hR, Except.ok.injEq, Prod.mk.injEq] at hf
    obtain ⟨rfl, rfl⟩ := hf
    refine ⟨hR, ?_⟩
    unfold allOfReport
    by_cases hall : rs.all fun r => (r.outcome s conns).matched
    · have hnil := (unmatched_issues_eq_nil _ rs).2 hall
      simp only [List.nil_append, hnil, List.isEmpty_nil, if_true, pure_eq_ok] at h
      rw [← h, if_pos hall, List.filter_eq_self.2 (by simpa using hall)]
      simp
    · have hne := mt (unmatched_issues_eq_nil _ rs).1 hall
      simp only [List.nil_append, List.isEmpty_iff, hne, if_false, pure_eq_ok] at h
      rw [← h, if_neg hall]
  · rintro ⟨hR, rfl⟩
    rw [bind_eq_ok]
    refine ⟨_, allOf_foldlM hstep hR (0, []), ?_⟩
    unfold allOfReport
    by_cases hall : rs.all fun r => (r.outcome s conns).matched
    · have hnil := (unmatched_issues_eq_nil _ rs).2 hall
      simp only [List.nil_append, hnil, List.isEmpty_nil, if_true, if_pos hall,
        List.filter_eq_self.2 (by simpa using hall)]
      simp [pure, Except.pure]
    · have hne := mt (unmatched_issues_eq_nil _ rs).1 hall
      simp only [List.nil_append, List.isEmpty_iff, hne, if_false, if_neg hall]
      rfl

/-! ### The any-of group -/

/-- Collecting the outcomes of the alternatives returns exactly when each has one, in order. -/
theorem mapM_outcomes {f : Requirement → Except Breakdown (Requirement × Outcome)}
    (hf : ∀ r o, r.matchOn s conns = .ok o → f r = .ok (r, o))
    (hf' : ∀ r p, f r = .ok p → ∃ o, r.matchOn s conns = .ok o) :
    ∀ {rs : List Requirement} {outs : List (Requirement × Outcome)}, rs.mapM f = .ok outs ↔
      (∀ r ∈ rs, r.matchOn s conns = .ok (r.outcome s conns)) ∧
        outs = rs.map fun r => (r, r.outcome s conns)
  | [], outs => by rw [List.mapM_nil, pure_eq_ok]; simp [eq_comm]
  | r :: rs, outs => by
    simp only [List.mapM_cons, bind_eq_ok, pure_eq_ok, List.forall_mem_cons, List.map_cons]
    constructor
    · rintro ⟨p, hp, outs', hrs, rfl⟩
      obtain ⟨o, ho⟩ := hf' r p hp
      rw [hf r o ho, Except.ok.injEq] at hp
      obtain ⟨hR, rfl⟩ := mapM_outcomes hf hf' |>.1 hrs
      exact ⟨⟨matchOn_outcome_of_eq ho, hR⟩, by rw [← hp, Requirement.outcome_eq ho]⟩
    · rintro ⟨⟨hr, hR⟩, rfl⟩
      exact ⟨_, hf r _ hr, _, (mapM_outcomes hf hf').2 ⟨hR, rfl⟩, rfl⟩

/-- The lists the any-of check gathers from the outcomes of its alternatives, stated on the
alternatives themselves. -/
theorem anyOf_lists (R : Requirement → Outcome) (rs : List Requirement)
    (husb : ∀ r ∈ rs, r.isUsb → R r = .failed ["usb device matching not implemented"]) :
    (((rs.map fun r => (r, R r)).filter (·.2.matched)).length == 0) =
        rs.all (fun r => !(R r).matched) ∧
      (((rs.map fun r => (r, R r)).filter (!·.2.matched)).map (·.2.issues)).flatten =
        (rs.filter fun r => !(R r).matched).flatMap (fun r => (R r).issues) ∧
      (((rs.map fun r => (r, R r)).filter fun p => !p.2.matched && p.1.isUsb).map
          (·.2.issues)).flatten = (rs.filter Requirement.isUsb).flatMap (fun r => (R r).issues) ∧
      ((rs.filter Requirement.isUsb).flatMap (fun r => (R r).issues)).isEmpty =
        !rs.any Requirement.isUsb ∧
      (((rs.map fun r => (r, R r)).filter (·.2.matched)).map (·.2.score)).foldl (· + ·) 0 =
        ((rs.filter fun r => (R r).matched).map fun r => (R r).score).sum := by
  have hfilter : (rs.filter fun r => !(R r).matched && r.isUsb) = rs.filter Requirement.isUsb := by
    apply List.filter_congr
    intro r hr
    cases hu : r.isUsb <;> simp [hu, husb r hr, Outcome.failed]
  refine ⟨?_, ?_, ?_, ?_, ?_⟩
  · rw [Bool.eq_iff_iff]
    simp [List.filter_map, Function.comp_def, List.filter_eq_nil_iff, List.all_eq_true]
  · simp [List.filter_map, List.flatMap_def, Function.comp_def]
  · simp only [List.filter_map, List.map_map]
    rw [← hfilter]
    simp [List.flatMap_def, Function.comp_def]
  · cases h : rs.any Requirement.isUsb
    · simp_all [List.flatMap_eq_nil_iff]
    · obtain ⟨r, hr, hu⟩ := List.any_eq_true.1 h
      rw [Bool.not_true, List.isEmpty_eq_false_iff]
      intro hnil
      have := List.flatMap_eq_nil_iff.1 hnil r (List.mem_filter.2 ⟨hr, hu⟩)
      simp [husb r hr hu, Outcome.failed] at this
  · simp [List.filter_map, List.sum_eq_foldl, Function.comp_def]

/-- **The any-of check, declaratively.**  It returns exactly when every alternative has an
outcome, and then gives the any-of report. -/
theorem checkAnyOf_eq_ok_iff {rs : List Requirement} {g : Nat × List String} :
    checkAnyOf s rs conns = .ok g ↔
      (∀ r ∈ rs, r.matchOn s conns = .ok (r.outcome s conns)) ∧
        g = anyOfReport (fun r => r.outcome s conns) rs := by
  unfold checkAnyOf
  rw [bind_eq_ok]
  have hf : ∀ (r : Requirement) (o : Outcome), r.matchOn s conns = .ok o →
      (do pure (r, ← r.matchOn s conns) : Except Breakdown (Requirement × Outcome)) =
        .ok (r, o) := by
    intro r o ho
    rw [ho]
    rfl
  have hf' : ∀ (r : Requirement) (p : Requirement × Outcome),
      (do pure (r, ← r.matchOn s conns) : Except Breakdown (Requirement × Outcome)) = .ok p →
      ∃ o, r.matchOn s conns = .ok o := by
    intro r p h
    rw [bind_eq_ok] at h
    obtain ⟨o, ho, -⟩ := h
    exact ⟨o, ho⟩
  simp only [mapM_outcomes hf hf']
  obtain ⟨hfound, hunm, hunsup, hempty, hscore⟩ :=
    anyOf_lists (fun r => r.outcome s conns) rs (fun r _ hu => by
      cases r <;> simp_all [Requirement.isUsb])
  constructor
  · rintro ⟨_, ⟨hR, rfl⟩, h⟩
    refine ⟨hR, ?_⟩
    rw [hfound, hunm, hunsup, hempty, hscore, Bool.not_not] at h
    unfold anyOfReport
    by_cases h1 : (!rs.isEmpty && rs.all fun r => !(r.outcome s conns).matched) = true
    · rw [if_pos h1, pure_eq_ok] at h
      rw [if_pos h1, h]
    · rw [if_neg h1] at h ⊢
      by_cases h2 : rs.any Requirement.isUsb = true
      · rw [if_pos h2, pure_eq_ok] at h
        rw [if_pos h2, h]
      · rw [if_neg h2, pure_eq_ok] at h
        rw [if_neg h2, h]
  · rintro ⟨hR, rfl⟩
    refine ⟨_, ⟨hR, rfl⟩, ?_⟩
    rw [hfound, hunm, hunsup, hempty, hscore, Bool.not_not]
    unfold anyOfReport
    by_cases h1 : (!rs.isEmpty && rs.all fun r => !(r.outcome s conns).matched) = true
    · rw [if_pos h1, if_pos h1]
      rfl
    · rw [if_neg h1, if_neg h1]
      by_cases h2 : rs.any Requirement.isUsb = true
      · rw [if_pos h2, if_pos h2]
        rfl
      · rw [if_neg h2, if_neg h2]
        rfl

end Groups

/-! ### The whole engine -/

section Engine

variable {s : Snapshot} {m : Manifest} {conns : Connections} {storage : Value}

theorem checkMemory_eq_ok_iff {r : Nat × List String} :
    checkMemory s m = .ok r ↔ (m.memory.isSome → s.memory.ram ≠ 0) ∧
      r = resourceReport m.memory (s.memory.ram + s.memory.swap)
        "host system memory too small" := by
  unfold checkMemory resourceReport
  cases m.memory with
  | none => simpa [pure_eq_ok] using eq_comm
  | some need =>
    by_cases h0 : s.memory.ram = 0
    · simp [h0, throw_eq_ok]
    · by_cases hlt : s.memory.ram + s.memory.swap < need.bytes
      · simpa [h0, hlt, pure_eq_ok, Nat.not_le.2 hlt] using eq_comm
      · simpa [h0, hlt, pure_eq_ok, Nat.le_of_not_lt hlt, weights] using eq_comm

theorem checkDisk_eq_ok_iff {r : Nat × List String} :
    checkDisk s m storage = .ok r ↔ (m.diskSpace.isSome → ∃ d, diskAt s storage = .ok (some d)) ∧
      r = resourceReport m.diskSpace (availableAt s storage)
        "host system disk space too small" := by
  unfold checkDisk resourceReport availableAt
  cases m.diskSpace with
  | none => simpa [pure_eq_ok] using eq_comm
  | some need =>
    simp only [bind_eq_ok, Option.isSome_some, forall_const]
    cases hd : diskAt s storage with
    | error e => simp
    | ok d? =>
      cases d? with
      | none => simp [throw_eq_ok]
      | some d =>
        by_cases hlt : d.avail < need.bytes
        · simpa [hlt, pure_eq_ok, Nat.not_le.2 hlt] using eq_comm
        · simpa [hlt, pure_eq_ok, Nat.le_of_not_lt hlt, weights] using eq_comm

theorem liftBreakdown_eq_ok {α : Type} {x : Except Breakdown α} {a : α} :
    liftBreakdown x = .ok a ↔ x = .ok a := by
  cases x <;> simp [liftBreakdown]

/-- A group that is skipped when empty returns what its check returns, given that its report
of no requirement is empty. -/
theorem checkGroup_eq_ok_iff
    {check : Snapshot → List Requirement → Connections → Except Breakdown (Nat × List String)}
    (report : (Requirement → Outcome) → List Requirement → Nat × List String)
    (hcheck : ∀ rs g, check s rs conns = .ok g ↔
      (∀ r ∈ rs, r.matchOn s conns = .ok (r.outcome s conns)) ∧ g = report (·.outcome s conns) rs)
    (hnil : report (·.outcome s conns) [] = (0, [])) (rs : List Requirement)
    (g : Nat × List String) :
    checkGroup check s rs conns = .ok g ↔
      (∀ r ∈ rs, r.matchOn s conns = .ok (r.outcome s conns)) ∧
        g = report (·.outcome s conns) rs := by
  unfold checkGroup
  cases rs with
  | nil => simpa [hnil, pure_eq_ok] using eq_comm
  | cons r rs => simp [liftBreakdown_eq_ok, hcheck]

/-- **Scoring, declaratively.**  Scoring an engine returns exactly when the machine is
scorable for it, and then gives the engine's report. -/
theorem checkEngine_eq_ok_iff {res : Nat × List String} :
    checkEngine s m conns storage = .ok res ↔
      Scorable s m conns storage ∧ res = engineReport s m conns storage := by
  have hall := checkGroup_eq_ok_iff allOfReport (fun _ _ => @checkAllOf_eq_ok_iff s conns _ _)
    (by simp [allOfReport])
  have hany := checkGroup_eq_ok_iff anyOfReport (fun _ _ => @checkAnyOf_eq_ok_iff s conns _ _)
    (by simp [anyOfReport])
  unfold checkEngine
  simp only [bind_eq_ok, checkMemory_eq_ok_iff, checkDisk_eq_ok_iff, hall, hany]
  constructor
  · rintro ⟨_, ⟨hmem, rfl⟩, _, ⟨hdisk, rfl⟩, _, ⟨hA, rfl⟩, _, ⟨hB, rfl⟩, h⟩
    exact ⟨⟨hmem, hdisk, List.forall_mem_append.2 ⟨hA, hB⟩⟩, ite_pure_eq_ok.1 h⟩
  · rintro ⟨⟨hmem, hdisk, hdev⟩, rfl⟩
    obtain ⟨hA, hB⟩ := List.forall_mem_append.1 hdev
    exact ⟨_, ⟨hmem, rfl⟩, _, ⟨hdisk, rfl⟩, _, ⟨hA, rfl⟩, _, ⟨hB, rfl⟩, ite_pure_eq_ok.2 rfl⟩

/-- **Scoring gives the report.**  For every engine, machine, connection check and storage
path for which scoring returns, its score and issues are the engine's report. -/
theorem checkEngine_eq_engineReport (h : checkEngine s m conns storage = .ok res) :
    res = engineReport s m conns storage :=
  (checkEngine_eq_ok_iff.1 h).2

/-- An engine that has the memory it needs but not the disk space, misses a CPU flag in its
all-of group, and offers a USB alternative beside a CPU that matches: all four parts report,
in order. -/
theorem checkEngine_eq_engineReport_every_part :
    let s : Snapshot :=
      { cpus := [{ architecture := "amd64", flags := ["avx2"] }], memory := { ram := 16 },
        disk := [("/var/lib/snapd", { total := 100, avail := 10 })] }
    let m : Manifest :=
      { name := "e", description := "", vendor := "", grade := .stable,
        allOf := [.amd64 { flags := ["avx512f"] }], anyOf := [.amd64 {}, .usb {}],
        memory := some ⟨"8", 8⟩, diskSpace := some ⟨"20", 20⟩ }
    let res := (0, ["host system disk space too small", "flag avx512f missing",
      "required cpu device not found", "usb device matching not implemented"])
    checkEngine s m Connections.all (.str "/var/lib/snapd") = .ok res ∧
      res = engineReport s m Connections.all (.str "/var/lib/snapd") :=
  ⟨rfl, checkEngine_eq_engineReport rfl⟩

end Engine

end EngineFit
