import EngineFit.Match.Device

/-!
# What matching a requirement keeps

A matcher walks the devices a requirement is checked against (the machine's CPUs, or its PCI
devices that passed the id filter) and keeps two things of them: whether some device passed,
and the best score of those that passed. `Outcome.BestOf o ns` says that `o` keeps exactly
that of the scores `ns` of the passing devices, and `Requirement.matchOn_bestOf` proves it of
every requirement, with `Requirement.scores` listing the scores.

Two consequences carry the scoring theorems. A machine with more devices gives each
requirement at least the same outcome (`Requirement.matchOn_mono`), and an outcome matched
with score 0 comes from a PCI requirement of no declared type (`Requirement.typeless_of_zero`):
every CPU that passes earns the CPU weight, and every device of a declared type earns the type
weight.

Matching breaks down at the first device whose check breaks down (`Requirement.breakdowns`
lists them in order, and `Requirement.matchOn_eq_error_iff` says so). A connection check
*answers* when it never breaks down: for every name it says connected, not connected, or why
it cannot tell. With such a check the only breakdown left is an issue that shows a number too
long to write in decimal.
-/

namespace EngineFit

/-! ### Steps of the `Except` monad -/

theorem bind_eq_ok {ε α β : Type} {x : Except ε α} {f : α → Except ε β} {b : β} :
    x >>= f = .ok b ↔ ∃ a, x = .ok a ∧ f a = .ok b := by
  cases x <;> simp [bind, Except.bind]

theorem pure_eq_ok {ε α : Type} {a b : α} : (pure a : Except ε α) = .ok b ↔ a = b := by
  simp [pure, Except.pure]

theorem throw_eq_ok {ε α : Type} {e : ε} {a : α} : (throw e : Except ε α) = .ok a ↔ False := by
  simp [throw, throwThe, MonadExceptOf.throw]

theorem ite_pure_eq_ok {ε α : Type} {c : Prop} [Decidable c] {a b r : α} :
    (if c then pure a else pure b : Except ε α) = .ok r ↔ r = if c then a else b := by
  split <;> exact pure_eq_ok.trans eq_comm

theorem map_eq_ok {ε α β : Type} {f : α → β} {x : Except ε α} {b : β} :
    x.map f = .ok b ↔ ∃ a, x = .ok a ∧ f a = b := by
  cases x <;> simp [Except.map]

theorem map_eq_error {ε α β : Type} {f : α → β} {x : Except ε α} {e : ε} :
    x.map f = .error e ↔ x = .error e := by
  cases x <;> simp [Except.map]

/-- The error a computation fails with, if it fails. -/
def errorOf? {ε α : Type} : Except ε α → Option ε
  | .ok _ => none
  | .error e => some e

@[simp] theorem errorOf?_ok {ε α : Type} (a : α) : errorOf? (.ok a : Except ε α) = none := rfl

@[simp] theorem errorOf?_error {ε α : Type} (e : ε) : errorOf? (.error e : Except ε α) = some e :=
  rfl

theorem errorOf?_eq_some {ε α : Type} {x : Except ε α} {e : ε} :
    errorOf? x = some e ↔ x = .error e := by
  cases x <;> simp

theorem errorOf?_eq_none {ε α : Type} {x : Except ε α} : errorOf? x = none ↔ ∃ a, x = .ok a := by
  cases x <;> simp

/-- A computation that fails, if at all, with an error that `admits` accepts. -/
def ErrorsIn {ε α : Type} (admits : ε → Bool) (x : Except ε α) : Prop :=
  ∀ e, x = .error e → admits e = true

namespace ErrorsIn

variable {ε α β : Type} {admits : ε → Bool}

theorem of_ok (a : α) : ErrorsIn admits (Except.ok a : Except ε α) := fun _ h => by cases h

theorem of_error {e : ε} (h : admits e = true) : ErrorsIn admits (Except.error e : Except ε α) :=
  fun _ he => by
    cases he
    exact h

/-- The errors of a bind are those of its first step, and those of the rest after each result
the first step can give. -/
theorem bind {x : Except ε α} {g : α → Except ε β} (hx : ErrorsIn admits x)
    (hg : ∀ a, x = .ok a → ErrorsIn admits (g a)) : ErrorsIn admits (x >>= g) := by
  intro e h
  cases hx' : x with
  | error e' =>
    rw [hx'] at h
    cases h
    exact hx _ hx'
  | ok a =>
    rw [hx'] at h
    exact hg a hx' e h

theorem mapM {f : β → Except ε α} {xs : List β} (hf : ∀ x ∈ xs, ErrorsIn admits (f x)) :
    ErrorsIn admits (xs.mapM f) := by
  induction xs with
  | nil => exact of_ok []
  | cons x xs ih =>
    rw [List.mapM_cons]
    exact bind (hf x List.mem_cons_self) fun _ _ =>
      bind (ih fun y hy => hf y (List.mem_cons_of_mem x hy)) fun _ _ => of_ok _

theorem foldlM {f : α → β → Except ε α} {xs : List β}
    (hf : ∀ acc, ∀ x ∈ xs, ErrorsIn admits (f acc x)) (init : α) :
    ErrorsIn admits (xs.foldlM f init) := by
  induction xs generalizing init with
  | nil => exact of_ok init
  | cons x xs ih =>
    rw [List.foldlM_cons]
    exact bind (hf init x List.mem_cons_self) fun acc _ =>
      ih (fun acc y hy => hf acc y (List.mem_cons_of_mem x hy)) acc

/-- A loop whose every step fails only with admitted errors. -/
theorem forIn {γ : Type} {l : List β} {body : β → γ → Except ε (ForInStep γ)}
    (hb : ∀ b c, ErrorsIn admits (body b c)) (init : γ) :
    ErrorsIn admits (forIn l init body) := by
  induction l generalizing init with
  | nil => exact of_ok init
  | cons b l ih =>
    rw [List.forIn_cons]
    refine bind (hb b init) fun step _ => ?_
    cases step with
    | done c => exact of_ok c
    | yield c => exact ih c

end ErrorsIn

/-! ### Outcomes that keep the best of some scores -/

/-- `o` keeps the best of the scores `ns` of the devices that passed: it is matched exactly
when some device passed, and its score is the largest of `ns` (0 when none passed). -/
structure Outcome.BestOf (o : Outcome) (ns : List Nat) : Prop where
  matched : o.matched = !ns.isEmpty
  le_score : ∀ n ∈ ns, n ≤ o.score
  score_mem : o.score = 0 ∨ o.score ∈ ns

namespace Outcome.BestOf

theorem empty : Outcome.BestOf {} [] :=
  ⟨rfl, by simp, .inl rfl⟩

theorem failed (issues : List String) : (Outcome.failed issues).BestOf [] :=
  ⟨rfl, by simp, .inl rfl⟩

/-- One more device: when it passes with score `n`, the outcome is matched and keeps the larger
score; when it fails, neither changes. -/
theorem step {o o' : Outcome} {ns : List Nat} (h : o.BestOf ns) (n? : Option Nat)
    (hm : o'.matched = (o.matched || n?.isSome)) (hs : o'.score = max o.score (n?.getD 0)) :
    o'.BestOf (ns ++ n?.toList) := by
  refine ⟨?_, ?_, ?_⟩
  · cases n? <;> simp [hm, h.matched]
  · intro k hk
    rcases List.mem_append.1 hk with hk | hk
    · have := h.le_score k hk
      omega
    · cases n? with
      | none => simp at hk
      | some n =>
        simp only [Option.toList_some, List.mem_singleton] at hk
        simp only [hs, hk, Option.getD_some]
        omega
  · cases n? with
    | none => simpa [hs] using h.score_mem
    | some k =>
      rcases h.score_mem with h0 | h0
      · by_cases hk : o.score ≤ k <;> simp [hs, h0]
      · by_cases hk : o.score ≤ k
        · simp [hs, Nat.max_eq_right hk]
        · simp [hs, Nat.max_eq_left (by omega : k ≤ o.score), h0]

/-- More passing scores give a matched outcome at least as good. -/
theorem mono {o o' : Outcome} {ns ns' : List Nat} (h : o.BestOf ns) (h' : o'.BestOf ns')
    (hsub : ∀ n ∈ ns, n ∈ ns') (hm : o.matched) : o'.matched ∧ o.score ≤ o'.score := by
  obtain ⟨n, hn⟩ := List.exists_mem_of_ne_nil ns (by simpa [h.matched] using hm)
  refine ⟨by simpa [h'.matched] using List.ne_nil_of_mem (hsub n hn), ?_⟩
  rcases h.score_mem with h0 | h0
  · omega
  · exact h'.le_score _ (hsub _ h0)

/-- A matched outcome with score 0 comes from a device that passed with score 0. -/
theorem zero_mem {o : Outcome} {ns : List Nat} (h : o.BestOf ns) (hm : o.matched)
    (h0 : o.score = 0) : 0 ∈ ns := by
  obtain ⟨n, hn⟩ := List.exists_mem_of_ne_nil ns (by simpa [h.matched] using hm)
  have := h.le_score n hn
  rwa [show n = 0 by omega] at hn

end Outcome.BestOf

/-! ### Folds over devices -/

section Folds

variable {β : Type} (score? : β → Option Nat)

theorem filterMap_cons_eq (x : β) (l : List β) :
    (x :: l).filterMap score? = (score? x).toList ++ l.filterMap score? := by
  cases h : score? x <;> simp [h]

/-- A fold whose every step keeps the best passing score keeps the best of all the devices,
when it does not break down. -/
theorem foldlM_bestOf {ε : Type} (f : Outcome → β → Except ε Outcome)
    (hf : ∀ acc x o, f acc x = .ok o →
      o.matched = (acc.matched || (score? x).isSome) ∧ o.score = max acc.score ((score? x).getD 0))
    (l : List β) {acc o : Outcome} {ns : List Nat} (h : acc.BestOf ns)
    (hl : l.foldlM f acc = .ok o) : o.BestOf (ns ++ l.filterMap score?) := by
  induction l generalizing acc ns with
  | nil =>
    simp only [List.foldlM_nil, pure_eq_ok] at hl
    simpa [← hl] using h
  | cons x l ih =>
    rw [List.foldlM_cons, bind_eq_ok] at hl
    obtain ⟨acc', hx, hl⟩ := hl
    have := ih (h.step (score? x) (hf acc x acc' hx).1 (hf acc x acc' hx).2) hl
    rwa [List.append_assoc, ← filterMap_cons_eq] at this

/-- A fold whose every step adds the issues `g x` of its device gathers the issues of all the
devices, in order, when it does not break down. -/
theorem foldlM_issues {ε : Type} (f : Outcome → β → Except ε Outcome) (g : β → List String)
    (hf : ∀ acc x o, f acc x = .ok o → o.issues = acc.issues ++ g x) (l : List β)
    {acc o : Outcome} (hl : l.foldlM f acc = .ok o) : o.issues = acc.issues ++ l.flatMap g := by
  induction l generalizing acc with
  | nil =>
    simp only [List.foldlM_nil, pure_eq_ok] at hl
    simp [← hl]
  | cons x l ih =>
    rw [List.foldlM_cons, bind_eq_ok] at hl
    obtain ⟨acc', hx, hl⟩ := hl
    rw [ih hl, hf acc x acc' hx, List.flatMap_cons, List.append_assoc]

/-- A fold whose steps break down exactly where `err` names an error, with that error, breaks
down with the first error named. -/
theorem foldlM_eq_error_iff {ε α : Type} (f : α → β → Except ε α) (err : β → Option ε)
    (hf : ∀ acc x e, f acc x = .error e ↔ err x = some e) (l : List β) (acc : α) (e : ε) :
    l.foldlM f acc = .error e ↔ (l.filterMap err).head? = some e := by
  induction l generalizing acc with
  | nil => simp [pure, Except.pure]
  | cons x l ih =>
    rw [List.foldlM_cons]
    cases hx : f acc x with
    | error e' =>
      rw [List.filterMap_cons, (hf acc x e').1 hx]
      simp [bind, Except.bind]
    | ok a =>
      -- a step that goes on names no error, so the first error named is further on
      have hnone : err x = none := by
        cases he : err x with
        | none => rfl
        | some e' =>
          have := (hf acc x e').2 he
          rw [hx] at this
          cases this
      rw [List.filterMap_cons, hnone]
      exact ih a

end Folds

/-! ### The CPU matcher -/

/-- The score of a CPU that passes every check of a requirement. -/
def cpuScore? (need : CpuNeed) (cpu : Cpu) : Option Nat :=
  match checkCpu need cpu with
  | .ok (n, issues) => if issues.isEmpty then some n else none
  | .error _ => none

/-- The walk over the CPUs, with each CPU's index: the CPU's check added to the outcome. -/
theorem matchCpu_eq_foldlM {need : CpuNeed} {cpus : List Cpu} (h : cpus ≠ []) :
    matchCpu need cpus =
      cpus.zipIdx.foldlM (fun acc x => (checkCpu need x.1).map (acc.addCpu cpus.length x.2)) {} := by
  unfold matchCpu
  rw [if_neg (by simpa using h)]

theorem filterMap_zipIdx_fst {γ : Type} (f : Cpu → Option γ) (cpus : List Cpu) :
    cpus.zipIdx.filterMap (fun x => f x.1) = cpus.filterMap f := by
  have hf : (fun x : Cpu × Nat => f x.1) = f ∘ Prod.fst := rfl
  rw [hf, ← List.filterMap_map, List.zipIdx_map_fst]

theorem matchCpu_bestOf {need : CpuNeed} {cpus : List Cpu} {o : Outcome}
    (h : matchCpu need cpus = .ok o) : o.BestOf (cpus.filterMap (cpuScore? need)) := by
  by_cases hc : cpus = []
  · subst hc
    cases h
    exact .failed _
  rw [matchCpu_eq_foldlM hc] at h
  rw [← filterMap_zipIdx_fst, ← List.nil_append (cpus.zipIdx.filterMap _)]
  refine foldlM_bestOf _ _ ?_ _ .empty h
  rintro acc ⟨cpu, i⟩ o' hd
  obtain ⟨⟨sc, is⟩, hcheck, rfl⟩ := map_eq_ok.1 hd
  by_cases hi : is.isEmpty <;> simp [Outcome.addCpu, cpuScore?, hcheck, hi]

/-- **The CPU matcher breaks down** with the first CPU whose check breaks down. -/
theorem matchCpu_eq_error_iff {need : CpuNeed} {cpus : List Cpu} {b : Breakdown} :
    matchCpu need cpus = .error b ↔
      (cpus.filterMap fun cpu => errorOf? (checkCpu need cpu)).head? = some b := by
  by_cases hc : cpus = []
  · subst hc
    simp [matchCpu]
  rw [matchCpu_eq_foldlM hc, foldlM_eq_error_iff _ (fun x => errorOf? (checkCpu need x.1)),
    filterMap_zipIdx_fst fun cpu => errorOf? (checkCpu need cpu)]
  intro acc x e
  rw [map_eq_error, errorOf?_eq_some]

/-- A CPU that passes earns at least the CPU weight. -/
theorem cpuScore?_ge {need : CpuNeed} {cpu : Cpu} {n : Nat} (h : cpuScore? need cpu = some n) :
    weights.cpuDevice ≤ n := by
  unfold cpuScore? at h
  split at h
  · rename_i score issues hcheck
    by_cases hi : issues.isEmpty
    · rw [if_pos hi, Option.some.injEq] at h
      subst h
      unfold checkCpu at hcheck
      split at hcheck
      · simp at hcheck
        simp [← hcheck.2] at hi
      · -- the CPU's own checks went through: it lacks nothing, and earns the weight and extras
        obtain ⟨⟨extra, is⟩, -, htally⟩ := map_eq_ok.1 hcheck
        by_cases his : is.isEmpty
        · simp only [his, if_true, Prod.mk.injEq] at htally
          omega
        · simp only [his, Bool.false_eq_true, if_false, Prod.mk.injEq] at htally
          simp [← htally.2] at his hi
          exact absurd hi his
    · simp [hi] at h
  · cases h

/-! ### The PCI matcher -/

/-- The score of a PCI device that passes every check of a requirement, its connections
included. -/
def pciScore? (need : PciNeedKind) (conns : Connections) (d : PciDevice) : Option Nat :=
  match scoreDevice need d conns with
  | .ok (.ok n) => some n
  | _ => none

theorem matchPci_bestOf {need : PciNeedKind} {ds : List PciDevice} {conns : Connections}
    {o : Outcome} (h : matchPci need ds conns = .ok o) :
    o.BestOf ((filterDevices ds need.vendor need.device).filterMap (pciScore? need conns)) := by
  unfold matchPci at h
  split at h
  · rename_i hds
    cases h
    simp [List.isEmpty_iff.1 hds, filterDevices, Outcome.BestOf.failed]
  · dsimp only at h
    split at h
    · rename_i hc
      cases h
      rw [List.isEmpty_iff.1 hc]
      exact .failed _
    · rw [← List.nil_append (List.filterMap _ _)]
      refine foldlM_bestOf _ _ ?_ _ .empty h
      intro acc d o' hd
      rw [bind_eq_ok] at hd
      obtain ⟨r, hr, hd⟩ := hd
      cases r with
      | ok n =>
        simp only [pure_eq_ok] at hd
        simp [← hd, pciScore?, hr]
      | error issue =>
        simp only [pure_eq_ok] at hd
        simp [← hd, pciScore?, hr]

/-- A device checked for a declared type earns at least the type weight when it passes. -/
theorem deviceScore_typed {need : PciNeedKind} {d : PciDevice} {k : DeviceKind} {n : Nat}
    (hk : need.kind = some k) (h : deviceScore need d = .ok n) : weights.pciType ≤ n := by
  unfold deviceScore at h
  rw [hk] at h
  by_cases hf : classFits k d.deviceClass
  · simp only [hf, if_true, pure_bind, bind_eq_ok, pure_eq_ok] at h
    obtain ⟨p, -, rfl⟩ := h
    omega
  · simp [hf, bind, Except.bind, throw, throwThe, MonadExceptOf.throw] at h

/-- A device that passes has its type and properties checked with that score, and its
connections in place. -/
theorem deviceScore_of_pciScore? {need : PciNeedKind} {conns : Connections} {d : PciDevice}
    {n : Nat} (h : pciScore? need conns d = some n) : deviceScore need d = .ok n := by
  unfold pciScore? scoreDevice at h
  cases hd : deviceScore need d with
  | error f => cases f <;> simp [hd] at h
  | ok score =>
    simp only [hd] at h
    cases hc : checkConnections conns need.connections with
    | error b => simp [hc] at h
    | ok r => cases r <;> simp_all

/-- **The PCI matcher breaks down** with the first device that passed the id filter and whose
check breaks down. -/
theorem matchPci_eq_error_iff {need : PciNeedKind} {ds : List PciDevice} {conns : Connections}
    {b : Breakdown} :
    matchPci need ds conns = .error b ↔
      ((filterDevices ds need.vendor need.device).filterMap fun d =>
        errorOf? (scoreDevice need d conns)).head? = some b := by
  unfold matchPci
  split
  · rename_i hds
    simp [List.isEmpty_iff.1 hds, filterDevices]
  · dsimp only
    split
    · rename_i hc
      simp [List.isEmpty_iff.1 hc]
    · rw [foldlM_eq_error_iff _ (fun d => errorOf? (scoreDevice need d conns))]
      intro acc d e
      cases scoreDevice need d conns with
      | error b' => simp [bind, Except.bind]
      | ok r => cases r <;> simp [bind, Except.bind, pure, Except.pure]

theorem pciScore?_typed {need : PciNeedKind} {conns : Connections} {d : PciDevice}
    {k : DeviceKind} {n : Nat} (hk : need.kind = some k) (h : pciScore? need conns d = some n) :
    weights.pciType ≤ n :=
  deviceScore_typed hk (deviceScore_of_pciScore? h)

/-! ### Connection checks that answer -/

/-- A connection check *answers* when it never breaks down: for every name it says connected,
not connected, or why it cannot tell. -/
def Connections.Answers (conns : Connections) : Prop :=
  ∀ name b, conns name ≠ .error (.broken b)

/-- The check that takes every connection as made answers. -/
theorem Connections.answers_all : Connections.all.Answers := fun _ _ h => by cases h

/-! ### Requirements -/

namespace Requirement

/-- What `onCpu` and `onPci` find on each device a requirement is checked against, in order:
the machine's CPUs for a CPU requirement, its PCI devices that pass the id filter for a PCI
one, and no device for USB. -/
def collect {α : Type} (r : Requirement) (s : Snapshot) (onCpu : CpuNeed → Cpu → Option α)
    (onPci : PciNeedKind → PciDevice → Option α) : List α :=
  match r with
  | .amd64 n => s.cpus.filterMap (onCpu (.amd64 n))
  | .arm64 n => s.cpus.filterMap (onCpu (.arm64 n))
  | .gpu n => (filterDevices s.pci n.vendor n.device).filterMap (onPci (.gpu n))
  | .pci n => (filterDevices s.pci n.vendor n.device).filterMap (onPci (.other n))
  | .usb _ => []

/-- The scores of the devices of the machine that pass a requirement. -/
def scores (r : Requirement) (s : Snapshot) (conns : Connections) : List Nat :=
  r.collect s cpuScore? (pciScore? · conns)

/-- The breakdowns of the devices of the machine whose check against a requirement breaks
down, in order. -/
def breakdowns (r : Requirement) (s : Snapshot) (conns : Connections) : List Breakdown :=
  r.collect s (fun need cpu => errorOf? (checkCpu need cpu))
    (fun need d => errorOf? (scoreDevice need d conns))

/-- **Matching keeps the best of the passing devices.**  Whenever matching a requirement gives
an outcome, the outcome is matched exactly when some device passes, with the best score of
those that pass. -/
theorem matchOn_bestOf {r : Requirement} {s : Snapshot} {conns : Connections} {o : Outcome}
    (h : r.matchOn s conns = .ok o) : o.BestOf (r.scores s conns) := by
  cases r with
  | amd64 n => exact matchCpu_bestOf h
  | arm64 n => exact matchCpu_bestOf h
  | gpu n => exact matchPci_bestOf h
  | pci n => exact matchPci_bestOf h
  | usb n => cases h; exact .failed _

/-- **Matching breaks down** with the first breakdown of a device it checks. -/
theorem matchOn_eq_error_iff {r : Requirement} {s : Snapshot} {conns : Connections}
    {b : Breakdown} : r.matchOn s conns = .error b ↔ (r.breakdowns s conns).head? = some b := by
  cases r with
  | amd64 n => exact matchCpu_eq_error_iff
  | arm64 n => exact matchCpu_eq_error_iff
  | gpu n => exact matchPci_eq_error_iff
  | pci n => exact matchPci_eq_error_iff
  | usb n => simp [matchOn, breakdowns, collect]

/-- So matching gives an outcome exactly when no device it checks breaks down. -/
theorem matchOn_ok_iff {r : Requirement} {s : Snapshot} {conns : Connections} :
    (∃ o, r.matchOn s conns = .ok o) ↔ r.breakdowns s conns = [] := by
  cases h : r.matchOn s conns with
  | ok o =>
    refine iff_of_true ⟨o, rfl⟩ ?_
    cases hb : (r.breakdowns s conns).head? with
    | none => exact List.head?_eq_none_iff.1 hb
    | some b =>
      have := matchOn_eq_error_iff.2 hb
      rw [h] at this
      cases this
  | error b =>
    refine iff_of_false (fun ⟨o, ho⟩ => by cases ho) fun hnil => ?_
    have := matchOn_eq_error_iff.1 h
    rw [hnil] at this
    cases this

theorem mem_filterDevices_mono {ds ds' : List PciDevice} (hds : ∀ d ∈ ds, d ∈ ds')
    {v i : Option Nat} {d : PciDevice} (h : d ∈ filterDevices ds v i) :
    d ∈ filterDevices ds' v i := by
  unfold filterDevices at h ⊢
  rw [List.mem_filter] at h ⊢
  exact ⟨hds d h.1, h.2⟩

/-- A machine with more CPUs and PCI devices has, for a requirement, everything the smaller one
has: every score of a device that passes, and every breakdown of a device checked. -/
theorem collect_mono {α : Type} {S S' : Snapshot} (hcpu : ∀ c ∈ S.cpus, c ∈ S'.cpus)
    (hpci : ∀ d ∈ S.pci, d ∈ S'.pci) (r : Requirement) (onCpu : CpuNeed → Cpu → Option α)
    (onPci : PciNeedKind → PciDevice → Option α) :
    ∀ x ∈ r.collect S onCpu onPci, x ∈ r.collect S' onCpu onPci := by
  intro x hx
  cases r with
  | amd64 _ | arm64 _ =>
    obtain ⟨c, hc, hx⟩ := List.mem_filterMap.1 hx
    exact List.mem_filterMap.2 ⟨c, hcpu c hc, hx⟩
  | gpu _ | pci _ =>
    obtain ⟨d, hd, hx⟩ := List.mem_filterMap.1 hx
    exact List.mem_filterMap.2 ⟨d, mem_filterDevices_mono hpci hd, hx⟩
  | usb _ => simp [collect] at hx

/-- **More hardware never worsens an outcome.**  A requirement matched on a machine is matched
on every machine with at least its CPUs and PCI devices, with at least the same score. -/
theorem matchOn_mono {r : Requirement} {S S' : Snapshot} {conns : Connections} {o o' : Outcome}
    (hcpu : ∀ c ∈ S.cpus, c ∈ S'.cpus) (hpci : ∀ d ∈ S.pci, d ∈ S'.pci)
    (h : r.matchOn S conns = .ok o) (h' : r.matchOn S' conns = .ok o') (hm : o.matched) :
    o'.matched ∧ o.score ≤ o'.score :=
  (matchOn_bestOf h).mono (matchOn_bestOf h') (collect_mono hcpu hpci r _ _) hm

/-- Only a PCI requirement of no declared type can be passed with score 0: a CPU earns the CPU
weight and a device of a declared type the type weight. -/
theorem typeless_of_zero {r : Requirement} {s : Snapshot} {conns : Connections}
    (h : 0 ∈ r.scores s conns) : ∃ n : PciNeed, r = .pci n ∧ n.kind = none := by
  cases r with
  | amd64 n | arm64 n =>
    obtain ⟨c, -, hc⟩ := List.mem_filterMap.1 h
    have := cpuScore?_ge hc
    simp [weights] at this
  | gpu n =>
    obtain ⟨d, -, hd⟩ := List.mem_filterMap.1 h
    have := pciScore?_typed rfl hd
    simp [weights] at this
  | pci n =>
    refine ⟨n, rfl, ?_⟩
    cases hk : n.kind with
    | none => rfl
    | some k =>
      obtain ⟨d, -, hd⟩ := List.mem_filterMap.1 h
      have := pciScore?_typed (show (PciNeedKind.other n).kind = some k from hk) hd
      simp [weights] at this
  | usb n => simp [scores, collect] at h

end Requirement

end EngineFit
