import EngineFit.Proofs.ScoreReport
import EngineFit.Proofs.CpuMatching
import EngineFit.Proofs.PciMatching

/-!
# More hardware never lowers a score

A machine `S'` *covers* a machine `S`, as scoring at a storage path sees it, when it has every
CPU and PCI device of `S`, at least as much memory and swap together, measured memory when `S`
has it, and at least the space of `S` at the path when `S` has an entry there
(`Snapshot.Covers`). With a connection check that answers, an engine scored on `S` is scored on
`S'` for at least the same score, exactly when no requirement of the engine breaks down on a
device of `S'`; and a requirement breaks down only where an issue shows a number too long to
write in decimal, which stops scoring with that error (`checkEngine_score_mono`). Such a device
is always one that `S` lacks, since scoring `S` checked every device it has; so machines that
cover each other, as a reordering or repetition of the CPUs and PCI devices does, get the same
score.

The proof goes through the report of `Proofs.ScoreReport`, part by part: each requirement's
outcome only improves (`Requirement.matchOn_mono`), so a part without issues on `S` has none
on `S'` and scores at least as much there.
-/

namespace EngineFit

/-- `S'` has at least the hardware of `S`, as scoring at storage path `p` sees it. -/
structure Snapshot.Covers (S S' : Snapshot) (p : Value) : Prop where
  cpus : ∀ c ∈ S.cpus, c ∈ S'.cpus
  pci : ∀ d ∈ S.pci, d ∈ S'.pci
  memory : S.memory.ram + S.memory.swap ≤ S'.memory.ram + S'.memory.swap
  ram : 0 < S.memory.ram → 0 < S'.memory.ram
  disk : ∀ d, diskAt S p = .ok (some d) → ∃ d', diskAt S' p = .ok (some d') ∧ d.avail ≤ d'.avail

/-! ### Each part of the report -/

section Parts

variable {R R' : Requirement → Outcome} {rs : List Requirement}

/-- A resource check passed with less available passes with more. -/
theorem resourceReport_mono {need : Option Size} {a a' : Nat} {issue : String}
    (hle : need.isSome → a ≤ a') (h : (resourceReport need a issue).2 = []) :
    (resourceReport need a' issue).2 = [] ∧
      (resourceReport need a issue).1 ≤ (resourceReport need a' issue).1 := by
  unfold resourceReport at h ⊢
  cases need with
  | none => simp
  | some n =>
    have hle := hle rfl
    by_cases hn : n.bytes ≤ a
    · simp [hn, Nat.le_trans hn hle]
    · simp [hn] at h

/-- The scores of the matched requirements add up to more when outcomes improve. -/
theorem sum_matched_mono
    (hR : ∀ r ∈ rs, (R r).matched → (R' r).matched ∧ (R r).score ≤ (R' r).score) :
    ((rs.filter fun r => (R r).matched).map fun r => (R r).score).sum ≤
      ((rs.filter fun r => (R' r).matched).map fun r => (R' r).score).sum := by
  induction rs with
  | nil => simp
  | cons r rs ih =>
    have ih := ih fun r' h => hR r' (List.mem_cons_of_mem r h)
    by_cases hm : (R r).matched
    · obtain ⟨hm', hle⟩ := hR r List.mem_cons_self hm
      simp only [List.filter_cons, hm, hm', if_true, List.map_cons, List.sum_cons]
      omega
    · by_cases hm' : (R' r).matched
      · simp only [List.filter_cons, hm, hm', if_true, List.map_cons, List.sum_cons]
        simp only [Bool.false_eq_true, if_false]
        omega
      · simpa [List.filter_cons, hm, hm'] using ih

/-- An all-of group that passed passes with better outcomes, for at least the same sum. -/
theorem allOfReport_mono
    (hR : ∀ r ∈ rs, (R r).matched → (R' r).matched ∧ (R r).score ≤ (R' r).score)
    (h : (allOfReport R rs).2 = []) :
    (allOfReport R' rs).2 = [] ∧ (allOfReport R rs).1 ≤ (allOfReport R' rs).1 := by
  unfold allOfReport at h ⊢
  by_cases hall : rs.all fun r => (R r).matched
  · have hall' : rs.all fun r => (R' r).matched := by
      simp only [List.all_eq_true] at hall ⊢
      exact fun r hr => (hR r hr (hall r hr)).1
    simp only [hall, hall', if_true, true_and]
    have hsum := sum_matched_mono hR
    rwa [List.filter_eq_self.2 (by simpa using hall), List.filter_eq_self.2 (by simpa using hall')]
      at hsum
  · exact absurd ((unmatched_issues_eq_nil R rs).1 (by simpa [hall] using h)) hall

/-- An any-of group that passed passes with better outcomes, for at least the same sum: an
alternative that matched still matches, and a USB alternative, which always has an issue,
never lets the group pass. -/
theorem anyOfReport_mono
    (hR : ∀ r ∈ rs, (R r).matched → (R' r).matched ∧ (R r).score ≤ (R' r).score)
    (husb : ∀ r ∈ rs, r.isUsb → (R r).issues ≠ []) (h : (anyOfReport R rs).2 = []) :
    (anyOfReport R' rs).2 = [] ∧ (anyOfReport R rs).1 ≤ (anyOfReport R' rs).1 := by
  unfold anyOfReport at h ⊢
  by_cases hnone : (!rs.isEmpty && rs.all fun r => !(R r).matched) = true
  · simp [hnone] at h
  · by_cases hu : rs.any Requirement.isUsb = true
    · obtain ⟨r, hr, hru⟩ := List.any_eq_true.1 hu
      simp only [hnone, hu, if_true, if_false, Bool.false_eq_true, List.flatMap_eq_nil_iff,
        List.mem_filter] at h
      exact absurd (h r ⟨hr, hru⟩) (husb r hr hru)
    · have hnone' : ¬(!rs.isEmpty && rs.all fun r => !(R' r).matched) = true := by
        intro h'
        simp only [Bool.and_eq_true, Bool.not_eq_true', List.all_eq_true] at h'
        apply hnone
        simp only [Bool.and_eq_true, Bool.not_eq_true', List.all_eq_true, h'.1, true_and]
        intro r hr
        cases hm : (R r).matched
        · rfl
        · simpa [(hR r hr hm).1] using h'.2 r hr
      simp only [hnone, hnone', hu, if_false, Bool.false_eq_true, true_and]
      exact sum_matched_mono hR

end Parts

/-! ### Breakdowns -/

/-- With a connection check that answers, matching breaks down only where an issue shows a
number too long to write in decimal. -/
theorem Requirement.breakdowns_digits {conns : Connections} (hc : conns.Answers) {r : Requirement}
    {s : Snapshot} {b : Breakdown} (hb : b ∈ r.breakdowns s conns) :
    b = Breakdown.digits .writing := by
  cases r with
  | amd64 n | arm64 n =>
    obtain ⟨cpu, -, hb⟩ := List.mem_filterMap.1 hb
    dsimp only at hb
    rw [errorOf?_checkCpu] at hb
    split at hb
    · cases hb
    · exact (Option.some.inj hb).symm
  | gpu n | pci n =>
    obtain ⟨d, -, hb⟩ := List.mem_filterMap.1 hb
    dsimp only at hb
    rw [errorOf?_scoreDevice, breakdown?_eq_some_iff] at hb
    rcases hb with ⟨a, -, -, rfl⟩ | ⟨-, pre, c, post, -, -, hconn⟩
    · rfl
    · exact absurd hconn (hc c b)
  | usb n => simp [Requirement.breakdowns, Requirement.collect] at hb

/-- A GPU requirement breaks down on a machine with a GPU it names whose first lack cannot be
written. -/
theorem Requirement.breakdowns_gpu_ne_nil {n : GpuNeed} {s : Snapshot} {conns : Connections}
    {d : PciDevice} {l : PciLack} {ls : List PciLack} (hd : d ∈ s.pci)
    (hids : (PciNeedKind.gpu n).idsMatch d = true)
    (hl : (PciNeedKind.gpu n).deviceLacks d = l :: ls) (hw : l.writable = false) :
    (Requirement.gpu n).breakdowns s conns ≠ [] := by
  have hmem : Breakdown.digits .writing ∈ (Requirement.gpu n).breakdowns s conns := by
    refine List.mem_filterMap.2 ⟨d, ?_, ?_⟩
    · show d ∈ filterDevices s.pci (PciNeedKind.gpu n).vendor (PciNeedKind.gpu n).device
      rw [filterDevices_eq]
      exact List.mem_filter.2 ⟨hd, hids⟩
    · dsimp only
      rw [errorOf?_scoreDevice, breakdown?_of_head hl hw]
  exact List.ne_nil_of_mem hmem

/-- The same for matching itself. -/
theorem Requirement.matchOn_errorsIn {conns : Connections} (hc : conns.Answers) (r : Requirement)
    (s : Snapshot) : ErrorsIn (· == Breakdown.digits .writing) (r.matchOn s conns) := by
  intro b hb
  obtain ⟨rest, hrest⟩ := List.head?_eq_some_iff.1 (matchOn_eq_error_iff.1 hb)
  have hmem : b ∈ r.breakdowns s conns := by
    rw [hrest]
    exact List.mem_cons_self
  simp [Requirement.breakdowns_digits hc hmem]

section Groups

variable {s : Snapshot} {conns : Connections}

theorem checkAllOf_errorsIn (hc : conns.Answers) (rs : List Requirement) :
    ErrorsIn (· == Breakdown.digits .writing) (checkAllOf s rs conns) := by
  unfold checkAllOf
  refine ErrorsIn.bind (ErrorsIn.foldlM (fun acc r _ => ?_) _) fun ⟨score, issues⟩ _ => ?_
  · refine ErrorsIn.bind (Requirement.matchOn_errorsIn hc r s) fun o _ => ?_
    split <;> exact .of_ok _
  · dsimp only
    split <;> exact .of_ok _

theorem checkAnyOf_errorsIn (hc : conns.Answers) (rs : List Requirement) :
    ErrorsIn (· == Breakdown.digits .writing) (checkAnyOf s rs conns) := by
  unfold checkAnyOf
  refine ErrorsIn.bind (ErrorsIn.mapM fun r _ => ?_) fun _ _ => ?_
  · exact ErrorsIn.bind (Requirement.matchOn_errorsIn hc r s) fun _ _ => .of_ok _
  · dsimp only
    split
    · exact .of_ok _
    · split <;> exact .of_ok _

/-- A group whose check fails only with the digit limit does so as a scoring error. -/
theorem checkGroup_errorsIn
    {check : Snapshot → List Requirement → Connections → Except Breakdown (Nat × List String)}
    {rs : List Requirement} (h : ErrorsIn (· == Breakdown.digits .writing) (check s rs conns)) :
    ErrorsIn (· == ScoreError.broken (.digits .writing)) (checkGroup check s rs conns) := by
  unfold checkGroup
  split
  · exact .of_ok _
  · intro e he
    cases hx : check s rs conns with
    | ok a => simp [hx, liftBreakdown] at he
    | error b =>
      simp only [hx, liftBreakdown, Except.error.injEq] at he
      have := h b hx
      simp_all

end Groups

/-! ### The whole engine -/


section Engine

variable {S S' : Snapshot} {m : Manifest} {conns : Connections} {p : Value}

/-- Scoring an engine on a machine with the memory and disk figures it needs fails, if at all,
only where an issue cannot be written. -/
theorem checkEngine_errorsIn (hc : conns.Answers) (hmem : m.memory.isSome → S.memory.ram ≠ 0)
    (hdisk : m.diskSpace.isSome → ∃ d, diskAt S p = .ok (some d)) :
    ErrorsIn (· == ScoreError.broken (.digits .writing)) (checkEngine S m conns p) := by
  obtain ⟨mr, hm⟩ : ∃ r, checkMemory S m = .ok r := ⟨_, checkMemory_eq_ok_iff.2 ⟨hmem, rfl⟩⟩
  obtain ⟨dr, hd⟩ : ∃ r, checkDisk S m p = .ok r := ⟨_, checkDisk_eq_ok_iff.2 ⟨hdisk, rfl⟩⟩
  unfold checkEngine
  rw [hm, hd]
  refine ErrorsIn.bind (.of_ok _) fun _ _ => ErrorsIn.bind (.of_ok _) fun _ _ => ?_
  refine ErrorsIn.bind (checkGroup_errorsIn (checkAllOf_errorsIn hc _)) fun _ _ => ?_
  refine ErrorsIn.bind (checkGroup_errorsIn (checkAnyOf_errorsIn hc _)) fun _ _ => ?_
  dsimp only
  split <;> exact .of_ok _

/-- A machine scorable for an engine has no device that breaks a requirement of it down. -/
theorem Scorable.breakdowns_eq_nil (h : Scorable S m conns p) :
    ∀ r ∈ m.allOf ++ m.anyOf, r.breakdowns S conns = [] :=
  fun r hr => Requirement.matchOn_ok_iff.1 ⟨_, h.devices r hr⟩

/-- A machine with the memory and disk figures an engine needs, on which no device breaks a
requirement of it down, is scorable. -/
theorem Scorable.of_measured (hmem : m.memory.isSome → S.memory.ram ≠ 0)
    (hdisk : m.diskSpace.isSome → ∃ d, diskAt S p = .ok (some d))
    (hb : ∀ r ∈ m.allOf ++ m.anyOf, r.breakdowns S conns = []) : Scorable S m conns p where
  memory := hmem
  disk := hdisk
  devices r hr := by
    obtain ⟨o, ho⟩ := Requirement.matchOn_ok_iff.2 (hb r hr)
    exact matchOn_outcome_of_eq ho

/-- On a machine with the memory and disk figures an engine needs, a requirement that breaks
down stops scoring with the error of an issue that cannot be written. -/
theorem checkEngine_eq_digits_of_measured (hc : conns.Answers)
    (hmem : m.memory.isSome → S.memory.ram ≠ 0)
    (hdisk : m.diskSpace.isSome → ∃ d, diskAt S p = .ok (some d))
    (hb : ∃ r ∈ m.allOf ++ m.anyOf, r.breakdowns S conns ≠ []) :
    checkEngine S m conns p = .error (.broken (.digits .writing)) := by
  obtain ⟨r, hr, hne⟩ := hb
  cases he : checkEngine S m conns p with
  | ok res =>
    -- a machine that is scored has no device that breaks a requirement down
    exact absurd ((checkEngine_eq_ok_iff.1 he).1.breakdowns_eq_nil r hr) hne
  | error e => rw [beq_iff_eq.1 (checkEngine_errorsIn hc hmem hdisk e he)]

/-- A machine that covers a scorable one has the memory and disk figures the engine needs. -/
theorem Snapshot.Covers.measured (hS : S.Covers S' p) (h : Scorable S m conns p) :
    (m.memory.isSome → S'.memory.ram ≠ 0) ∧
      (m.diskSpace.isSome → ∃ d, diskAt S' p = .ok (some d)) := by
  refine ⟨fun hm => ?_, fun hd => ?_⟩
  · have := h.memory hm
    have := hS.ram
    omega
  · obtain ⟨d, hd⟩ := h.disk hd
    obtain ⟨d', hd', -⟩ := hS.disk d hd
    exact ⟨d', hd'⟩

/-- A machine that covers a scorable one is scorable too, unless one of its devices breaks a
requirement down. -/
theorem Scorable.of_covers (hS : S.Covers S' p) (h : Scorable S m conns p)
    (hb : ∀ r ∈ m.allOf ++ m.anyOf, r.breakdowns S' conns = []) :
    Scorable S' m conns p :=
  .of_measured (hS.measured h).1 (hS.measured h).2 hb

/-- On a machine covering a scorable one, a requirement that breaks down stops scoring with the
error of an issue that cannot be written. -/
theorem checkEngine_eq_digits (hc : conns.Answers) (hS : S.Covers S' p)
    (h : Scorable S m conns p) (hb : ∃ r ∈ m.allOf ++ m.anyOf, r.breakdowns S' conns ≠ []) :
    checkEngine S' m conns p = .error (.broken (.digits .writing)) :=
  checkEngine_eq_digits_of_measured hc (hS.measured h).1 (hS.measured h).2 hb

/-- **A covering machine reports at least the score.**  When both machines are scorable, the
report on the covering one has at least the score of the report on the covered one. -/
theorem engineReport_mono (hS : S.Covers S' p) (h : Scorable S m conns p)
    (h' : Scorable S' m conns p) :
    (engineReport S m conns p).1 ≤ (engineReport S' m conns p).1 := by
  -- each requirement of either group fares at least as well on the covering machine
  have hR : ∀ r ∈ m.allOf ++ m.anyOf, (r.outcome S conns).matched →
      (r.outcome S' conns).matched ∧ (r.outcome S conns).score ≤ (r.outcome S' conns).score :=
    fun r hr => Requirement.matchOn_mono hS.cpus hS.pci (h.devices r hr) (h'.devices r hr)
  have hdisk : m.diskSpace.isSome → availableAt S p ≤ availableAt S' p := by
    intro hd
    obtain ⟨d, hd⟩ := h.disk hd
    obtain ⟨d', hd', hle⟩ := hS.disk d hd
    simpa [availableAt, hd, hd'] using hle
  unfold engineReport
  dsimp only
  split
  · rename_i hnil
    simp only [List.isEmpty_iff, List.append_eq_nil_iff] at hnil
    obtain ⟨⟨⟨hmem, hdk⟩, hall⟩, hany⟩ := hnil
    obtain ⟨hmem', lmem⟩ := resourceReport_mono (fun _ => hS.memory) hmem
    obtain ⟨hdk', ldk⟩ := resourceReport_mono hdisk hdk
    obtain ⟨hall', lall⟩ := allOfReport_mono (fun r hr => hR r (List.mem_append_left _ hr)) hall
    obtain ⟨hany', lany⟩ := anyOfReport_mono (fun r hr => hR r (List.mem_append_right _ hr))
      (fun r _ hu => Requirement.issues_ne_nil_of_isUsb hu S conns) hany
    simp only [hmem', hdk', hall', hany', List.append_nil, List.isEmpty_nil, if_true]
    omega
  · exact Nat.zero_le _

/-- **More hardware never lowers a score, unless an issue cannot be written.**  Fix an engine,
a storage path and a connection check that answers, and let a machine `S'` cover a machine `S`
on which the engine is scored. Then the engine is scored on `S'`, for at least the same score,
exactly when no device of `S'` breaks a requirement of the engine down; when one does, scoring
stops with the error of an issue that shows a number too long to write. Machines that cover
each other (a reordering or repetition of the CPUs and PCI devices of a machine) have the same
devices, none of which breaks a requirement down, and get the same score. -/
theorem checkEngine_score_mono (hc : conns.Answers) :
    (∀ (S S' : Snapshot) (x : Nat) (is : List String), S.Covers S' p →
      checkEngine S m conns p = .ok (x, is) →
        ((∃ x' is', checkEngine S' m conns p = .ok (x', is') ∧ x ≤ x') ↔
          ∀ r ∈ m.allOf ++ m.anyOf, r.breakdowns S' conns = []) ∧
        ((∃ r ∈ m.allOf ++ m.anyOf, r.breakdowns S' conns ≠ []) →
          checkEngine S' m conns p = .error (.broken (Breakdown.digits .writing)))) ∧
    (∀ (S S' : Snapshot) (x : Nat) (is : List String), S.Covers S' p → S'.Covers S p →
      checkEngine S m conns p = .ok (x, is) → ∃ is', checkEngine S' m conns p = .ok (x, is')) := by
  -- the covering machine is scored, for at least the score, when nothing breaks down on it
  have mono : ∀ (S S' : Snapshot) (x : Nat) (is : List String), S.Covers S' p →
      checkEngine S m conns p = .ok (x, is) →
      (∀ r ∈ m.allOf ++ m.anyOf, r.breakdowns S' conns = []) →
        ∃ x' is', checkEngine S' m conns p = .ok (x', is') ∧ x ≤ x' := by
    intro S S' x is hS h hb
    obtain ⟨hsc, hres⟩ := checkEngine_eq_ok_iff.1 h
    have hsc' := hsc.of_covers hS hb
    refine ⟨_, _, checkEngine_eq_ok_iff.2 ⟨hsc', rfl⟩, ?_⟩
    have := engineReport_mono hS hsc hsc'
    rw [← hres] at this
    exact this
  refine ⟨fun S S' x is hS h => ⟨⟨fun ⟨x', is', h', _⟩ => ?_, mono S S' x is hS h⟩,
    checkEngine_eq_digits hc hS (checkEngine_eq_ok_iff.1 h).1⟩, fun S S' x is hS hS' h => ?_⟩
  · exact (checkEngine_eq_ok_iff.1 h').1.breakdowns_eq_nil
  -- machines that cover each other check the same devices: none breaks down on either
  have hb : ∀ r ∈ m.allOf ++ m.anyOf, r.breakdowns S' conns = [] := by
    intro r hr
    rw [List.eq_nil_iff_forall_not_mem]
    intro b hmem
    have hS0 := (checkEngine_eq_ok_iff.1 h).1.breakdowns_eq_nil r hr
    have := Requirement.collect_mono hS'.cpus hS'.pci r _ _ b hmem
    rw [Requirement.breakdowns] at hS0
    rw [hS0] at this
    cases this
  obtain ⟨x', is', h', hle⟩ := mono S S' x is hS h hb
  obtain ⟨x'', is'', h'', hle'⟩ := mono S' S x' is' hS' h'
    ((checkEngine_eq_ok_iff.1 h).1.breakdowns_eq_nil)
  rw [h, Except.ok.injEq, Prod.mk.injEq] at h''
  exact ⟨is', by rw [h', show x' = x by omega]⟩

/-- An engine that needs an NVIDIA GPU scores 10 on a machine with an integrated one; the same
machine with a discrete one added covers it, breaks nothing down, and scores it at least as
high. -/
theorem checkEngine_score_mono_discrete_gpu :
    let igpu : PciDevice :=
      { slot := "0000:00:02.0", deviceClass := 0x0300, vendor := 0x10de, device := 0x2684 }
    let dgpu : PciDevice :=
      { slot := "0000:01:00.0", bus := 1, deviceClass := 0x0300, vendor := 0x10de,
        device := 0x2684 }
    let S : Snapshot := { pci := [igpu], memory := { ram := 16 } }
    let S' : Snapshot := { pci := [igpu, dgpu], memory := { ram := 16 } }
    let m : Manifest :=
      { name := "gpu", description := "", vendor := "", grade := .stable,
        allOf := [.gpu { vendor := some 0x10de }] }
    let p : Value := .str "/var/lib/snapd"
    Connections.all.Answers ∧ S.Covers S' p ∧ checkEngine S m Connections.all p = .ok (10, []) ∧
      ∃ x' is', checkEngine S' m Connections.all p = .ok (x', is') ∧ 10 ≤ x' := by
  intro igpu dgpu S S' m p
  have hc := Connections.answers_all
  have hS : S.Covers S' p :=
    { cpus := fun _ h => h
      pci := fun d hd => List.mem_cons.2 (.inl (List.mem_singleton.1 hd))
      memory := Nat.le_refl _
      ram := id
      disk := fun d hd => by simp [S, p, diskAt] at hd }
  have h : checkEngine S m Connections.all p = .ok (10, []) := by
    simp only [S, m, p, igpu]
    rfl
  have hb : ∀ r ∈ m.allOf ++ m.anyOf, r.breakdowns S' Connections.all = [] := by
    intro r hr
    simp only [m, List.append_nil, List.mem_singleton] at hr
    subst hr
    decide +kernel
  exact ⟨hc, hS, h, ((checkEngine_score_mono hc).1 S S' 10 [] hS h).1.2 hb⟩

/-- A machine with a CPU, memory and a disk entry, where an engine that needs a GPU of 4300
nines of gibibytes is scored; the same machine with a GPU added that reports 4300 nines of
mebibytes covers it, yet scoring breaks down there: the GPU lacks memory, and the issue that
shows its size cannot be written. -/
theorem checkEngine_breaks_on_added_long_vram :
    let gpu : PciDevice :=
      { slot := "0000:01:00.0", bus := 1, deviceClass := 0x0300, vendor := 0x10de,
        device := 0x2684,
        properties := [("vram", String.ofList (List.replicate 4300 '9') ++ "M")] }
    let S : Snapshot :=
      { cpus := [{ architecture := "amd64" }], memory := { ram := 17179869184 },
        disk := [("/var/lib/snapd", { total := 100, avail := 100 })] }
    let S' : Snapshot := { S with pci := [gpu] }
    let m : Manifest :=
      { name := "big-gpu", description := "An engine", vendor := "Acme", grade := .stable,
        allOf := [.gpu { vram := some ((Value.tooLongBound - 1) * gibibyte) }] }
    let p : Value := .str "/var/lib/snapd"
    S.Covers S' p ∧ (∃ x is, checkEngine S m Connections.all p = .ok (x, is)) ∧
      checkEngine S' m Connections.all p = .error (.broken (Breakdown.digits .writing)) := by
  intro gpu S S' m p
  have hc := Connections.answers_all
  have hS : S.Covers S' p :=
    { cpus := fun _ h => h
      pci := fun d hd => by cases hd
      memory := Nat.le_refl _
      ram := id
      disk := fun d hd => ⟨d, hd, Nat.le_refl _⟩ }
  have h : checkEngine S m Connections.all p =
      .ok (0, ["no pci devices on host system", "required pci device not found"]) := rfl
  -- the GPU lacks memory first, by a size too long to write
  obtain ⟨hlacks, hw⟩ :=
    deviceLacks_long_nines (d := gpu) (by show classFits .gpu 0x0300 = true; decide) rfl
  exact ⟨hS, ⟨_, _, h⟩, checkEngine_eq_digits hc hS (checkEngine_eq_ok_iff.1 h).1
    ⟨_, List.mem_append_left _ (List.mem_singleton_self _),
      Requirement.breakdowns_gpu_ne_nil (List.mem_singleton_self gpu) rfl hlacks hw⟩⟩

end Engine

end EngineFit
