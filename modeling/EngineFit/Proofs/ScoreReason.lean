import EngineFit.Proofs.ScoreReport

/-!
# When a score of 0 comes without a reason

A score of 0 means the engine is not compatible, and usually the issues say why. They do not
when every requirement of the engine is met by a device that earns nothing: a PCI requirement
of no declared type, met only by integrated devices, is matched with score 0, and both device
groups drop the issues of matched requirements. An engine that needs only that is scored 0
with no issue at all (`checkEngine_typeless_zero_match`).

`checkEngine_zero_without_issues` says that this is the only way: a result of 0 without
issues means that the engine needs no memory and no disk space, that every requirement of
its all-of group and some alternative of a non-empty any-of group matched, and that every
requirement that matched scored 0, so is a PCI requirement of no declared type. Every CPU
that passes earns the CPU weight, every PCI device of a declared type the type weight, and
memory and disk space earn a point each.
-/

namespace EngineFit

section Parts

variable {R : Requirement → Outcome} {rs : List Requirement}

/-- A resource check reports 0 with no issue exactly when it was not asked for. -/
theorem resourceReport_eq_zero_iff {need : Option Size} {a : Nat} {issue : String} :
    resourceReport need a issue = (0, []) ↔ need = none := by
  unfold resourceReport
  cases need with
  | none => simp
  | some n => by_cases hn : n.bytes ≤ a <;> simp [hn]

/-- An all-of group reports 0 with no issue exactly when it matched every requirement, each
with 0. -/
theorem allOfReport_eq_zero_iff :
    allOfReport R rs = (0, []) ↔ ∀ r ∈ rs, (R r).matched ∧ (R r).score = 0 := by
  unfold allOfReport
  by_cases hall : rs.all fun r => (R r).matched
  · have hm := List.all_eq_true.1 hall
    simp only [hall, if_true, Prod.mk.injEq, and_true, List.sum_eq_zero_iff_forall_eq_nat,
      List.mem_map, forall_exists_index, and_imp, forall_apply_eq_imp_iff₂]
    exact ⟨fun h r hr => ⟨hm r hr, h r hr⟩, fun h r hr => (h r hr).2⟩
  · simp only [hall, if_false, Bool.false_eq_true, Prod.mk.injEq, true_and,
      unmatched_issues_eq_nil, false_iff]
    exact fun h => hall (List.all_eq_true.2 fun r hr => (h r hr).1)

/-- An any-of group, none of whose USB alternatives is free of issues, reports 0 with no issue
exactly when it matched some alternative if it has any, has no USB alternative, and every
alternative that matched scored 0. -/
theorem anyOfReport_eq_zero_iff (husb : ∀ r ∈ rs, r.isUsb → (R r).issues ≠ []) :
    anyOfReport R rs = (0, []) ↔
      (rs ≠ [] → ∃ r ∈ rs, (R r).matched) ∧ (∀ r ∈ rs, r.isUsb = false) ∧
        ∀ r ∈ rs, (R r).matched → (R r).score = 0 := by
  unfold anyOfReport
  by_cases hnone : (!rs.isEmpty && rs.all fun r => !(R r).matched) = true
  · rw [if_pos hnone]
    refine iff_of_false (by simp) fun h => ?_
    simp only [Bool.and_eq_true, Bool.not_eq_eq_eq_not, Bool.not_true, List.isEmpty_eq_false_iff,
      List.all_eq_true] at hnone
    obtain ⟨r, hr, hm⟩ := h.1 hnone.1
    simp [hnone.2 r hr] at hm
  · rw [if_neg hnone]
    simp only [Bool.and_eq_true, Bool.not_eq_eq_eq_not, Bool.not_true, List.isEmpty_eq_false_iff,
      ne_eq, List.all_eq_true, not_and, Classical.not_forall, exists_prop,
      Bool.not_eq_false] at hnone
    by_cases hu : rs.any Requirement.isUsb = true
    · rw [if_pos hu]
      obtain ⟨r, hr, hru⟩ := List.any_eq_true.1 hu
      refine iff_of_false (fun h => husb r hr hru ?_) fun h => ?_
      · simp only [Prod.mk.injEq, true_and, List.flatMap_eq_nil_iff, List.mem_filter] at h
        exact h r ⟨hr, hru⟩
      · simp [h.2.1 r hr] at hru
    · rw [if_neg hu]
      simp only [Prod.mk.injEq, and_true, List.sum_eq_zero_iff_forall_eq_nat, List.mem_map,
        List.mem_filter, forall_exists_index, and_imp]
      simp only [List.any_eq_true, not_exists, not_and, Bool.not_eq_true] at hu
      refine ⟨fun h => ⟨hnone, hu, fun r hr hm => h _ r hr hm rfl⟩,
        fun h _ r hr hm hs => hs ▸ h.2.2 r hr hm⟩

end Parts

/-! ### The whole engine -/

/-- How an engine is met with nothing to show for it: it needs no memory and no disk space,
every requirement of its all-of group and some alternative of a non-empty any-of group
matched, it offers no USB alternative, and every requirement that matched is a PCI
requirement of no declared type that scored 0. -/
structure MetAtZero (s : Snapshot) (m : Manifest) (conns : Connections) : Prop where
  memory : m.memory = none
  disk : m.diskSpace = none
  allOf : ∀ r ∈ m.allOf, (r.outcome s conns).matched
  anyOf : m.anyOf ≠ [] → ∃ r ∈ m.anyOf, (r.outcome s conns).matched
  noUsb : ∀ r ∈ m.anyOf, r.isUsb = false
  typeless : ∀ r ∈ m.allOf ++ m.anyOf, (r.outcome s conns).matched →
    (r.outcome s conns).score = 0 ∧ ∃ n : PciNeed, r = .pci n ∧ n.kind = none

section Engine

variable {s : Snapshot} {m : Manifest} {conns : Connections} {p : Value}

/-- The report is 0 with no issue exactly when each of its four parts is. -/
theorem engineReport_eq_zero_iff :
    engineReport s m conns p = (0, []) ↔
      resourceReport m.memory (s.memory.ram + s.memory.swap) "host system memory too small" =
          (0, []) ∧
        resourceReport m.diskSpace (availableAt s p) "host system disk space too small" =
          (0, []) ∧
        allOfReport (·.outcome s conns) m.allOf = (0, []) ∧
        anyOfReport (·.outcome s conns) m.anyOf = (0, []) := by
  unfold engineReport
  dsimp only
  split
  · rename_i hnil
    simp only [List.isEmpty_iff, List.append_eq_nil_iff] at hnil
    obtain ⟨⟨⟨h1, h2⟩, h3⟩, h4⟩ := hnil
    simp only [Prod.ext_iff, h1, h2, h3, h4, and_true]
    omega
  · rename_i hne
    simp only [List.isEmpty_iff, List.append_eq_nil_iff] at hne
    simp only [Prod.ext_iff, List.append_eq_nil_iff]
    exact iff_of_false (fun h => hne h.2) fun h => hne ⟨⟨⟨h.1.2, h.2.1.2⟩, h.2.2.1.2⟩, h.2.2.2.2⟩

/-- **When a score of 0 comes without a reason.**  For every engine, machine, connection check
and storage path, scoring gives 0 with no issue exactly when the machine is scorable for the
engine and the engine is met with nothing to show for it: so an engine that needs memory or
disk space, or that gets no match for one of its requirements, is scored with a reason, and
one that is scored 0 without a reason matched only PCI requirements of no declared type. -/
theorem checkEngine_zero_without_issues :
    checkEngine s m conns p = .ok (0, []) ↔ Scorable s m conns p ∧ MetAtZero s m conns := by
  have husb : ∀ r ∈ m.anyOf, r.isUsb → (r.outcome s conns).issues ≠ [] :=
    fun r _ hu => Requirement.issues_ne_nil_of_isUsb hu s conns
  rw [checkEngine_eq_ok_iff, eq_comm, engineReport_eq_zero_iff, resourceReport_eq_zero_iff,
    resourceReport_eq_zero_iff, allOfReport_eq_zero_iff, anyOfReport_eq_zero_iff husb]
  constructor
  · rintro ⟨hs, hmem, hdisk, hall, hany, hnoUsb, hzero⟩
    -- every matched requirement scored 0, and so was passed by some device with 0
    have h0 : ∀ r ∈ m.allOf ++ m.anyOf, (r.outcome s conns).matched →
        (r.outcome s conns).score = 0 := by
      intro r hr hm
      rcases List.mem_append.1 hr with hr | hr
      · exact (hall r hr).2
      · exact hzero r hr hm
    refine ⟨hs, hmem, hdisk, fun r hr => (hall r hr).1, hany, hnoUsb, fun r hr hm => ?_⟩
    have hbest := Requirement.matchOn_bestOf (hs.devices r hr)
    exact ⟨h0 r hr hm, Requirement.typeless_of_zero (hbest.zero_mem hm (h0 r hr hm))⟩
  · rintro ⟨hs, h⟩
    refine ⟨hs, h.memory, h.disk, fun r hr => ⟨h.allOf r hr, ?_⟩, h.anyOf, h.noUsb,
      fun r hr hm => (h.typeless r (List.mem_append_right _ hr) hm).1⟩
    exact (h.typeless r (List.mem_append_left _ hr) (h.allOf r hr)).1

/-- An engine whose one requirement is an NVIDIA PCI device of no declared type, on a machine
whose only NVIDIA device is an integrated GPU: the device passes with 0, so the engine is
scored 0 and no issue is reported. -/
theorem checkEngine_typeless_zero_match :
    let igpu : PciDevice :=
      { slot := "0000:00:02.0", deviceClass := 0x0300, vendor := 0x10de, device := 0x2684 }
    let s : Snapshot := { pci := [igpu], memory := { ram := 16 } }
    let m : Manifest :=
      { name := "typeless", description := "", vendor := "", grade := .stable,
        allOf := [.pci { vendor := some 0x10de }] }
    m.allOf ≠ [] ∧ checkEngine s m Connections.all (.str "/var/lib/snapd") = .ok (0, []) := by
  intro igpu s m
  refine ⟨List.cons_ne_nil _ _, ?_⟩
  simp only [s, m, igpu]
  rfl

end Engine

end EngineFit
