import EngineFit.Proofs.Matching
import EngineFit.Proofs.SizeGrammar

/-!
# What the PCI matcher computes

`matchPci` filters the machine's PCI devices by the required ids, then walks the devices left,
the *survivors*, once, keeping the best score and gathering issues. This module says what it
computes without the walk (`matchPci_spec`):

* with no device it fails with the single issue `no pci devices on host system`, and only then;
  with devices but no survivor, with the single issue `device not found`, and only then;
* it breaks down at the first survivor whose check breaks down (`PciNeedKind.breakdown?`):
  one whose first lack is too little memory, of a size too long to write in decimal, or one
  that fits the requirement where the connection check breaks down before it finds a
  connection that is not in place;
* otherwise the requirement is matched exactly when some survivor passes
  (`PciNeedKind.Passes`), its score is the largest of the points (`PciNeedKind.points`) of the
  survivors that pass, and its issues are one for each survivor that does not pass, in order:
  the first thing it lacks (`PciNeedKind.lacks`), under its slot.

What a device lacks is listed in the order of the checks: a class of the declared type, a
reported memory size, one that reads as a size, enough of it, then the same for the compute
capability, then each connection that is not in place. A CPU reports all it lacks; a PCI
device only the first. `deviceLacks_eq_nil_iff` says that a device lacks nothing but
connections exactly when it fits (`PciNeedKind.Fits`), and `deviceScore_eq` that the checks of
type and properties report the first lack, or else earn the points.
-/

namespace EngineFit

/-! ### What a device lacks -/

/-- One thing a PCI device lacks for a PCI requirement. -/
inductive PciLack where
  /-- The device class does not fit the declared type. -/
  | kind (k : DeviceKind) (deviceClass : Int)
  /-- No memory size was reported. -/
  | vramUnknown
  /-- The reported memory size does not read as a size. -/
  | vramUnreadable (e : UnitError)
  /-- The reported memory size is below the required one. -/
  | vramShort (available : Nat)
  /-- No compute capability was reported. -/
  | capabilityUnknown
  /-- The reported compute capability, or else the required one, does not read as one. -/
  | capabilityUnreadable (e : UnitError)
  /-- The reported compute capability is below the required one. -/
  | capabilityLow (reported : String)
  /-- The connection check cannot tell whether a connection is in place. -/
  | unchecked (connection reason : String)
  /-- A connection is not in place. -/
  | disconnected (connection : String)

/-- The issue that reports a lack. -/
def PciLack.message : PciLack → String
  | .kind k c => "device class " ++ hexText 4 c ++ " not of required type " ++ k.name
  | .vramUnknown => "unable to detect vRAM"
  | .vramUnreadable e => "error parsing vRAM: " ++ e.message
  | .vramShort a => "not enough vRAM: " ++ toString a
  | .capabilityUnknown => "unable to detect compute capability"
  | .capabilityUnreadable e => "error parsing compute capability: " ++ e.message
  | .capabilityLow t => "compute capability too low: " ++ t
  | .unchecked c r => "error checking snap connection \"" ++ c ++ "\": " ++ r
  | .disconnected c => "\"" ++ c ++ "\" is not connected"

/-- Whether the issue that reports a lack can be written: too little memory is reported with
the size available in decimal. -/
def PciLack.writable : PciLack → Bool
  | .vramShort a => a < Value.tooLongBound
  | _ => true

/-- How a check reports a lack: as its issue, or as the breakdown of writing it. -/
def PciLack.fault (l : PciLack) : CheckFault :=
  if l.writable then .issue l.message else .broken (.digits .writing)

theorem PciLack.writable_eq_false_iff {l : PciLack} :
    l.writable = false ↔ ∃ a, l = .vramShort a ∧ Value.tooLongBound ≤ a := by
  unfold PciLack.writable
  split <;> simp_all

/-- What a device lacks for a required memory size `n`: a reported size, one that reads as a
size, or enough of it. -/
def vramLack? (n : Nat) (d : PciDevice) : Option PciLack :=
  match d.property? "vram" with
  | none => some .vramUnknown
  | some text =>
    match parseSize (.str text) with
    | .error e => some (.vramUnreadable e)
    | .ok a => if a < n then some (.vramShort a) else none

/-- What a device lacks for a required compute capability `s`: a reported capability, one that
reads as a capability (and a requirement that does), or one as high. -/
def capabilityLack? (s : String) (d : PciDevice) : Option PciLack :=
  match d.property? "compute-capability" with
  | none => some .capabilityUnknown
  | some text =>
    match parseCapability (.str text), parseCapability (.str s) with
    | .error e, _ => some (.capabilityUnreadable e)
    | .ok _, .error e => some (.capabilityUnreadable e)
    | .ok a, .ok c => if a.lt c then some (.capabilityLow text) else none

/-- What a device lacks for a connection the requirement needs. A check that breaks down finds
no lack: it stops the matching instead. -/
def connectionLack? (conns : Connections) (c : String) : Option PciLack :=
  match conns c with
  | .ok false => some (.disconnected c)
  | .error (.unknown reason) => some (.unchecked c reason)
  | _ => none

namespace PciNeedKind

/-- Whether a device passes the id filter: its vendor id, and its device id, equal the required
ones where those are set. -/
def idsMatch (need : PciNeedKind) (d : PciDevice) : Bool :=
  need.vendor.all (fun v => d.vendor == (v : Int)) &&
    need.device.all (fun i => d.device == (i : Int))

/-- What a device's class lacks for the declared type. -/
def kindLack? (need : PciNeedKind) (d : PciDevice) : Option PciLack :=
  need.kind.bind fun k => if classFits k d.deviceClass then none else some (.kind k d.deviceClass)

/-- What a device's reported properties lack for a GPU requirement: the memory size, then the
compute capability. Other requirements check no property. -/
def propertyLacks (need : PciNeedKind) (d : PciDevice) : List PciLack :=
  match need with
  | .gpu r => (r.vram.bind (vramLack? · d)).toList ++ (r.capability.bind (capabilityLack? · d)).toList
  | .other _ => []

/-- What a device lacks for a requirement, connections aside: its class, then its properties. -/
def deviceLacks (need : PciNeedKind) (d : PciDevice) : List PciLack :=
  (need.kindLack? d).toList ++ need.propertyLacks d

/-- Everything a device lacks for a requirement, in the order of the checks; the matcher reports
only the first. -/
def lacks (need : PciNeedKind) (conns : Connections) (d : PciDevice) : List PciLack :=
  need.deviceLacks d ++ need.connections.filterMap (connectionLack? conns)

/-- A device fits a requirement, connections aside: its class fits the declared type (a
requirement of no type takes any class), and for a GPU requirement the reported memory size and
compute capability read as at least the required ones. -/
def Fits (need : PciNeedKind) (d : PciDevice) : Prop :=
  (∀ k ∈ need.kind, classFits k d.deviceClass = true) ∧
  match need with
  | .gpu r =>
    (∀ n ∈ r.vram, ∃ text a,
      d.property? "vram" = some text ∧ parseSize (.str text) = .ok a ∧ n ≤ a) ∧
    (∀ s ∈ r.capability, ∃ text a c, d.property? "compute-capability" = some text ∧
      parseCapability (.str text) = .ok a ∧ parseCapability (.str s) = .ok c ∧ a.lt c = false)
  | .other _ => True

/-- The points a GPU requirement's properties earn: 10 for a required memory size and 10 for a
required compute capability. -/
def propertyPoints (need : PciNeedKind) : Nat :=
  match need with
  | .gpu r => (if r.vram.isSome then 10 else 0) + (if r.capability.isSome then 10 else 0)
  | .other _ => 0

/-- The score of a device that passes: 10 for a declared type, 50 for a device behind a bus
other than 0, and the points of the properties. -/
def points (need : PciNeedKind) (d : PciDevice) : Nat :=
  (if need.kind.isSome then 10 else 0) + (if d.bus > 0 then 50 else 0) + need.propertyPoints

/-- Where checking a device breaks the matching down: at the first thing it lacks, when that
cannot be written; or, when it lacks nothing but connections, where the connection check breaks
down. -/
def breakdown? (need : PciNeedKind) (conns : Connections) (d : PciDevice) : Option Breakdown :=
  match (need.deviceLacks d).head? with
  | some l => if l.writable then none else some (.digits .writing)
  | none => errorOf? (checkConnections conns need.connections)

end PciNeedKind

/-! ### Lacking nothing -/

namespace PciNeedKind

theorem kindLack?_eq_none_iff {need : PciNeedKind} {d : PciDevice} :
    need.kindLack? d = none ↔ ∀ k ∈ need.kind, classFits k d.deviceClass = true := by
  unfold kindLack?
  cases need.kind with
  | none => simp
  | some k => by_cases h : classFits k d.deviceClass <;> simp [h]

end PciNeedKind

theorem vramLack?_eq_none_iff {n : Nat} {d : PciDevice} :
    vramLack? n d = none ↔
      ∃ text a, d.property? "vram" = some text ∧ parseSize (.str text) = .ok a ∧ n ≤ a := by
  unfold vramLack?
  cases d.property? "vram" with
  | none => simp
  | some text =>
    dsimp only
    cases h : parseSize (.str text) with
    | error e => simp [h]
    | ok a =>
      by_cases ha : a < n
      · simp [h, ha]
      · simp [h, ha]
        omega

theorem capabilityLack?_eq_none_iff {s : String} {d : PciDevice} :
    capabilityLack? s d = none ↔
      ∃ text a c, d.property? "compute-capability" = some text ∧
        parseCapability (.str text) = .ok a ∧ parseCapability (.str s) = .ok c ∧
        a.lt c = false := by
  unfold capabilityLack?
  cases d.property? "compute-capability" with
  | none => simp
  | some text =>
    dsimp only
    cases ha : parseCapability (.str text) with
    | error e => simp [ha]
    | ok a =>
      cases hc : parseCapability (.str s) with
      | error e => simp
      | ok c => by_cases hlt : a.lt c <;> simp [ha, hlt]

namespace PciNeedKind

/-- **A device lacks nothing but connections exactly when it fits.** -/
theorem deviceLacks_eq_nil_iff {need : PciNeedKind} {d : PciDevice} :
    need.deviceLacks d = [] ↔ need.Fits d := by
  unfold deviceLacks Fits
  rw [List.append_eq_nil_iff, Option.toList_eq_nil_iff, kindLack?_eq_none_iff]
  apply and_congr_right'
  cases need with
  | gpu r =>
    unfold propertyLacks
    rw [List.append_eq_nil_iff, Option.toList_eq_nil_iff, Option.toList_eq_nil_iff]
    dsimp only
    cases r.vram <;> cases r.capability <;>
      simp [vramLack?_eq_none_iff, capabilityLack?_eq_none_iff]
  | other r => simp [propertyLacks]

end PciNeedKind

/-! ### One device -/

/-- Too little memory is shown in decimal, which fails for a size too long to write. -/
theorem decimalText_natCast (a : Nat) :
    Number.decimalText a = if a < Value.tooLongBound then .ok (toString a) else .error .writing := by
  unfold Number.decimalText Value.tooLongBound
  rw [Int.natAbs_natCast]
  split <;> rfl

/-- The memory check reports what the device lacks for the size, or earns the memory weight. -/
theorem checkVram_eq (n : Nat) (d : PciDevice) :
    checkVram n d = match vramLack? n d with
      | some l => .error l.fault
      | none => .ok 10 := by
  unfold checkVram vramLack?
  cases d.property? "vram" with
  | none => rfl
  | some text =>
    dsimp only
    cases parseSize (.str text) with
    | error e => rfl
    | ok a =>
      by_cases h : a < n
      · simp only [h, if_true, decimalText_natCast, PciLack.fault, PciLack.writable]
        by_cases hw : a < Value.tooLongBound
        · simp only [hw, if_true, decide_true]
          rfl
        · simp only [hw, if_false, decide_false]
          rfl
      · simp only [h, if_false]
        rfl

/-- The compute capability check reports what the device lacks for it, or earns the capability
weight. -/
theorem checkCapability_eq (s : String) (d : PciDevice) :
    checkCapability s d = match capabilityLack? s d with
      | some l => .error l.fault
      | none => .ok 10 := by
  unfold checkCapability capabilityLack?
  cases d.property? "compute-capability" with
  | none => rfl
  | some text =>
    dsimp only
    cases parseCapability (.str text) with
    | error e => rfl
    | ok a =>
      cases parseCapability (.str s) with
      | error e => rfl
      | ok c =>
        by_cases h : a.lt c
        · simp only [h, if_true]
          rfl
        · simp only [h]
          rfl

theorem checkProperties_eq (need : PciNeedKind) (d : PciDevice) :
    checkProperties need d = match (need.propertyLacks d).head? with
      | some l => .error l.fault
      | none => .ok need.propertyPoints := by
  cases need with
  | other r => rfl
  | gpu r =>
    unfold checkProperties PciNeedKind.propertyLacks PciNeedKind.propertyPoints
    dsimp only
    cases r.vram with
    | none =>
      cases r.capability with
      | none => rfl
      | some s =>
        simp only [Option.bind_some, Option.bind_none, Option.toList_none, List.nil_append,
          checkCapability_eq]
        cases capabilityLack? s d <;> rfl
    | some n =>
      simp only [Option.bind_some, checkVram_eq]
      cases vramLack? n d with
      | some l => rfl
      | none =>
        cases r.capability with
        | none => rfl
        | some s =>
          simp only [Option.bind_some, Option.toList_none, List.nil_append, checkCapability_eq]
          cases capabilityLack? s d <;> rfl

/-- **The checks of type and properties** report the first thing the device lacks, or else
earn its points. -/
theorem deviceScore_eq (need : PciNeedKind) (d : PciDevice) :
    deviceScore need d = match (need.deviceLacks d).head? with
      | some l => .error l.fault
      | none => .ok (need.points d) := by
  unfold deviceScore PciNeedKind.deviceLacks PciNeedKind.kindLack? PciNeedKind.points
  rw [checkProperties_eq]
  cases need.kind with
  | none =>
    simp only [Option.bind_none, Option.toList_none, List.nil_append]
    cases (need.propertyLacks d).head? with
    | some l => rfl
    | none => simp [PciDevice.isDiscrete, weights, bind, Except.bind, pure, Except.pure]
  | some k =>
    by_cases hk : classFits k d.deviceClass
    · simp only [hk, if_true, Option.bind_some, Option.toList_none, List.nil_append]
      cases (need.propertyLacks d).head? with
      | some l => rfl
      | none => simp [PciDevice.isDiscrete, weights, bind, Except.bind, pure, Except.pure]
    · simp only [hk, Option.bind_some, Bool.false_eq_true, if_false]
      rfl

/-! ### Connections -/

/-- **The connection check breaks down** exactly when the first connection that is not in place
is one whose check broke down. -/
theorem checkConnections_eq_error_iff {conns : Connections} {cs : List String} {b : Breakdown} :
    checkConnections conns cs = .error b ↔
      ∃ pre c post, cs = pre ++ c :: post ∧ (∀ x ∈ pre, conns x = .ok true) ∧
        conns c = .error (.broken b) := by
  induction cs with
  | nil => simp [checkConnections]
  | cons c cs ih =>
    unfold checkConnections
    constructor
    · intro h
      split at h
      · cases h
      · rename_i b' hc
        cases h
        exact ⟨[], c, cs, rfl, by simp, hc⟩
      · cases h
      · rename_i hc
        obtain ⟨pre, x, post, rfl, hpre, hx⟩ := ih.1 h
        refine ⟨c :: pre, x, post, rfl, ?_, hx⟩
        simpa [hc] using hpre
    · rintro ⟨pre, x, post, hcs, hpre, hx⟩
      cases pre with
      | nil =>
        obtain ⟨rfl, rfl⟩ := List.cons.inj hcs
        rw [hx]
      | cons y pre =>
        obtain ⟨rfl, rfl⟩ := List.cons.inj hcs
        rw [hpre c List.mem_cons_self]
        exact ih.2 ⟨pre, x, post, rfl, fun z hz => hpre z (List.mem_cons_of_mem c hz), hx⟩

section Device

variable {need : PciNeedKind} {d : PciDevice} {conns : Connections}

/-- A device breaks the matching down exactly where `PciNeedKind.breakdown?` says. -/
theorem errorOf?_scoreDevice :
    errorOf? (scoreDevice need d conns) = need.breakdown? conns d := by
  unfold scoreDevice PciNeedKind.breakdown?
  rw [deviceScore_eq]
  cases (need.deviceLacks d).head? with
  | some l =>
    dsimp only
    unfold PciLack.fault
    by_cases hw : l.writable <;> simp [hw]
  | none =>
    dsimp only
    cases checkConnections conns need.connections with
    | error b => rfl
    | ok i? => cases i? <;> rfl

/-- What breaks the matching down at a device: too little memory, of a size too long to write,
when that is the first thing the device lacks; or, when the device fits, a connection check that
breaks down before any connection is found not in place. -/
theorem breakdown?_eq_some_iff {b : Breakdown} :
    need.breakdown? conns d = some b ↔
      (∃ a, (need.deviceLacks d).head? = some (.vramShort a) ∧ Value.tooLongBound ≤ a ∧
        b = Breakdown.digits .writing) ∨
      (need.Fits d ∧ ∃ pre c post, need.connections = pre ++ c :: post ∧
        (∀ x ∈ pre, conns x = .ok true) ∧ conns c = .error (.broken b)) := by
  unfold PciNeedKind.breakdown?
  rw [← PciNeedKind.deviceLacks_eq_nil_iff, ← checkConnections_eq_error_iff]
  cases hl : need.deviceLacks d with
  | cons l ls =>
    dsimp only [List.head?_cons]
    simp only [reduceCtorEq, false_and, or_false, Option.some.injEq]
    by_cases hw : l.writable = true
    · simp only [hw, if_true, reduceCtorEq, false_iff, not_exists, not_and]
      rintro a rfl ha
      simp [PciLack.writable] at hw
      omega
    · obtain ⟨a, rfl, ha⟩ := PciLack.writable_eq_false_iff.1 (by simpa using hw)
      simp only [hw, Bool.false_eq_true, if_false, Option.some.injEq]
      exact ⟨fun h => ⟨a, rfl, ha, h.symm⟩, fun ⟨_, he, _, h⟩ => by cases he; exact h.symm⟩
  | nil =>
    dsimp only [List.head?_nil]
    simp only [reduceCtorEq, false_and, exists_false, true_and, false_or]
    exact errorOf?_eq_some

end Device

/-! ### The machine's PCI devices -/

theorem filterDevices_eq (need : PciNeedKind) (ds : List PciDevice) :
    filterDevices ds need.vendor need.device = ds.filter need.idsMatch := by
  unfold filterDevices PciNeedKind.idsMatch
  congr 1
  funext d
  cases need.vendor <;> cases need.device <;> rfl

section Machine

variable {need : PciNeedKind} {ds : List PciDevice} {conns : Connections}

end Machine

/-- A GPU requirement of 8 GiB on three devices: the first lacks the class, the second a
reported memory size, each reported once under its slot; the third passes, discrete. -/
example :
    (matchPci (.gpu { vram := some (8 * 1024 ^ 3) })
      [{ slot := "0000:00:1f.0", deviceClass := 0x0200 },
       { slot := "0000:00:02.0", deviceClass := 0x0300 },
       { slot := "0000:01:00.0", bus := 1, deviceClass := 0x0300, properties := [("vram", "16G")] }]
      Connections.all).toOption =
    some ⟨70, true, ["pci 0000:00:1f.0: device class 0x0200 not of required type gpu",
      "pci 0000:00:02.0: unable to detect vRAM"]⟩ := by
  decide +kernel

/-! ### A memory size too long to write -/

/-- The number of digits past which an integer cannot be written, at least 2. -/
theorem two_le_tooLongBound : 2 ≤ Value.tooLongBound := by
  unfold Value.tooLongBound Number.digitLimit
  decide +kernel

/-- A device whose reported memory reads as less than the required size lacks memory, by the
size it has. -/
theorem vramLack?_eq_short {n a : Nat} {d : PciDevice} {text : String}
    (hp : d.property? "vram" = some text) (hs : parseSize (.str text) = .ok a) (hlt : a < n) :
    vramLack? n d = some (.vramShort a) := by
  unfold vramLack?
  rw [hp]
  dsimp only
  rw [hs]
  dsimp only
  rw [if_pos hlt]

/-- What a device of the GPU class lacks for a GPU requirement of memory alone: its memory
lack, if any. -/
theorem deviceLacks_gpu_of_vramLack {r : GpuNeed} {d : PciDevice} {n : Nat} {l : PciLack}
    (hvram : r.vram = some n) (hcap : r.capability = none)
    (hclass : classFits .gpu d.deviceClass = true) (hl : vramLack? n d = some l) :
    (PciNeedKind.gpu r).deviceLacks d = [l] := by
  simp [PciNeedKind.deviceLacks, PciNeedKind.kindLack?, PciNeedKind.kind,
    PciNeedKind.propertyLacks, hvram, hcap, hclass, hl]

/-- A device whose first lack cannot be written breaks the matching down there. -/
theorem breakdown?_of_head {need : PciNeedKind} {conns : Connections} {d : PciDevice}
    {l : PciLack} {ls : List PciLack} (hl : need.deviceLacks d = l :: ls)
    (hw : l.writable = false) : need.breakdown? conns d = some (.digits .writing) := by
  simp [PciNeedKind.breakdown?, hl, hw]

/-- A device of the GPU class that reports as its memory 4300 nines of mebibytes, all of them
read, lacks memory for a requirement of 4300 nines of gibibytes, by a size too long to
write. -/
theorem deviceLacks_long_nines {d : PciDevice} (hclass : classFits .gpu d.deviceClass = true)
    (hp : d.property? "vram" = some (String.ofList (List.replicate Number.digitLimit '9') ++ "M")) :
    (PciNeedKind.gpu { vram := some ((Value.tooLongBound - 1) * gibibyte) }).deviceLacks d =
        [.vramShort ((Value.tooLongBound - 1) * mebibyte)] ∧
      (PciLack.vramShort ((Value.tooLongBound - 1) * mebibyte)).writable = false := by
  have hB := two_le_tooLongBound
  -- the device's memory reads as 4300 nines of mebibytes, less than the engine needs
  have hshort : vramLack? ((Value.tooLongBound - 1) * gibibyte) d =
      some (.vramShort ((Value.tooLongBound - 1) * mebibyte)) := by
    have hread := parseSize_nines_mebibytes (k := Number.digitLimit) (by decide) (Nat.le_refl _)
    unfold Value.tooLongBound at hB ⊢
    exact vramLack?_eq_short hp hread (by unfold mebibyte gibibyte; omega)
  -- and that size has more digits than can be written
  have hlong : ¬ (Value.tooLongBound - 1) * mebibyte < Value.tooLongBound := by
    unfold mebibyte
    omega
  exact ⟨deviceLacks_gpu_of_vramLack rfl rfl hclass hshort,
    by simpa [PciLack.writable] using hlong⟩

end EngineFit
