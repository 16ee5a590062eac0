import EngineFit.Hardware.Gpu
import EngineFit.Connection
import EngineFit.Proofs.Matching

/-!
# What the tool probes give back

Three probes ask external tools: the memory and compute capability of an NVIDIA device
(`nvidia-smi`), the memory of an Intel device (`clinfo`), and whether a snap connection is in
place (`snapctl`). A tool that is missing, cannot be run or is too slow, that exits with another
status or prints nothing, only leaves a property out, or leaves a connection unknown. This
module says exactly when a probe still stops (`toolProbe_spec`):

* running a command stops with a fault only when the command cannot be passed to a program (a
  word holding a null byte, or a surrogate that no byte stands for) or the tool's output is not
  UTF-8 (`Toolbox.output_eq_error_iff`, `Toolbox.run_cons_fault`);
* the properties of a graphics device are given exactly when the vendor's tool answers
  (`GpuVendor.Answers`): its queries end without a fault, and the size it reports can be
  written in decimal (NVIDIA) or does not abort the probe (Intel: an infinite size, or a report
  nested too deep). They are then at most a memory size and a compute capability, in that
  order, the size written in decimal as the tool reported it (`GpuVendor.ReportsSize`);
* a snap connection is in place for exit status 0 and not for status 1; the check breaks down
  exactly when running `snapctl` stops with a fault, and otherwise cannot tell.

The last theorem is a device report whose size is an infinite double, which stops the Intel
probe.
-/

namespace EngineFit

/-! ### Faults of running a tool -/

/-- Whether a failure to run a command is a fault of the command or of the tool's output, as
opposed to a tool that is missing, cannot be run or is too slow, or a command naming no
program. -/
def RunFailure.isFault : RunFailure → Bool
  | .unencodable _ _ _ | .nullByte | .undecodable _ => true
  | _ => false

/-- A computation over tools that can fail only with a fault. -/
def FaultsOnly {α : Type} (x : Except RunFailure α) : Prop :=
  ∀ f, x = .error f → f.isFault = true

namespace FaultsOnly

theorem pure {α : Type} (a : α) : FaultsOnly (pure a : Except RunFailure α) :=
  ErrorsIn.of_ok a

theorem bind {α β : Type} {x : Except RunFailure α} {g : α → Except RunFailure β}
    (hx : FaultsOnly x) (hg : ∀ a, FaultsOnly (g a)) : FaultsOnly (x >>= g) :=
  ErrorsIn.bind hx fun a _ => hg a

/-- A loop over words whose every step fails only with a fault. -/
theorem forIn {l : List String} {body : String → PUnit → Except RunFailure (ForInStep PUnit)}
    (hb : ∀ w u, FaultsOnly (body w u)) (u : PUnit) : FaultsOnly (forIn l u body) :=
  ErrorsIn.forIn hb u

end FaultsOnly

theorem passedBytes_faultsOnly (s : String) : FaultsOnly (passedBytes s) := by
  intro f h
  unfold passedBytes at h
  dsimp only at h
  split at h
  · cases h
    rfl
  · cases h

/-- Checking that a command can be passed fails only with a fault. -/
theorem checkPassable_faultsOnly (cmd : List String) : FaultsOnly (checkPassable cmd) := by
  unfold checkPassable
  dsimp only
  -- every word is passed as bytes, then refused if one of them is a null byte
  have hloop : FaultsOnly (forIn cmd PUnit.unit fun word (_ : PUnit) => do
      let bytes ← passedBytes word
      if bytes.contains 0 = true then do
          throw RunFailure.nullByte
          pure (ForInStep.yield PUnit.unit)
        else pure (ForInStep.yield PUnit.unit)) := by
    refine FaultsOnly.forIn (fun w u => FaultsOnly.bind (passedBytes_faultsOnly w) fun bytes => ?_) _
    split
    · intro f h
      cases h
      rfl
    · exact FaultsOnly.pure _
  split
  · exact FaultsOnly.bind (passedBytes_faultsOnly _) fun _ =>
      FaultsOnly.bind hloop fun _ => FaultsOnly.pure _
  · exact FaultsOnly.bind hloop fun _ => FaultsOnly.pure _

/-- What a finished tool gives back is a fault only when its output is not UTF-8. -/
theorem Reply.finished_fault {r : Reply} {f : RunFailure} (h : r.finished = .error f) :
    ∃ e, f = .undecodable e := by
  unfold Reply.finished at h
  split at h
  · cases h
  · split at h
    · cases h
      exact ⟨_, rfl⟩
    · cases h

/-- Running a command that names a program fails with a fault, or for a tool that is missing,
cannot be run or is too slow; a fault is a word that cannot be passed, or output that is not
UTF-8. -/
theorem Toolbox.run_cons_fault {tb : Toolbox} {name : String} {args : List String}
    {limit : TimeLimit} {f : RunFailure} (h : tb.run (name :: args) limit = .error f) :
    (checkPassable (name :: args) = .error f ∨ ∃ e, f = .undecodable e) ∨
      f = .notFound name ∨ f = .notRunnable name ∨ f = .timedOut (name :: args) limit := by
  unfold Toolbox.run at h
  dsimp only at h
  cases hp : checkPassable (name :: args) with
  | error e =>
    rw [hp] at h
    cases h
    exact .inl (.inl rfl)
  | ok u =>
    rw [hp] at h
    dsimp only [bind, Except.bind] at h
    split at h
    · cases h
      exact .inr (.inl rfl)
    · split at h
      · cases h
        exact .inr (.inr (.inl rfl))
      · split at h
        · cases h
          exact .inr (.inr (.inr rfl))
        · exact .inl (.inr (Reply.finished_fault h))

theorem Toolbox.run_cons_isFault {tb : Toolbox} {name : String} {args : List String}
    {limit : TimeLimit} {f : RunFailure} (h : tb.run (name :: args) limit = .error f) :
    f.isFault = true ∨ f = .notFound name ∨ f = .notRunnable name ∨
      f = .timedOut (name :: args) limit := by
  rcases Toolbox.run_cons_fault h with (hp | ⟨e, rfl⟩) | hf
  · exact .inl (checkPassable_faultsOnly _ f hp)
  · exact .inl rfl
  · exact .inr hf

/-- The output of a command that names a program is an error exactly when running it stops with
a fault. -/
theorem Toolbox.output_eq_error_iff {tb : Toolbox} {name : String} {args : List String}
    {limit : TimeLimit} {f : RunFailure} :
    tb.output (name :: args) limit = .error f ↔
      tb.run (name :: args) limit = .error f ∧ f.isFault = true := by
  unfold Toolbox.output
  cases hr : tb.run (name :: args) limit with
  | ok r =>
    dsimp only
    split
    · simp
    · split <;> simp
  | error e =>
    -- a fault is passed on; a missing, refused or slow tool only prints nothing
    rcases Toolbox.run_cons_isFault hr with hf | rfl | rfl | rfl
    · cases e <;> simp only [RunFailure.isFault, Bool.false_eq_true] at hf <;>
        exact ⟨fun h => by cases h; exact ⟨rfl, rfl⟩, fun ⟨h, _⟩ => by cases h; rfl⟩
    all_goals exact ⟨fun h => (by cases h), fun ⟨h, hf⟩ => (by cases h; cases hf)⟩

/-! ### Snap connections -/

section Snap

variable {tb : Toolbox} {name : String}

theorem snapConnection_eq_ok_true_iff :
    snapConnection tb name = .ok true ↔
      tb.status ["snapctl", "is-connected", name] snapctlLimit = .ok 0 := by
  unfold snapConnection
  cases tb.status ["snapctl", "is-connected", name] snapctlLimit with
  | error f => cases f <;> simp
  | ok n => rcases n with _ | _ | n <;> simp

theorem snapConnection_eq_ok_false_iff :
    snapConnection tb name = .ok false ↔
      tb.status ["snapctl", "is-connected", name] snapctlLimit = .ok 1 := by
  unfold snapConnection
  cases tb.status ["snapctl", "is-connected", name] snapctlLimit with
  | error f => cases f <;> simp
  | ok n => rcases n with _ | _ | n <;> simp

/-- **The connection check breaks down** exactly when running `snapctl` stops with a fault. -/
theorem snapConnection_broken_iff :
    (∃ b, snapConnection tb name = .error (.broken b)) ↔
      ∃ f, tb.status ["snapctl", "is-connected", name] snapctlLimit = .error f ∧
        f.isFault = true := by
  unfold snapConnection
  cases tb.status ["snapctl", "is-connected", name] snapctlLimit with
  | error f => cases f <;> simp [RunFailure.isFault]
  | ok n => rcases n with _ | _ | n <;> simp

end Snap

/-! ### Graphics devices -/

namespace GpuVendor

/-- The size in bytes that a vendor's tool reports for the device at a slot, probed at call
level `level`. -/
def ReportsSize : GpuVendor → Nat → Toolbox → String → Nat → Prop
  | .nvidia, _, tb, slot, n =>
    ∃ out, nvidiaQuery tb slot "memory.total" = .ok (some out) ∧ memoryTotal out = .ok n
  | .intel, level, tb, slot, n =>
    ∃ out, tb.output ["clinfo", "--json"] (.seconds 10) = .ok (some out) ∧
      reportedSize (level + 2) out slot = .ok (some n)

/-- A vendor's tool answers the probe of a slot: every query ends without a fault, and the size
it reports can be written in decimal (NVIDIA) or does not abort the probe (Intel). -/
def Answers : GpuVendor → Nat → Toolbox → String → Prop
  | .nvidia, _, tb, slot =>
    (∃ o, nvidiaQuery tb slot "memory.total" = .ok o ∧
      ∀ out n, o = some out → memoryTotal out = .ok n → n.natAbs < Value.tooLongBound) ∧
    ∃ o, nvidiaQuery tb slot "compute_cap" = .ok o
  | .intel, level, tb, slot =>
    ∃ o, tb.output ["clinfo", "--json"] (.seconds 10) = .ok o ∧
      ∀ out e, o = some out → reportedSize (level + 2) out slot = .error e → e.aborts = false

end GpuVendor

theorem decimalText_eq_ok_iff {n : Int} {t : String} :
    Number.decimalText n = .ok t ↔ n.natAbs < Value.tooLongBound ∧ t = toString n := by
  unfold Number.decimalText Value.tooLongBound
  split
  · rename_i h
    exact ⟨fun e => ⟨h, (Except.ok.inj e).symm⟩, fun ⟨_, e⟩ => by rw [e]⟩
  · rename_i h
    exact ⟨fun e => (by cases e), fun ⟨h', _⟩ => absurd h' h⟩

/-! ### Sizes that a tool reports -/

theorem memoryTotal_nonneg {out : String} {n : Int} (h : memoryTotal out = .ok n) : 0 ≤ n := by
  unfold memoryTotal at h
  -- past the split into number and unit, a negative number is refused and a unit is positive
  split at h
  split at h
  · cases h
  · cases h
  · split at h
    · cases h
    · rename_i hm
      split at h
      · cases h
        omega
      · split at h
        · cases h
          exact Int.mul_nonneg (by omega) (Int.natCast_nonneg _)
        · cases h

/-- A size that passes the final check of `sizeOf` is not negative. -/
theorem nonneg_of_checked {ε : Type} {x : Except ε Int} {f : Int → ε} {n : Int}
    (h : (x >>= fun m => if m < 0 then throw (f m) else pure m) = .ok n) : 0 ≤ n := by
  obtain ⟨m, -, h⟩ := bind_eq_ok.1 h
  split at h
  · cases h
  · rename_i hm
    cases h
    omega

theorem sizeOf_nonneg {v : Value} {n : Int} (h : sizeOf v = .ok n) : 0 ≤ n := by
  unfold sizeOf at h
  dsimp only at h
  split at h
  · exact nonneg_of_checked h
  · exact nonneg_of_checked h
  · split at h <;> exact nonneg_of_checked h
  · split at h <;> exact nonneg_of_checked h
  · exact nonneg_of_checked h

theorem platformsSize_nonneg {slot : String} {ps : List Value} {n : Int}
    (h : platformsSize slot ps = .ok (some n)) : 0 ≤ n := by
  induction ps with
  | nil => cases h
  | cons p ps ih =>
    unfold platformsSize at h
    split at h
    · rename_i heq
      cases heq
    · rename_i heq
      cases heq
      obtain ⟨devices, -, h⟩ := bind_eq_ok.1 h
      split at h
      · rename_i r hr
        unfold slotSize? at hr
        split at hr
        · cases hr
          cases hs : sizeOf _ with
          | error e => rw [hs] at h; cases h
          | ok m =>
            rw [hs] at h
            cases h
            exact sizeOf_nonneg hs
        · cases hr
      · exact ih h
    · rename_i heq
      cases heq
      exact ih h
theorem reportedSize_nonneg {level : Nat} {out slot : String} {n : Int}
    (h : reportedSize level out slot = .ok (some n)) : 0 ≤ n := by
  unfold reportedSize at h
  dsimp only at h
  -- only a report that reads as JSON gets past the reader
  split at h
  · obtain ⟨doc, -, h⟩ := bind_eq_ok.1 h
    split at h
    · obtain ⟨items, -, h⟩ := bind_eq_ok.1 h
      exact platformsSize_nonneg h
    · cases h
  all_goals cases h

section Devices

variable {level : Nat} {tb : Toolbox} {slot : String}

/-- The memory entry of the NVIDIA probe, from the output of its memory query. -/
def nvidiaVramEntry : Option String → Except GpuProbeError (List (String × String))
  | some out =>
    match memoryTotal out with
    | .ok n =>
      match Number.decimalText n with
      | .ok t => .ok [("vram", t)]
      | .error e => .error (.size (.digits e))
    | .error _ => .ok []
  | none => .ok []

/-- The compute capability entry of the NVIDIA probe, from the output of its query. -/
def capabilityEntry : Option String → List (String × String)
  | some c => [("compute-capability", c)]
  | none => []

/-- The NVIDIA probe asks for the memory, then the compute capability. -/
theorem nvidiaProperties_eq :
    nvidiaProperties tb slot =
      (nvidiaQuery tb slot "memory.total" >>= nvidiaVramEntry) >>= fun vram =>
        nvidiaQuery tb slot "compute_cap" >>= fun cap => pure (vram ++ capabilityEntry cap) := by
  unfold nvidiaProperties nvidiaVramEntry capabilityEntry
  -- the answers of the two queries are all that the two sides share
  generalize nvidiaQuery tb slot "memory.total" = m
  generalize nvidiaQuery tb slot "compute_cap" = c
  cases m with
  | error e => rfl
  | ok o =>
    dsimp only [bind, Except.bind]
    cases o with
    | none => rfl
    | some out =>
      dsimp only
      cases memoryTotal out with
      | error _ => rfl
      | ok n =>
        dsimp only
        cases Number.decimalText n <;> rfl

theorem nvidiaVramEntry_ok_iff {o : Option String} :
    (∃ vram, nvidiaVramEntry o = .ok vram) ↔
      ∀ out n, o = some out → memoryTotal out = .ok n → n.natAbs < Value.tooLongBound := by
  cases o with
  | none => exact ⟨fun _ _ _ h => (by cases h), fun _ => ⟨[], rfl⟩⟩
  | some out =>
    unfold nvidiaVramEntry
    dsimp only
    constructor
    · rintro ⟨vram, hv⟩ out' n ho hn
      cases ho
      rw [hn] at hv
      dsimp only at hv
      cases hd : Number.decimalText n with
      | ok t => exact (decimalText_eq_ok_iff.1 hd).1
      | error e =>
        rw [hd] at hv
        cases hv
    · intro h
      cases hn : memoryTotal out with
      | error _ => exact ⟨[], rfl⟩
      | ok n =>
        have ht := decimalText_eq_ok_iff.2 ⟨h out n rfl hn, rfl⟩
        exact ⟨_, by dsimp only; rw [ht]⟩

theorem nvidiaProperties_ok_iff :
    (∃ props, nvidiaProperties tb slot = .ok props) ↔ GpuVendor.nvidia.Answers level tb slot := by
  rw [nvidiaProperties_eq]
  unfold GpuVendor.Answers
  constructor
  · rintro ⟨props, h⟩
    obtain ⟨vram, hv, h⟩ := bind_eq_ok.1 h
    obtain ⟨o, hm, hv⟩ := bind_eq_ok.1 hv
    obtain ⟨cap, hc, -⟩ := bind_eq_ok.1 h
    exact ⟨⟨o, hm, nvidiaVramEntry_ok_iff.1 ⟨vram, hv⟩⟩, cap, hc⟩
  · rintro ⟨⟨o, hm, hsize⟩, cap, hc⟩
    obtain ⟨vram, hv⟩ := nvidiaVramEntry_ok_iff.2 hsize
    exact ⟨_, bind_eq_ok.2 ⟨vram, bind_eq_ok.2 ⟨o, hm, hv⟩, bind_eq_ok.2 ⟨cap, hc, rfl⟩⟩⟩

theorem intelProperties_ok_iff :
    (∃ props, intelProperties level tb slot = .ok props) ↔
      GpuVendor.intel.Answers level tb slot := by
  unfold intelProperties
  cases hq : tb.output ["clinfo", "--json"] (TimeLimit.seconds 10) with
  | error f => simp [GpuVendor.Answers, hq]
  | ok o =>
    cases o with
    | none => simp [GpuVendor.Answers, hq]
    | some out =>
      -- the tool answered with a report: the probe gives properties unless the report aborts it
      have hans : GpuVendor.intel.Answers level tb slot ↔
          ∀ e, reportedSize (level + 2) out slot = .error e → e.aborts = false := by
        refine ⟨fun ⟨o, ho, h⟩ e he => ?_, fun h => ⟨_, hq, fun o' e ho he => ?_⟩⟩
        · rw [hq] at ho
          cases ho
          exact h out e rfl he
        · cases ho
          exact h e he
      rw [hans]
      dsimp only
      cases reportedSize (level + 2) out slot with
      | ok n? => cases n? <;> simp
      | error e => cases ha : e.aborts <;> simp [ha]

theorem nvidiaVramEntry_eq_ok {o : Option String} {vram : List (String × String)}
    (h : nvidiaVramEntry o = .ok vram) :
    vram = [] ∨ ∃ (out : String) (n : Nat), o = some out ∧ memoryTotal out = .ok n ∧
      vram = [("vram", toString n)] := by
  cases o with
  | none =>
    cases h
    exact .inl rfl
  | some out =>
    unfold nvidiaVramEntry at h
    dsimp only at h
    cases hm : memoryTotal out with
    | error _ =>
      rw [hm] at h
      cases h
      exact .inl rfl
    | ok m =>
      rw [hm] at h
      dsimp only at h
      obtain ⟨k, rfl⟩ := Int.eq_ofNat_of_zero_le (memoryTotal_nonneg hm)
      cases hd : Number.decimalText (k : Int) with
      | error e =>
        rw [hd] at h
        cases h
      | ok t =>
        rw [hd] at h
        cases h
        exact .inr ⟨out, k, rfl, hm, by rw [(decimalText_eq_ok_iff.1 hd).2]; rfl⟩

theorem nvidiaProperties_shape {props : List (String × String)}
    (h : nvidiaProperties tb slot = .ok props) :
    (props.map Prod.fst).Sublist ["vram", "compute-capability"] ∧
      ∀ t, ("vram", t) ∈ props → ∃ n : Nat, t = toString n ∧
        GpuVendor.nvidia.ReportsSize level tb slot n := by
  rw [nvidiaProperties_eq] at h
  obtain ⟨vram, hv, h⟩ := bind_eq_ok.1 h
  obtain ⟨o, hm, hv⟩ := bind_eq_ok.1 hv
  obtain ⟨cap, -, h⟩ := bind_eq_ok.1 h
  rw [pure_eq_ok] at h
  subst h
  rcases nvidiaVramEntry_eq_ok hv with rfl | ⟨out, n, rfl, hn, rfl⟩
  · refine ⟨?_, fun t ht => ?_⟩
    · cases cap <;> simp [capabilityEntry]
    · cases cap <;> simp [capabilityEntry] at ht
  · refine ⟨?_, fun t ht => ⟨n, ?_, out, hm, hn⟩⟩
    · cases cap <;> simp [capabilityEntry]
    · cases cap <;> simp [capabilityEntry] at ht <;> exact ht

theorem intelProperties_shape {props : List (String × String)}
    (h : intelProperties level tb slot = .ok props) :
    (props.map Prod.fst).Sublist ["vram", "compute-capability"] ∧
      ∀ t, ("vram", t) ∈ props → ∃ n : Nat, t = toString n ∧
        GpuVendor.intel.ReportsSize level tb slot n := by
  unfold intelProperties at h
  cases hq : tb.output ["clinfo", "--json"] (TimeLimit.seconds 10) with
  | error f =>
    rw [hq] at h
    cases h
  | ok o =>
    rw [hq] at h
    cases o with
    | none =>
      cases h
      simp
    | some out =>
      dsimp only at h
      cases hr : reportedSize (level + 2) out slot with
      | ok n? =>
        rw [hr] at h
        cases n? with
        | none =>
          cases h
          simp
        | some m =>
          cases h
          obtain ⟨k, rfl⟩ := Int.eq_ofNat_of_zero_le (reportedSize_nonneg hr)
          refine ⟨by simp, fun t ht => ⟨k, ?_, out, hq, hr⟩⟩
          simp only [List.mem_singleton, Prod.mk.injEq, true_and] at ht
          rw [ht]
          rfl
      | error e =>
        rw [hr] at h
        dsimp only at h
        split at h
        · cases h
        · cases h
          simp

end Devices

/-- **What the tool probes give back.**  The properties of a graphics device are given exactly
when the vendor's tool answers, and are then at most a memory size and a compute capability, in
that order, the size written in decimal as the tool reported it. A snap connection is in place
for exit status 0 and not for status 1; the check breaks down exactly when running `snapctl`
stops with a fault, and otherwise cannot tell. A fault of running a tool is a command that
cannot be passed, or output that is not UTF-8. -/
theorem toolProbe_spec (v : GpuVendor) (level : Nat) (tb : Toolbox) (slot name : String) :
    ((∃ props, v.properties level tb slot = .ok props) ↔ v.Answers level tb slot) ∧
    (∀ props, v.properties level tb slot = .ok props →
      (props.map Prod.fst).Sublist ["vram", "compute-capability"] ∧
      ∀ t, ("vram", t) ∈ props → ∃ n : Nat, t = toString n ∧ v.ReportsSize level tb slot n) ∧
    (snapConnection tb name = .ok true ↔
      tb.status ["snapctl", "is-connected", name] snapctlLimit = .ok 0) ∧
    (snapConnection tb name = .ok false ↔
      tb.status ["snapctl", "is-connected", name] snapctlLimit = .ok 1) ∧
    ((∃ b, snapConnection tb name = .error (.broken b)) ↔
      ∃ f, tb.status ["snapctl", "is-connected", name] snapctlLimit = .error f ∧
        f.isFault = true) ∧
    (∀ (program : String) (args : List String) (limit : TimeLimit) (f : RunFailure),
      tb.run (program :: args) limit = .error f → f.isFault = true →
        checkPassable (program :: args) = .error f ∨ ∃ e, f = .undecodable e) := by
  refine ⟨?_, fun props h => ?_, snapConnection_eq_ok_true_iff, snapConnection_eq_ok_false_iff,
    snapConnection_broken_iff, fun program args limit f h hf => ?_⟩
  · cases v
    · exact nvidiaProperties_ok_iff
    · exact intelProperties_ok_iff
  · cases v
    · exact nvidiaProperties_shape h
    · exact intelProperties_shape h
  · -- a missing, refused or slow tool is no fault
    rcases Toolbox.run_cons_fault h with hfault | rfl | rfl | rfl
    · exact hfault
    all_goals cases hf

/-- A `clinfo` whose device report gives the device at `0000:00:02.0` the size `1e4500`, a
double too large to be finite. -/
def clinfoInfiniteSize : Toolbox :=
  { tools := [("clinfo", { replies := [("--json", { stdout :=
      "\x7b\"devices\":[\x7b\"online\":[\x7b\"CL_DEVICE_PCI_BUS_INFO_KHR\":\"PCI-E, 0000:00:02.0\"," ++
      "\"CL_DEVICE_GLOBAL_MEM_SIZE\":1e4500\x7d]\x7d]\x7d" })] })] }

/-- An infinite size stops the Intel probe instead of leaving the size out. -/
theorem clinfo_infinite_size_stops :
    GpuVendor.intel.properties 0 clinfoInfiniteSize "0000:00:02.0" =
      .error (.size .infiniteSize) := by
  have h : (match GpuVendor.intel.properties 0 clinfoInfiniteSize "0000:00:02.0" with
      | .error e => some e
      | .ok _ => none) = some (.size .infiniteSize) := by
    decide +kernel
  revert h
  split <;> simp_all

end EngineFit
