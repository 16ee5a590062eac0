import EngineFit.Proofs.SnapshotRoundTrip
import EngineFit.Proofs.ManifestRoundTrip
import EngineFit.Proofs.WritableDocuments

/-!
# Reading snapshot documents

`Snapshot.parse` reads any document. This module says what it can give:

* a snapshot it gives is well formed (`Snapshot.parse_wellFormed`): ids are not negative, flags
  are in lower case, and each property key and each disk path is held once; memory and disk
  figures are naturals by their type;
* a writable document, one whose integers all have at most `Number.digitLimit` digits, is
  refused only for its shape (`Snapshot.parse_rejects`). The reader's other fault, an integer too
  long to be taken as text or shown in a message, can only come from an integer the document
  holds, and `Snapshot.parse_long_architecture` shows that it does come.

Both are walks along the reader. Each section of the document continues the same way whatever
the section held, so the walk names the continuation (`extract_lets`) and follows it once.
-/

namespace EngineFit

theorem exists_of_bind_eq_ok {ε α β : Type} {x : Except ε α} {f : α → Except ε β} {b : β}
    (h : x >>= f = .ok b) : ∃ a, f a = .ok b :=
  let ⟨a, _, h⟩ := bind_eq_ok.1 h
  ⟨a, h⟩

section MappingCheck

/-! Each reader first checks that its document is a mapping, then goes on with the rest. -/

variable {β : Type} {w : Value} {x : Except SnapshotError Unit} {k : Unit → Except SnapshotError β}

theorem mapping_check_eq_ok {r : β}
    (h : (match w with | .dict _ => k () | _ => x >>= k) = .ok r) : k () = .ok r := by
  split at h
  · exact h
  · obtain ⟨⟨⟩, h⟩ := exists_of_bind_eq_ok h
    exact h

theorem mapping_check_rejects (hx : ErrorsIn SnapshotError.isRejection x)
    (hk : ErrorsIn SnapshotError.isRejection (k ())) :
    ErrorsIn SnapshotError.isRejection (match w with | .dict _ => k () | _ => x >>= k) := by
  split
  · exact hk
  · exact ErrorsIn.bind hx fun _ _ => hk

end MappingCheck

/-! ### What a read snapshot holds -/

/-- A CPU as the reader gives it: flags in lower case and ids that are not negative. -/
structure Cpu.WellFormed (c : Cpu) : Prop where
  flags : ∀ f ∈ c.flags, ∃ t, f = Text.lower t
  implementer : ∀ n ∈ c.implementer, 0 ≤ n
  part : ∀ n ∈ c.part, 0 ≤ n

/-- A PCI device as the reader gives it: ids that are not negative and each property key
once. -/
structure PciDevice.WellFormed (d : PciDevice) : Prop where
  bus : 0 ≤ d.bus
  deviceClass : 0 ≤ d.deviceClass
  vendor : 0 ≤ d.vendor
  device : 0 ≤ d.device
  programmingInterface : ∀ n ∈ d.programmingInterface, 0 ≤ n
  subvendor : ∀ n ∈ d.subvendor, 0 ≤ n
  subdevice : ∀ n ∈ d.subdevice, 0 ≤ n
  properties : (d.properties.map Prod.fst).Nodup

/-- A snapshot as the reader gives it: well-formed CPUs and PCI devices, and each disk path
once. -/
structure Snapshot.WellFormed (s : Snapshot) : Prop where
  cpus : ∀ c ∈ s.cpus, c.WellFormed
  pci : ∀ d ∈ s.pci, d.WellFormed
  disk : (s.disk.map Prod.fst).Nodup

theorem hexOrNone_nonneg {doc : Value} {key : String} {o : Option Int}
    (h : hexOrNone doc key = .ok o) : ∀ n ∈ o, 0 ≤ n := by
  unfold hexOrNone at h
  split at h
  · cases h
    simp
  · split at h
    · cases h
      simp
    · cases h

theorem hexOrZero_nonneg {doc : Value} {key : String} {n : Int}
    (h : hexOrZero doc key = .ok n) : 0 ≤ n := by
  unfold hexOrZero at h
  cases ho : hexOrNone doc key with
  | error e => simp [ho, Except.map] at h
  | ok o =>
    simp only [ho, Except.map, Except.ok.injEq] at h
    subst h
    cases o with
    | none => exact Int.le_refl 0
    | some m => exact hexOrNone_nonneg ho m rfl

/-- A fold whose every step writes one key into the entries holds each key once. -/
theorem nodup_of_foldlM_insertKey {ε α β : Type}
    {f : List (String × α) → β → Except ε (List (String × α))}
    (hf : ∀ acc b acc', f acc b = .ok acc' → ∃ k v, acc' = insertKey acc k v)
    {xs : List β} {acc r : List (String × α)} (hacc : (acc.map Prod.fst).Nodup)
    (h : xs.foldlM f acc = .ok r) : (r.map Prod.fst).Nodup := by
  induction xs generalizing acc with
  | nil =>
    rw [List.foldlM_nil, pure_eq_ok] at h
    rw [← h]
    exact hacc
  | cons x xs ih =>
    rw [List.foldlM_cons, bind_eq_ok] at h
    obtain ⟨acc', hstep, hrest⟩ := h
    obtain ⟨k, v, rfl⟩ := hf acc x acc' hstep
    exact ih (by rw [insertKey_eq_put]; exact Keyed.nodup_keys_put hacc k v) hrest

/-- A step that reads two things and writes an entry made of them. -/
theorem insertKey_of_reads {α β γ : Type} {acc acc' : List (String × α)}
    {x : Except SnapshotError β} {y : β → Except SnapshotError γ} {k : β → γ → String}
    {v : β → γ → α}
    (h : (x >>= fun a => y a >>= fun b => pure (insertKey acc (k a b) (v a b))) = .ok acc') :
    ∃ key val, acc' = insertKey acc key val := by
  simp only [bind_eq_ok, pure_eq_ok] at h
  obtain ⟨_, _, _, _, rfl⟩ := h
  exact ⟨_, _, rfl⟩

theorem Cpu.parse_wellFormed {doc : Value} {c : Cpu} (h : Cpu.parse doc = .ok c) :
    c.WellFormed := by
  unfold Cpu.parse at h
  extract_lets arch manufacturer afterArch afterCheck at h
  replace h := mapping_check_eq_ok h
  simp only [afterCheck] at h
  obtain ⟨_, h⟩ : ∃ u, afterArch u = .ok c := by
    split at h
    · exact exists_of_bind_eq_ok h
    · exact ⟨(), h⟩
  simp only [afterArch, bind_eq_ok, pure_eq_ok] at h
  obtain ⟨_, _, _, _, _, himpl, _, hpart, _, _, rfl⟩ := h
  refine ⟨fun f hf => ?_, hexOrNone_nonneg himpl, hexOrNone_nonneg hpart⟩
  obtain ⟨t, _, rfl⟩ := List.mem_map.1 hf
  exact ⟨t, rfl⟩

theorem PciDevice.parse_wellFormed {doc : Value} {d : PciDevice}
    (h : PciDevice.parse doc = .ok d) : d.WellFormed := by
  unfold PciDevice.parse at h
  extract_lets props named afterEntries afterCheck at h
  replace h := mapping_check_eq_ok h
  simp only [afterCheck] at h
  obtain ⟨entries, h⟩ : ∃ kvs, afterEntries kvs = .ok d := by
    split at h
    · exact exists_of_bind_eq_ok h
    · split at h <;> exact exists_of_bind_eq_ok h
  simp -zeta only [afterEntries] at h
  extract_lets afterSlot at h
  obtain ⟨_, h⟩ : ∃ t, afterSlot t = .ok d := by
    split at h <;> exact exists_of_bind_eq_ok h
  simp only [afterSlot, bind_eq_ok, pure_eq_ok] at h
  obtain ⟨_, hbus, _, hclass, _, hvendor, _, hdevice, _, hpi, _, hsv, _, hsd, _, hprops, rfl⟩ :=
    h
  refine ⟨hexOrZero_nonneg hbus, hexOrZero_nonneg hclass, hexOrZero_nonneg hvendor,
    hexOrZero_nonneg hdevice, hexOrNone_nonneg hpi, hexOrNone_nonneg hsv, hexOrNone_nonneg hsd,
    nodup_of_foldlM_insertKey (fun _ p _ hstep => ?_) (by simp) hprops⟩
  obtain ⟨k, v⟩ := p
  exact insertKey_of_reads hstep

/-- **A snapshot the reader gives is well formed.** -/
theorem Snapshot.parse_wellFormed {d : Value} {s : Snapshot} (h : Snapshot.parse d = .ok s) :
    s.WellFormed := by
  unfold Snapshot.parse at h
  extract_lets doc part afterCpus afterCheck at h
  replace h := mapping_check_eq_ok h
  -- each section continues alike whatever it held: unset, or the list or mapping it is
  simp only [afterCheck] at h
  obtain ⟨cpuDocs, h⟩ : ∃ xs, afterCpus xs = .ok s := by
    split at h <;> exact exists_of_bind_eq_ok h
  simp -zeta only [afterCpus] at h
  extract_lets afterPci at h
  obtain ⟨pciDocs, h⟩ : ∃ xs, afterPci xs = .ok s := by
    split at h <;> exact exists_of_bind_eq_ok h
  simp -zeta only [afterPci] at h
  extract_lets afterMemory at h
  obtain ⟨memoryDoc, h⟩ : ∃ m, afterMemory m = .ok s := by
    split at h <;> exact exists_of_bind_eq_ok h
  simp -zeta only [afterMemory, bind_eq_ok] at h
  obtain ⟨ram, -, swap, -, h⟩ := h
  extract_lets afterDisk at h
  obtain ⟨diskDocs, h⟩ : ∃ kvs, afterDisk kvs = .ok s := by
    split at h <;> exact exists_of_bind_eq_ok h
  simp only [afterDisk, bind_eq_ok, pure_eq_ok] at h
  obtain ⟨disk, hdisk, cpus, hcpus, pci, hpci, rfl⟩ := h
  refine ⟨fun c hc => ?_, fun p hp => ?_, ?_⟩
  · obtain ⟨_, _, hparse⟩ := mem_of_mapM_eq_ok hcpus hc
    exact Cpu.parse_wellFormed hparse
  · obtain ⟨_, _, hparse⟩ := mem_of_mapM_eq_ok hpci hp
    exact PciDevice.parse_wellFormed hparse
  · refine nodup_of_foldlM_insertKey (fun _ p _ hstep => ?_) (by simp) hdisk
    obtain ⟨path, stats⟩ := p
    exact insertKey_of_reads hstep

/-! ### Documents refused only for their shape -/

theorem plainOf_of_writable {v : Value} (hv : v.writable = true) : plainOf v = .ok v.plain := by
  simp [plainOf, Value.plainChecked, hv]

theorem plainOf_rejects {v : Value} (hv : v.writable = true) :
    ErrorsIn SnapshotError.isRejection (plainOf v) := by
  rw [plainOf_of_writable hv]
  exact ErrorsIn.of_ok _

/-- A writable value is shown in the problem; only an unwritable one makes a problem of its
own. -/
theorem showing_of_writable {field : String} {mk : Value → SnapshotProblem} {v : Value}
    (hv : v.writable = true) : showing field mk v = ⟨some field, mk v⟩ := by
  simp [showing, hv]

theorem hexOrNone_rejects (doc : Value) (key : String) :
    ErrorsIn SnapshotError.isRejection (hexOrNone doc key) := by
  unfold hexOrNone
  split
  · exact ErrorsIn.of_ok _
  · split
    · exact ErrorsIn.of_ok _
    · exact ErrorsIn.of_error rfl

theorem hexOrZero_rejects (doc : Value) (key : String) :
    ErrorsIn SnapshotError.isRejection (hexOrZero doc key) := by
  unfold hexOrZero
  cases h : hexOrNone doc key with
  | error e => exact ErrorsIn.of_error (hexOrNone_rejects doc key e h)
  | ok o => exact ErrorsIn.of_ok _

section Writable

variable {doc : Value} (hdoc : doc.writable = true)
include hdoc

theorem plainList_rejects (key : String) :
    ErrorsIn SnapshotError.isRejection (plainList doc key) := by
  have hview := Value.writable_view (Value.writable_getD hdoc key)
  unfold plainList
  dsimp only
  split
  · exact ErrorsIn.of_ok _
  · split
    · rename_i xs hxs
      rw [hxs, Value.writable, Value.writableItems_iff] at hview
      exact ErrorsIn.mapM fun x hx => plainOf_rejects (hview x hx)
    · exact ErrorsIn.of_error rfl

theorem natField_rejects (key : String) :
    ErrorsIn SnapshotError.isRejection (natField doc key) := by
  unfold natField
  split
  · exact ErrorsIn.of_ok _
  · rename_i n hn
    split
    · rw [showing_of_writable (Value.writable_of_get? hdoc hn)]
      exact ErrorsIn.of_error rfl
    · exact ErrorsIn.of_ok _
  · rename_i v _ hv
    rw [showing_of_writable (Value.writable_of_get? hdoc hv)]
    exact ErrorsIn.of_error rfl

theorem Cpu.parse_rejects : ErrorsIn SnapshotError.isRejection (Cpu.parse doc) := by
  unfold Cpu.parse
  extract_lets arch manufacturer afterArch afterCheck
  have hread : ErrorsIn SnapshotError.isRejection (afterArch ()) :=
    ErrorsIn.bind (plainOf_rejects (Value.writable_getD hdoc _)) fun _ _ =>
      ErrorsIn.bind (plainList_rejects hdoc _) fun _ _ =>
      ErrorsIn.bind (hexOrNone_rejects _ _) fun _ _ =>
      ErrorsIn.bind (hexOrNone_rejects _ _) fun _ _ =>
      ErrorsIn.bind (plainList_rejects hdoc _) fun _ _ => ErrorsIn.of_ok _
  have hcheck : ErrorsIn SnapshotError.isRejection (afterCheck ()) := by
    simp only [afterCheck]
    split
    · exact ErrorsIn.bind (ErrorsIn.of_error rfl) fun _ _ => hread
    · exact hread
  exact mapping_check_rejects (ErrorsIn.of_error rfl) hcheck

theorem PciDevice.parse_rejects : ErrorsIn SnapshotError.isRejection (PciDevice.parse doc) := by
  unfold PciDevice.parse
  extract_lets props named afterEntries afterCheck
  have hentries : ∀ kvs, Value.writableEntries kvs = true →
      ErrorsIn SnapshotError.isRejection (afterEntries kvs) := by
    intro kvs hkvs
    rw [Value.writableEntries_iff] at hkvs
    simp -zeta only [afterEntries]
    extract_lets afterSlot
    have hslot : ∀ t, ErrorsIn SnapshotError.isRejection (afterSlot t) := fun _ =>
      ErrorsIn.bind (hexOrZero_rejects _ _) fun _ _ =>
      ErrorsIn.bind (hexOrZero_rejects _ _) fun _ _ =>
      ErrorsIn.bind (hexOrZero_rejects _ _) fun _ _ =>
      ErrorsIn.bind (hexOrZero_rejects _ _) fun _ _ =>
      ErrorsIn.bind (hexOrNone_rejects _ _) fun _ _ =>
      ErrorsIn.bind (hexOrNone_rejects _ _) fun _ _ =>
      ErrorsIn.bind (hexOrNone_rejects _ _) fun _ _ =>
      ErrorsIn.bind (ErrorsIn.foldlM (fun _ p hp => by
        obtain ⟨k, v⟩ := p
        exact ErrorsIn.bind (plainOf_rejects (hkvs _ hp).1) fun _ _ =>
          ErrorsIn.bind (plainOf_rejects (hkvs _ hp).2) fun _ _ => ErrorsIn.of_ok _) _)
        fun _ _ => ErrorsIn.of_ok _
    split
    · rename_i v hv
      exact ErrorsIn.bind (plainOf_rejects (Value.writable_of_get? hdoc hv)) fun t _ => hslot t
    · exact hslot ""
  have hcheck : ErrorsIn SnapshotError.isRejection (afterCheck ()) := by
    have hview := Value.writable_view (Value.writable_getD hdoc "additional-properties")
    simp only [afterCheck]
    split
    · exact hentries [] rfl
    · split
      · rename_i kvs hkvs
        rw [hkvs] at hview
        exact hentries kvs hview
      · exact ErrorsIn.bind (ErrorsIn.of_error rfl) fun _ h => by cases h
  exact mapping_check_rejects (ErrorsIn.of_error rfl) hcheck

end Writable

theorem diskEntry_rejects {path stats : Value} (hpath : path.writable = true)
    (hstats : stats.writable = true) :
    ErrorsIn SnapshotError.isRejection (diskEntry path stats) := by
  unfold diskEntry
  extract_lets afterCheck
  have hsizes : ErrorsIn SnapshotError.isRejection (afterCheck ()) :=
    ErrorsIn.bind (natField_rejects hstats _) fun _ _ =>
      ErrorsIn.bind (natField_rejects hstats _) fun _ _ => ErrorsIn.of_ok _
  split
  · exact hsizes
  · rw [showing_of_writable hpath]
    exact ErrorsIn.bind (ErrorsIn.of_error rfl) fun _ _ => hsizes

/-- A list section of a writable document is refused only for its shape, when what follows is
refused only for its shape whatever writable items the section held. -/
theorem section_items_rejects {β : Type} {w : Value} (hw : w.writable = true) (key : String)
    {k : List Value → Except SnapshotError β}
    (hk : ∀ xs, Value.writableItems xs = true → ErrorsIn SnapshotError.isRejection (k xs)) :
    ErrorsIn SnapshotError.isRejection (match w with
      | .null => pure [] >>= k
      | .list xs => pure xs >>= k
      | _ => faultAt key .expectedList >>= k) := by
  split
  · exact hk [] rfl
  · rename_i xs
    exact hk xs hw
  · exact ErrorsIn.bind (ErrorsIn.of_error rfl) fun _ h => by cases h

/-- A mapping section of a writable document is refused only for its shape, when what follows
is refused only for its shape whatever writable entries the section held. -/
theorem section_entries_rejects {β : Type} {w : Value} (hw : w.writable = true) (key : String)
    {k : List (Value × Value) → Except SnapshotError β}
    (hk : ∀ kvs, Value.writableEntries kvs = true → ErrorsIn SnapshotError.isRejection (k kvs)) :
    ErrorsIn SnapshotError.isRejection (match w with
      | .null => pure [] >>= k
      | .dict kvs => pure kvs >>= k
      | _ => faultAt key .expectedMapping >>= k) := by
  split
  · exact hk [] rfl
  · rename_i kvs
    exact hk kvs hw
  · exact ErrorsIn.bind (ErrorsIn.of_error rfl) fun _ h => by cases h

/-- **A writable document is refused only for its shape.** Every text the reader takes and
every value it shows is a part of the document, so writable too. -/
theorem Snapshot.parse_rejects {d : Value} (hd : d.writable = true) :
    ErrorsIn SnapshotError.isRejection (Snapshot.parse d) := by
  unfold Snapshot.parse
  extract_lets doc part afterCpus afterCheck
  have hdoc : doc.writable = true := by
    simp only [doc]
    split
    · exact hd
    · rfl
  have hpart : ∀ key, (part key).view.writable = true := fun key => by
    simp only [part]
    split
    · exact Value.writable_view (Value.writable_getD hdoc key)
    · rfl
  -- each section continues alike whatever it held, so the rest is proved once for all it can
  -- hold: the items or entries of a writable section
  suffices hcpus : ∀ xs, Value.writableItems xs = true →
      ErrorsIn SnapshotError.isRejection (afterCpus xs) by
    have hcheck : ErrorsIn SnapshotError.isRejection (afterCheck ()) := by
      simp only [afterCheck]
      exact section_items_rejects (hpart "cpus") "cpus" hcpus
    exact mapping_check_rejects (ErrorsIn.of_error rfl) hcheck
  intro cpuDocs hcpuDocs
  simp -zeta only [afterCpus]
  extract_lets afterPci
  suffices hpci : ∀ xs, Value.writableItems xs = true →
      ErrorsIn SnapshotError.isRejection (afterPci xs) from
    section_items_rejects (hpart "pci") "pci" hpci
  intro pciDocs hpciDocs
  simp -zeta only [afterPci]
  extract_lets afterMemory
  suffices hmemory : ∀ m, m.writable = true →
      ErrorsIn SnapshotError.isRejection (afterMemory m) by
    have hview := hpart "memory"
    split
    · exact hmemory (.dict []) rfl
    · rename_i entries hm
      rw [hm] at hview
      exact hmemory _ hview
    · exact ErrorsIn.bind (ErrorsIn.of_error rfl) fun _ h => by cases h
  intro memoryDoc hmemoryDoc
  simp -zeta only [afterMemory]
  refine ErrorsIn.bind (natField_rejects hmemoryDoc _) fun _ _ => ?_
  refine ErrorsIn.bind (natField_rejects hmemoryDoc _) fun _ _ => ?_
  extract_lets afterDisk
  suffices hdisk : ∀ kvs, Value.writableEntries kvs = true →
      ErrorsIn SnapshotError.isRejection (afterDisk kvs) from
    section_entries_rejects (hpart "disk") "disk" hdisk
  intro diskDocs hdiskDocs
  rw [Value.writableEntries_iff] at hdiskDocs
  rw [Value.writableItems_iff] at hcpuDocs hpciDocs
  simp only [afterDisk]
  refine ErrorsIn.bind (ErrorsIn.foldlM (fun _ p hp => ?_) _) fun _ _ =>
    ErrorsIn.bind (ErrorsIn.mapM fun x hx => Cpu.parse_rejects (hcpuDocs x hx)) fun _ _ =>
    ErrorsIn.bind (ErrorsIn.mapM fun x hx => PciDevice.parse_rejects (hpciDocs x hx)) fun _ _ =>
    ErrorsIn.of_ok _
  obtain ⟨path, stats⟩ := p
  exact ErrorsIn.bind (diskEntry_rejects (hdiskDocs _ hp).1 (hdiskDocs _ hp).2) fun _ _ =>
    ErrorsIn.bind (plainOf_rejects (hdiskDocs _ hp).1) fun _ _ => ErrorsIn.of_ok _

/-- A CPU whose architecture is the integer `0x1` followed by 3572 zeros, of 4302 decimal
digits, has no text to be taken as: the document is refused with the fault of the integer,
which is no rejection of its shape and reads as that fault alone. -/
theorem Snapshot.parse_long_architecture :
    ∃ e, Snapshot.parse (Value.obj [("cpus", .list [Value.obj
        [("architecture", .int ((16 ^ 3572 : Nat) : Int))]])]) = .error e ∧
      e.isRejection = false ∧ e.message = Number.DigitLimit.writing.message := by
  have h : (match Snapshot.parse (Value.obj [("cpus", .list [Value.obj
      [("architecture", .int ((16 ^ 3572 : Nat) : Int))]])]) with
    | .error e => some (e.isRejection, e.message)
    | .ok _ => none) = some (false, Number.DigitLimit.writing.message) := by
    decide +kernel
  revert h
  split
  · rename_i e _
    intro h
    simp only [Option.some.injEq, Prod.mk.injEq] at h
    exact ⟨e, ‹_›, h.1, h.2⟩
  · intro h
    cases h

end EngineFit
