import Mathlib
import EngineFit.Proofs.WrittenFields
import EngineFit.Hardware.Parse
import EngineFit.Hardware.CpuTable
import EngineFit.Config.Layered

/-!
# Writing a snapshot and reading it back

`Snapshot.toValue` writes a snapshot as a document and `Snapshot.parse` reads one. This module
says exactly which snapshots are read back as they were written
(`Snapshot.parse_toValue_iff_canonical`): the canonical ones, whose CPUs name an architecture,
whose manufacturer and device names are not null, whose flags are in lower case, whose ids are
not negative, and whose properties and disk paths are each written once.

Each reader step is first met with what the writer put there (`idRead`, `Cpu.parse_toValue`,
`PciDevice.parse_toValue`, `Snapshot.parse_toValue`); the round trip then holds exactly when
what the steps give back is the snapshot itself. The writer puts a negative id as `0x-` and its
digits, which the reader refuses (`parseHex_hexText_neg`).
-/

namespace EngineFit

/-! ### Ids -/

/-- A negative id is written with a sign after `0x`, which is no hexadecimal digit. -/
theorem parseHex_hexText_neg {width : Nat} {n : Int} (hn : n < 0) :
    parseHex (.str (hexText width n)) = .error (.invalidHex (.str (hexText width n))) := by
  have text : hexText width n = "0x-" ++ Value.hexDigits (width - 1) n.natAbs := by
    simp [hexText, hn]
  have prefix_chars : "0x-".toList = ['0', 'x', '-'] := rfl
  have unblank : ∀ c ∈ ("0x-" ++ Value.hexDigits (width - 1) n.natAbs).toList,
      Text.isBlank c = false := by
    intro c hc
    rw [String.toList_append, prefix_chars] at hc
    rcases List.mem_append.1 hc with hc | hc
    · have hx : Text.isBlank 'x' = false := by decide +kernel
      have hminus : Text.isBlank '-' = false := by decide +kernel
      simp only [List.mem_cons, List.not_mem_nil, or_false] at hc
      rcases hc with rfl | rfl | rfl
      · exact isBlank_digitChar 0 (by decide)
      · exact hx
      · exact hminus
    · exact isBlank_hexDigits c hc
  have hsign : Text.hexDigit? '-' = none := by decide
  unfold parseHex
  rw [text]
  simp [strip_eq_self unblank, String.toList_append, prefix_chars, hexValue?, Text.hexNat?,
    List.foldlM_cons, hsign]

/-- What reading back an optional id written at `width` under `key` gives: the id when it is
not negative, the fault of its written form when it is. -/
def idRead (key : String) (width : Nat) : Option Int → Except SnapshotError (Option Int)
  | none => .ok none
  | some n =>
    if 0 ≤ n then .ok (some n) else faultAt key (.badHex (.invalidHex (.str (hexText width n))))

theorem idRead_eq_ok {key : String} {width : Nat} {o o' : Option Int} :
    idRead key width o = .ok o' ↔ o' = o ∧ ∀ n ∈ o, 0 ≤ n := by
  cases o with
  | none => simp [idRead, eq_comm]
  | some n => by_cases hn : 0 ≤ n <;> simp [idRead, hn, faultAt, eq_comm]

/-- **Reading a written id.** -/
theorem hexOrNone_written {doc : Value} {key : String} {width : Nat} {o : Option Int}
    (h : doc.getD key = (o.map fun n => Value.str (hexText width n)).getD .null) :
    hexOrNone doc key = idRead key width o := by
  unfold hexOrNone
  rw [h]
  cases o with
  | none => rfl
  | some n =>
    by_cases hn : 0 ≤ n
    · obtain ⟨m, rfl⟩ := Int.eq_ofNat_of_zero_le hn
      simp [idRead, parseHex_hexText]
    · simp [idRead, hn, parseHex_hexText_neg (not_le.1 hn)]

/-! ### Texts, lists of texts and names -/

@[simp] theorem Value.get?_obj_cons {k f : String} {v : Value} {kvs : List (String × Value)} :
    (Value.obj ((k, v) :: kvs)).get? f = if k = f then some v else (Value.obj kvs).get? f := by
  by_cases h : k = f <;> simp [Value.get?, Value.lookup, Value.obj, Value.view, h, Value.keySame]

theorem plainOf_str (t : String) : plainOf (.str t) = .ok t := by
  simp [plainOf, Value.plainChecked, Value.writable, Value.plain]

@[simp] theorem Value.getD_obj_optEntry {α : Type} {key f : String} {g : α → Value}
    {o : Option α} :
    (Value.obj (optEntry key g o)).getD f = if key = f then (o.map g).getD .null else .null := by
  cases o <;> by_cases h : key = f <;> simp [optEntry, h]

/-- An entry written only when a condition fails. -/
@[simp] theorem Value.getD_obj_ite_nil {c : Prop} [Decidable c] {k f : String} {v : Value} :
    (Value.obj (if c then [] else [(k, v)])).getD f = if ¬c ∧ k = f then v else .null := by
  by_cases hc : c <;> by_cases hk : k = f <;> simp [hc, hk]

/-- A list of texts, written only when it is not empty, is read back. -/
theorem plainList_written {doc : Value} {key : String} {xs : List String}
    (h : doc.getD key = if xs = [] then .null else .list (xs.map .str)) :
    plainList doc key = .ok xs := by
  unfold plainList
  rw [h]
  by_cases hxs : xs = []
  · simp [hxs, Value.truthy]
  · simp only [hxs, if_false, Value.truthy, List.isEmpty_map, Bool.not_not]
    simp [List.isEmpty_eq_false_iff.2 hxs, Value.view, mapM_map_eq_ok plainOf_str]

/-- A field read as unset when it is null, as the snapshot reader reads names. -/
def unlessNull (v : Value) : Option Value :=
  match v with
  | .null => none
  | v => some v

/-- A name is read back as it was unless it was null. -/
theorem unlessNull_getD_eq_self {o : Option Value} :
    unlessNull (o.getD .null) = o ↔ o ≠ some .null := by
  rcases o with _ | v
  · simp [unlessNull]
  · cases v <;> simp [unlessNull]

theorem map_eq_self_iff {α : Type} {f : α → α} {l : List α} : l.map f = l ↔ ∀ a ∈ l, f a = a := by
  induction l with
  | nil => simp
  | cons a l ih => simp [ih]

/-! ### CPUs -/

/-- A CPU its document gives back: an architecture that is not empty, a manufacturer that is
not null, flags in lower case, and ids that are not negative. -/
structure Cpu.Canonical (c : Cpu) : Prop where
  architecture : c.architecture ≠ ""
  manufacturer : c.manufacturer ≠ some .null
  flags : ∀ f ∈ c.flags, Text.lower f = f
  implementer : ∀ n ∈ c.implementer, 0 ≤ n
  part : ∀ n ∈ c.part, 0 ≤ n

/-- **Reading a written CPU**: the architecture must not be empty and the ids must not be
negative; a null manufacturer is read as none, and the flags in lower case. -/
theorem Cpu.parse_toValue (c : Cpu) :
    Cpu.parse c.toValue =
      if c.architecture = "" then faultAt "cpus" .architectureMissing
      else (do
        let implementer ← idRead "implementer-id" 2 c.implementer
        let part ← idRead "part-number" 3 c.part
        pure { c with manufacturer := unlessNull (c.manufacturer.getD .null),
                      flags := c.flags.map Text.lower, implementer, part }) := by
  have harch : c.toValue.getD "architecture" = .str c.architecture := by simp [Cpu.toValue]
  have hman : c.toValue.getD "manufacturer-id" = c.manufacturer.getD .null := by
    simp [Cpu.toValue]
  have hflags : plainList c.toValue "flags" = .ok c.flags :=
    plainList_written (by simp [Cpu.toValue])
  have hfeatures : plainList c.toValue "features" = .ok c.features :=
    plainList_written (by simp [Cpu.toValue])
  have himpl : hexOrNone c.toValue "implementer-id" = idRead "implementer-id" 2 c.implementer :=
    hexOrNone_written (by simp [Cpu.toValue])
  have hpart : hexOrNone c.toValue "part-number" = idRead "part-number" 3 c.part :=
    hexOrNone_written (by simp [Cpu.toValue])
  have hview : ∃ kvs, c.toValue.view = .dict kvs := ⟨_, Value.view_obj⟩
  obtain ⟨kvs, hview⟩ := hview
  unfold Cpu.parse
  simp only [hview, harch, hman, hflags, hfeatures, himpl, hpart, plainOf_str]
  by_cases ha : c.architecture = ""
  · simp [ha, Value.truthy, faultAt, bind, Except.bind]
  · have htruthy : (Value.str c.architecture).truthy = true := by simp [Value.truthy, ha]
    simp only [htruthy, Bool.not_true, Bool.false_eq_true, if_false, ha, ok_bind]
    rfl

/-- **A CPU is read back as it was written** exactly when it is canonical. -/
theorem Cpu.parse_toValue_eq_ok_iff (c : Cpu) : Cpu.parse c.toValue = .ok c ↔ c.Canonical := by
  rw [Cpu.parse_toValue]
  by_cases ha : c.architecture = ""
  · simp only [ha, if_true, faultAt]
    constructor
    · intro h
      cases h
    · intro hc
      exact absurd ha hc.architecture
  · -- the ids come back exactly when they are not negative, the rest when it is unchanged
    have hrest :
        ({ c with manufacturer := unlessNull (c.manufacturer.getD .null),
                  flags := c.flags.map Text.lower } : Cpu) = c ↔
          c.manufacturer ≠ some .null ∧ ∀ f ∈ c.flags, Text.lower f = f := by
      obtain ⟨a, m, fl, i, p, fe⟩ := c
      simp [unlessNull_getD_eq_self, map_eq_self_iff]
    simp only [ha, if_false, bind_eq_ok, idRead_eq_ok, pure_eq_ok]
    constructor
    · rintro ⟨_, ⟨rfl, himpl⟩, _, ⟨rfl, hpart⟩, heq⟩
      obtain ⟨hman, hflags⟩ := hrest.1 heq
      exact ⟨ha, hman, hflags, himpl, hpart⟩
    · intro hc
      exact ⟨_, ⟨rfl, hc.implementer⟩, _, ⟨rfl, hc.part⟩, hrest.2 ⟨hc.manufacturer, hc.flags⟩⟩

/-! ### Keyed entries -/

/-- The snapshot reader writes a key into its entries as a keyed list takes a value. -/
theorem insertKey_eq_put {α : Type} (kvs : List (String × α)) (k : String) (v : α) :
    insertKey kvs k v = Keyed.put kvs k v := by
  unfold insertKey Keyed.put
  split
  · congr 1
    funext p
    by_cases h : p.1 = k <;> simp [h]
  · rfl

/-- Entries put into a keyed list one by one: where their keys are new and distinct, they are
appended. -/
theorem foldl_insertKey_of_nodup {α : Type} (kvs : List (String × α)) :
    ∀ acc : List (String × α), (acc.map Prod.fst ++ kvs.map Prod.fst).Nodup →
      kvs.foldl (fun acc p => insertKey acc p.1 p.2) acc = acc ++ kvs := by
  induction kvs with
  | nil => simp
  | cons p kvs ih =>
    intro acc hnodup
    have fresh : p.1 ∉ acc.map Prod.fst := fun hp =>
      (List.nodup_append.1 hnodup).2.2 _ hp _ List.mem_cons_self rfl
    have rest : ((acc ++ [p]).map Prod.fst ++ kvs.map Prod.fst).Nodup := by
      simpa using hnodup
    rw [List.foldl_cons, insertKey_eq_put, Keyed.put_of_not_mem fresh, ih _ rest,
      List.append_assoc, List.singleton_append]

/-- Entries put into a keyed list one by one hold each key once. -/
theorem nodup_foldl_insertKey {α : Type} (kvs : List (String × α)) :
    ∀ acc : List (String × α), (acc.map Prod.fst).Nodup →
      ((kvs.foldl (fun acc p => insertKey acc p.1 p.2) acc).map Prod.fst).Nodup := by
  induction kvs with
  | nil => simp
  | cons p kvs ih =>
    intro acc hnodup
    rw [List.foldl_cons, insertKey_eq_put]
    exact ih _ (Keyed.nodup_keys_put hnodup p.1 p.2)

/-- **Entries read back one by one are the entries written** exactly when their keys are
distinct. -/
theorem foldl_insertKey_eq_self_iff {α : Type} (kvs : List (String × α)) :
    kvs.foldl (fun acc p => insertKey acc p.1 p.2) [] = kvs ↔ (kvs.map Prod.fst).Nodup := by
  constructor
  · intro h
    simpa [h] using nodup_foldl_insertKey kvs [] List.nodup_nil
  · intro h
    simpa using foldl_insertKey_of_nodup kvs [] (by simpa using h)

theorem exceptMap_bind {ε α β γ : Type} (f : α → β) (x : Except ε α) (g : β → Except ε γ) :
    (x.map f >>= g) = x >>= fun a => g (f a) := by
  cases x <;> rfl

/-- A fold over written items, each step of which reads back what one item gives, reads back
the fold of what they give. -/
theorem foldlM_map_eq_ok {ε α β γ : Type} {f : β → γ → Except ε β} (g : β → α → β)
    {e : α → γ} (h : ∀ acc a, f acc (e a) = .ok (g acc a)) (xs : List α) (init : β) :
    (xs.map e).foldlM f init = .ok (xs.foldl g init) := by
  induction xs generalizing init with
  | nil => rfl
  | cons x xs ih => simp [List.foldlM_cons, h, ih]

/-! ### PCI devices -/

/-- A PCI device its document gives back: ids that are not negative, names that are not null,
and each property key once. -/
structure PciDevice.Canonical (d : PciDevice) : Prop where
  bus : 0 ≤ d.bus
  deviceClass : 0 ≤ d.deviceClass
  vendor : 0 ≤ d.vendor
  device : 0 ≤ d.device
  programmingInterface : ∀ n ∈ d.programmingInterface, 0 ≤ n
  subvendor : ∀ n ∈ d.subvendor, 0 ≤ n
  subdevice : ∀ n ∈ d.subdevice, 0 ≤ n
  vendorName : d.vendorName ≠ some .null
  deviceName : d.deviceName ≠ some .null
  subvendorName : d.subvendorName ≠ some .null
  subdeviceName : d.subdeviceName ≠ some .null
  properties : (d.properties.map Prod.fst).Nodup

/-- **Reading a written PCI device**: the ids must not be negative; a null name is read as
none, and properties written under one key twice as one. -/
theorem PciDevice.parse_toValue (d : PciDevice) :
    PciDevice.parse d.toValue = (do
      let bus ← idRead "bus-number" 2 (some d.bus)
      let deviceClass ← idRead "device-class" 4 (some d.deviceClass)
      let vendor ← idRead "vendor-id" 4 (some d.vendor)
      let device ← idRead "device-id" 4 (some d.device)
      let programmingInterface ← idRead "programming-interface" 2 d.programmingInterface
      let subvendor ← idRead "subvendor-id" 4 d.subvendor
      let subdevice ← idRead "subdevice-id" 4 d.subdevice
      pure { d with bus := bus.getD 0, deviceClass := deviceClass.getD 0,
                    vendor := vendor.getD 0, device := device.getD 0, programmingInterface,
                    subvendor, subdevice,
                    vendorName := unlessNull (d.vendorName.getD .null),
                    deviceName := unlessNull (d.deviceName.getD .null),
                    subvendorName := unlessNull (d.subvendorName.getD .null),
                    subdeviceName := unlessNull (d.subdeviceName.getD .null),
                    properties := d.properties.foldl (fun acc p => insertKey acc p.1 p.2) [] }) := by
  have hslot : d.toValue.get? "slot" = some (.str d.slot) := by simp [PciDevice.toValue]
  have hbus : hexOrNone d.toValue "bus-number" = idRead "bus-number" 2 (some d.bus) :=
    hexOrNone_written (by simp [PciDevice.toValue])
  have hclass : hexOrNone d.toValue "device-class" = idRead "device-class" 4 (some d.deviceClass) :=
    hexOrNone_written (by simp [PciDevice.toValue])
  have hvendor : hexOrNone d.toValue "vendor-id" = idRead "vendor-id" 4 (some d.vendor) :=
    hexOrNone_written (by simp [PciDevice.toValue])
  have hdevice : hexOrNone d.toValue "device-id" = idRead "device-id" 4 (some d.device) :=
    hexOrNone_written (by simp [PciDevice.toValue])
  have hif : hexOrNone d.toValue "programming-interface" =
      idRead "programming-interface" 2 d.programmingInterface :=
    hexOrNone_written (by simp [PciDevice.toValue])
  have hsubvendor : hexOrNone d.toValue "subvendor-id" = idRead "subvendor-id" 4 d.subvendor :=
    hexOrNone_written (by simp [PciDevice.toValue])
  have hsubdevice : hexOrNone d.toValue "subdevice-id" = idRead "subdevice-id" 4 d.subdevice :=
    hexOrNone_written (by simp [PciDevice.toValue])
  have hvname : d.toValue.getD "vendor-name" = d.vendorName.getD .null := by
    simp [PciDevice.toValue]
  have hdname : d.toValue.getD "device-name" = d.deviceName.getD .null := by
    simp [PciDevice.toValue]
  have hsvname : d.toValue.getD "subvendor-name" = d.subvendorName.getD .null := by
    simp [PciDevice.toValue]
  have hsdname : d.toValue.getD "subdevice-name" = d.subdeviceName.getD .null := by
    simp [PciDevice.toValue]
  -- the properties are written as a mapping only when there are some
  have hprops : d.toValue.getD "additional-properties" =
      if d.properties = [] then .null
      else Value.obj (d.properties.map fun p => (p.1, .str p.2)) := by
    by_cases h : d.properties = [] <;> simp [PciDevice.toValue, h]
  obtain ⟨kvs, hview⟩ : ∃ kvs, d.toValue.view = .dict kvs := ⟨_, Value.view_obj⟩
  unfold PciDevice.parse
  simp only [hview, hslot, hbus, hclass, hvendor, hdevice, hif, hsubvendor, hsubdevice, hvname,
    hdname, hsvname, hsdname, hprops, plainOf_str, hexOrZero, exceptMap_bind]
  by_cases hp : d.properties = []
  · simp only [hp, if_true, Value.truthy, Bool.not_false, pure_bind, ok_bind, List.foldlM_nil,
      List.foldl_nil]
    rfl
  · have htruthy : (Value.obj (d.properties.map fun p => (p.1, Value.str p.2))).truthy = true := by
      simp [Value.obj, Value.truthy, hp]
    simp only [hp, if_false, htruthy, Bool.not_true, Bool.false_eq_true, Value.view_obj,
      pure_bind, ok_bind, List.map_map]
    rw [foldlM_map_eq_ok (fun acc (p : String × String) => insertKey acc p.1 p.2) ?_]
    · rfl
    · intro acc p
      simp [plainOf_str]

/-- **A PCI device is read back as it was written** exactly when it is canonical. -/
theorem PciDevice.parse_toValue_eq_ok_iff (d : PciDevice) :
    PciDevice.parse d.toValue = .ok d ↔ d.Canonical := by
  -- the ids come back exactly when they are not negative, the rest when it is unchanged
  have hrest :
      ({ d with vendorName := unlessNull (d.vendorName.getD .null),
                deviceName := unlessNull (d.deviceName.getD .null),
                subvendorName := unlessNull (d.subvendorName.getD .null),
                subdeviceName := unlessNull (d.subdeviceName.getD .null),
                properties := d.properties.foldl (fun acc p => insertKey acc p.1 p.2) [] } :
          PciDevice) = d ↔
        d.vendorName ≠ some .null ∧ d.deviceName ≠ some .null ∧
          d.subvendorName ≠ some .null ∧ d.subdeviceName ≠ some .null ∧
          (d.properties.map Prod.fst).Nodup := by
    obtain ⟨slot, bus, cls, vendor, device, pif, sv, sd, vn, dn, svn, sdn, props⟩ := d
    simp [unlessNull_getD_eq_self, foldl_insertKey_eq_self_iff]
  rw [PciDevice.parse_toValue]
  simp only [bind_eq_ok, idRead_eq_ok, pure_eq_ok]
  constructor
  · rintro ⟨_, ⟨rfl, hbus⟩, _, ⟨rfl, hclass⟩, _, ⟨rfl, hvendor⟩, _, ⟨rfl, hdevice⟩, _,
      ⟨rfl, hif⟩, _, ⟨rfl, hsv⟩, _, ⟨rfl, hsd⟩, heq⟩
    obtain ⟨hvn, hdn, hsvn, hsdn, hprops⟩ := hrest.1 heq
    exact ⟨hbus _ rfl, hclass _ rfl, hvendor _ rfl, hdevice _ rfl, hif, hsv, hsd, hvn, hdn, hsvn,
      hsdn, hprops⟩
  · intro hc
    have hreq : ∀ n : Int, 0 ≤ n → ∀ m ∈ some n, 0 ≤ m := by
      intro n hn m hm
      obtain rfl := Option.mem_some_iff.1 hm
      exact hn
    exact ⟨_, ⟨rfl, hreq _ hc.bus⟩, _, ⟨rfl, hreq _ hc.deviceClass⟩, _, ⟨rfl, hreq _ hc.vendor⟩,
      _, ⟨rfl, hreq _ hc.device⟩, _, ⟨rfl, hc.programmingInterface⟩, _, ⟨rfl, hc.subvendor⟩, _,
      ⟨rfl, hc.subdevice⟩,
      hrest.2 ⟨hc.vendorName, hc.deviceName, hc.subvendorName, hc.subdeviceName, hc.properties⟩⟩

/-! ### Snapshots -/

@[simp] theorem Value.view_list (l : List Value) : (Value.list l).view = .list l := rfl

@[simp] theorem Value.view_null : Value.null.view = .null := rfl

@[simp] theorem Value.view_dict (kvs : List (Value × Value)) : (Value.dict kvs).view = .dict kvs :=
  rfl

/-- The space of a directory is read back from its document. -/
theorem diskEntry_written (path : String) (d : DiskSpace) :
    diskEntry (.str path) (Value.obj [("total", .int d.total), ("avail", .int d.avail)]) = .ok d := by
  have htotal : ¬ ((d.total : Int) < 0) := by omega
  have havail : ¬ ((d.avail : Int) < 0) := by omega
  simp [diskEntry, natField, htotal, havail]

/-- **Reading a written snapshot**: each CPU and device as it reads back, and the disk entries
one by one, a path written twice as one. -/
theorem Snapshot.parse_toValue (s : Snapshot) :
    Snapshot.parse s.toValue = (do
      let cpus ← s.cpus.mapM fun c => Cpu.parse c.toValue
      let pci ← s.pci.mapM fun d => PciDevice.parse d.toValue
      pure { cpus, pci, memory := s.memory,
             disk := s.disk.foldl (fun acc p => insertKey acc p.1 p.2) [] }) := by
  have htruthy : s.toValue.truthy = true := by simp [Snapshot.toValue, Value.obj, Value.truthy]
  obtain ⟨kvs, hview⟩ : ∃ kvs, s.toValue.view = .dict kvs := ⟨_, Value.view_obj⟩
  have hcpus : s.toValue.getD "cpus" = .list (s.cpus.map Cpu.toValue) := by simp [Snapshot.toValue]
  have hpci : s.toValue.getD "pci" = .list (s.pci.map PciDevice.toValue) := by
    simp [Snapshot.toValue]
  have hmemory : s.toValue.getD "memory" =
      Value.obj [("total-ram", .int s.memory.ram), ("total-swap", .int s.memory.swap)] := by
    simp [Snapshot.toValue]
  have hdisk : s.toValue.getD "disk" = Value.obj (s.disk.map fun p =>
      (p.1, Value.obj [("total", .int p.2.total), ("avail", .int p.2.avail)])) := by
    simp [Snapshot.toValue]
  have hram : ¬ ((s.memory.ram : Int) < 0) := by omega
  have hswap : ¬ ((s.memory.swap : Int) < 0) := by omega
  have hlist : ∀ l : List Value, (Value.list l).truthy = !l.isEmpty := fun _ => rfl
  have hobj : ∀ kvs : List (String × Value), (Value.obj kvs).truthy = !kvs.isEmpty := by
    intro kvs
    simp [Value.obj, Value.truthy]
  unfold Snapshot.parse
  simp only [htruthy, if_true, hview, hcpus, hpci, hmemory, hdisk, hlist, hobj]
  -- each list is written only when it is not empty, and read back as empty when it is not
  by_cases hc : s.cpus = [] <;> by_cases hp : s.pci = [] <;> by_cases hd : s.disk = [] <;>
    simp [hc, hp, hd, natField, hram, hswap, Value.get?, Value.lookup, Value.keySame,
      Function.comp_def]
  -- what is left are the disk entries, read back one by one
  all_goals
    rw [foldlM_map_eq_ok (fun acc (p : String × DiskSpace) => insertKey acc p.1 p.2) ?_]
    · rfl
    · intro acc p
      simp [diskEntry_written, plainOf_str]

/-- Items read one by one give back the list exactly when each gives back itself. -/
theorem mapM_eq_ok_self_iff {ε α : Type} {f : α → Except ε α} {xs : List α} :
    xs.mapM f = .ok xs ↔ ∀ x ∈ xs, f x = .ok x := by
  induction xs with
  | nil => exact ⟨fun _ x hx => absurd hx List.not_mem_nil, fun _ => rfl⟩
  | cons x xs ih =>
    simp only [List.mapM_cons, bind_eq_ok, pure_eq_ok, List.forall_mem_cons, ← ih]
    constructor
    · rintro ⟨y, hy, ys, hys, heq⟩
      obtain ⟨rfl, rfl⟩ := List.cons.inj heq
      exact ⟨hy, hys⟩
    · rintro ⟨hx, hxs⟩
      exact ⟨x, hx, xs, hxs, rfl⟩

/-- A snapshot its document gives back: canonical CPUs and PCI devices, and each disk path
once. -/
structure Snapshot.Canonical (s : Snapshot) : Prop where
  cpus : ∀ c ∈ s.cpus, c.Canonical
  pci : ∀ d ∈ s.pci, d.Canonical
  disk : (s.disk.map Prod.fst).Nodup

/-- **A snapshot is read back as it was written** exactly when it is canonical: every CPU names
its architecture, has a manufacturer that is not null, lower-case flags and ids that are not
negative; every PCI device has ids that are not negative, names that are not null and each
property key once; and each disk path is written once. -/
theorem Snapshot.parse_toValue_iff_canonical (s : Snapshot) :
    Snapshot.parse s.toValue = .ok s ↔ s.Canonical := by
  rw [Snapshot.parse_toValue]
  obtain ⟨cpus, pci, memory, disk⟩ := s
  simp only [bind_eq_ok, pure_eq_ok, Snapshot.mk.injEq, true_and]
  constructor
  · rintro ⟨_, hcpus, _, hpci, rfl, rfl, hdisk⟩
    refine ⟨fun c hc => ?_, fun d hd => ?_, (foldl_insertKey_eq_self_iff disk).1 hdisk⟩
    · exact (Cpu.parse_toValue_eq_ok_iff c).1 (mapM_eq_ok_self_iff.1 hcpus c hc)
    · exact (PciDevice.parse_toValue_eq_ok_iff d).1 (mapM_eq_ok_self_iff.1 hpci d hd)
  · rintro ⟨hcpus, hpci, hdisk⟩
    refine ⟨cpus, mapM_eq_ok_self_iff.2 fun c hc => ?_, pci, mapM_eq_ok_self_iff.2 fun d hd => ?_,
      rfl, rfl, (foldl_insertKey_eq_self_iff disk).2 hdisk⟩
    · exact (Cpu.parse_toValue_eq_ok_iff c).2 (hcpus c hc)
    · exact (PciDevice.parse_toValue_eq_ok_iff d).2 (hpci d hd)

/-- An arm64 processor block whose implementer reads "-0x41" gives a CPU with a negative id, so
a snapshot of it is not canonical: its id is written "0x-41", which is not read back. -/
theorem negative_implementer_not_read_back :
    let cpu := CpuTable.cpuOf "arm64"
      ((CpuTable.blocks "processor : 0\nCPU implementer : -0x41\n").headD [])
    cpu.implementer = some (-0x41) ∧ hexText 2 (-0x41) = "0x-41" ∧
      (Snapshot.parse ({ cpus := [cpu] } : Snapshot).toValue).toBool = false := by
  decide +kernel

end EngineFit
