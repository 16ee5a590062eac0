import Mathlib
import EngineFit.Proofs.WrittenFields

/-!
# Writing a manifest and reading it back

`Manifest.toValue` writes a manifest as a document, each field in a form its reader takes back
(`EngineFit.Proofs.WrittenFields`), a USB requirement's other fields as they were written. This
module proves that reading the document of a manifest the reader returned gives that manifest
back (`Manifest.parse_toValue_roundTrip`), and likewise for a single requirement.

The proof has two halves. What the reader returns is *canonical*: its texts are set, the text
of each size reads as its number of bytes, a compute capability is kept in a form that reads
again, configuration keys are distinct, a USB requirement keeps only fields its kind may set
(`Manifest.parse_canonical`). And every canonical manifest is read back from its document
(`Manifest.parse_toValue_of_canonical`).

Two things are assumed. A mapping holds each key once, as every decoded document does; a USB
requirement copies its fields, so a key written twice could turn an unset field into a set one.
And the flags of an x86-64 requirement are read in lower case, so reading them again must leave
them as they are.
-/

namespace EngineFit

/-! ### Requirements read back -/

/-- A requirement as the reader returns it: an x86-64 manufacturer is not the empty text, a
compute capability reads again, a PCI requirement is of no CPU or GPU kind, and a USB
requirement keeps, each under its own key, set fields its kind allows besides `type` and
`bus`. -/
def Requirement.Canonical : Requirement → Prop
  | .amd64 r => r.manufacturer ≠ some ""
  | .arm64 _ => True
  | .gpu r => ∀ c ∈ r.capability, ∃ cap, parseCapability (.str c) = .ok cap
  | .pci r => r.kind ≠ some .cpu ∧ r.kind ≠ some .gpu
  | .usb r => r.kind ≠ some .cpu ∧ (r.fields.map Prod.fst).Nodup ∧
      ∀ p ∈ r.fields, p.1 ≠ "type" ∧ p.1 ≠ "bus" ∧ p.2.isSet = true ∧
        p.1 ∈ (if r.kind = some .gpu then gpuFields else busFields)

/-- The flags of an x86-64 requirement are their own lower case. -/
def Requirement.LowerFlags : Requirement → Prop
  | .amd64 r => ∀ f ∈ r.flags, Text.lower f = f
  | _ => True

theorem parse_toValue_amd64 {n : Amd64Need} (hm : n.manufacturer ≠ some "")
    (hl : ∀ f ∈ n.flags, Text.lower f = f) :
    Requirement.parse (Requirement.toValue (.amd64 n)) = .ok (.amd64 n) := by
  set d := Requirement.toValue (.amd64 n) with hd
  obtain ⟨keys, fields⟩ : checkDeviceKeys d = .ok () ∧
      ∀ label, checkFields d amd64Fields label = .ok () := by
    refine checks_obj (by decide) ?_
    simp only [List.forall_mem_append, List.forall_mem_cons, forall_mem_optEntry,
      forall_mem_listEntry]
    simp [amd64Fields]
  have htype : d.getD "type" = .str "cpu" := by simp [hd, Requirement.toValue]
  have harch : d.getD "architecture" = .str "amd64" := by simp [hd, Requirement.toValue]
  have hman : manufacturerField (d.getD "manufacturer-id") = .ok n.manufacturer := by
    have written : d.getD "manufacturer-id" = (n.manufacturer.map .str).getD .null := by
      simp [hd, Requirement.toValue]
    rw [written]
    cases h : n.manufacturer with
    | none => rfl
    | some m =>
      have : m ≠ "" := fun he => hm (he ▸ h)
      simp [manufacturerField, this]
  have hflags : d.getD "flags" = if n.flags = [] then .null else .list (n.flags.map .str) := by
    simp [hd, Requirement.toValue]
  have hlow : n.flags.map Text.lower = n.flags := (List.map_congr_left hl).trans (List.map_id' _)
  rw [Requirement.parse, keys, ok_bind]
  simp [htype, declaredKind, DeviceKind.ofName?, parseCpu, Value.truthy, Value.isSet, harch,
    fields, hman, hflags, textList_entry, hlow]

theorem parse_toValue_arm64 (n : Arm64Need) :
    Requirement.parse (Requirement.toValue (.arm64 n)) = .ok (.arm64 n) := by
  set d := Requirement.toValue (.arm64 n) with hd
  obtain ⟨keys, fields⟩ : checkDeviceKeys d = .ok () ∧
      ∀ label, checkFields d arm64Fields label = .ok () := by
    refine checks_obj (by decide) ?_
    simp only [List.forall_mem_append, List.forall_mem_cons, forall_mem_optEntry,
      forall_mem_listEntry]
    simp [arm64Fields]
  have htype : d.getD "type" = .str "cpu" := by simp [hd, Requirement.toValue]
  have harch : d.getD "architecture" = .str "arm64" := by simp [hd, Requirement.toValue]
  have himpl : hexField d "implementer-id" = .ok n.implementer :=
    hexField_of_getD (by simp [hd, Requirement.toValue])
  have hpart : hexField d "part-number" = .ok n.part :=
    hexField_of_getD (by simp [hd, Requirement.toValue])
  have hfeat : d.getD "features" =
      if n.features = [] then .null else .list (n.features.map .str) := by
    simp [hd, Requirement.toValue]
  rw [Requirement.parse, keys, ok_bind]
  simp [htype, declaredKind, DeviceKind.ofName?, parseCpu, Value.truthy, Value.isSet, harch,
    fields, himpl, hpart, hfeat, textList_entry]

theorem parse_toValue_gpu {n : GpuNeed}
    (hc : ∀ c ∈ n.capability, ∃ cap, parseCapability (.str c) = .ok cap) :
    Requirement.parse (Requirement.toValue (.gpu n)) = .ok (.gpu n) := by
  set d := Requirement.toValue (.gpu n) with hd
  obtain ⟨keys, fields⟩ : checkDeviceKeys d = .ok () ∧
      ∀ label, checkFields d gpuFields label = .ok () := by
    refine checks_obj (by decide) ?_
    simp only [List.forall_mem_append, List.forall_mem_cons, forall_mem_optEntry,
      forall_mem_listEntry]
    simp [gpuFields, busFields]
  have htype : d.getD "type" = .str "gpu" := by simp [hd, Requirement.toValue]
  have hbus : d.getD "bus" = .str "pci" := by simp [hd, Requirement.toValue]
  have hvendor : hexField d "vendor-id" = .ok n.vendor :=
    hexField_of_getD (by simp [hd, Requirement.toValue])
  have hdevice : hexField d "device-id" = .ok n.device :=
    hexField_of_getD (by simp [hd, Requirement.toValue])
  have hvram : vramField (d.getD "vram") = .ok n.vram := by
    have written : d.getD "vram" = (n.vram.map fun b => Value.int b).getD .null := by
      simp [hd, Requirement.toValue]
    rw [written]
    cases n.vram with
    | none => rfl
    | some b => exact optionalField_of_ok (by simp) (by simp [parseSize])
  have hcap : capabilityField (d.getD "compute-capability") = .ok n.capability := by
    have written : d.getD "compute-capability" = (n.capability.map .str).getD .null := by
      simp [hd, Requirement.toValue]
    rw [written]
    cases h : n.capability with
    | none => rfl
    | some c =>
      obtain ⟨cap, hread⟩ := hc c (by simp [h])
      exact optionalField_of_ok (by simp) hread
  have hconn : d.getD "snap-connections" =
      if n.connections = [] then .null else .list (n.connections.map .str) := by
    simp [hd, Requirement.toValue]
  rw [Requirement.parse, keys, ok_bind]
  simp [htype, declaredKind, DeviceKind.ofName?, parseBusDevice, DeviceKind.name, declaredBus,
    Value.truthy, hbus, fields, hvendor, hdevice, hconn, textList_entry, hvram, hcap]

theorem parse_toValue_pci {n : PciNeed} (hcpu : n.kind ≠ some .cpu) (hgpu : n.kind ≠ some .gpu) :
    Requirement.parse (Requirement.toValue (.pci n)) = .ok (.pci n) := by
  set d := Requirement.toValue (.pci n) with hd
  obtain ⟨keys, fields⟩ : checkDeviceKeys d = .ok () ∧
      ∀ label, checkFields d busFields label = .ok () := by
    refine checks_obj (by decide) ?_
    simp only [List.forall_mem_append, List.forall_mem_cons, forall_mem_optEntry,
      forall_mem_listEntry]
    simp [busFields]
  have hkind : declaredKind (d.getD "type") = .ok n.kind := by
    have written : d.getD "type" = (n.kind.map fun k => Value.str k.name).getD .null := by
      simp [hd, Requirement.toValue]
    rw [written]
    exact declaredKind_name n.kind
  have hbus : d.getD "bus" = .str "pci" := by simp [hd, Requirement.toValue]
  have hvendor : hexField d "vendor-id" = .ok n.vendor :=
    hexField_of_getD (by simp [hd, Requirement.toValue])
  have hdevice : hexField d "device-id" = .ok n.device :=
    hexField_of_getD (by simp [hd, Requirement.toValue])
  have hconn : d.getD "snap-connections" =
      if n.connections = [] then .null else .list (n.connections.map .str) := by
    simp [hd, Requirement.toValue]
  rw [Requirement.parse, keys, ok_bind, hkind, ok_bind]
  simp [hcpu, hgpu, parseBusDevice, declaredBus, Value.truthy, hbus, fields, hvendor, hdevice,
    hconn, textList_entry]

theorem parse_toValue_usb {n : UsbNeed} (hc : (Requirement.usb n).Canonical) :
    Requirement.parse (Requirement.toValue (.usb n)) = .ok (.usb n) := by
  obtain ⟨hcpu, -, hf⟩ := hc
  set d := Requirement.toValue (.usb n) with hd
  set legal := if n.kind = some .gpu then gpuFields else busFields with hlegal
  -- the written `type` and `bus` are allowed on every bus device, the copied fields by `hf`
  have base : "type" ∈ legal ∧ "bus" ∈ legal := by
    rw [hlegal]
    split <;> decide
  obtain ⟨keys, fields⟩ : checkDeviceKeys d = .ok () ∧
      ∀ label, checkFields d legal label = .ok () := by
    refine checks_obj (by rw [hlegal]; split <;> decide) ?_
    simp only [List.forall_mem_append, List.forall_mem_cons, forall_mem_optEntry]
    exact ⟨⟨fun _ _ => base.1, base.2, by simp⟩, fun p hp => (hf p hp).2.2.2⟩
  have hkind : declaredKind (d.getD "type") = .ok n.kind := by
    have unset : (Value.obj n.fields).getD "type" = .null :=
      Value.getD_obj_of_forall_ne fun p hp => (hf p hp).1
    have written : d.getD "type" = (n.kind.map fun k => Value.str k.name).getD .null := by
      simp [hd, Requirement.toValue, unset]
    rw [written]
    exact declaredKind_name n.kind
  have hbus : d.getD "bus" = .str "usb" := by simp [hd, Requirement.toValue]
  -- reading keeps the set fields besides `type` and `bus`: exactly the copied ones
  have kept : usbFields d = n.fields := by
    have all : n.fields.filter (fun p => p.1 != "type" && p.1 != "bus" && p.2.isSet) =
        n.fields :=
      List.filter_eq_self.2 fun p hp => by simp [(hf p hp).1, (hf p hp).2.1, (hf p hp).2.2.1]
    rw [hd, Requirement.toValue, usbFields_obj, List.filter_append, all]
    cases n.kind <;> simp [optEntry]
  rw [Requirement.parse, keys, ok_bind, hkind, ok_bind]
  simp [hcpu, parseBusDevice, declaredBus, Value.truthy, hbus, ← hlegal, fields, kept]
  rfl

/-- **Every canonical requirement is read back from its document**, once its flags are their
own lower case. -/
theorem Requirement.parse_toValue_of_canonical {r : Requirement} (hc : r.Canonical)
    (hl : r.LowerFlags) : Requirement.parse r.toValue = .ok r := by
  cases r with
  | amd64 n => exact parse_toValue_amd64 hc hl
  | arm64 n => exact parse_toValue_arm64 n
  | gpu n => exact parse_toValue_gpu hc
  | pci n => exact parse_toValue_pci hc.1 hc.2
  | usb n => exact parse_toValue_usb hc

/-! ### What the requirement reader returns -/

theorem manufacturerField_ne_empty {v : Value} {m : Option String}
    (h : manufacturerField v = .ok m) : m ≠ some "" := by
  unfold manufacturerField at h
  split at h
  · cases h
    simp
  · cases h
    split <;> simp_all
  · cases h

theorem parseCpu_canonical {doc : Value} {r : Requirement} (h : parseCpu doc = .ok r) :
    r.Canonical := by
  unfold parseCpu at h
  dsimp only at h
  split at h
  · cases h
  · split at h
    · simp only [bind_eq_ok] at h
      obtain ⟨_, -, m, hm, _, -, h⟩ := h
      cases h
      exact manufacturerField_ne_empty hm
    · simp only [bind_eq_ok] at h
      obtain ⟨_, -, _, -, _, -, _, -, h⟩ := h
      cases h
      trivial
    · cases h

/-- A mapping that holds each key once, as every decoded mapping does. -/
def KeysOnce (doc : Value) : Prop :=
  ∀ kvs, doc.view = .dict kvs → (kvs.map Prod.fst).Pairwise fun a b => a.keySame b = false

theorem keySame_str {a b : String} : (Value.str a).keySame (.str b) = (a == b) := by
  simp [Value.keySame]

/-- In a mapping that holds each key once, the entry under a text key is the one written
there. -/
theorem lookup_str_of_pairwise {kvs : List (Value × Value)} {f : String} {v : Value}
    (hp : (kvs.map Prod.fst).Pairwise fun a b => a.keySame b = false)
    (hmem : (.str f, v) ∈ kvs) : Value.lookup kvs (.str f) = some v := by
  induction kvs with
  | nil => cases hmem
  | cons q kvs ih =>
    rw [List.map_cons, List.pairwise_cons] at hp
    rcases List.mem_cons.1 hmem with rfl | hmem
    · simp [Value.lookup, keySame_str]
    · have first : q.1.keySame (.str f) = false := hp.1 _ (List.mem_map_of_mem hmem)
      simpa [Value.lookup, List.find?_cons, first] using ih hp.2 hmem

theorem getD_of_keysOnce {doc : Value} {kvs : List (Value × Value)} {f : String} {v : Value}
    (honce : KeysOnce doc) (hv : doc.view = .dict kvs) (hmem : (.str f, v) ∈ kvs) :
    doc.getD f = v := by
  simp [Value.getD, Value.get?, hv, lookup_str_of_pairwise (honce kvs hv) hmem]

theorem mem_usbFields {doc : Value} {kvs : List (Value × Value)} (hv : doc.view = .dict kvs)
    {p : String × Value} (hp : p ∈ usbFields doc) :
    (.str p.1, p.2) ∈ kvs ∧ p.1 ≠ "type" ∧ p.1 ≠ "bus" ∧ p.2.isSet = true := by
  simp only [usbFields, hv, List.mem_filterMap] at hp
  obtain ⟨⟨k, v⟩, hmem, hkeep⟩ := hp
  cases k with
  | str key =>
    by_cases hk : (key != "type" && key != "bus" && v.isSet) = true
    · simp only [hk, if_true, Option.some.injEq] at hkeep
      subst hkeep
      simp only [Bool.and_eq_true, bne_iff_ne] at hk
      exact ⟨hmem, hk.1.1, hk.1.2, hk.2⟩
    · simp [hk] at hkeep
  | _ => cases hkeep

/-- The fields a USB requirement keeps are under distinct keys when the document's are. -/
theorem usbFields_nodup {doc : Value} (honce : KeysOnce doc) :
    ((usbFields doc).map Prod.fst).Nodup := by
  unfold usbFields
  split
  · rename_i kvs hv
    have hp := List.pairwise_map.1 (honce kvs hv)
    refine List.pairwise_map.2 (hp.filterMap _ ?_)
    rintro ⟨k, v⟩ ⟨k', v'⟩ hne ⟨f, w⟩ hf ⟨f', w'⟩ hf'
    cases k <;> cases k' <;> simp at hf hf'
    obtain ⟨-, rfl, rfl⟩ := hf
    obtain ⟨-, rfl, rfl⟩ := hf'
    simpa [keySame_str] using hne
  · exact List.nodup_nil

theorem capabilityField_reads {v : Value} {c : Option String} (h : capabilityField v = .ok c) :
    ∀ t ∈ c, ∃ cap, parseCapability (.str t) = .ok cap := by
  unfold capabilityField optionalField at h
  split at h
  · cases h
    simp
  · split at h
    · rename_i cap hread
      cases h
      rintro t ⟨⟩
      exact ⟨cap, parseCapability_plain hread⟩
    · cases h

theorem parseBusDevice_canonical {doc : Value} {kind : Option DeviceKind}
    {kvs : List (Value × Value)} {r : Requirement} (hcpu : kind ≠ some .cpu)
    (hv : doc.view = .dict kvs) (hkeys : ∀ p ∈ kvs, ∃ f ∈ deviceFields, p.1 = .str f)
    (honce : KeysOnce doc) (h : parseBusDevice doc kind = .ok r) : r.Canonical := by
  unfold parseBusDevice at h
  dsimp only at h
  simp only [bind_eq_ok] at h
  obtain ⟨bus, -, _, hfields, h⟩ := h
  cases bus with
  | usb =>
    cases h
    refine ⟨hcpu, usbFields_nodup honce, fun p hp => ?_⟩
    obtain ⟨hmem, htype, hbus, hset⟩ := mem_usbFields hv hp
    obtain ⟨f, hf, hkey⟩ := hkeys _ hmem
    cases hkey
    have within := checkFields_ok_iff.1 ⟨_, hfields⟩
    refine ⟨htype, hbus, hset, ?_⟩
    have legal := within p.1 hf (by rw [getD_of_keysOnce honce hv hmem]; exact hset)
    simpa using legal
  | pci =>
    simp only [bind_eq_ok] at h
    obtain ⟨_, -, _, -, _, -, h⟩ := h
    split at h
    · rename_i hgpu
      cases h
      exact ⟨hcpu, by simpa using hgpu⟩
    · simp only [bind_eq_ok] at h
      obtain ⟨_, -, c, hc, h⟩ := h
      cases h
      exact capabilityField_reads hc

/-- **What the requirement reader returns is canonical**, for a document that holds each key
once. -/
theorem Requirement.parse_canonical {doc : Value} {r : Requirement}
    (h : Requirement.parse doc = .ok r) (honce : KeysOnce doc) : r.Canonical := by
  obtain ⟨_, hkeys, h⟩ := bind_eq_ok.1 h
  obtain ⟨kind, -, h⟩ := bind_eq_ok.1 h
  split at h
  · exact parseCpu_canonical h
  · rename_i hcpu
    obtain ⟨kvs, hv, hmem⟩ := (checkKeys_ok_iff fun _ => isDeviceField_iff).1 ⟨_, hkeys⟩
    exact parseBusDevice_canonical (by simpa using hcpu) hv hmem honce h

/-! ### Manifests read back -/

/-- A manifest as the reader returns it: its texts are set, the text of each size reads as its
number of bytes, its configurations hold booleans, numbers and texts under distinct keys, and
each of its requirements is canonical. -/
structure Manifest.Canonical (m : Manifest) : Prop where
  name : m.name ≠ ""
  description : m.description ≠ ""
  vendor : m.vendor ≠ ""
  memory : ∀ s ∈ m.memory, parseSize (.str s.text) = .ok s.bytes
  disk_space : ∀ s ∈ m.diskSpace, parseSize (.str s.text) = .ok s.bytes
  configuration_keys : (m.configurations.map Prod.fst).Nodup
  configuration_values : ∀ p ∈ m.configurations, isPrimitive p.2 = true
  requirements : ∀ r ∈ m.allOf ++ m.anyOf, r.Canonical

/-- **Every canonical manifest is read back from its document**, once the flags of its
requirements are their own lower case. -/
theorem Manifest.parse_toValue_of_canonical {m : Manifest} (hc : m.Canonical)
    (hl : ∀ r ∈ m.allOf ++ m.anyOf, r.LowerFlags) : Manifest.parse m.toValue = .ok m := by
  set d := m.toValue with hd
  have keys : checkManifestKeys d = .ok () := by
    have among : KeysAmong d manifestFields := by
      apply keysAmong_obj
      simp only [List.forall_mem_append, List.forall_mem_cons, forall_mem_optEntry]
      simp [manifestFields]
    exact eq_ok_unit (checkManifestKeys_ok_iff.2 ⟨rfl, among⟩)
  have text : ∀ field s, d.getD field = .str s → s ≠ "" → requiredText d field = .ok s :=
    fun _ _ hv hs => requiredText_ok_iff.2 ⟨hv, hs⟩
  have hname := text "name" m.name (by simp [hd, Manifest.toValue]) hc.name
  have hdesc := text "description" m.description (by simp [hd, Manifest.toValue]) hc.description
  have hvendor := text "vendor" m.vendor (by simp [hd, Manifest.toValue]) hc.vendor
  have hgrade := text "grade" m.grade.name (by simp [hd, Manifest.toValue])
    (by cases m.grade <;> decide)
  have hmem : sizeField d "memory" .badMemory = .ok m.memory :=
    sizeField_of_getD (by simp [hd, Manifest.toValue]) hc.memory
  have hdisk : sizeField d "disk-space" .badDiskSpace = .ok m.diskSpace :=
    sizeField_of_getD (by simp [hd, Manifest.toValue]) hc.disk_space
  have hcomp : componentsField (d.getD "components") = .ok m.components := by
    rw [show d.getD "components" = .list (m.components.map .str) by simp [hd, Manifest.toValue]]
    exact componentsField_strs _
  have hentries : configEntries (d.getD "configurations") =
      .ok (m.configurations.map fun p => (.str p.1, p.2)) := by
    rw [show d.getD "configurations" = Value.obj m.configurations by
      simp [hd, Manifest.toValue]]
    exact configEntries_obj hc.configuration_values
  have hdevices : parseDevices (d.getD "devices") = .ok (m.allOf, m.anyOf) := by
    rw [show d.getD "devices" = m.devicesValue by simp [hd, Manifest.toValue]]
    exact parseDevices_devicesValue fun r hr =>
      Requirement.parse_toValue_of_canonical (hc.requirements r hr) (hl r hr)
  rw [Manifest.parse_eq_ok_iff]
  simp only [buildManifest, keys, hname, hdesc, hvendor, hgrade, gradeField_name, hmem, hdisk,
    hcomp, hentries, hdevices, configTexts_obj hc.configuration_keys, ok_bind]
  rfl

/-! ### What the manifest reader returns -/

/-- The items of a device group, when it is a list. -/
def groupItems (v : Value) : List Value :=
  match v.view with
  | .list xs => xs
  | _ => []

/-- The requirement documents of a manifest document: the items of its two device groups. -/
def deviceDocs (doc : Value) : List Value :=
  groupItems ((doc.getD "devices").getD "allof") ++ groupItems ((doc.getD "devices").getD "anyof")

theorem mem_of_mapM_eq_ok {ε α β : Type} {f : α → Except ε β} {xs : List α} {ys : List β}
    (h : xs.mapM f = .ok ys) {y : β} (hy : y ∈ ys) : ∃ x ∈ xs, f x = .ok y := by
  induction xs generalizing ys with
  | nil =>
    cases h
    cases hy
  | cons x xs ih =>
    simp only [List.mapM_cons, bind_eq_ok, pure_eq_ok] at h
    obtain ⟨y', hy', ys', hys', rfl⟩ := h
    rcases List.mem_cons.1 hy with rfl | hy
    · exact ⟨x, List.mem_cons_self, hy'⟩
    · obtain ⟨x', hx', hfx'⟩ := ih hys' hy
      exact ⟨x', List.mem_cons_of_mem x hx', hfx'⟩

/-- Each requirement of a group is read from one of the group's items. -/
theorem parseGroup_docs {doc : Value} {group : String} {rs : List Requirement}
    (h : parseGroup doc group = .ok rs) :
    ∀ r ∈ rs, ∃ d ∈ groupItems (doc.getD group), Requirement.parse d = .ok r := by
  intro r hr
  unfold parseGroup at h
  dsimp only at h
  cases ht : (doc.getD group).truthy with
  | false =>
    simp only [ht, Bool.not_false, if_true, pure_bind] at h
    cases h
    cases hr
  | true =>
    simp only [ht, Bool.not_true, Bool.false_eq_true, if_false] at h
    split at h
    · rename_i xs hv
      obtain ⟨⟨d, i⟩, hmem, hparse⟩ := mem_of_mapM_eq_ok h hr
      refine ⟨d, by simpa [groupItems, hv] using List.fst_mem_of_mem_zipIdx hmem, ?_⟩
      dsimp only at hparse
      split at hparse
      · rename_i r' hr'
        cases hparse
        exact hr'
      · cases hparse
    · simp only [bind_eq_ok, throw_eq_ok, false_and, exists_false] at h

theorem parseDevices_docs {v : Value} {groups : List Requirement × List Requirement}
    (h : parseDevices v = .ok groups) :
    ∀ r ∈ groups.1 ++ groups.2, ∃ d ∈ groupItems (v.getD "allof") ++ groupItems (v.getD "anyof"),
      Requirement.parse d = .ok r := by
  unfold parseDevices at h
  split at h
  · cases h
    simp
  · simp only [bind_eq_ok, pure_eq_ok] at h
    obtain ⟨_, -, allOf, hall, anyOf, hany, rfl⟩ := h
    intro r hr
    rcases List.mem_append.1 hr with hr | hr
    · obtain ⟨d, hd, hparse⟩ := parseGroup_docs hall r hr
      exact ⟨d, List.mem_append_left _ hd, hparse⟩
    · obtain ⟨d, hd, hparse⟩ := parseGroup_docs hany r hr
      exact ⟨d, List.mem_append_right _ hd, hparse⟩

/-- Sizes are read as their plain text, which reads again as their bytes. -/
theorem sizeField_reads {doc : Value} {field : String} {wrap : UnitError → ManifestProblem}
    {o : Option Size} (h : sizeField doc field wrap = .ok o) :
    ∀ s ∈ o, parseSize (.str s.text) = .ok s.bytes := by
  unfold sizeField Value.plainChecked at h
  split at h
  · cases h
    simp
  · by_cases hw : (doc.getD field).writable = true
    · simp only [hw, if_true] at h
      split at h
      · rename_i n hn
        cases h
        rintro s ⟨⟩
        exact parseSize_plain hn hw
      · cases h
    · simp only [hw, Bool.false_eq_true, if_false] at h
      cases h

/-- A fold keeps every property that each of its steps keeps. -/
theorem foldlM_preserves {ε α β : Type} {f : β → α → Except ε β} {P : β → Prop} {xs : List α}
    (hstep : ∀ acc, ∀ x ∈ xs, ∀ acc', f acc x = .ok acc' → P acc → P acc')
    {init r : β} (hinit : P init) (h : xs.foldlM f init = .ok r) : P r := by
  induction xs generalizing init with
  | nil =>
    cases h
    exact hinit
  | cons x xs ih =>
    simp only [List.foldlM_cons, bind_eq_ok] at h
    obtain ⟨acc, hacc, h⟩ := h
    exact ih (fun a y hy => hstep a y (List.mem_cons_of_mem x hy))
      (hstep init x List.mem_cons_self acc hacc hinit) h

/-- Writing an entry keeps the keys distinct and the values primitive. -/
theorem insertText_canonical {acc : List (String × Value)} {k : String} {v : Value}
    (hkeys : (acc.map Prod.fst).Nodup) (hvals : ∀ p ∈ acc, isPrimitive p.2 = true)
    (hv : isPrimitive v = true) :
    ((insertText acc k v).map Prod.fst).Nodup ∧
      ∀ p ∈ insertText acc k v, isPrimitive p.2 = true := by
  unfold insertText
  split
  · -- an existing key takes the new value in its place
    have same : (acc.map fun p => if p.1 == k then (k, v) else p).map Prod.fst =
        acc.map Prod.fst := by
      rw [List.map_map]
      apply List.map_congr_left
      intro p _
      by_cases h : p.1 = k <;> simp [h]
    refine ⟨same ▸ hkeys, fun p hp => ?_⟩
    obtain ⟨q, hq, rfl⟩ := List.mem_map.1 hp
    by_cases h : q.1 = k <;> simp [h, hv, hvals q hq]
  · rename_i hnew
    have fresh : k ∉ acc.map Prod.fst := by
      simpa using hnew
    refine ⟨?_, fun p hp => ?_⟩
    · rw [List.map_append, List.nodup_append]
      refine ⟨hkeys, List.nodup_singleton _, ?_⟩
      rintro a ha b hb rfl
      exact fresh (List.eq_of_mem_singleton (by simpa using hb) ▸ ha)
    · rcases List.mem_append.1 hp with hp | hp
      · exact hvals p hp
      · rw [List.eq_of_mem_singleton hp]
        exact hv

theorem configTexts_canonical {es : List (Value × Value)} {cs : List (String × Value)}
    (h : configTexts es = .ok cs) (hprim : ∀ p ∈ es, isPrimitive p.2 = true) :
    (cs.map Prod.fst).Nodup ∧ ∀ p ∈ cs, isPrimitive p.2 = true := by
  unfold configTexts at h
  refine foldlM_preserves
    (P := fun acc => (acc.map Prod.fst).Nodup ∧ ∀ p ∈ acc, isPrimitive p.2 = true) ?_
    ⟨List.nodup_nil, by simp⟩ h
  rintro acc ⟨k, v⟩ hmem acc' hstep ⟨hkeys, hvals⟩
  dsimp only at hstep
  split at hstep
  · cases hstep
    exact insertText_canonical hkeys hvals (hprim _ hmem)
  · cases hstep

/-- The configurations the manifest reader returns hold each key once, each with a primitive
value. -/
theorem Manifest.parse_configurations {doc : Value} {expected source : Option String}
    {m : Manifest} (h : Manifest.parse doc expected source = .ok m) :
    (m.configurations.map Prod.fst).Nodup ∧ ∀ p ∈ m.configurations, isPrimitive p.2 = true := by
  rw [Manifest.parse_eq_ok_iff] at h
  simp only [buildManifest, bind_eq_ok, pure_eq_ok] at h
  obtain ⟨_, -, _, -, _, -, _, -, _, -, _, -, _, -, _, -, _, -, _, -, es, hes, _, -, cs, hcs, rfl⟩ :=
    h
  have hprim : ∀ p ∈ es, isPrimitive p.2 = true := by
    rcases configEntries_ok_iff.1 hes with ⟨-, rfl⟩ | ⟨-, -, hprim⟩
    · simp
    · exact hprim
  exact configTexts_canonical hcs hprim

/-- **What the manifest reader returns is canonical**, for a document whose requirement
documents hold each key once. -/
theorem Manifest.parse_canonical {doc : Value} {expected source : Option String} {m : Manifest}
    (h : Manifest.parse doc expected source = .ok m) (honce : ∀ d ∈ deviceDocs doc, KeysOnce d) :
    m.Canonical := by
  obtain ⟨hkeys, hvals⟩ := Manifest.parse_configurations h
  rw [Manifest.parse_eq_ok_iff] at h
  simp only [buildManifest, bind_eq_ok, pure_eq_ok] at h
  obtain ⟨_, -, name, hname, _, -, desc, hdesc, vendor, hvendor, _, -, _, -, mem, hmem, disk,
    hdisk, _, -, _, -, groups, hgroups, _, -, rfl⟩ := h
  exact {
    name := (requiredText_ok_iff.1 hname).2
    description := (requiredText_ok_iff.1 hdesc).2
    vendor := (requiredText_ok_iff.1 hvendor).2
    memory := sizeField_reads hmem
    disk_space := sizeField_reads hdisk
    configuration_keys := hkeys
    configuration_values := hvals
    requirements := fun r hr => by
      obtain ⟨d, hd, hparse⟩ := parseDevices_docs hgroups r hr
      exact Requirement.parse_canonical hparse (honce d hd) }

/-! ### The round trip -/

/-- **A manifest is read back from its document.** Reading the document of a manifest that the
reader returned gives that manifest again, its sizes' bytes included, and the text of each of
its sizes reads as its bytes; likewise for a single requirement. The documents read hold each
key once, and the flags of x86-64 requirements are their own lower case. -/
theorem Manifest.parse_toValue_roundTrip :
    (∀ {doc : Value} {expected source : Option String} {m : Manifest},
      Manifest.parse doc expected source = .ok m → (∀ d ∈ deviceDocs doc, KeysOnce d) →
      (∀ r ∈ m.allOf ++ m.anyOf, r.LowerFlags) →
      Manifest.parse m.toValue = .ok m ∧
        (∀ s ∈ m.memory, parseSize (.str s.text) = .ok s.bytes) ∧
        ∀ s ∈ m.diskSpace, parseSize (.str s.text) = .ok s.bytes) ∧
    ∀ {doc : Value} {r : Requirement}, Requirement.parse doc = .ok r → KeysOnce doc →
      r.LowerFlags → Requirement.parse r.toValue = .ok r := by
  refine ⟨fun h honce hl => ?_, fun h honce hl => ?_⟩
  · have hc := Manifest.parse_canonical h honce
    exact ⟨Manifest.parse_toValue_of_canonical hc hl, hc.memory, hc.disk_space⟩
  · exact Requirement.parse_toValue_of_canonical (Requirement.parse_canonical h honce) hl

/-- A manifest with components and configurations, its keys in another order, and a USB
requirement with an unset type, read and read back. -/
theorem Manifest.parse_toValue_roundTrip_sample :
    let doc := Value.obj [("grade", .str "devel"), ("vendor", .str "v"), ("name", .str "llm"),
      ("description", .str "d"), ("components", .list [.str "llamacpp"]),
      ("configurations", Value.obj [("threads", .int 4), ("verbose", .bool false)])]
    let m : Manifest :=
      { name := "llm", description := "d", vendor := "v", grade := .devel,
        components := ["llamacpp"],
        configurations := [("threads", .int 4), ("verbose", .bool false)] }
    let usb := Value.obj [("bus", .str "usb"), ("type", .null), ("vendor-id", .str "0x1a6e")]
    let r : Requirement := .usb { fields := [("vendor-id", .str "0x1a6e")] }
    Manifest.parse doc none none = .ok m ∧ Manifest.parse m.toValue = .ok m ∧
      Requirement.parse usb = .ok r ∧ Requirement.parse r.toValue = .ok r := by
  intro doc m usb r
  have hm : Manifest.parse doc none none = .ok m := by rfl
  have hr : Requirement.parse usb = .ok r := by rfl
  have honce : KeysOnce usb := by
    intro kvs hv
    cases hv
    decide +kernel
  refine ⟨hm, (Manifest.parse_toValue_roundTrip.1 hm ?_ ?_).1, hr,
    Manifest.parse_toValue_roundTrip.2 hr honce trivial⟩
  · intro d hd
    cases hd
  · intro r hr
    cases hr

end EngineFit
