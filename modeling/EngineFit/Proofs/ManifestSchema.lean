import Mathlib
import EngineFit.Manifest.Parse
import EngineFit.Proofs.Matching

/-!
# The manifest schema

The readers of requirements and manifests check their documents step by step and stop at the
first fault. This module says which documents they accept without the steps: `DeviceDoc` and
`ManifestDoc` describe the schema field by field, each field by the values it may hold, and

* `Requirement.parse_ok_iff_deviceDoc` proves that a requirement document is read exactly when
  it is a `DeviceDoc`;
* `Manifest.parse_ok_iff_manifestDoc` proves that a manifest document is read exactly when it
  is a `ManifestDoc`, whatever name the manifest is expected to declare and whatever labels its
  messages.

A manifest's sizes and configuration keys are also written as text, and an integer of more
than `Number.digitLimit` digits cannot be: such a document follows the schema in every other
respect and is still not read (`Manifest.parse_rejects_unwritable_memory`).
-/

namespace EngineFit

/-! ### Success and failure of `Except` computations -/

theorem exists_bind_eq_ok {ε α β : Type} {x : Except ε α} {f : α → Except ε β} :
    (∃ b, x >>= f = .ok b) ↔ ∃ a, x = .ok a ∧ ∃ b, f a = .ok b := by
  simp only [bind_eq_ok]
  constructor
  · rintro ⟨b, a, ha, hb⟩
    exact ⟨a, ha, b, hb⟩
  · rintro ⟨a, ha, b, hb⟩
    exact ⟨b, a, ha, hb⟩

@[simp] theorem exists_pure_eq_ok {ε α : Type} {a : α} : ∃ b, (pure a : Except ε α) = .ok b :=
  ⟨a, rfl⟩

@[simp] theorem exists_map_eq_ok {ε α β : Type} {f : α → β} {x : Except ε α} :
    (∃ b, f <$> x = .ok b) ↔ ∃ a, x = .ok a := by
  cases x <;> simp [Functor.map, Except.map]

/-- A list is mapped exactly when each of its items is. -/
theorem exists_mapM_eq_ok {ε α β : Type} {f : α → Except ε β} {xs : List α} :
    (∃ ys, xs.mapM f = .ok ys) ↔ ∀ x ∈ xs, ∃ y, f x = .ok y := by
  induction xs with
  | nil => simp
  | cons x xs ih =>
    simp only [List.mapM_cons, exists_bind_eq_ok, exists_pure_eq_ok, and_true,
      List.forall_mem_cons, ← ih]
    constructor
    · rintro ⟨y, hy, ys, hys⟩
      exact ⟨⟨y, hy⟩, ys, hys⟩
    · rintro ⟨⟨y, hy⟩, ys, hys⟩
      exact ⟨y, hy, ys, hys⟩

section MapM

variable {ε α β : Type} {f : α → Except ε β} {x : α} {xs : List α}

/-- A map stops at its head when the head fails. -/
theorem mapM_cons_of_error {e : ε} (hx : f x = .error e) : (x :: xs).mapM f = .error e := by
  simp [List.mapM_cons, hx, bind, Except.bind]

/-- A map whose head passes puts it before the map of the rest. -/
theorem mapM_cons_of_ok {b : β} (hx : f x = .ok b) :
    (x :: xs).mapM f = (xs.mapM f).map (b :: ·) := by
  cases hxs : xs.mapM f <;>
    simp [List.mapM_cons, hx, hxs, bind, Except.bind, pure, Except.pure, Except.map]

/-- **A map stops with the error of its first item that fails.** -/
theorem mapM_eq_error_iff {e : ε} :
    xs.mapM f = .error e ↔
      ∃ pre x post, xs = pre ++ x :: post ∧ (∀ y ∈ pre, ∃ b, f y = .ok b) ∧ f x = .error e := by
  induction xs with
  | nil => simp [pure, Except.pure]
  | cons x xs ih =>
    cases hx : f x with
    | error e' =>
      rw [mapM_cons_of_error hx, Except.error.injEq]
      constructor
      · rintro rfl
        exact ⟨[], x, xs, rfl, by simp, hx⟩
      · rintro ⟨_ | ⟨y, pre⟩, z, post, heq, hpre, hz⟩
        · -- the failing item is the head
          obtain ⟨rfl, -⟩ := List.cons.inj heq
          rw [hx, Except.error.injEq] at hz
          exact hz
        · -- an item before the failing one would be the head, which fails
          obtain ⟨rfl, -⟩ := List.cons.inj heq
          obtain ⟨b, hb⟩ := hpre _ List.mem_cons_self
          rw [hx] at hb
          cases hb
    | ok b =>
      rw [mapM_cons_of_ok hx, map_eq_error, ih]
      constructor
      · rintro ⟨pre, z, post, rfl, hpre, hz⟩
        exact ⟨x :: pre, z, post, rfl, List.forall_mem_cons.2 ⟨⟨b, hx⟩, hpre⟩, hz⟩
      · rintro ⟨_ | ⟨y, pre⟩, z, post, heq, hpre, hz⟩
        · -- the head passes, so it is not the failing item
          obtain ⟨rfl, -⟩ := List.cons.inj heq
          rw [hx] at hz
          cases hz
        · obtain ⟨rfl, rfl⟩ := List.cons.inj heq
          exact ⟨pre, z, post, rfl, fun y h => hpre y (List.mem_cons_of_mem _ h), hz⟩

/-- **A map that returns gives, item by item, what each item gives.** -/
theorem mapM_eq_ok_iff_forall₂ {ys : List β} :
    xs.mapM f = .ok ys ↔ List.Forall₂ (fun x y => f x = .ok y) xs ys := by
  induction xs generalizing ys with
  | nil => cases ys <;> simp [pure, Except.pure]
  | cons x xs ih =>
    cases hx : f x with
    | error e =>
      rw [mapM_cons_of_error hx]
      cases ys <;> simp [hx]
    | ok b =>
      rw [mapM_cons_of_ok hx, map_eq_ok]
      cases ys with
      | nil => simp
      | cons y ys => simp [ih, hx, and_comm]

end MapM

/-- A fold whose steps fail by the item alone, whatever has been folded so far, succeeds
exactly when no item fails. -/
theorem exists_foldlM_eq_ok {ε α β : Type} {f : β → α → Except ε β} {P : α → Prop}
    (hf : ∀ acc x, (∃ r, f acc x = .ok r) ↔ P x) (xs : List α) (init : β) :
    (∃ r, xs.foldlM f init = .ok r) ↔ ∀ x ∈ xs, P x := by
  induction xs generalizing init with
  | nil => simp
  | cons x xs ih =>
    simp only [List.foldlM_cons, exists_bind_eq_ok, List.forall_mem_cons, ih, ← hf init x]
    constructor
    · rintro ⟨acc, hacc, hrest⟩
      exact ⟨⟨acc, hacc⟩, hrest⟩
    · rintro ⟨⟨acc, hacc⟩, hrest⟩
      exact ⟨acc, hacc, hrest⟩

/-! ### What a field may hold -/

/-- A text or nothing. -/
def TextOrNull (v : Value) : Prop :=
  v = .null ∨ ∃ s, v = .str s

/-- A set text: a text that is not empty. -/
def SetText (v : Value) : Prop :=
  ∃ s, v = .str s ∧ s ≠ ""

/-- A list of texts. -/
def TextItems (v : Value) : Prop :=
  ∃ xs, v.view = .list xs ∧ ∀ x ∈ xs, ∃ s, x = .str s

/-- A list of texts, or nothing. -/
def TextsOrNull (v : Value) : Prop :=
  v.view = .null ∨ TextItems v

/-- A value that `read` accepts, or nothing. -/
def OrNull {α : Type} (read : Value → Except UnitError α) (v : Value) : Prop :=
  v = .null ∨ ∃ a, read v = .ok a

/-- Every device field that is set in `doc` is among `legal`; fields that are not set may be
present whatever `legal` says. -/
def FieldsWithin (doc : Value) (legal : List String) : Prop :=
  ∀ f ∈ deviceFields, (doc.getD f).isSet → f ∈ legal

/-- A mapping whose keys are all among `fields`. -/
def KeysAmong (doc : Value) (fields : List String) : Prop :=
  ∃ kvs, doc.view = .dict kvs ∧ ∀ p ∈ kvs, ∃ f ∈ fields, p.1 = .str f

theorem checkKeys_ok_iff {ε : Type} {doc : Value} {isField : Value → Bool} {fields : List String}
    {notMapping : ε} {unknown : Value → ε}
    (hfield : ∀ k, isField k = true ↔ ∃ f ∈ fields, k = .str f) :
    (∃ u, checkKeys doc isField notMapping unknown = .ok u) ↔ KeysAmong doc fields := by
  unfold checkKeys KeysAmong
  split
  · rename_i kvs hv
    have among : kvs.find? (fun p => !isField p.1) = none ↔
        ∀ p ∈ kvs, ∃ f ∈ fields, p.1 = .str f := by
      simp [List.find?_eq_none, hfield]
    simp only [hv, Value.dict.injEq, exists_eq_left', ← among]
    split
    · rename_i hsome
      simp [hsome]
    · rename_i hnone
      simp [hnone]
  · rename_i hnot
    simp_all

theorem isDeviceField_iff {k : Value} :
    isDeviceField k = true ↔ ∃ f ∈ deviceFields, k = .str f := by
  cases k <;> simp [isDeviceField]

theorem isManifestField_iff {k : Value} :
    isManifestField k = true ↔ ∃ f ∈ manifestFields, k = .str f := by
  cases k <;> simp [isManifestField]

theorem same_str_iff {k : Value} {s : String} : k.same (.str s) = true ↔ k = .str s := by
  cases k <;> simp [Value.same, Value.numEq]

theorem isGroupField_iff {k : Value} :
    isGroupField k = true ↔ ∃ f ∈ ["allof", "anyof"], k = .str f := by
  simp [isGroupField, same_str_iff]

theorem textList_ok_iff {v : Value} {field : String} :
    (∃ ts, textList v field = .ok ts) ↔ TextsOrNull v := by
  unfold textList TextsOrNull TextItems
  split
  · rename_i hv
    simp [hv]
  · rename_i xs hv
    simp only [hv, exists_mapM_eq_ok, reduceCtorEq, Value.list.injEq, exists_eq_left', false_or]
    refine forall₂_congr fun x _ => ?_
    cases x <;> simp
  · rename_i hnull hlist
    constructor
    · rintro ⟨ts, hts⟩
      cases hts
    · rintro (hv | ⟨xs, hv, -⟩)
      · exact absurd hv hnull
      · exact absurd hv (hlist xs)

theorem optionalField_ok_iff {α β : Type} {read : Value → Except UnitError α}
    {keep : Value → α → β} {wrap : UnitError → DeviceError} {v : Value} :
    (∃ r, optionalField read keep wrap v = .ok r) ↔ OrNull read v := by
  unfold optionalField OrNull
  split
  · simp
  · rename_i hnull
    cases h : read v with
    | error e => simpa using hnull
    | ok a => simp

theorem checkFields_ok_iff {doc : Value} {legal : List String} {label : String} :
    (∃ u, checkFields doc legal label = .ok u) ↔ FieldsWithin doc legal := by
  unfold checkFields firstIllegal FieldsWithin
  split
  · rename_i f hf
    have hbad := List.find?_some hf
    simp only [reduceCtorEq, exists_const, false_iff, not_forall]
    refine ⟨f, List.mem_of_find?_eq_some hf, ?_⟩
    simpa using hbad
  · rename_i hnone
    simpa [List.find?_eq_none] using hnone

theorem manufacturerField_ok_iff {v : Value} :
    (∃ m, manufacturerField v = .ok m) ↔ TextOrNull v := by
  unfold TextOrNull
  cases v <;> simp [manufacturerField]

/-! ### Requirement documents -/

/-- A `type` value that declares `kind`: a falsy value declares none, a text names a kind. -/
def DeclaresKind (v : Value) (kind : Option DeviceKind) : Prop :=
  v.truthy = false ∧ kind = none ∨ ∃ k, v = .str k.name ∧ kind = some k

/-- A `bus` value that names `bus`: a falsy value names PCI. -/
def NamesBus (v : Value) (bus : Bus) : Prop :=
  v.truthy = false ∧ bus = .pci ∨ v = .str bus.name

theorem DeviceKind.ofName?_eq_some_iff {s : String} {k : DeviceKind} :
    DeviceKind.ofName? s = some k ↔ s = k.name := by
  constructor
  · intro h
    unfold DeviceKind.ofName? at h
    split at h <;> cases h <;> rfl
  · rintro rfl
    cases k <;> rfl

theorem declaredKind_ok_iff {v : Value} {kind : Option DeviceKind} :
    declaredKind v = .ok kind ↔ DeclaresKind v kind := by
  unfold declaredKind DeclaresKind
  cases ht : v.truthy with
  | false =>
    have named : ∀ k : DeviceKind, v ≠ .str k.name := by
      rintro k rfl
      cases k <;> simp [Value.truthy, DeviceKind.name] at ht
    simp [named, eq_comm]
  | true =>
    simp only [Bool.not_true, Bool.false_eq_true, ite_false]
    split
    · rename_i s
      cases h : DeviceKind.ofName? s with
      | none => simp [← DeviceKind.ofName?_eq_some_iff, h]
      | some k => simp [← DeviceKind.ofName?_eq_some_iff, h, eq_comm]
    · rename_i hstr
      simp_all

theorem declaredBus_ok_iff {label : String} {v : Value} {bus : Bus} :
    declaredBus label v = .ok bus ↔ NamesBus v bus := by
  unfold declaredBus NamesBus
  cases ht : v.truthy with
  | false =>
    have named : ∀ b : Bus, v ≠ .str b.name := by
      rintro b rfl
      cases b <;> simp [Value.truthy, Bus.name] at ht
    simp [named, eq_comm]
  | true =>
    simp only [Bool.not_true, Bool.false_eq_true, ite_false]
    split <;> cases bus <;> simp_all [Bus.name]

/-- An x86-64 CPU requirement document. -/
@[mk_iff] structure Amd64Doc (doc : Value) : Prop where
  fields_within : FieldsWithin doc amd64Fields
  manufacturer : TextOrNull (doc.getD "manufacturer-id")
  flags : TextsOrNull (doc.getD "flags")

/-- An ARM64 CPU requirement document. -/
@[mk_iff] structure Arm64Doc (doc : Value) : Prop where
  fields_within : FieldsWithin doc arm64Fields
  implementer : OrNull parseHex (doc.getD "implementer-id")
  part : OrNull parseHex (doc.getD "part-number")
  features : TextsOrNull (doc.getD "features")

/-- A CPU requirement document: its architecture is `amd64` or `arm64`, and its fields are
those of that architecture. -/
def CpuDoc (doc : Value) : Prop :=
  doc.getD "architecture" = .str "amd64" ∧ Amd64Doc doc ∨
    doc.getD "architecture" = .str "arm64" ∧ Arm64Doc doc

/-- The ids and connections of a PCI requirement document, and for a GPU its memory and compute
capability. -/
@[mk_iff] structure PciDoc (doc : Value) (kind : Option DeviceKind) : Prop where
  vendor : OrNull parseHex (doc.getD "vendor-id")
  device : OrNull parseHex (doc.getD "device-id")
  connections : TextsOrNull (doc.getD "snap-connections")
  gpu : kind = some .gpu →
    OrNull parseSize (doc.getD "vram") ∧ OrNull parseCapability (doc.getD "compute-capability")

/-- A requirement document for a device of declared kind `kind`, not a CPU, on bus `bus`. It
sets only the fields of every bus device, and for a GPU also memory and compute capability. On
PCI these must be readable; on USB they are kept as written. -/
@[mk_iff] structure BusDoc (doc : Value) (kind : Option DeviceKind) (bus : Bus) : Prop where
  names_bus : NamesBus (doc.getD "bus") bus
  fields_within : FieldsWithin doc (if kind = some .gpu then gpuFields else busFields)
  pci : bus = .pci → PciDoc doc kind

theorem parseCpu_ok_iff {doc : Value} : (∃ r, parseCpu doc = .ok r) ↔ CpuDoc doc := by
  unfold parseCpu CpuDoc
  by_cases hset : (doc.getD "architecture").isSet
  · simp only [hset, Bool.not_true, Bool.false_eq_true, if_false]
    split
    · rename_i harch
      simp [harch, exists_bind_eq_ok, checkFields_ok_iff, manufacturerField_ok_iff,
        textList_ok_iff, amd64Doc_iff]
    · rename_i harch
      simp [harch, exists_bind_eq_ok, checkFields_ok_iff, hexField, optionalField_ok_iff,
        textList_ok_iff, arm64Doc_iff]
    · rename_i hamd harm
      constructor
      · rintro ⟨r, hr⟩
        cases hr
      · rintro (⟨h, -⟩ | ⟨h, -⟩)
        · exact absurd h hamd
        · exact absurd h harm
  · have unset : ∀ s, s ≠ "" → doc.getD "architecture" ≠ .str s := by
      intro s hs heq
      simp [heq, Value.isSet, hs] at hset
    simp [hset, throw, throwThe, MonadExceptOf.throw, bind, Except.bind, unset]

theorem parseBusDevice_ok_iff {doc : Value} {kind : Option DeviceKind} :
    (∃ r, parseBusDevice doc kind = .ok r) ↔ ∃ bus, BusDoc doc kind bus := by
  unfold parseBusDevice
  simp only [exists_bind_eq_ok, declaredBus_ok_iff, exists_and_right, checkFields_ok_iff]
  refine exists_congr fun bus => ?_
  rw [busDoc_iff]
  refine and_congr_right fun _ => ?_
  have legal : (if (kind == some .gpu) = true then gpuFields else busFields) =
      if kind = some .gpu then gpuFields else busFields := by
    simp
  rw [legal]
  refine and_congr_right fun _ => ?_
  cases bus with
  | usb => simp
  | pci =>
    by_cases hgpu : kind = some .gpu
    · simp [hgpu, exists_bind_eq_ok, hexField, vramField, capabilityField, optionalField_ok_iff,
        textList_ok_iff, pciDoc_iff]
    · simp [hgpu, exists_bind_eq_ok, hexField, optionalField_ok_iff, textList_ok_iff, pciDoc_iff]

/-- A requirement document the reader accepts: a mapping of device fields whose type declares
a kind; a CPU document for the kind `cpu`, and a bus device document on some bus otherwise. -/
def DeviceDoc (doc : Value) : Prop :=
  KeysAmong doc deviceFields ∧ ∃ kind, DeclaresKind (doc.getD "type") kind ∧
    if kind = some .cpu then CpuDoc doc else ∃ bus, BusDoc doc kind bus

/-- **A requirement document is read exactly when it is a `DeviceDoc`.** -/
theorem Requirement.parse_ok_iff_deviceDoc {doc : Value} :
    (∃ r, Requirement.parse doc = .ok r) ↔ DeviceDoc doc := by
  unfold Requirement.parse DeviceDoc checkDeviceKeys
  simp only [exists_bind_eq_ok, exists_and_right, checkKeys_ok_iff fun _ => isDeviceField_iff]
  refine and_congr_right fun _ => exists_congr fun kind => ?_
  rw [declaredKind_ok_iff]
  refine and_congr_right fun _ => ?_
  by_cases hcpu : kind = some .cpu
  · simp [hcpu, parseCpu_ok_iff]
  · simp [hcpu, parseBusDevice_ok_iff]

/-! ### Manifest documents -/

theorem requiredText_ok_iff {doc : Value} {field s : String} :
    requiredText doc field = .ok s ↔ doc.getD field = .str s ∧ s ≠ "" := by
  unfold requiredText
  split
  · rename_i t ht
    rw [ht, Value.str.injEq]
    by_cases he : t = ""
    · subst he
      simp only [String.isEmpty_iff, if_true, reduceCtorEq, false_iff, not_and, not_not]
      exact Eq.symm
    · simp only [he, String.isEmpty_iff, if_false, Except.ok.injEq]
      constructor
      · rintro rfl
        exact ⟨rfl, he⟩
      · rintro ⟨h, -⟩
        exact h
  · rename_i hnot
    constructor
    · intro h
      split at h <;> cases h
    · rintro ⟨hs, -⟩
      exact absurd hs (hnot s)

theorem checkName_ok_iff {expected : Option String} {name : String} :
    (∃ u, checkName expected name = .ok u) ↔ ∀ e, expected = some e → e ≠ "" → name = e := by
  unfold checkName
  cases expected with
  | none => simp
  | some e => by_cases he : e = "" <;> by_cases hn : name = e <;> simp [he, hn]

theorem gradeField_ok_iff {t : String} :
    (∃ g, gradeField t = .ok g) ↔ t = "stable" ∨ t = "devel" := by
  unfold gradeField
  split <;> simp_all

theorem sizeField_ok_iff {doc : Value} {field : String} (wrap : UnitError → ManifestProblem) :
    (∃ s, sizeField doc field wrap = .ok s) ↔
      OrNull parseSize (doc.getD field) ∧ (doc.getD field).writable := by
  unfold sizeField OrNull Value.plainChecked
  split
  · rename_i hv
    simp [hv, Value.writable]
  · rename_i hnull
    cases hw : (doc.getD field).writable with
    | false => simp
    | true =>
      cases hp : parseSize (doc.getD field) with
      | error e => simpa using hnull
      | ok n => simp

theorem componentsField_ok_iff {v : Value} :
    (∃ cs, componentsField v = .ok cs) ↔ v.truthy = false ∨ TextItems v := by
  unfold componentsField TextItems
  cases ht : v.truthy with
  | false => simp
  | true =>
    simp only [Bool.not_true, Bool.false_eq_true, Bool.true_eq_false, if_false, false_or]
    split
    · rename_i xs hv
      simp only [hv, exists_mapM_eq_ok, Value.list.injEq, exists_eq_left']
      refine forall₂_congr fun x _ => ?_
      cases x <;> simp
    · rename_i hnot
      simp_all

/-- A configurations value: falsy, or a mapping of booleans, numbers and texts whose keys can be
written as text. -/
def ConfigDoc (v : Value) : Prop :=
  v.truthy = false ∨
    ∃ kvs, v.view = .dict kvs ∧ ∀ p ∈ kvs, isPrimitive p.2 = true ∧ p.1.writable = true

theorem configEntries_ok_iff {v : Value} {es : List (Value × Value)} :
    configEntries v = .ok es ↔
      v.truthy = false ∧ es = [] ∨
        v.truthy = true ∧ v.view = .dict es ∧ ∀ p ∈ es, isPrimitive p.2 = true := by
  unfold configEntries
  cases ht : v.truthy with
  | false =>
    simp only [Bool.not_false, if_true, pure_bind, List.find?_nil, pure_eq_ok, true_and,
      Bool.false_eq_true, false_and, or_false]
    exact eq_comm
  | true =>
    simp only [Bool.not_true, Bool.false_eq_true, if_false, Bool.true_eq_false, false_and,
      true_and, false_or]
    split
    · rename_i kvs hv
      simp only [pure_bind, hv, Value.dict.injEq]
      split
      · rename_i k w hfind
        have hbad := List.find?_some hfind
        simp only [throw_eq_ok, false_iff, not_and]
        rintro rfl hall
        simp [hall _ (List.mem_of_find?_eq_some hfind)] at hbad
      · rename_i hnone
        simp only [List.find?_eq_none, Bool.not_eq_eq_eq_not, Bool.not_true,
          Bool.not_eq_false] at hnone
        simp only [pure_eq_ok]
        constructor
        · rintro rfl
          exact ⟨rfl, hnone⟩
        · rintro ⟨rfl, -⟩
          rfl
    · rename_i hnot
      simp only [bind_eq_ok, throw_eq_ok, false_and, exists_false, false_iff, not_and]
      intro hv
      exact absurd hv (hnot es)

theorem configTexts_ok_iff {es : List (Value × Value)} :
    (∃ c, configTexts es = .ok c) ↔ ∀ p ∈ es, p.1.writable = true := by
  unfold configTexts
  apply exists_foldlM_eq_ok
  rintro acc ⟨k, w⟩
  unfold Value.plainChecked
  cases hw : k.writable <;> simp [hw]

/-- The configurations are read and their keys written exactly when they follow `ConfigDoc`. -/
theorem configurations_ok_iff {v : Value} :
    (∃ es, configEntries v = .ok es ∧ ∃ c, configTexts es = .ok c) ↔ ConfigDoc v := by
  simp only [configEntries_ok_iff, configTexts_ok_iff, ConfigDoc]
  constructor
  · rintro ⟨es, ⟨hf, -⟩ | ⟨-, hv, hprim⟩, hkeys⟩
    · exact .inl hf
    · exact .inr ⟨es, hv, fun p hp => ⟨hprim p hp, hkeys p hp⟩⟩
  · rintro (hf | ⟨kvs, hv, hall⟩)
    · exact ⟨[], .inl ⟨hf, rfl⟩, by simp⟩
    · cases ht : v.truthy with
      | false => exact ⟨[], .inl ⟨rfl, rfl⟩, by simp⟩
      | true => exact ⟨kvs, .inr ⟨rfl, hv, fun p hp => (hall p hp).1⟩, fun p hp => (hall p hp).2⟩

/-- A device group: falsy, or a list of requirement documents. -/
def GroupDoc (v : Value) : Prop :=
  v.truthy = false ∨ ∃ xs, v.view = .list xs ∧ ∀ x ∈ xs, DeviceDoc x

theorem forall_mem_zipIdx_fst {α : Type} {P : α → Prop} {xs : List α} :
    (∀ p ∈ xs.zipIdx, P p.1) ↔ ∀ x ∈ xs, P x := by
  conv_rhs => rw [← List.zipIdx_map_fst 0 xs]
  exact List.forall_mem_map.symm

theorem parseGroup_ok_iff {doc : Value} {group : String} :
    (∃ rs, parseGroup doc group = .ok rs) ↔ GroupDoc (doc.getD group) := by
  unfold parseGroup GroupDoc
  dsimp only
  cases ht : (doc.getD group).truthy with
  | false => simp
  | true =>
    simp only [Bool.not_true, Bool.false_eq_true, if_false, Bool.true_eq_false, false_or]
    split
    · rename_i xs hv
      simp only [pure_bind, hv, Value.list.injEq, exists_eq_left', exists_mapM_eq_ok]
      rw [← forall_mem_zipIdx_fst (P := DeviceDoc)]
      refine forall₂_congr fun p _ => ?_
      rw [← Requirement.parse_ok_iff_deviceDoc]
      split <;> simp_all
    · rename_i hnot
      simp only [bind_eq_ok, throw_eq_ok, false_and, exists_false, false_iff, not_exists,
        not_and]
      intro xs hv
      exact absurd hv (hnot xs)

/-- A devices value: nothing, or a mapping of the groups `allof` and `anyof`, each a
`GroupDoc`. -/
def DevicesDoc (v : Value) : Prop :=
  v.view = .null ∨
    KeysAmong v ["allof", "anyof"] ∧ GroupDoc (v.getD "allof") ∧ GroupDoc (v.getD "anyof")

theorem parseDevices_ok_iff {v : Value} : (∃ gs, parseDevices v = .ok gs) ↔ DevicesDoc v := by
  unfold parseDevices DevicesDoc
  split
  · rename_i hv
    simp [hv]
  · rename_i hnull
    rw [or_iff_right hnull]
    simp only [exists_bind_eq_ok, exists_and_right, checkKeys_ok_iff fun _ => isGroupField_iff,
      parseGroup_ok_iff, exists_pure_eq_ok, and_true]

theorem checkManifestKeys_ok_iff {doc : Value} :
    (∃ u, checkManifestKeys doc = .ok u) ↔ doc.isSet ∧ KeysAmong doc manifestFields := by
  unfold checkManifestKeys
  cases hset : doc.isSet with
  | false => simp
  | true => simpa using checkKeys_ok_iff fun _ => isManifestField_iff

theorem requiredText_setText {doc : Value} {field : String} :
    (∃ s, requiredText doc field = .ok s) ↔ SetText (doc.getD field) := by
  simp only [requiredText_ok_iff, SetText]

/-- The name is read and matches the expected one exactly when it is a set text equal to every
non-empty expected name. -/
theorem name_ok_iff {doc : Value} {expected : Option String} :
    (∃ name, requiredText doc "name" = .ok name ∧ ∃ u, checkName expected name = .ok u) ↔
      SetText (doc.getD "name") ∧
        ∀ e, expected = some e → e ≠ "" → doc.getD "name" = .str e := by
  simp only [requiredText_ok_iff, checkName_ok_iff, SetText]
  constructor
  · rintro ⟨name, ⟨hv, hne⟩, hexp⟩
    refine ⟨⟨name, hv, hne⟩, fun e he hne' => ?_⟩
    rw [hv, hexp e he hne']
  · rintro ⟨⟨name, hv, hne⟩, hexp⟩
    refine ⟨name, ⟨hv, hne⟩, fun e he hne' => ?_⟩
    simpa [hv] using hexp e he hne'

/-- The grade is read exactly when it is the text `stable` or `devel`. -/
theorem grade_ok_iff {doc : Value} :
    (∃ t, requiredText doc "grade" = .ok t ∧ ∃ g, gradeField t = .ok g) ↔
      doc.getD "grade" = .str "stable" ∨ doc.getD "grade" = .str "devel" := by
  simp only [requiredText_ok_iff, gradeField_ok_iff]
  constructor
  · rintro ⟨t, ⟨hv, -⟩, rfl | rfl⟩
    · exact .inl hv
    · exact .inr hv
  · rintro (hv | hv)
    · exact ⟨"stable", ⟨hv, by decide⟩, .inl rfl⟩
    · exact ⟨"devel", ⟨hv, by decide⟩, .inr rfl⟩

/-- A manifest document the reader accepts when the manifest should be named `expected`. -/
structure ManifestDoc (expected : Option String) (doc : Value) : Prop where
  set : doc.isSet = true
  keys : KeysAmong doc manifestFields
  name : SetText (doc.getD "name")
  expected_name : ∀ e, expected = some e → e ≠ "" → doc.getD "name" = .str e
  description : SetText (doc.getD "description")
  vendor : SetText (doc.getD "vendor")
  grade : doc.getD "grade" = .str "stable" ∨ doc.getD "grade" = .str "devel"
  memory : OrNull parseSize (doc.getD "memory") ∧ (doc.getD "memory").writable = true
  disk_space : OrNull parseSize (doc.getD "disk-space") ∧ (doc.getD "disk-space").writable = true
  components : (doc.getD "components").truthy = false ∨ TextItems (doc.getD "components")
  configurations : ConfigDoc (doc.getD "configurations")
  devices : DevicesDoc (doc.getD "devices")

@[simp] theorem ok_bind {ε α β : Type} {a : α} {f : α → Except ε β} :
    (Except.ok a >>= f) = f a :=
  rfl

/-- Labels name a rejected manifest and do not decide whether it is rejected. -/
theorem Manifest.parse_eq_ok_iff {doc : Value} {expected source : Option String} {m : Manifest} :
    Manifest.parse doc expected source = .ok m ↔ buildManifest doc expected = .ok m := by
  unfold Manifest.parse
  split <;> simp_all

/-- **A manifest document is read exactly when it is a `ManifestDoc`**, whatever the labels of
its messages. -/
theorem Manifest.parse_ok_iff_manifestDoc {doc : Value} {expected source : Option String} :
    (∃ m, Manifest.parse doc expected source = .ok m) ↔ ManifestDoc expected doc := by
  simp only [Manifest.parse_eq_ok_iff]
  constructor
  · rintro ⟨m, hm⟩
    simp only [buildManifest, bind_eq_ok] at hm
    obtain ⟨u, hkeys, name, hname, u', hcheck, d, hd, v, hv, t, ht, g, hg, mem, hmem, disk,
      hdisk, cs, hcs, es, hes, gs, hgs, c, hc, -⟩ := hm
    obtain ⟨hset, hkeys⟩ := checkManifestKeys_ok_iff.mp ⟨u, hkeys⟩
    obtain ⟨hname, hexp⟩ := name_ok_iff.mp ⟨name, hname, u', hcheck⟩
    exact ⟨hset, hkeys, hname, hexp, requiredText_setText.mp ⟨d, hd⟩,
      requiredText_setText.mp ⟨v, hv⟩, grade_ok_iff.mp ⟨t, ht, g, hg⟩,
      (sizeField_ok_iff _).mp ⟨mem, hmem⟩, (sizeField_ok_iff _).mp ⟨disk, hdisk⟩,
      componentsField_ok_iff.mp ⟨cs, hcs⟩, configurations_ok_iff.mp ⟨es, hes, c, hc⟩,
      parseDevices_ok_iff.mp ⟨gs, hgs⟩⟩
  · intro h
    obtain ⟨u, hkeys⟩ := checkManifestKeys_ok_iff.mpr ⟨h.set, h.keys⟩
    obtain ⟨name, hname, u', hcheck⟩ := name_ok_iff.mpr ⟨h.name, h.expected_name⟩
    obtain ⟨d, hd⟩ := requiredText_setText.mpr h.description
    obtain ⟨v, hv⟩ := requiredText_setText.mpr h.vendor
    obtain ⟨t, ht, g, hg⟩ := grade_ok_iff.mpr h.grade
    obtain ⟨mem, hmem⟩ := (sizeField_ok_iff .badMemory).mpr h.memory
    obtain ⟨disk, hdisk⟩ := (sizeField_ok_iff .badDiskSpace).mpr h.disk_space
    obtain ⟨cs, hcs⟩ := componentsField_ok_iff.mpr h.components
    obtain ⟨es, hes, c, hc⟩ := configurations_ok_iff.mpr h.configurations
    obtain ⟨gs, hgs⟩ := parseDevices_ok_iff.mpr h.devices
    exact ⟨_, by simp only [buildManifest, hkeys, hname, hcheck, hd, hv, ht, hg, hmem, hdisk, hcs,
      hes, hgs, hc, ok_bind]; rfl⟩

/-- A memory of `10 ^ 4300` bytes is a size, and a document is read without it but not with
it: its text would have more than `Number.digitLimit` digits. -/
theorem Manifest.parse_rejects_unwritable_memory :
    let base : List (String × Value) := [("name", .str "e"), ("description", .str "d"),
      ("vendor", .str "v"), ("grade", .str "stable")]
    let big := Value.int (10 ^ 4300 : Nat)
    (parseSize big).isOk ∧ (Manifest.parse (Value.obj base) none none).isOk ∧
      (Manifest.parse (Value.obj (base ++ [("memory", big)])) none none).isOk = false := by
  decide +kernel

end EngineFit
