import Mathlib
import EngineFit.Proofs.ManifestSchema

/-!
# Written fields read back

`Requirement.toValue` and `Manifest.toValue` write each field in a form of their own: ids as
`0x` and four or more hexadecimal digits, sizes as their text, a compute capability as its plain
text, lists of texts only when they are not empty, absent values left out, configurations under
text keys, device groups only when they hold a requirement. This module proves, field by field,
that the reader's step for the field gives back what was written. The steps of a number are
the deepest: the digits `Nat.toDigits` writes are read by `Text.hexNat?` and `readDecimal` as
the number (`hexNat?_hexDigits`, `readDecimal_toDigits`), for a size up to the
`Number.digitLimit` digits the reader accepts.

The lemmas are stated on the getter's view of a written document (`Value.getD` of
`Value.obj`), so that each reader step can be met with the value the writer put there.
-/

namespace EngineFit

/-! ### Numbers written as text and read back -/

/-- Every digit of `n` in base `b` is the character of a value below `b`. -/
theorem mem_toDigits {b n : Nat} (hb : 1 < b) {c : Char} (hc : c ∈ Nat.toDigits b n) :
    ∃ k < b, c = k.digitChar := by
  induction n using Nat.base_induction b hb with
  | single m hm =>
    rw [Nat.toDigits_of_lt_base hm, List.mem_singleton] at hc
    exact ⟨m, hm, hc⟩
  | digit m k hk hm ih =>
    rw [← Nat.toDigits_append_toDigits hb hm hk, Nat.toDigits_of_lt_base hk, List.mem_append,
      List.mem_singleton] at hc
    rcases hc with hc | rfl
    · exact ih hc
    · exact ⟨k, hk, rfl⟩

/-- Reading the digits of `n` in base `b` back, each by a reader that knows the value of every
digit, gives `n`. -/
theorem foldl_toDigits {b : Nat} (hb : 1 < b) {val : Char → Nat}
    (hval : ∀ k < b, val k.digitChar = k) (n : Nat) :
    (Nat.toDigits b n).foldl (fun acc c => acc * b + val c) 0 = n := by
  induction n using Nat.base_induction b hb with
  | single m hm => simp [Nat.toDigits_of_lt_base hm, hval m hm]
  | digit m k hk hm ih =>
    rw [← Nat.toDigits_append_toDigits hb hm hk, List.foldl_append, ih,
      Nat.toDigits_of_lt_base hk]
    simp [hval k hk, Nat.mul_comm]

theorem foldlM_eq_some {α β : Type} {f : β → α → Option β} {g : β → α → β} {cs : List α}
    (h : ∀ acc, ∀ c ∈ cs, f acc c = some (g acc c)) (init : β) :
    cs.foldlM f init = some (cs.foldl g init) := by
  induction cs generalizing init with
  | nil => rfl
  | cons c cs ih =>
    simp only [List.foldlM_cons, List.foldl_cons, h init c List.mem_cons_self]
    exact ih (fun acc c hc => h acc c (List.mem_cons_of_mem _ hc)) _

theorem hexDigit?_digitChar : ∀ k < 16, Text.hexDigit? k.digitChar = some k := by
  decide

theorem hexNat?_of_ne_nil {cs : List Char} (h : cs ≠ []) :
    Text.hexNat? cs = cs.foldlM (fun acc c => (Text.hexDigit? c).map (acc * 16 + ·)) 0 := by
  cases cs with
  | nil => contradiction
  | cons c cs => rfl

theorem hexDigits_toList (width n : Nat) :
    (Value.hexDigits width n).toList =
      List.replicate (width - (Nat.toDigits 16 n).length) '0' ++ Nat.toDigits 16 n := by
  simp [Value.hexDigits, String.toList_append, String.toList_ofList]

/-- The hexadecimal digits of `n`, padded with zeros, are read as `n`. -/
theorem hexNat?_hexDigits (width n : Nat) :
    Text.hexNat? (Value.hexDigits width n).toList = some n := by
  let val : Char → Nat := fun c => (Text.hexDigit? c).getD 0
  have digit : ∀ c ∈ List.replicate (width - (Nat.toDigits 16 n).length) '0' ++
      Nat.toDigits 16 n, ∃ k < 16, c = k.digitChar := by
    intro c hc
    rcases List.mem_append.1 hc with hc | hc
    · exact ⟨0, by decide, List.eq_of_mem_replicate hc⟩
    · exact mem_toDigits (by decide) hc
  have step : ∀ acc, ∀ c ∈ List.replicate (width - (Nat.toDigits 16 n).length) '0' ++
      Nat.toDigits 16 n, (Text.hexDigit? c).map (acc * 16 + ·) = some (acc * 16 + val c) := by
    intro acc c hc
    obtain ⟨k, hk, rfl⟩ := digit c hc
    simp [val, hexDigit?_digitChar k hk]
  have zeros : ∀ z, (List.replicate z '0').foldl (fun acc c => acc * 16 + val c) 0 = 0 := by
    intro z
    induction z with
    | zero => rfl
    | succ z ih => simpa [List.replicate_succ', val, Text.hexDigit?] using ih
  rw [hexDigits_toList, hexNat?_of_ne_nil (by simp), foldlM_eq_some step, List.foldl_append,
    zeros]
  exact congrArg some
    (foldl_toDigits (by decide) (fun k hk => by simp [val, hexDigit?_digitChar k hk]) n)

theorem isBlank_digitChar : ∀ k < 16, Text.isBlank k.digitChar = false := by
  decide +kernel

theorem dropBlanks_eq_self {cs : List Char} (h : ∀ c ∈ cs, Text.isBlank c = false) :
    Text.dropBlanks cs = cs := by
  cases cs with
  | nil => rfl
  | cons c cs => simp [Text.dropBlanks, h c List.mem_cons_self]

/-- A text without blanks is its own stripped form. -/
theorem strip_eq_self {s : String} (h : ∀ c ∈ s.toList, Text.isBlank c = false) :
    Text.strip s = s := by
  unfold Text.strip
  rw [dropBlanks_eq_self h, dropBlanks_eq_self (by simpa using h), List.reverse_reverse,
    String.ofList_toList]

/-- The hexadecimal digits of a number hold no blank. -/
theorem isBlank_hexDigits {width n : Nat} :
    ∀ c ∈ (Value.hexDigits width n).toList, Text.isBlank c = false := by
  intro c hc
  rw [hexDigits_toList] at hc
  rcases List.mem_append.1 hc with hc | hc
  · rw [List.eq_of_mem_replicate hc]
    exact isBlank_digitChar 0 (by decide)
  · obtain ⟨k, hk, rfl⟩ := mem_toDigits (by decide) hc
    exact isBlank_digitChar k hk

/-- **An id is read back from its written form**, at any width. -/
theorem parseHex_hexText (width n : Nat) : parseHex (.str (hexText width n)) = .ok n := by
  have text : hexText width n = "0x" ++ Value.hexDigits width n := by
    simp [hexText]
  have prefix_chars : "0x".toList = ['0', 'x'] := rfl
  have unblank : ∀ c ∈ ("0x" ++ Value.hexDigits width n).toList, Text.isBlank c = false := by
    intro c hc
    rw [String.toList_append, prefix_chars] at hc
    rcases List.mem_append.1 hc with hc | hc
    · have hx : Text.isBlank 'x' = false := by decide +kernel
      rcases List.mem_pair.1 hc with rfl | rfl
      · exact isBlank_digitChar 0 (by decide)
      · exact hx
    · exact isBlank_hexDigits c hc
  unfold parseHex
  rw [text]
  simp only [strip_eq_self unblank, String.toList_append, prefix_chars]
  simp [hexValue?, hexNat?_hexDigits]

theorem parseHex_idValue (n : Nat) : parseHex (idValue n) = .ok n :=
  parseHex_hexText 4 n

theorem digitValue?_digitChar : ∀ k < 10, Text.digitValue? k.digitChar = some k := by
  decide +kernel

theorem digitChar_ne_suffix :
    ∀ k < 10, k.digitChar ≠ '\n' ∧ k.digitChar ≠ 'M' ∧ k.digitChar ≠ 'G' := by
  decide

/-- The decimal digits of a number that is not too long are read as the number. -/
theorem readDecimal_toDigits {n : Nat} (hn : n < 10 ^ Number.digitLimit) :
    readDecimal (Nat.toDigits 10 n) = .ok n := by
  have hlen : (Nat.toDigits 10 n).length ≤ Number.digitLimit :=
    (Nat.length_toDigits_le_iff (by decide) (by decide)).2 hn
  have hval : (Nat.toDigits 10 n).foldl (fun acc c => acc * 10 + (Text.digitValue? c).getD 0) 0
      = n :=
    foldl_toDigits (by decide) (fun k hk => by simp [digitValue?_digitChar k hk]) n
  simp [readDecimal, Number.checkDigitCount, Nat.not_lt.2 hlen, hval]

/-- The decimal text of a number is a size of no scale. -/
theorem sizeParts?_repr (n : Nat) : sizeParts? n.repr = some (Nat.toDigits 10 n, 1) := by
  have digit : ∀ c ∈ Nat.toDigits 10 n, ∃ k < 10, c = k.digitChar :=
    fun c hc => mem_toDigits (by decide) hc
  obtain ⟨last, hlast⟩ : ∃ c, (Nat.toDigits 10 n).getLast? = some c :=
    ⟨_, List.getLast?_eq_some_getLast Nat.toDigits_ne_nil⟩
  obtain ⟨k, hk, hc⟩ := digit last (List.mem_of_getLast? hlast)
  obtain ⟨hnl, hM, hG⟩ := digitChar_ne_suffix k hk
  have run : isDecimalRun (Nat.toDigits 10 n) = true := by
    have hne : (Nat.toDigits 10 n).isEmpty = false := by
      simp
    simp only [isDecimalRun, hne, Bool.not_false, Bool.true_and, List.all_eq_true]
    intro c hc
    obtain ⟨j, hj, rfl⟩ := digit c hc
    simp [digitValue?_digitChar j hj]
  unfold sizeParts?
  simp only [Nat.toList_repr, hlast, hc]
  split
  · simp_all
  · simp_all
  · simp [hnl, run]

/-- A number of bytes that can be written is read back from its decimal text. -/
theorem parseSize_repr {n : Nat} (hn : n < 10 ^ Number.digitLimit) :
    parseSize (.str n.repr) = .ok n := by
  simp [parseSize, sizeParts?_repr, readDecimal_toDigits hn]

/-- **The text of a size reads as its number of bytes.** A size is a number or a size text,
and a number is kept as its decimal text. -/
theorem parseSize_plain {v : Value} {n : Nat} (h : parseSize v = .ok n) (hw : v.writable) :
    parseSize (.str v.plain) = .ok n := by
  cases v with
  | int i =>
    have hi : ¬ i < 0 := by
      intro hneg
      simp [parseSize, hneg] at h
    obtain ⟨m, rfl⟩ := Int.eq_ofNat_of_zero_le (Int.not_lt.1 hi)
    have hm : m = n := by
      simpa [parseSize, hi] using h
    subst hm
    have bound : m < 10 ^ Number.digitLimit := by
      have hlt : (m : Int).natAbs < Value.tooLongBound := by
        simpa only [Value.writable, decide_eq_true_eq] using hw
      rwa [Int.natAbs_natCast, Value.tooLongBound, Nat.pow_eq] at hlt
    have text : (Value.int m).plain = m.repr := rfl
    rw [text]
    exact parseSize_repr bound
  | str s => simpa [Value.plain] using h
  | _ => simp [parseSize] at h

/-- The text a capability is read from is the value's plain text. -/
theorem capabilityText_eq_plain {v : Value} {t : String} (h : capabilityText v = .ok t) :
    t = v.plain := by
  unfold capabilityText at h
  split at h
  · cases h
  · by_cases hw : v.writable = true
    · simp only [Value.plainChecked, hw, if_true, Except.ok.injEq] at h
      exact h.symm
    · simp [Value.plainChecked, hw] at h

theorem readCapabilityText_eq_ok {v : Value} {t : String} {c : Capability} :
    readCapabilityText v t = .ok c ↔ capabilityOfText? t = some (.ok c) := by
  unfold readCapabilityText
  split <;> simp_all

/-- **A compute capability is read again from its plain text.** -/
theorem parseCapability_plain {v : Value} {c : Capability} (h : parseCapability v = .ok c) :
    parseCapability (.str v.plain) = .ok c := by
  obtain ⟨t, ht, hc⟩ := bind_eq_ok.1 h
  rw [capabilityText_eq_plain ht, readCapabilityText_eq_ok] at hc
  exact bind_eq_ok.2 ⟨v.plain, rfl, readCapabilityText_eq_ok.2 hc⟩

/-! ### Documents with text keys -/

namespace Value

@[simp] theorem view_obj {kvs : List (String × Value)} :
    (Value.obj kvs).view = .dict (kvs.map fun p => (.str p.1, p.2)) :=
  rfl

@[simp] theorem getD_obj_nil {f : String} : (Value.obj []).getD f = .null :=
  rfl

@[simp] theorem getD_obj_cons {k f : String} {v : Value} {kvs : List (String × Value)} :
    (Value.obj ((k, v) :: kvs)).getD f = if k = f then v else (Value.obj kvs).getD f := by
  by_cases h : k = f <;> simp [getD, get?, lookup, h, keySame]

@[simp] theorem getD_obj_optEntry_append {α : Type} {key f : String} {g : α → Value}
    {o : Option α} {ys : List (String × Value)} :
    (Value.obj (optEntry key g o ++ ys)).getD f =
      if key = f then (o.map g).getD ((Value.obj ys).getD f) else (Value.obj ys).getD f := by
  cases o <;> by_cases h : key = f <;> simp [optEntry, h]

@[simp] theorem getD_obj_listEntry {key f : String} {xs : List String} :
    (Value.obj (listEntry key xs)).getD f =
      if key = f ∧ xs ≠ [] then .list (xs.map .str) else .null := by
  by_cases h : xs = [] <;> by_cases hk : key = f <;> simp [listEntry, h, hk]

@[simp] theorem getD_obj_listEntry_append {key f : String} {xs : List String}
    {ys : List (String × Value)} :
    (Value.obj (listEntry key xs ++ ys)).getD f =
      if key = f ∧ xs ≠ [] then .list (xs.map .str) else (Value.obj ys).getD f := by
  by_cases h : xs = [] <;> by_cases hk : key = f <;> simp [listEntry, h, hk]

/-- A field of a mapping with text keys is unset or the value of one of its entries. -/
theorem getD_obj_null_or_mem (kvs : List (String × Value)) (f : String) :
    (Value.obj kvs).getD f = .null ∨ (f, (Value.obj kvs).getD f) ∈ kvs := by
  induction kvs with
  | nil => simp
  | cons p kvs ih =>
    obtain ⟨k, v⟩ := p
    by_cases h : k = f
    · subst h
      simp
    · simp only [getD_obj_cons, if_neg h, List.mem_cons]
      rcases ih with ih | ih
      · exact Or.inl ih
      · exact Or.inr (Or.inr ih)

theorem getD_obj_of_forall_ne {kvs : List (String × Value)} {f : String}
    (h : ∀ p ∈ kvs, p.1 ≠ f) : (Value.obj kvs).getD f = .null := by
  rcases getD_obj_null_or_mem kvs f with hnull | hmem
  · exact hnull
  · exact absurd rfl (h _ hmem)

end Value

theorem forall_mem_optEntry {α : Type} {key : String} {g : α → Value} {o : Option α}
    {P : String × Value → Prop} : (∀ p ∈ optEntry key g o, P p) ↔ ∀ a ∈ o, P (key, g a) := by
  cases o <;> simp [optEntry]

theorem forall_mem_listEntry {key : String} {xs : List String} {P : String × Value → Prop} :
    (∀ p ∈ listEntry key xs, P p) ↔ (xs ≠ [] → P (key, .list (xs.map .str))) := by
  by_cases h : xs = [] <;> simp [listEntry, h]

theorem fieldsWithin_obj {kvs : List (String × Value)} {legal : List String}
    (h : ∀ p ∈ kvs, p.1 ∈ legal) : FieldsWithin (Value.obj kvs) legal := by
  intro f _ hset
  rcases Value.getD_obj_null_or_mem kvs f with hnull | hmem
  · rw [hnull] at hset
    cases hset
  · exact h _ hmem

theorem keysAmong_obj {kvs : List (String × Value)} {fields : List String}
    (h : ∀ p ∈ kvs, p.1 ∈ fields) : KeysAmong (Value.obj kvs) fields := by
  refine ⟨_, Value.view_obj, ?_⟩
  simp only [List.mem_map]
  rintro _ ⟨p, hp, rfl⟩
  exact ⟨p.1, h p hp, rfl⟩


/-! ### Reader steps on written fields -/

/-- A check that succeeds succeeds with the unit. -/
theorem eq_ok_unit {ε : Type} {x : Except ε Unit} (h : ∃ u, x = .ok u) : x = .ok () := by
  obtain ⟨⟨⟩, hu⟩ := h
  exact hu

theorem checkDeviceKeys_eq_ok {doc : Value} (h : KeysAmong doc deviceFields) :
    checkDeviceKeys doc = .ok () :=
  eq_ok_unit ((checkKeys_ok_iff fun _ => isDeviceField_iff).2 h)

theorem checkFields_eq_ok {doc : Value} {legal : List String} {label : String}
    (h : FieldsWithin doc legal) : checkFields doc legal label = .ok () :=
  eq_ok_unit (checkFields_ok_iff.2 h)

/-- Items written by `g` and read by a reader that undoes `g` are read back. -/
theorem mapM_map_eq_ok {ε α β : Type} {f : β → Except ε α} {g : α → β}
    (h : ∀ a, f (g a) = .ok a) (xs : List α) : (xs.map g).mapM f = .ok xs := by
  induction xs with
  | nil => rfl
  | cons x xs ih => simp [List.mapM_cons, h x, ih]

theorem textList_strs (xs : List String) (field : String) :
    textList (.list (xs.map .str)) field = .ok xs := by
  simp only [textList, Value.view]
  apply mapM_map_eq_ok
  intro
  rfl

/-- A list of texts, written only when it is not empty, is read back. -/
theorem textList_entry (xs : List String) (field : String) :
    textList (if xs = [] then .null else .list (xs.map .str)) field = .ok xs := by
  split
  · rename_i h
    subst h
    rfl
  · exact textList_strs xs field

theorem optionalField_of_ok {α β : Type} {read : Value → Except UnitError α}
    {keep : Value → α → β} {wrap : UnitError → DeviceError} {v : Value} {a : α}
    (hv : v ≠ .null) (h : read v = .ok a) :
    optionalField read keep wrap v = .ok (some (keep v a)) := by
  unfold optionalField
  split
  · contradiction
  · rw [h]

theorem hexField_of_getD {doc : Value} {field : String} {o : Option Nat}
    (h : doc.getD field = (o.map idValue).getD .null) : hexField doc field = .ok o := by
  unfold hexField
  rw [h]
  cases o with
  | none => rfl
  | some n => exact optionalField_of_ok (by simp [idValue]) (parseHex_idValue n)

theorem declaredKind_name (kind : Option DeviceKind) :
    declaredKind ((kind.map fun k => Value.str k.name).getD .null) = .ok kind := by
  apply declaredKind_ok_iff.2
  cases kind with
  | none => exact Or.inl ⟨rfl, rfl⟩
  | some k => exact Or.inr ⟨k, rfl, rfl⟩

/-- A mapping whose keys are all allowed device fields passes both key checks. -/
theorem checks_obj {kvs : List (String × Value)} {legal : List String}
    (hlegal : ∀ f ∈ legal, f ∈ deviceFields) (h : ∀ p ∈ kvs, p.1 ∈ legal) :
    checkDeviceKeys (Value.obj kvs) = .ok () ∧
      ∀ label, checkFields (Value.obj kvs) legal label = .ok () :=
  ⟨checkDeviceKeys_eq_ok (keysAmong_obj fun p hp => hlegal _ (h p hp)),
    fun _ => checkFields_eq_ok (fieldsWithin_obj h)⟩

theorem usbFields_obj (kvs : List (String × Value)) :
    usbFields (Value.obj kvs) = kvs.filter fun p => p.1 != "type" && p.1 != "bus" && p.2.isSet := by
  induction kvs with
  | nil => rfl
  | cons p kvs ih =>
    obtain ⟨k, v⟩ := p
    simp only [usbFields, Value.view_obj, List.map_cons, List.filterMap_cons,
      List.filter_cons] at ih ⊢
    rw [ih]
    by_cases hk : k = "type"
    · simp [hk]
    by_cases hb : k = "bus"
    · simp [hb]
    cases hs : v.isSet <;> simp [hk, hb]

/-! ### Manifest fields read back -/

theorem gradeField_name (g : Grade) : gradeField g.name = .ok g := by
  cases g <;> rfl

/-- A size written as its text is read back, when the text reads as its bytes. -/
theorem sizeField_of_getD {doc : Value} {field : String} {wrap : UnitError → ManifestProblem}
    {o : Option Size} (h : doc.getD field = (o.map fun s => Value.str s.text).getD .null)
    (hs : ∀ s ∈ o, parseSize (.str s.text) = .ok s.bytes) : sizeField doc field wrap = .ok o := by
  unfold sizeField
  rw [h]
  cases o with
  | none => rfl
  | some s => simp [Value.plainChecked, Value.writable, Value.plain, hs s rfl]

theorem componentsField_strs (cs : List String) :
    componentsField (.list (cs.map .str)) = .ok cs := by
  unfold componentsField
  cases cs with
  | nil => rfl
  | cons c cs =>
    have ht : (Value.list ((c :: cs).map Value.str)).truthy = true := rfl
    rw [if_neg (by rw [ht]; decide)]
    dsimp only [Value.view]
    apply mapM_map_eq_ok
    intro
    rfl

theorem configEntries_obj {kvs : List (String × Value)} (h : ∀ p ∈ kvs, isPrimitive p.2 = true) :
    configEntries (Value.obj kvs) = .ok (kvs.map fun p => (.str p.1, p.2)) := by
  apply configEntries_ok_iff.2
  cases kvs with
  | nil => exact .inl ⟨rfl, rfl⟩
  | cons p kvs =>
    refine .inr ⟨rfl, rfl, ?_⟩
    rintro _ hq
    obtain ⟨q, hmem, rfl⟩ := List.mem_map.1 hq
    exact h q hmem

/-- Configurations written under distinct keys are read back in their order. -/
theorem foldlM_insertText {ε : Type}
    {f : List (String × Value) → Value × Value → Except ε (List (String × Value))}
    (hf : ∀ acc k v, f acc (.str k, v) = .ok (insertText acc k v)) (kvs : List (String × Value)) :
    ∀ acc : List (String × Value), (acc.map Prod.fst ++ kvs.map Prod.fst).Nodup →
      (kvs.map fun p => (Value.str p.1, p.2)).foldlM f acc = .ok (acc ++ kvs) := by
  induction kvs with
  | nil =>
    intro acc _
    simp
    rfl
  | cons p kvs ih =>
    intro acc hnodup
    have fresh : acc.any (·.1 == p.1) = false := by
      rw [List.any_eq_false]
      intro q hq heq
      have hp : p.1 ∈ acc.map Prod.fst := beq_iff_eq.1 heq ▸ List.mem_map_of_mem hq
      exact (List.nodup_append.1 hnodup).2.2 _ hp _ List.mem_cons_self rfl
    have rest : ((acc ++ [p]).map Prod.fst ++ kvs.map Prod.fst).Nodup := by
      simpa using hnodup
    simp only [List.map_cons, List.foldlM_cons, hf, insertText, fresh, Bool.false_eq_true,
      if_false, ok_bind, ih _ rest, List.append_assoc, List.singleton_append]

theorem configTexts_obj {kvs : List (String × Value)} (h : (kvs.map Prod.fst).Nodup) :
    configTexts (kvs.map fun p => (.str p.1, p.2)) = .ok kvs := by
  unfold configTexts
  simpa using foldlM_insertText (fun _ _ _ => rfl) kvs [] (by simpa using h)

theorem mapM_zipIdx_map_eq_ok {ε α β : Type} {f : β × Nat → Except ε α} {g : α → β}
    {xs : List α} (h : ∀ a ∈ xs, ∀ i, f (g a, i) = .ok a) (n : Nat) :
    ((xs.map g).zipIdx n).mapM f = .ok xs := by
  induction xs generalizing n with
  | nil => rfl
  | cons x xs ih =>
    have rest := ih (fun a ha => h a (List.mem_cons_of_mem x ha)) (n + 1)
    simp [List.zipIdx_cons, List.mapM_cons, h x List.mem_cons_self, rest]

/-- A group written as the list of its requirements, or left out when empty, is read back. -/
theorem parseGroup_of_getD {doc : Value} {group : String} {rs : List Requirement}
    (hv : doc.getD group = if rs = [] then .null else .list (rs.map Requirement.toValue))
    (h : ∀ r ∈ rs, Requirement.parse r.toValue = .ok r) : parseGroup doc group = .ok rs := by
  unfold parseGroup
  dsimp only
  rw [hv]
  split
  · rename_i hnil
    subst hnil
    rfl
  · rename_i hne
    have ht : (Value.list (rs.map Requirement.toValue)).truthy = true := by
      simp [Value.truthy, hne]
    simp only [ht, Bool.not_true, Bool.false_eq_true, if_false, Value.view, pure_bind]
    exact mapM_zipIdx_map_eq_ok (fun r hr i => by simp [h r hr]) 0

theorem parseDevices_devicesValue {m : Manifest}
    (h : ∀ r ∈ m.allOf ++ m.anyOf, Requirement.parse r.toValue = .ok r) :
    parseDevices m.devicesValue = .ok (m.allOf, m.anyOf) := by
  have keys : checkKeys m.devicesValue isGroupField
      ManifestProblem.devicesNotMapping ManifestProblem.unknownGroup = .ok () := by
    have among : KeysAmong m.devicesValue ["allof", "anyof"] := by
      apply keysAmong_obj
      simp only [List.forall_mem_append]
      constructor <;> split <;> simp
    exact eq_ok_unit ((checkKeys_ok_iff fun _ => isGroupField_iff).2 among)
  have hall : m.devicesValue.getD "allof" =
      if m.allOf = [] then .null else .list (m.allOf.map Requirement.toValue) := by
    by_cases ha : m.allOf = [] <;> by_cases hb : m.anyOf = [] <;>
      simp [Manifest.devicesValue, ha, hb]
  have hany : m.devicesValue.getD "anyof" =
      if m.anyOf = [] then .null else .list (m.anyOf.map Requirement.toValue) := by
    by_cases ha : m.allOf = [] <;> by_cases hb : m.anyOf = [] <;>
      simp [Manifest.devicesValue, ha, hb]
  have hview : m.devicesValue.view = .dict _ := Value.view_obj
  unfold parseDevices
  rw [hview]
  dsimp only
  rw [keys, ok_bind,
    parseGroup_of_getD hall fun r hr => h r (List.mem_append_left _ hr), ok_bind,
    parseGroup_of_getD hany fun r hr => h r (List.mem_append_right _ hr), ok_bind]
  rfl

end EngineFit
