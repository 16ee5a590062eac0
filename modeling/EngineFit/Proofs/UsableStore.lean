import EngineFit.Proofs.LayeredDocument
import EngineFit.Proofs.WritableDocuments
import EngineFit.Proofs.DottedKeys

/-!
# Stores the layered interface works on

A configuration store is *usable* (`ConfigStore.Usable`) when its document is a JSON object whose
`layers` and `cache` sections are objects, and its configuration file can be written. On a usable
store the calls of the layered interface with JSON values fail only by refusing their arguments
(`ConfigError.refusesArguments`): an empty key or engine name, a name that names no layer, or a
user override of a key that no lower layer defines. No call meets a section of the wrong kind,
a key that is no text, or a save that cannot be written, and each leaves the store usable, also
when it fails (`ConfigStore.answerAll_refuses_only`).

The proof is a small Hoare logic over `ConfigM` with the invariant built in:
`ConfigStore.KeepsUsable m Q` says that `m`, run on a usable store, leaves a usable store and
answers with a result satisfying `Q` or refuses its arguments. Its rules for `pure`, `throw`,
`bind` and `forIn` carry it through the store's operations, each proved once from the rules for
the operations it calls.
-/

namespace EngineFit

/-! ### JSON objects -/

namespace Json

theorem isValue_dict_iff {kvs : List (Value × Value)} :
    IsValue (.dict kvs) ↔ Value.TextEntries IsValue kvs := by
  constructor
  · intro h
    cases h with
    | dict hkeys hvalues => exact fun p hp => ⟨hkeys p hp, hvalues p hp⟩
  · intro h
    exact .dict (fun p hp => (h p hp).1) (fun p hp => (h p hp).2)

/-- A value found in a JSON object is a JSON value. -/
theorem IsValue.of_lookup {kvs : List (Value × Value)} {k v : Value}
    (h : IsValue (.dict kvs)) (hv : Value.lookup kvs k = some v) : IsValue v := by
  unfold Value.lookup at hv
  obtain ⟨p, hp, rfl⟩ := Option.map_eq_some_iff.1 hv
  exact (isValue_dict_iff.1 h p (List.mem_of_find?_eq_some hp)).2

/-- Writing a JSON value under a text key keeps an object a JSON value. -/
theorem IsValue.insertEntry {kvs : List (Value × Value)} (h : IsValue (.dict kvs)) (k : String)
    {v : Value} (hv : IsValue v) : IsValue (.dict (Value.insertEntry kvs (.str k) v)) :=
  isValue_dict_iff.2 ((isValue_dict_iff.1 h).insertEntry ⟨k, rfl⟩ hv)

/-- JSON values are closed under what the reader builds. -/
theorem readClosed_isValue : ReadClosed IsValue where
  str := .str
  null := .null
  bool := .bool
  float := .float
  int h := .int (of_decide_eq_true h)
  list h := .list h
  dict h := isValue_dict_iff.2 h

/-- **The reader reads only JSON values**: objects under text keys, and integers it can write. -/
theorem read_isValue {room : Nat} {text : String} {v : Value} (h : read room text = .ok v) :
    IsValue v :=
  read_closed readClosed_isValue h

end Json

/-- Entries with text keys have text keys. -/
theorem Value.TextEntries.keys {P : Value → Prop} {kvs : List (Value × Value)}
    (h : Value.TextEntries P kvs) : Value.TextEntries (fun _ => True) kvs :=
  fun p hp => ⟨(h p hp).1, trivial⟩

/-- Writing entries one by one keeps entries text-keyed with `P` when they are. -/
theorem Value.TextEntries.foldl_insertEntry {P : Value → Prop} {acc kvs : List (Value × Value)}
    (hacc : Value.TextEntries P acc) (hkvs : Value.TextEntries P kvs) :
    Value.TextEntries P (kvs.foldl (fun acc x => Value.insertEntry acc x.1 x.2) acc) := by
  induction kvs generalizing acc with
  | nil => exact hacc
  | cons p kvs ih =>
    obtain ⟨hk, hv⟩ := hkvs p List.mem_cons_self
    exact ih (hacc.insertEntry hk hv) fun q hq => hkvs q (List.mem_cons_of_mem p hq)

/-! ### Usable stores -/

/-- The errors by which a call refuses its arguments: an empty key or engine name, a name that
names no layer, and a user override of a key that no lower layer defines. -/
def ConfigError.refusesArguments : ConfigError → Bool
  | .emptyKey | .emptyEngineName | .unknownLayer _ | .unknownKey _ => true
  | _ => false

namespace ConfigStore

/-- A store the layered interface works on: its document is a JSON object whose `layers` and
`cache` sections are objects, and its configuration file can be written. -/
structure Usable (c : ConfigStore) : Prop where
  json : Json.IsValue (.dict c.doc)
  layers : ∃ ls, Value.lookup c.doc (.str "layers") = some (.dict ls)
  cache : ∃ cs, Value.lookup c.doc (.str "cache") = some (.dict cs)
  writable : c.files.Writable (fileIn c.dir)

/-- Notes are no part of usability. -/
theorem Usable.note {c : ConfigStore} (hc : Usable c) (chs : List (List String)) :
    Usable { c with changes := chs } :=
  ⟨hc.json, hc.layers, hc.cache, hc.writable⟩

/-- Writing a JSON value into a section keeps a store usable, provided that the `layers` and
`cache` sections stay objects. -/
theorem Usable.insertSection {c : ConfigStore} (hc : Usable c) (k : String) {v : Value}
    (hv : Json.IsValue v) (hlayers : k = "layers" → ∃ ls, v = .dict ls)
    (hcache : k = "cache" → ∃ cs, v = .dict cs) :
    Usable { c with doc := Value.insertEntry c.doc (.str k) v } := by
  refine ⟨hc.json.insertEntry k hv, ?_, ?_, hc.writable⟩
  · by_cases hk : k = "layers"
    · obtain ⟨ls, rfl⟩ := hlayers hk
      exact ⟨ls, by simp [Value.lookup_insertEntry_str, hk]⟩
    · simpa [Value.lookup_insertEntry_str, hk] using hc.layers
  · by_cases hk : k = "cache"
    · obtain ⟨cs, rfl⟩ := hcache hk
      exact ⟨cs, by simp [Value.lookup_insertEntry_str, hk]⟩
    · simpa [Value.lookup_insertEntry_str, hk] using hc.cache

/-- Run on a usable store, an operation leaves a usable store, and answers with a result that
satisfies `Q` or refuses its arguments. -/
def KeepsUsable {α : Type} (m : ConfigM α) (Q : α → Prop) : Prop :=
  ∀ c, Usable c → Usable (m.run.run c).2 ∧
    match (m.run.run c).1 with
    | .ok a => Q a
    | .error e => e.refusesArguments = true

namespace KeepsUsable

variable {α β : Type} {m : ConfigM α} {Q R : α → Prop}

theorem pure {a : α} (h : Q a) : KeepsUsable (pure a) Q :=
  fun _ hc => ⟨hc, h⟩

theorem throw {e : ConfigError} (h : e.refusesArguments = true) : KeepsUsable (throw e) Q :=
  fun _ hc => ⟨hc, h⟩

theorem mono (hm : KeepsUsable m Q) (hQR : ∀ a, Q a → R a) : KeepsUsable m R := by
  intro c hc
  obtain ⟨hc', hr⟩ := hm c hc
  refine ⟨hc', ?_⟩
  split at hr
  · exact hQR _ hr
  · exact hr

/-- The rule of sequence: the result of the first operation, with what it satisfies, is passed on
to the rest. -/
theorem bind {f : α → ConfigM β} {R : β → Prop} (hm : KeepsUsable m Q)
    (hf : ∀ a, Q a → KeepsUsable (f a) R) : KeepsUsable (m >>= f) R := by
  intro c hc
  obtain ⟨hc', hr⟩ := hm c hc
  cases hrun : m.run.run c with
  | mk r c' =>
    rw [hrun] at hc' hr
    cases r with
    | ok a => rw [run_bind_ok hrun]; exact hf a hr c' hc'
    | error e => rw [run_bind_error hrun]; exact ⟨hc', hr⟩

theorem getThe : KeepsUsable (getThe ConfigStore) Usable :=
  fun _ hc => ⟨hc, hc⟩

theorem get : KeepsUsable (get : ConfigM ConfigStore) Usable :=
  fun _ hc => ⟨hc, hc⟩

theorem set {c' : ConfigStore} (h : Usable c') : KeepsUsable (set c' : ConfigM PUnit) fun _ => True :=
  fun _ _ => ⟨h, trivial⟩

theorem note (position : List String) : KeepsUsable (note position) fun _ => True :=
  fun _ hc => ⟨hc.note _, trivial⟩

theorem modifyThe {f : ConfigStore → ConfigStore} (hf : ∀ c, Usable c → Usable (f c)) :
    KeepsUsable (modifyThe ConfigStore f) fun _ => True :=
  fun c hc => ⟨hf c hc, trivial⟩

/-- An operation that fails at once, by refusing its arguments, leaves the rest unrun. -/
theorem throw_bind {e : ConfigError} {f : α → ConfigM β} {R : β → Prop}
    (h : e.refusesArguments = true) : KeepsUsable (MonadExcept.throw e >>= f) R :=
  bind (throw (Q := fun _ => False) h) fun _ h => h.elim

theorem map {f : α → β} {R : β → Prop} (hm : KeepsUsable m Q) (hf : ∀ a, Q a → R (f a)) :
    KeepsUsable (f <$> m) R := by
  rw [map_eq_pure_bind]
  exact bind hm fun a ha => pure (hf a ha)

theorem ofExcept {x : Except ConfigError α} (h : ∃ a, x = .ok a ∧ Q a) :
    KeepsUsable (ofExcept x) Q := by
  obtain ⟨a, rfl, ha⟩ := h
  exact pure ha

/-- The rule of loops: an invariant of the loop's state that each round keeps holds after the
loop, whether it runs to the end or stops early. -/
theorem forIn {γ : Type} (xs : List γ) {b : β} {body : γ → β → ConfigM (ForInStep β)}
    {I : β → Prop} (hb : I b) (hbody : ∀ x ∈ xs, ∀ b, I b → KeepsUsable (body x b) (I ·.value)) :
    KeepsUsable (forIn xs b body) I := by
  induction xs generalizing b with
  | nil => exact pure hb
  | cons x xs ih =>
    rw [List.forIn_cons]
    refine bind (hbody x List.mem_cons_self b hb) fun step hstep => ?_
    cases step with
    | done b' => exact pure hstep
    | yield b' => exact ih hstep fun y hy => hbody y (List.mem_cons_of_mem x hy)

end KeepsUsable

/-- Stamping the time of a save keeps a store usable: the stamp is a text, under a section
other than `layers` and `cache`. -/
theorem Usable.stamped {c : ConfigStore} (hc : Usable c) : Usable c.stamped :=
  have h := hc.insertSection "updated_at" (.str _) (fun h => absurd h (by decide))
    (fun h => absurd h (by decide))
  ⟨h.json, h.layers, h.cache, h.writable⟩

/-- **Saving a usable store** succeeds and keeps it usable: its stamped document is a JSON value,
so it is written without a fault, and the file written can be written again. -/
theorem save_keepsUsable : KeepsUsable save fun _ => True := by
  intro c hc
  have hs := hc.stamped
  obtain ⟨files, hsave, hread⟩ := save_run hc.writable (Json.emit_fault_eq_none hs.json 2 0)
  rw [hsave]
  exact ⟨⟨hs.json, hs.layers, hs.cache, FileTree.writable_of_read hread⟩, trivial⟩

/-! ### Tests that succeed -/

/-- Whether a text key lies within a text is always answered. -/
theorem keyWithinValue_ok {k : Value} (hk : ∃ s, k = .str s) (key : String) :
    ∃ b, keyWithinValue k (.str key) = .ok b := by
  obtain ⟨s, rfl⟩ := hk
  exact ⟨_, keyWithinValue_str s key⟩

/-- A filter whose every test succeeds succeeds. -/
theorem filterM_ok {γ ε : Type} {f : γ → Except ε Bool} {xs : List γ}
    (h : ∀ x ∈ xs, ∃ b, f x = .ok b) : ∃ r, xs.filterM f = .ok r := by
  suffices hacc : ∀ acc, ∃ r, xs.filterAuxM f acc = .ok r by
    obtain ⟨r, hr⟩ := hacc []
    exact ⟨r.reverse, by simp [List.filterM, hr, bind, Except.bind, pure, Except.pure]⟩
  induction xs with
  | nil => exact fun acc => ⟨acc, rfl⟩
  | cons x xs ih =>
    intro acc
    obtain ⟨b, hb⟩ := h x List.mem_cons_self
    obtain ⟨r, hr⟩ := ih (fun y hy => h y (List.mem_cons_of_mem x hy)) (cond b (x :: acc) acc)
    exact ⟨r, by simp [List.filterAuxM, hb, bind, Except.bind, hr]⟩

/-- A map whose every step succeeds succeeds. -/
theorem mapM_ok {γ δ ε : Type} {f : γ → Except ε δ} {xs : List γ}
    (h : ∀ x ∈ xs, ∃ y, f x = .ok y) : ∃ r, xs.mapM f = .ok r := by
  induction xs with
  | nil => exact ⟨[], rfl⟩
  | cons x xs ih =>
    obtain ⟨y, hy⟩ := h x List.mem_cons_self
    obtain ⟨r, hr⟩ := ih fun z hz => h z (List.mem_cons_of_mem x hz)
    exact ⟨y :: r, by simp [List.mapM_cons, hy, hr, bind, Except.bind, pure, Except.pure]⟩

/-- Whether some text key lies within a text is always answered. -/
theorem anyWithin_ok (key : String) {kvs : List (Value × Value)}
    (h : Value.TextEntries (fun _ => True) kvs) : ∃ b, anyWithin (.str key) kvs = .ok b := by
  induction kvs with
  | nil => exact ⟨false, rfl⟩
  | cons p kvs ih =>
    obtain ⟨k, v⟩ := p
    obtain ⟨b, hb⟩ := keyWithinValue_ok (h _ List.mem_cons_self).1 key
    obtain ⟨b', hb'⟩ := ih fun q hq => h q (List.mem_cons_of_mem _ hq)
    simp only [anyWithin, hb]
    cases b
    · exact ⟨b', hb'⟩
    · exact ⟨true, rfl⟩

/-! ### The store's operations -/

/-- Replacing a layer by entries with text keys and JSON values keeps a store usable. -/
theorem putLayer_keepsUsable (l : Layer) {kvs : List (Value × Value)}
    (hkvs : Value.TextEntries Json.IsValue kvs) : KeepsUsable (putLayer l kvs) fun _ => True := by
  unfold putLayer
  refine KeepsUsable.bind KeepsUsable.getThe fun s hs => ?_
  obtain ⟨ls, hls⟩ := hs.layers
  simp only [hls]
  have hlayer : Json.IsValue (.dict (Value.insertEntry ls (.str l.name) (.dict kvs))) :=
    (hs.json.of_lookup hls).insertEntry l.name (Json.isValue_dict_iff.2 hkvs)
  exact KeepsUsable.set (hs.insertSection "layers" hlayer (fun _ => ⟨_, rfl⟩)
    (fun h => absurd h (by decide)))

/-- **Reading a layer** of a usable store keeps it usable and answers entries with text keys and
JSON values; a layer that is no object is replaced by an empty one. -/
theorem layerEntries_keepsUsable (l : Layer) :
    KeepsUsable (layerEntries l) (Value.TextEntries Json.IsValue) := by
  unfold layerEntries
  refine KeepsUsable.bind KeepsUsable.getThe fun s hs => ?_
  obtain ⟨ls, hls⟩ := hs.layers
  simp only [hls]
  split
  · rename_i kvs hkvs
    exact KeepsUsable.pure (Json.isValue_dict_iff.1 ((hs.json.of_lookup hls).of_lookup hkvs))
  · refine KeepsUsable.bind (KeepsUsable.note _) fun _ _ => ?_
    refine KeepsUsable.bind (putLayer_keepsUsable l (by simp [Value.TextEntries])) fun _ _ => ?_
    exact KeepsUsable.pure (by simp [Value.TextEntries])

theorem layerNamed_keepsUsable (name : String) : KeepsUsable (layerNamed name) fun _ => True := by
  unfold layerNamed
  split
  · exact KeepsUsable.pure trivial
  · exact KeepsUsable.throw rfl

/-- **The layered view** of a usable store is always answered: the layers' keys are texts. -/
theorem layered_keepsUsable (key : String) : KeepsUsable (layered key) fun _ => True := by
  unfold layered
  dsimp only
  -- the entries merged so far have text keys
  refine KeepsUsable.bind (KeepsUsable.forIn (I := Value.TextEntries fun _ => True) _
    (by simp [Value.TextEntries]) fun l _ merged hmerged => ?_) fun merged hmerged => ?_
  · refine KeepsUsable.bind (layerEntries_keepsUsable l) fun kvs hkvs => ?_
    refine KeepsUsable.bind (KeepsUsable.forIn (I := Value.TextEntries fun _ => True) _ hmerged
      fun p hp acc hacc => ?_) fun r hr => KeepsUsable.pure hr
    obtain ⟨k, v⟩ := p
    exact KeepsUsable.pure (hacc.insertEntry (hkvs _ hp).1 trivial)
  · refine KeepsUsable.ofExcept ((filterM_ok fun p hp => ?_).imp fun r hr => ⟨hr, trivial⟩)
    obtain ⟨k, v⟩ := p
    exact keyWithinValue_ok (hmerged _ hp).1 key

/-- Whether some key of entries with text keys lies within a text is always answered. -/
theorem anyWithin_keepsUsable (key : String) {kvs : List (Value × Value)}
    (h : Value.TextEntries (fun _ => True) kvs) :
    KeepsUsable (ofExcept (anyWithin (.str key) kvs)) fun _ => True :=
  KeepsUsable.ofExcept ((anyWithin_ok key h).imp fun _ hb => ⟨hb, trivial⟩)

theorem definedBelowUser_keepsUsable (key : String) :
    KeepsUsable (definedBelowUser key) fun _ => True := by
  unfold definedBelowUser
  refine KeepsUsable.bind (layerEntries_keepsUsable .package) fun package hpackage => ?_
  refine KeepsUsable.bind (anyWithin_keepsUsable key (Value.TextEntries.keys hpackage)) fun b _ => ?_
  split
  · exact KeepsUsable.pure trivial
  · refine KeepsUsable.bind (layerEntries_keepsUsable .engine) fun engine hengine => ?_
    exact anyWithin_keepsUsable key (Value.TextEntries.keys hengine)

theorem setLayerValue_keepsUsable (key : String) {v : Value} (hv : Json.IsValue v)
    (layerName : String) : KeepsUsable (setLayerValue key v layerName) fun _ => True := by
  unfold setLayerValue
  -- the steps after the key's checks
  have hrest : KeepsUsable (do
      let l ← layerNamed layerName
      let kvs ← layerEntries l
      note ["layers", l.name, key]
      putLayer l (Value.insertEntry kvs (.str key) v)
      save) fun _ => True := by
    refine KeepsUsable.bind (layerNamed_keepsUsable layerName) fun l _ => ?_
    refine KeepsUsable.bind (layerEntries_keepsUsable l) fun kvs hkvs => ?_
    refine KeepsUsable.bind (KeepsUsable.note _) fun _ _ => ?_
    refine KeepsUsable.bind (putLayer_keepsUsable l (hkvs.insertEntry ⟨key, rfl⟩ hv)) fun _ _ => ?_
    exact save_keepsUsable
  dsimp only
  split
  · exact KeepsUsable.throw_bind rfl
  · split
    · refine KeepsUsable.bind (definedBelowUser_keepsUsable key) fun b _ => ?_
      split
      · exact KeepsUsable.throw_bind rfl
      · exact hrest
    · exact hrest

theorem removeWithin_keepsUsable (key : String) (l : Layer) :
    KeepsUsable (removeWithin (.str key) l) fun _ => True := by
  unfold removeWithin
  refine KeepsUsable.bind (layerEntries_keepsUsable l) fun kvs hkvs => ?_
  -- every key of the layer is a text, so every test succeeds
  refine KeepsUsable.bind (KeepsUsable.ofExcept
    ((mapM_ok fun p hp => ?_).imp fun r hr => ⟨hr, trivial⟩)) fun inside _ => ?_
  · obtain ⟨k, v⟩ := p
    exact keyWithinValue_ok (hkvs _ hp).1 key
  dsimp only
  refine KeepsUsable.bind (KeepsUsable.forIn (I := fun _ => True) _ trivial
    fun x _ _ _ => ?_) fun _ _ => ?_
  · obtain ⟨⟨k, v⟩, within⟩ := x
    split
    · exact KeepsUsable.bind (KeepsUsable.note _) fun _ _ => KeepsUsable.pure trivial
    · exact KeepsUsable.pure trivial
  · split
    · -- the entries kept are entries of the layer
      refine KeepsUsable.bind (putLayer_keepsUsable l fun p hp => hkvs p ?_) fun _ _ =>
        KeepsUsable.pure trivial
      obtain ⟨⟨p', b⟩, hq, rfl⟩ := List.mem_map.1 hp
      exact (List.of_mem_zip (List.mem_filter.1 hq).1).1
    · exact KeepsUsable.pure trivial

/-- A loop that only notes positions keeps a store usable. -/
theorem notes_keepsUsable {γ : Type} (xs : List γ) {f : γ → List String} :
    KeepsUsable (forIn xs PUnit.unit fun x _ => do
      note (f x)
      pure (ForInStep.yield PUnit.unit)) fun _ => True :=
  KeepsUsable.forIn (I := fun _ => True) xs trivial fun _ _ _ _ =>
    KeepsUsable.bind (KeepsUsable.note _) fun _ _ => KeepsUsable.pure trivial

theorem unsetLayerValue_keepsUsable (key layerName : String) :
    KeepsUsable (unsetLayerValue key layerName) fun _ => True := by
  unfold unsetLayerValue
  refine KeepsUsable.bind (layerNamed_keepsUsable layerName) fun l _ => ?_
  refine KeepsUsable.bind (removeWithin_keepsUsable key l) fun n _ => ?_
  dsimp only
  split
  · exact KeepsUsable.bind save_keepsUsable fun _ _ => KeepsUsable.pure trivial
  · exact KeepsUsable.pure trivial

/-- Writing a text as the active engine into the `cache` object keeps a store usable. -/
theorem Usable.putActiveEngine {c : ConfigStore} (hc : Usable c) {cs : List (Value × Value)}
    (hcs : Value.lookup c.doc (.str "cache") = some (.dict cs)) (name : String) :
    Usable { c with
      doc := Value.insertEntry c.doc (.str "cache")
        (.dict (Value.insertEntry cs (.str "active-engine") (.str name))) } :=
  hc.insertSection "cache" ((hc.json.of_lookup hcs).insertEntry "active-engine" (.str name))
    (fun h => absurd h (by decide)) fun _ => ⟨_, rfl⟩

/-- Recording a text as the active engine keeps a store usable: the dotted key leads into the
`cache` object. -/
theorem Usable.setActive {c : ConfigStore} (hc : Usable c) (name : String) :
    Usable { c with doc := Config.setAt c.doc (Config.keyParts "cache.active-engine") (.str name) } := by
  obtain ⟨cs, hcs⟩ := hc.cache
  rw [LayeredStore.keyParts_activeEngine]
  simp only [Config.setAt, hcs]
  exact hc.putActiveEngine hcs name

theorem setActiveEngine_keepsUsable (name : String) :
    KeepsUsable (setActiveEngine (.str name)) fun _ => True := by
  unfold setActiveEngine setValue
  dsimp only
  split
  · exact KeepsUsable.throw_bind rfl
  · refine KeepsUsable.bind KeepsUsable.getThe fun s _ => ?_
    refine KeepsUsable.bind (KeepsUsable.note _) fun _ _ => ?_
    refine KeepsUsable.bind (KeepsUsable.modifyThe fun c hc => hc.setActive name) fun _ _ => ?_
    exact save_keepsUsable

theorem get?_keepsUsable (key : String) (d : Value) :
    KeepsUsable (get? key d) fun _ => True :=
  KeepsUsable.bind KeepsUsable.getThe fun _ _ => KeepsUsable.pure trivial

theorem activeEngine_keepsUsable : KeepsUsable activeEngine fun _ => True :=
  KeepsUsable.bind (get?_keepsUsable _ _) fun _ _ => KeepsUsable.pure trivial

theorem activateEngine_keepsUsable (name : String) {kvs : List (Value × Value)}
    (hkvs : Value.TextEntries Json.IsValue kvs) (previous : List String) :
    KeepsUsable (activateEngine (.str name) (.dict kvs) (.list (previous.map .str)))
      fun _ => True := by
  unfold activateEngine
  dsimp only
  split
  · exact KeepsUsable.throw_bind rfl
  -- the engine layer is emptied
  refine KeepsUsable.bind (layerEntries_keepsUsable .engine) fun _ _ => ?_
  refine KeepsUsable.bind (notes_keepsUsable _) fun _ _ => ?_
  refine KeepsUsable.bind (putLayer_keepsUsable .engine (by simp [Value.TextEntries]))
    fun _ _ => ?_
  -- the user overrides within the previous engine's keys, all texts, are dropped
  have hmembers : (Value.list (previous.map Value.str)).members = some (previous.map .str) := rfl
  simp only [hmembers]
  refine KeepsUsable.bind (KeepsUsable.pure (Q := fun ks => ∀ k ∈ ks, ∃ s, k = .str s)
    fun k hk => by
      obtain ⟨s, -, rfl⟩ := List.mem_map.1 hk
      exact ⟨s, rfl⟩) fun keys hkeys => ?_
  refine KeepsUsable.bind (KeepsUsable.forIn (I := fun _ => True) _ trivial
    fun key hkey _ _ => ?_) fun _ _ => ?_
  · obtain ⟨s, rfl⟩ := hkeys key hkey
    exact KeepsUsable.bind (removeWithin_keepsUsable s .user) fun _ _ => KeepsUsable.pure trivial
  -- the configurations, a mapping, are put over the engine layer
  refine KeepsUsable.bind (layerEntries_keepsUsable .engine) fun engine hengine => ?_
  have hpairs : updatePairs (.dict kvs) = (kvs, none) := rfl
  simp only [hpairs]
  refine KeepsUsable.bind (notes_keepsUsable _) fun _ _ => ?_
  refine KeepsUsable.bind (putLayer_keepsUsable .engine (hengine.foldl_insertEntry hkvs))
    fun _ _ => ?_
  -- the engine is recorded in the `cache` object
  refine KeepsUsable.bind (KeepsUsable.note _) fun _ _ => ?_
  refine KeepsUsable.bind KeepsUsable.getThe fun s hs => ?_
  obtain ⟨cs, hcs⟩ := hs.cache
  simp only [hcs]
  exact KeepsUsable.bind (KeepsUsable.set (hs.putActiveEngine hcs name)) fun _ _ => save_keepsUsable

/-! ### The layered interface -/

/-- **One call of the layered interface** with JSON values keeps a store usable, and answers or
refuses its arguments. -/
theorem perform_keepsUsable {call : LayerCall} (hcall : call.IsJson) :
    KeepsUsable call.perform fun a => ∀ e, a ≠ .failed e := by
  cases call with
  | setValue key v layerName =>
    exact KeepsUsable.bind (setLayerValue_keepsUsable key hcall layerName) fun _ _ =>
      KeepsUsable.pure nofun
  | unset key layerName =>
    exact KeepsUsable.map (unsetLayerValue_keepsUsable key layerName) fun _ _ => nofun
  | activate name configurations previous =>
    -- the configurations are settings: text keys, and JSON values by the call's promise
    have hconf : Value.TextEntries Json.IsValue configurations.entries := by
      intro p hp
      obtain ⟨q, hq, rfl⟩ := List.mem_map.1 hp
      exact ⟨⟨q.1, rfl⟩, hcall q hq⟩
    exact KeepsUsable.bind (activateEngine_keepsUsable name hconf previous) fun _ _ =>
      KeepsUsable.pure nofun
  | setActive name =>
    exact KeepsUsable.bind (setActiveEngine_keepsUsable name) fun _ _ => KeepsUsable.pure nofun
  | getActive => exact KeepsUsable.map activeEngine_keepsUsable fun _ _ => nofun
  | layered key => exact KeepsUsable.map (layered_keepsUsable key) fun _ _ => nofun

/-- A call answered on a usable store leaves it usable, and its answer is a failure only when it
refuses its arguments. -/
theorem answer_keepsUsable {c : ConfigStore} (hc : Usable c) {call : LayerCall}
    (hcall : call.IsJson) :
    Usable (c.answer call).2 ∧ ∀ e, (c.answer call).1 = .failed e → e.refusesArguments = true := by
  obtain ⟨hc', hr⟩ := perform_keepsUsable hcall c hc
  unfold answer
  split
  · rename_i a c' hrun
    rw [hrun] at hc' hr
    exact ⟨hc', fun e he => absurd he (hr e)⟩
  · rename_i e c' hrun
    rw [hrun] at hc' hr
    exact ⟨hc', fun e' he => by cases he; exact hr⟩

/-- **On a usable store the layered interface fails only by refusing arguments.** Along every
sequence of calls whose values are JSON values, the store stays usable, and every call that
fails refuses its arguments: an empty key or engine name, a name that names no layer, or a user
override of a key that no lower layer defines. -/
theorem answerAll_refuses_only {c : ConfigStore} (hc : Usable c) (calls : List LayerCall)
    (hcalls : ∀ call ∈ calls, call.IsJson) :
    Usable (c.answerAll calls).2 ∧
      ∀ e, LayerAnswer.failed e ∈ (c.answerAll calls).1 → e.refusesArguments = true := by
  -- induction over the calls, each answered on the store the one before left
  induction calls generalizing c with
  | nil => exact ⟨hc, fun e he => nomatch he⟩
  | cons call calls ih =>
    obtain ⟨hc', hfirst⟩ := answer_keepsUsable hc (hcalls call List.mem_cons_self)
    obtain ⟨hlast, hrest⟩ := ih hc' fun call' h' => hcalls call' (List.mem_cons_of_mem call h')
    refine ⟨hlast, fun e he => ?_⟩
    rcases List.mem_cons.1 he with he | he
    · exact hfirst e he.symm
    · exact hrest e he

end ConfigStore

end EngineFit
