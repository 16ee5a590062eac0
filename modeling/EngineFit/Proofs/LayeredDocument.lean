import EngineFit.Proofs.ConfigFile

/-!
# The document a layered store is kept in

A configuration store opened where there was no configuration file keeps its settings in a
document of seven sections: `schema_version`, the time stamps `created_at` and `updated_at`,
`cache`, `paths`, `hardware` and `layers`. The calls of the layered interface rewrite only the
`cache` and `layers` sections, and each save stamps `updated_at`, so the document is a function
of the layered store it keeps and of its two stamps (`LayeredStore.document`): the stamps, the
active engine under `cache`, each layer's settings under `layers`, as entries with text keys.

This module computes the parts of that document, proves it a JSON value when the layers' values
are (`LayeredStore.isValue_document`), and gives each helper of the store its run on a store
whose document is that of a layered store: reading and replacing a layer, asking whether a key
is defined below the user layer, and removing the keys within a key.
-/

namespace EngineFit

/-! ### Settings as entries with text keys -/

theorem keyWithinValue_str (k key : String) :
    keyWithinValue (.str k) (.str key) = .ok (keyWithin k key) := by
  unfold keyWithinValue
  by_cases he : key.isEmpty
  · simp [Value.truthy, he, keyWithin]
  · by_cases hk : k = key
    · subst hk
      simp [Value.truthy, he, Value.same, keyWithin]
    · simp [Value.truthy, he, Value.same, hk]

namespace Settings

theorem insertEntry_entries (s : Settings) (key : String) (v : Value) :
    Value.insertEntry s.entries (.str key) v = (s.put key v).entries := by
  simp only [entries, put, Keyed.put, Value.insertEntry, List.any_map]
  have hkey : ((fun p => Value.keySame p.1 (.str key)) ∘
      fun p : String × Value => (Value.str p.1, p.2)) = (·.1 == key) := rfl
  rw [hkey]
  split
  · simp only [List.map_map]
    congr 1
    funext p
    by_cases h : p.1 = key <;> simp [h, Value.keySame]
  · simp

/-- Putting entries with text keys into a mapping one by one is putting the settings over. -/
theorem foldl_insertEntry_entries (top below : Settings) :
    top.entries.foldl (fun acc p => Value.insertEntry acc p.1 p.2) below.entries =
      (top.overlay below).entries := by
  unfold overlay
  show (top.toList.map _).foldl _ below.entries = _
  generalize top.toList = kvs
  induction kvs generalizing below with
  | nil => rfl
  | cons p kvs ih =>
    rw [List.map_cons, List.foldl_cons, List.foldl_cons, insertEntry_entries]
    exact ih _

theorem mapM_keyWithinValue (key : String) (s : Settings) :
    s.entries.mapM (fun x => match x with | (k, _) => keyWithinValue k (.str key)) =
      .ok (s.toList.map (keyWithin ·.1 key)) := by
  unfold entries
  generalize s.toList = kvs
  induction kvs with
  | nil => rfl
  | cons p kvs ih =>
    simp only [List.map_cons, List.mapM_cons, keyWithinValue_str, ih]
    rfl

/-- Marking each entry by whether its key lies within `key`, the entries left unmarked are the
settings outside `key`. -/
theorem unmarked_entries (key : String) (s : Settings) :
    ((s.entries.zip (s.toList.map (keyWithin ·.1 key))).filter
        (fun x => match x with | (_, within) => !within)).map (fun x => x.fst) =
      (s.outside [key]).entries := by
  unfold entries outside
  simp only [List.any_cons, List.any_nil, Bool.or_false]
  generalize s.toList = kvs
  induction kvs with
  | nil => rfl
  | cons p kvs ih => cases h : keyWithin p.1 key <;> simp [h, ih]

/-- Keeping the entries whose keys lie within `key` keeps the settings within it. -/
theorem filterM_keyWithinValue (key : String) (s : Settings) :
    s.entries.filterM (fun x => keyWithinValue x.1 (.str key)) = .ok (s.within key).entries := by
  suffices h : ∀ acc, (s.entries.filterAuxM (fun x => keyWithinValue x.1 (.str key)) acc) =
      .ok ((s.within key).entries.reverse ++ acc) by
    simp only [List.filterM, h, List.append_nil]
    show Except.ok (s.within key).entries.reverse.reverse = _
    rw [List.reverse_reverse]
  unfold entries within
  simp only
  generalize s.toList = kvs
  induction kvs with
  | nil => intro acc; rfl
  | cons p kvs ih =>
    intro acc
    cases h : keyWithin p.1 key <;>
      simp [List.filterAuxM, keyWithinValue_str, h, ih, bind, Except.bind]

theorem anyWithin_entries (key : String) (s : Settings) :
    anyWithin (.str key) s.entries = .ok (s.toList.any (keyWithin ·.1 key)) := by
  unfold entries
  generalize s.toList = kvs
  induction kvs with
  | nil => rfl
  | cons p kvs ih =>
    simp only [List.map_cons, anyWithin, keyWithinValue_str, ih, List.any_cons]
    cases keyWithin p.1 key <;> rfl

end Settings

/-! ### The document -/

namespace Config

/-- The time stamps of a configuration: when it was made and when it was last saved, each a
time or unset. -/
structure Stamps where
  created : Option String := none
  updated : Option String := none

/-- A time stamp as the document holds it: the time, or null when unset. -/
def stampValue (t : Option String) : Value := (t.map .str).getD .null

theorem isValue_stampValue (t : Option String) : Json.IsValue (stampValue t) := by
  cases t with
  | none => exact .null
  | some t => exact .str t

end Config

namespace LayeredStore

/-- The active engine as the document holds it: its name, or null when none is set. -/
def activeValue (a : LayeredStore) : Value := (a.active.map .str).getD .null

/-- The `layers` section: the settings of each layer under the layer's name. -/
def layers (a : LayeredStore) : List (Value × Value) :=
  Layer.all.map fun l => (.str l.name, .dict (a.layer l).entries)

/-- The document a configuration store keeps a layered store in, with time stamps `st`: the
default sections, with the stamps under `created_at` and `updated_at`, the active engine under
`cache` and the three layers under `layers`. -/
def document (a : LayeredStore) (st : Config.Stamps) : List (Value × Value) :=
  [(.str "schema_version", .int 1),
   (.str "created_at", Config.stampValue st.created),
   (.str "updated_at", Config.stampValue st.updated),
   (.str "cache", .dict [(.str "active-engine", a.activeValue)]),
   (.str "paths", Value.obj [("engines", .str Config.defaultEnginesDir)]),
   (.str "hardware", Value.obj [("storage-path", .str defaultStoragePath)]),
   (.str "layers", .dict a.layers)]

/-- The dotted key of the active engine. -/
theorem keyParts_activeEngine :
    Config.keyParts "cache.active-engine" = ["cache", "active-engine"] := by
  decide

/-- The empty layered store with no stamps is kept in the default document. -/
theorem document_empty : ({} : LayeredStore).document {} = Config.defaultDocument := rfl

/-- The configuration made at time `t` keeps the empty layered store, stamped `t` twice. -/
theorem document_madeAt (t : String) :
    ({} : LayeredStore).document ⟨some t, some t⟩ = Config.madeAt t := by
  simp [document, Config.madeAt, Config.defaultDocument, Config.defaultSections, Value.obj,
    Value.insertEntry, Value.keySame, Config.stampValue, activeValue, layers, Layer.all,
    Layer.name, layer, Settings.entries]

section Stamped

variable (st : Config.Stamps)

@[simp] theorem lookup_document_layers (a : LayeredStore) :
    Value.lookup (a.document st) (.str "layers") = some (.dict a.layers) := by
  simp [document, Value.lookup, Value.keySame]

@[simp] theorem lookup_document_cache (a : LayeredStore) :
    Value.lookup (a.document st) (.str "cache") =
      some (.dict [(.str "active-engine", a.activeValue)]) := by
  simp [document, Value.lookup, Value.keySame]

@[simp] theorem lookup_layers (a : LayeredStore) (l : Layer) :
    Value.lookup a.layers (.str l.name) = some (.dict (a.layer l).entries) := by
  cases l <;> simp [layers, Layer.all, Layer.name, Value.lookup, Value.keySame]

/-- Replacing a layer's entry in the `layers` section replaces the layer. -/
theorem insertEntry_document_layers (a : LayeredStore) (l : Layer) (s : Settings) :
    Value.insertEntry (a.document st) (.str "layers")
        (.dict (Value.insertEntry a.layers (.str l.name) (.dict s.entries))) =
      (a.setLayer l s).document st := by
  cases l <;> simp [document, layers, Layer.all, Layer.name, Value.insertEntry, Value.keySame,
    setLayer, layer, activeValue]

/-- Setting the active engine under `cache` records it. -/
theorem insertEntry_document_cache (a : LayeredStore) (name : String) :
    Value.insertEntry (a.document st) (.str "cache")
        (.dict (Value.insertEntry [(.str "active-engine", a.activeValue)] (.str "active-engine")
          (.str name))) =
      { a with active := some name }.document st := by
  simp [document, layers, Value.insertEntry, Value.keySame, activeValue, layer]

/-- Stamping `updated_at` sets the stamp of the last save. -/
theorem insertEntry_document_updated (a : LayeredStore) (t : String) :
    Value.insertEntry (a.document st) (.str "updated_at") (.str t) =
      a.document { st with updated := some t } := by
  simp [document, Value.insertEntry, Value.keySame, Config.stampValue]

end Stamped

/-- Every value a layer of the store sets is a JSON value. -/
def IsJson (a : LayeredStore) : Prop := ∀ l, ∀ p ∈ (a.layer l).toList, Json.IsValue p.2

theorem isJson_empty : ({} : LayeredStore).IsJson := by
  intro l p hp
  cases l <;> simp [layer] at hp

theorem isValue_entries {kvs : List (String × Value)} (h : ∀ p ∈ kvs, Json.IsValue p.2) :
    Json.IsValue (.dict (kvs.map fun p => (.str p.1, p.2))) := by
  refine .dict (fun q hq => ?_) (fun q hq => ?_)
  · obtain ⟨p, -, rfl⟩ := List.mem_map.1 hq
    exact ⟨p.1, rfl⟩
  · obtain ⟨p, hp, rfl⟩ := List.mem_map.1 hq
    exact h p hp

/-- **The document is a JSON value** when the values the layers set are. -/
theorem isValue_document {a : LayeredStore} (h : a.IsJson) (st : Config.Stamps) :
    Json.IsValue (.dict (a.document st)) := by
  have hactive : Json.IsValue a.activeValue := by
    cases ha : a.active with
    | none => simp [activeValue, ha, Json.IsValue.null]
    | some n => simpa [activeValue, ha] using Json.IsValue.str n
  have hone : (1 : Int).natAbs < Value.tooLongBound := Json.lt_tooLongBound (by decide)
  have hlayers : Json.IsValue (.dict a.layers) := by
    refine .dict (by simp [layers]) ?_
    simp only [layers, List.mem_map]
    rintro _ ⟨l, -, rfl⟩
    exact isValue_entries (h l)
  refine .dict (by simp [document, Value.obj]) ?_
  simp only [document, List.mem_cons, List.not_mem_nil, or_false]
  rintro p (rfl | rfl | rfl | rfl | rfl | rfl | rfl)
  · exact .int hone
  · exact Config.isValue_stampValue _
  · exact Config.isValue_stampValue _
  · exact .dict (by simp) (by simpa using hactive)
  · exact isValue_entries (by simp [Json.IsValue.str])
  · exact isValue_entries (by simp [Json.IsValue.str])
  · exact hlayers

/-- Replacing a layer by settings of JSON values keeps the values JSON. -/
theorem IsJson.setLayer {a : LayeredStore} (h : a.IsJson) {l : Layer} {s : Settings}
    (hs : ∀ p ∈ s.toList, Json.IsValue p.2) : (a.setLayer l s).IsJson := by
  intro l' p hp
  rw [layer_setLayer] at hp
  split at hp
  · exact hs p hp
  · exact h l' p hp

end LayeredStore

/-- The values a call sets are JSON values. -/
def LayerCall.IsJson : LayerCall → Prop
  | .setValue _ v _ => Json.IsValue v
  | .activate _ configurations _ => ∀ p ∈ configurations.toList, Json.IsValue p.2
  | _ => True

/-- A configuration store keeps a layered store: its document is the layered store's, with some
time stamps, the values of whose layers are JSON values, and its configuration file holds that
document as written. -/
structure Keeps (c : ConfigStore) (a : LayeredStore) : Prop where
  doc : ∃ st, c.doc = a.document st
  json : a.IsJson
  saved : c.files.read (ConfigStore.fileIn c.dir) =
    .ok (Text.utf8Bytes (Json.emit 2 0 (.dict c.doc)).1)

/-! ### The store's helpers on a kept document -/

namespace ConfigStore

variable {c : ConfigStore} {a : LayeredStore} {st : Config.Stamps}

theorem layerEntries_run (h : c.doc = a.document st) (l : Layer) :
    (layerEntries l).run.run c = (.ok (a.layer l).entries, c) := by
  simp only [layerEntries, run_getThe_bind, h, LayeredStore.lookup_document_layers,
    LayeredStore.lookup_layers, run_pure]

theorem putLayer_run (h : c.doc = a.document st) (l : Layer) (s : Settings) :
    (putLayer l s.entries).run.run c = (.ok (), { c with doc := (a.setLayer l s).document st }) := by
  simp only [putLayer, run_getThe_bind, h, LayeredStore.lookup_document_layers,
    LayeredStore.insertEntry_document_layers, run_set]

@[simp] theorem ofExcept_ok {α : Type} (x : α) : (ofExcept (.ok x) : ConfigM α) = pure x := rfl

theorem definedBelowUser_run (h : c.doc = a.document st) (key : String) :
    (definedBelowUser key).run.run c = (.ok (a.definedBelowUser key), c) := by
  unfold definedBelowUser
  rw [run_bind_ok (layerEntries_run h .package)]
  simp only [Settings.anyWithin_entries, ofExcept_ok, pure_bind, LayeredStore.layer]
  cases hp : a.package.toList.any (keyWithin ·.1 key)
  · rw [if_neg (by simp), run_bind_ok (layerEntries_run h .engine)]
    simp [Settings.anyWithin_entries, LayeredStore.definedBelowUser, LayeredStore.layer, hp]
  · simp [LayeredStore.definedBelowUser, hp]

/-- **Removing the keys within a key** from a layer leaves what lies outside it, and answers
the number of keys within it. -/
theorem removeWithin_run (h : c.doc = a.document st) (key : String) (l : Layer) :
    ∃ chs, (removeWithin (.str key) l).run.run c =
      (.ok ((a.layer l).within key).toList.length,
        { c with doc := (a.setLayer l ((a.layer l).outside [key])).document st, changes := chs }) := by
  unfold removeWithin
  rw [run_bind_ok (layerEntries_run h l)]
  simp only [Settings.mapM_keyWithinValue, ofExcept_ok, pure_bind, Settings.unmarked_entries]
  obtain ⟨chs, hloop⟩ := run_forIn_notes
    ((a.layer l).entries.zip ((a.layer l).toList.map (keyWithin ·.1 key)))
    (fun (x : (Value × Value) × Bool) _ => if x.snd = true then do
        note ["layers", l.name, x.1.fst.plain]
        pure (.yield ⟨⟩)
      else pure (.yield ⟨⟩))
    (fun (x : (Value × Value) × Bool) c => by
      by_cases hx : x.snd = true
      · simpa [hx] using run_note_yield ["layers", l.name, x.1.fst.plain] c
      · exact ⟨c.changes, by simp [hx]⟩) c
  rw [run_bind_ok hloop]
  have hlen := Settings.length_within_add_outside (a.layer l) key
  have hdoc : ({ c with changes := chs } : ConfigStore).doc = a.document st := h
  by_cases hn : ((a.layer l).within key).toList.length = 0
  · -- nothing lies within `key`: the layer is left as it is, and not written
    have hsame := Settings.outside_eq_self hn
    refine ⟨chs, ?_⟩
    simp [hsame, hn, h]
  · have hne : ((a.layer l).outside [key]).entries.length ≠ (a.layer l).entries.length := by
      simp only [Settings.entries, List.length_map]
      omega
    refine ⟨chs, ?_⟩
    rw [if_pos (by simpa using hne), run_bind_ok (putLayer_run hdoc l _)]
    simp only [run_pure, Settings.entries, List.length_map]
    congr 2
    omega

end ConfigStore

end EngineFit
