import EngineFit.Proofs.LayeredDocument

/-!
# The configuration store refines three maps

Seen through its layered interface, a configuration store opened where there was no
configuration file behaves as the `LayeredStore` of three finite maps and an active engine: on
every sequence of calls whose values are JSON values, it answers each call as the layered store
does, and after each call its document is the layered store's and its configuration file holds
that document as written (`layered_refines`).

The proof is a simulation. `Keeps c a` relates a configuration store to a layered store; each
call kept in one step (`answer_keeps`) from the runs of the store's operations on a kept store
(`setLayerValue_refines` and its siblings); and a whole sequence is kept by induction over it
(`answerAll_keeps`). Opening the store writes the default document, which keeps the empty
layered store (`openIn_keeps`).
-/

namespace EngineFit

/-- An operation refines a step of the layered store from `a`: run on a store that keeps `a`,
it answers as the step does, and the store after it keeps the layered store after the step; a
step that fails leaves `a` as it was. -/
def Refines {α : Type} (m : ConfigM α) (c : ConfigStore) (a : LayeredStore)
    (r : Except ConfigError (α × LayeredStore)) : Prop :=
  match r with
  | .ok (x, a') => ∃ c', m.run.run c = (.ok x, c') ∧ Keeps c' a'
  | .error e => ∃ c', m.run.run c = (.error e, c') ∧ Keeps c' a

/-- The answer and the layered store after a step from `a` whose result is `r`: the step's answer
and store when it succeeds, its failure and `a` when not. -/
def LayeredStore.settle {α : Type} (a : LayeredStore) (f : α → LayerAnswer) :
    Except ConfigError (α × LayeredStore) → LayerAnswer × LayeredStore
  | .ok (x, a') => (f x, a')
  | .error e => (.failed e, a)

section

variable {c : ConfigStore} {a : LayeredStore}

theorem Keeps.writable (h : Keeps c a) : c.files.Writable (ConfigStore.fileIn c.dir) :=
  FileTree.writable_of_read h.saved

end

namespace ConfigStore

variable {c : ConfigStore} {a : LayeredStore} {st : Config.Stamps}

/-- Saving a store whose document is that of a layered store with JSON values keeps it: the
save stamps `updated_at`, which leaves the document the layered store's. -/
theorem save_keeps (hdoc : c.doc = a.document st) (hjson : a.IsJson)
    (hw : c.files.Writable (fileIn c.dir)) :
    ∃ c', save.run.run c = (.ok (), c') ∧ Keeps c' a := by
  have hstamped : c.stamped.doc = a.document { st with updated := some (c.clock c.readings) } := by
    rw [stamped_doc, hdoc, LayeredStore.insertEntry_document_updated]
  have hj : (Json.emit 2 0 (.dict c.stamped.doc)).2 = none :=
    hstamped ▸ Json.emit_fault_eq_none (LayeredStore.isValue_document hjson _) 2 0
  obtain ⟨files, hsave, hread⟩ := save_run hw hj
  exact ⟨_, hsave, ⟨⟨_, hstamped⟩, hjson, hread⟩⟩

theorem Refines.congr {α : Type} {m m' : ConfigM α} {r : Except ConfigError (α × LayeredStore)}
    (hrun : m.run.run c = m'.run.run c) (h : Refines m' c a r) : Refines m c a r := by
  unfold Refines at *
  rw [hrun]
  exact h

/-- Setting a value in the layer of a name, once the key has passed its checks: the layer takes
the value and the store is saved, or the name names no layer. -/
theorem setIn_refines (h : Keeps c a) {v : Value} (hv : Json.IsValue v) (key layerName : String) :
    Refines (do
        let l ← layerNamed layerName
        let kvs ← layerEntries l
        note ["layers", l.name, key]
        putLayer l (Value.insertEntry kvs (.str key) v)
        save) c a
      (match Layer.ofName? layerName with
        | some l => .ok ((), a.setLayer l ((a.layer l).put key v))
        | none => .error (.unknownLayer layerName)) := by
  obtain ⟨st, hdoc⟩ := h.doc
  cases hl : Layer.ofName? layerName with
  | none => exact ⟨c, by simp [layerNamed, hl], h⟩
  | some l =>
    have hjson : (a.setLayer l ((a.layer l).put key v)).IsJson :=
      h.json.setLayer fun p hp => (Keyed.mem_put hp).elim (h.json l p) (· ▸ hv)
    -- the store after the note, and after the layer is replaced
    have hnoted : ({ c with changes := c.changes ++ [["layers", l.name, key]] } : ConfigStore).doc =
        a.document st := hdoc
    have hput : ({ c with changes := c.changes ++ [["layers", l.name, key]],
                          doc := (a.setLayer l ((a.layer l).put key v)).document st } :
        ConfigStore).doc = (a.setLayer l ((a.layer l).put key v)).document st := rfl
    obtain ⟨c', hsave, hkeep⟩ := save_keeps hput hjson h.writable
    refine ⟨c', ?_, hkeep⟩
    simp only [layerNamed, hl, pure_bind]
    rw [run_bind_ok (layerEntries_run hdoc l), run_note_bind, Settings.insertEntry_entries,
      run_bind_ok (putLayer_run hnoted l _)]
    exact hsave

/-- **Setting a layer value.** The key must not be empty, and a user override must be of a key
within which a package or engine key lies. -/
theorem setLayerValue_refines (h : Keeps c a) {v : Value} (hv : Json.IsValue v)
    (key layerName : String) :
    Refines (setLayerValue key v layerName) c a ((a.setValue key v layerName).map ((), ·)) := by
  obtain ⟨st, hdoc⟩ := h.doc
  by_cases hk : key.isEmpty
  · have habs : (a.setValue key v layerName).map ((), ·) = .error .emptyKey := by
      simp [LayeredStore.setValue, hk, Except.map]
    rw [habs]
    exact ⟨c, by simp [setLayerValue, hk], h⟩
  -- the key passed; what is left is the user check, then setting the value
  have hrest := setIn_refines h hv key layerName
  by_cases hu : layerName = "user"
  · cases hb : a.definedBelowUser key
    · have habs : (a.setValue key v layerName).map ((), ·) = .error (.unknownKey key) := by
        simp [LayeredStore.setValue, hk, hu, hb, Except.map]
      rw [habs]
      refine ⟨c, ?_, h⟩
      simp only [setLayerValue, hk, Bool.false_eq_true, if_false]
      rw [if_pos (by simp [hu]), run_bind_ok (definedBelowUser_run hdoc key)]
      simp [hb]
    · have habs : (a.setValue key v layerName).map ((), ·) =
          match Layer.ofName? layerName with
          | some l => .ok ((), a.setLayer l ((a.layer l).put key v))
          | none => .error (.unknownLayer layerName) := by
        simp only [LayeredStore.setValue, hk, hb, Bool.false_eq_true, if_false,
          Bool.true_eq_false, and_false]
        cases Layer.ofName? layerName <;> rfl
      rw [habs]
      refine Refines.congr ?_ hrest
      simp only [setLayerValue, hk, Bool.false_eq_true, if_false]
      rw [if_pos (by simp [hu]), run_bind_ok (definedBelowUser_run hdoc key)]
      simp [hb]
  · have habs : (a.setValue key v layerName).map ((), ·) =
        match Layer.ofName? layerName with
        | some l => .ok ((), a.setLayer l ((a.layer l).put key v))
        | none => .error (.unknownLayer layerName) := by
      simp only [LayeredStore.setValue, hk, hu, Bool.false_eq_true, if_false, false_and]
      cases Layer.ofName? layerName <;> rfl
    rw [habs]
    refine Refines.congr ?_ hrest
    simp only [setLayerValue, hk, Bool.false_eq_true, if_false]
    rw [if_neg (by simp [hu])]

/-- **Unsetting a layer value** removes the keys within the key from the layer and answers their
number; the store is saved when any was removed. -/
theorem unsetLayerValue_refines (h : Keeps c a) (key layerName : String) :
    Refines (unsetLayerValue key layerName) c a (a.unset key layerName) := by
  obtain ⟨st, hdoc⟩ := h.doc
  unfold unsetLayerValue LayeredStore.unset
  cases hl : Layer.ofName? layerName with
  | none => exact ⟨c, by simp [layerNamed, hl], h⟩
  | some l =>
    obtain ⟨chs, hremove⟩ := removeWithin_run hdoc key l
    have hjson : (a.setLayer l ((a.layer l).outside [key])).IsJson :=
      h.json.setLayer fun p hp => h.json l p (List.mem_filter.1 hp).1
    have hremoved : ({ c with doc := (a.setLayer l ((a.layer l).outside [key])).document st,
                              changes := chs } : ConfigStore).doc =
        (a.setLayer l ((a.layer l).outside [key])).document st := rfl
    simp only [layerNamed, hl, pure_bind]
    by_cases hn : ((a.layer l).within key).toList.length > 0
    · obtain ⟨c', hsave, hkeep⟩ := save_keeps hremoved hjson h.writable
      refine ⟨c', ?_, hkeep⟩
      rw [run_bind_ok hremove, if_pos hn, run_bind_ok hsave]
      rfl
    · -- nothing was removed: the layer, the document and the file are as they were
      have hsame : a.setLayer l ((a.layer l).outside [key]) = a := by
        rw [Settings.outside_eq_self (by omega), LayeredStore.setLayer_layer]
      refine ⟨{ c with doc := (a.setLayer l ((a.layer l).outside [key])).document st,
                       changes := chs }, ?_, ?_⟩
      · rw [run_bind_ok hremove, if_neg hn]
        rfl
      · rw [hsame] at hremoved ⊢
        exact ⟨⟨st, hremoved⟩, h.json, hdoc ▸ h.saved⟩

/-- Removing, key by key, the user overrides within each key of a list drops the overrides
within any of them. -/
theorem removeAll_run (h : c.doc = a.document st) (previous : List String) :
    ∃ chs, (forIn (previous.map Value.str) PUnit.unit fun key _ => do
        let _ ← removeWithin key .user
        pure (ForInStep.yield PUnit.unit)).run.run c =
      (.ok ⟨⟩, { c with doc := { a with user := a.user.outside previous }.document st,
                        changes := chs }) := by
  induction previous generalizing a c with
  | nil =>
    refine ⟨c.changes, ?_⟩
    simp only [List.map_nil, List.forIn_nil, Settings.outside_nil, run_pure]
    show (Except.ok PUnit.unit, c) = (.ok ⟨⟩, { c with doc := a.document st })
    rw [← h]
  | cons key previous ih =>
    obtain ⟨chs, hremove⟩ := removeWithin_run h key .user
    have hremoved : ({ c with doc := (a.setLayer .user (a.user.outside [key])).document st,
                              changes := chs } : ConfigStore).doc =
        (a.setLayer .user (a.user.outside [key])).document st := rfl
    obtain ⟨chs', hrest⟩ := ih hremoved
    refine ⟨chs', ?_⟩
    simp only [List.map_cons, List.forIn_cons, bind_assoc, pure_bind]
    rw [run_bind_ok hremove]
    simpa [LayeredStore.setLayer, LayeredStore.layer, Settings.outside_outside] using hrest

/-- **Activating an engine, up to the save**: the engine layer is emptied, the user overrides
within the previous engine's keys are dropped, the configurations become the engine layer and
the engine is recorded under `cache`; what is left is to save that document. -/
theorem activateEngine_run_save (h : c.doc = a.document st) {configurations : Settings}
    {name : String} (hn : name.isEmpty = false) (previous : List String) :
    ∃ chs, (activateEngine (.str name) (.dict configurations.entries)
        (.list (previous.map .str))).run.run c =
      save.run.run { c with doc := { a with engine := configurations,
                                            user := a.user.outside previous,
                                            active := some name }.document st,
                            changes := chs } := by
  unfold activateEngine
  -- the engine layer is emptied, with a note for each of its keys
  obtain ⟨chs1, hnotes⟩ := run_forIn_notes (a.layer .engine).entries
    (fun x _ => do note ["layers", "engine", x.fst.plain]; pure (ForInStep.yield PUnit.unit))
    (fun x c => run_note_yield _ c) c
  have hempty : (putLayer Layer.engine [] : ConfigM Unit).run.run { c with changes := chs1 } =
      (.ok (), { c with changes := chs1, doc := (a.setLayer .engine {}).document st }) :=
    putLayer_run (show ({ c with changes := chs1 } : ConfigStore).doc = a.document st from h)
      .engine {}
  -- the user overrides within the previous keys are dropped
  obtain ⟨chs2, hdrop⟩ := removeAll_run
    (show ({ c with changes := chs1, doc := (a.setLayer .engine {}).document st } : ConfigStore).doc =
      (a.setLayer .engine {}).document st from rfl) previous
  -- the configurations become the engine layer, with a note for each of their keys
  have hdropped :
      ({ c with doc := { a with engine := {}, user := a.user.outside previous }.document st,
                changes := chs2 } : ConfigStore).doc =
      ({ a with engine := {}, user := a.user.outside previous } : LayeredStore).document st := rfl
  obtain ⟨chs3, hnotes'⟩ := run_forIn_notes configurations.entries
    (fun x _ => do note ["layers", "engine", x.fst.plain]; pure (ForInStep.yield PUnit.unit))
    (fun x c => run_note_yield _ c)
    { c with doc := { a with engine := {}, user := a.user.outside previous }.document st,
             changes := chs2 }
  have hconfigured :
      (putLayer Layer.engine (configurations.entries.foldl
          (fun acc x => Value.insertEntry acc x.fst x.snd)
          (({ a with engine := {}, user := a.user.outside previous } : LayeredStore).layer
            .engine).entries)).run.run
        { c with doc := { a with engine := {}, user := a.user.outside previous }.document st,
                 changes := chs3 } =
      (.ok (), { c with doc := { a with engine := configurations,
                                        user := a.user.outside previous }.document st,
                        changes := chs3 }) := by
    have hput := putLayer_run
      (show ({ c with doc := { a with engine := {}, user := a.user.outside previous }.document st,
                      changes := chs3 } : ConfigStore).doc =
        ({ a with engine := {}, user := a.user.outside previous } : LayeredStore).document st from rfl)
      .engine configurations
    -- the configurations are put into the emptied engine layer one by one
    rw [show configurations.entries = (configurations.overlay {}).entries by
      rw [Settings.overlay_empty], ← Settings.foldl_insertEntry_entries] at hput
    exact hput
  -- the engine is recorded under `cache`, and what is left is the save
  refine ⟨chs3 ++ [["cache", "active-engine"]], ?_⟩
  simp only [Value.truthy, hn, Bool.not_false, Bool.not_true, Bool.false_eq_true, if_false,
    Value.members, Value.view, updatePairs]
  rw [run_bind_ok (layerEntries_run h .engine), run_bind_ok hnotes, run_bind_ok hempty]
  simp only [pure_bind]
  rw [run_bind_ok hdrop]
  simp only [LayeredStore.setLayer]
  rw [run_bind_ok (layerEntries_run hdropped .engine), run_bind_ok hnotes',
    run_bind_ok hconfigured]
  simp only [run_note_bind, run_getThe_bind, LayeredStore.lookup_document_cache, run_set_bind]
  rw [LayeredStore.insertEntry_document_cache]

/-- **Activating an engine** empties the engine layer, drops the user overrides within the
previous engine's keys, makes the configurations the engine layer, records the engine and
saves. -/
theorem activateEngine_refines (h : Keeps c a) {configurations : Settings}
    (hC : ∀ p ∈ configurations.toList, Json.IsValue p.2) (name : String)
    (previous : List String) :
    Refines (activateEngine (.str name) (.dict configurations.entries) (.list (previous.map .str)))
      c a ((a.activate name configurations previous).map ((), ·)) := by
  obtain ⟨st, hdoc⟩ := h.doc
  by_cases hn : name.isEmpty
  · have habs :
        (a.activate name configurations previous).map ((), ·) = .error .emptyEngineName := by
      simp [LayeredStore.activate, hn, Except.map]
    rw [habs]
    unfold activateEngine
    exact ⟨c, by simp [Value.truthy, hn], h⟩
  have habs : (a.activate name configurations previous).map ((), ·) =
      .ok ((), { a with engine := configurations, user := a.user.outside previous,
                        active := some name }) := by
    simp [LayeredStore.activate, hn, Except.map]
  rw [habs]
  obtain ⟨chs, hrun⟩ := activateEngine_run_save hdoc (by simpa using hn) previous
  -- the new layers hold JSON values, so the save keeps them
  have hjson : ({ a with engine := configurations, user := a.user.outside previous,
                         active := some name } : LayeredStore).IsJson := by
    intro l p hp
    cases l with
    | package => exact h.json .package p hp
    | engine => exact hC p hp
    | user => exact h.json .user p (List.mem_filter.1 hp).1
  obtain ⟨c', hsave, hkeep⟩ := save_keeps
    (show ({ c with doc := { a with engine := configurations, user := a.user.outside previous,
                                     active := some name }.document st,
                    changes := chs } : ConfigStore).doc =
      ({ a with engine := configurations, user := a.user.outside previous,
                active := some name } : LayeredStore).document st from rfl)
    hjson h.writable
  exact ⟨c', hrun.trans hsave, hkeep⟩

/-- **Setting the active engine** records it and saves. -/
theorem setActiveEngine_refines (h : Keeps c a) (name : String) :
    Refines (setActiveEngine (.str name)) c a ((a.setActive name).map ((), ·)) := by
  obtain ⟨st, hdoc⟩ := h.doc
  unfold setActiveEngine
  by_cases hn : name.isEmpty
  · have habs : (a.setActive name).map ((), ·) = .error .emptyEngineName := by
      simp [LayeredStore.setActive, hn, Except.map]
    rw [habs]
    exact ⟨c, by simp [Value.truthy, hn], h⟩
  have habs : (a.setActive name).map ((), ·) = .ok ((), { a with active := some name }) := by
    simp [LayeredStore.setActive, hn, Except.map]
  rw [habs]
  obtain ⟨c', hsave, hkeep⟩ := save_keeps
    (show ({ c with changes := c.changes ++ [["cache", "active-engine"]],
                    doc := ({ a with active := some name } : LayeredStore).document st } :
        ConfigStore).doc = ({ a with active := some name } : LayeredStore).document st from rfl)
    h.json h.writable
  refine ⟨c', ?_, hkeep⟩
  simp only [Value.truthy, hn, Bool.not_false, Bool.not_true, Bool.false_eq_true, if_false,
    setValue, LayeredStore.keyParts_activeEngine, run_getThe_bind, run_note_bind,
    run_modifyThe_bind, hdoc, Config.setAt, LayeredStore.lookup_document_cache,
    LayeredStore.insertEntry_document_cache]
  exact hsave

/-- **The active engine** is the one recorded, unless none is or it is empty. -/
theorem activeEngine_run (h : c.doc = a.document st) :
    activeEngine.run.run c = (.ok (a.activeEngine.map .str), c) := by
  have hv : (Config.valueAt (.dict c.doc) (Config.keyParts "cache.active-engine")).getD .null =
      a.activeValue := by
    rw [LayeredStore.keyParts_activeEngine, h]
    simp only [Config.valueAt, LayeredStore.lookup_document_cache, Option.bind_some]
    simp [Value.lookup, Value.keySame]
  have hrun : activeEngine.run.run c =
      (.ok (if ((Config.valueAt (.dict c.doc) (Config.keyParts "cache.active-engine")).getD
          .null).truthy then
        some ((Config.valueAt (.dict c.doc) (Config.keyParts "cache.active-engine")).getD .null)
        else none), c) := rfl
  rw [hrun, hv]
  cases ha : a.active with
  | none => simp [LayeredStore.activeEngine, LayeredStore.activeValue, ha, Value.truthy]
  | some n =>
    by_cases hn : n.isEmpty <;>
      simp [LayeredStore.activeEngine, LayeredStore.activeValue, ha, Value.truthy, hn,
        Option.filter]

/-- **The layered view** is the user layer over the engine layer over the package layer, within
the key. -/
theorem layered_run (h : c.doc = a.document st) (key : String) :
    (layered key).run.run c = (.ok (a.layered key).entries, c) := by
  unfold layered
  simp only [Layer.all, List.forIn_cons, List.forIn_nil, List.forIn_pure_yield_eq_foldl, bind_assoc,
    pure_bind]
  rw [run_bind_ok (layerEntries_run h .package), run_bind_ok (layerEntries_run h .engine),
    run_bind_ok (layerEntries_run h .user)]
  -- the layers are put one over another, the package layer over none
  have hpackage : (a.layer .package).entries.foldl (fun b p => Value.insertEntry b p.fst p.snd) [] =
      (a.layer .package).entries := by
    simpa [Settings.entries] using Settings.foldl_insertEntry_entries (a.layer .package) {}
  rw [hpackage, Settings.foldl_insertEntry_entries, Settings.foldl_insertEntry_entries,
    Settings.filterM_keyWithinValue]
  rfl

/-- A call whose operation refines a step of the layered store answers as the step settles. -/
theorem answer_of_refines {α : Type} {call : LayerCall} {m : ConfigM α} {f : α → LayerAnswer}
    (hm : call.perform = f <$> m) {r : Except ConfigError (α × LayeredStore)}
    (hr : Refines m c a r) :
    (c.answer call).1 = (a.settle f r).1 ∧ Keeps (c.answer call).2 (a.settle f r).2 := by
  rcases r with e | ⟨x, a'⟩
  · obtain ⟨c', hrun, hk⟩ := hr
    have hmap : (f <$> m).run.run c = (.error e, c') := by
      simp only [ExceptT.run_map, StateT.run_map, hrun]
      rfl
    simpa only [answer, hm, hmap, LayeredStore.settle, true_and] using hk
  · obtain ⟨c', hrun, hk⟩ := hr
    have hmap : (f <$> m).run.run c = (.ok (f x), c') := by
      simp only [ExceptT.run_map, StateT.run_map, hrun]
      rfl
    simpa only [answer, hm, hmap, LayeredStore.settle, true_and] using hk

/-- **One call.** On a store that keeps a layered store, a call whose values are JSON values
answers as the layered store does, and the store after it keeps the layered store after it. -/
theorem answer_keeps (h : Keeps c a) (call : LayerCall) (hc : call.IsJson) :
    (c.answer call).1 = (a.answer call).1 ∧ Keeps (c.answer call).2 (a.answer call).2 := by
  -- each call settles the result of the layered step its operation refines
  cases call with
  | setValue key v layerName =>
    have hstep : a.answer (.setValue key v layerName) =
        a.settle (fun _ => .done) ((a.setValue key v layerName).map ((), ·)) := by
      cases hs : a.setValue key v layerName <;>
        simp [LayeredStore.answer, LayeredStore.settle, hs, Except.map]
    rw [hstep]
    exact answer_of_refines (by simp [LayerCall.perform]) (setLayerValue_refines h hc key layerName)
  | unset key layerName =>
    have hstep : a.answer (.unset key layerName) = a.settle .removed (a.unset key layerName) := by
      cases hs : a.unset key layerName <;> simp [LayeredStore.answer, LayeredStore.settle, hs]
    rw [hstep]
    exact answer_of_refines rfl (unsetLayerValue_refines h key layerName)
  | activate name configurations previous =>
    have hstep : a.answer (.activate name configurations previous) =
        a.settle (fun _ => .done) ((a.activate name configurations previous).map ((), ·)) := by
      cases hs : a.activate name configurations previous <;>
        simp [LayeredStore.answer, LayeredStore.settle, hs, Except.map]
    rw [hstep]
    exact answer_of_refines (by simp [LayerCall.perform])
      (activateEngine_refines h hc name previous)
  | setActive name =>
    have hstep : a.answer (.setActive name) =
        a.settle (fun _ => .done) ((a.setActive name).map ((), ·)) := by
      cases hs : a.setActive name <;>
        simp [LayeredStore.answer, LayeredStore.settle, hs, Except.map]
    rw [hstep]
    exact answer_of_refines (by simp [LayerCall.perform]) (setActiveEngine_refines h name)
  | getActive =>
    obtain ⟨st, hdoc⟩ := h.doc
    have hr : Refines activeEngine c a (.ok (a.activeEngine.map .str, a)) :=
      ⟨c, activeEngine_run hdoc, h⟩
    exact answer_of_refines rfl hr
  | layered key =>
    obtain ⟨st, hdoc⟩ := h.doc
    have hr : Refines (layered key) c a (.ok ((a.layered key).entries, a)) :=
      ⟨c, layered_run hdoc key, h⟩
    exact answer_of_refines rfl hr

/-- **A run of calls.** On a store that keeps a layered store, a sequence of calls whose values
are JSON values answers as the layered store does, and the store after it keeps the layered
store after it. -/
theorem answerAll_keeps (calls : List LayerCall) (hc : ∀ call ∈ calls, call.IsJson)
    (h : Keeps c a) :
    (c.answerAll calls).1 = (a.answerAll calls).1 ∧
      Keeps (c.answerAll calls).2 (a.answerAll calls).2 := by
  -- induction over the calls, the kept pair of stores generalized
  induction calls generalizing c a with
  | nil => exact ⟨rfl, h⟩
  | cons call calls ih =>
    obtain ⟨hanswer, hkeep⟩ := answer_keeps h call (hc call (by simp))
    obtain ⟨hrest, hkeep'⟩ := ih (fun call' h' => hc call' (by simp [h'])) hkeep
    exact ⟨by simp [answerAll, LayeredStore.answerAll, hanswer, hrest], by
      simpa [answerAll, LayeredStore.answerAll] using hkeep'⟩

/-- **Opening where there is no configuration file.** Once the directories are made, a
directory holding no configuration file is given the default document, stamped with the first
reading of the clock, and the store opened keeps the empty layered store. -/
theorem openIn_keeps {level : Nat} {clock : Clock} {files made : FileTree} {dir : PathName}
    (hmake : files.makeDirectories dir = .ok made) (hnone : made.holds (fileIn dir) = false) :
    ∃ c, openIn level clock files dir = (.ok c, c) ∧ Keeps c {} := by
  obtain ⟨r, hloc, hdir⟩ := FileTree.locate_makeDirectories hmake
  have hw : made.Writable (fileIn dir) := FileTree.writable_push hloc hdir (by decide) hnone
  obtain ⟨c', hsave, hkeep⟩ := save_keeps
    (show ({ files := made, dir, doc := Config.madeAt (clock 0), clock, readings := 1 } :
        ConfigStore).doc = ({} : LayeredStore).document ⟨some (clock 0), some (clock 0)⟩ from
      (LayeredStore.document_madeAt _).symm) LayeredStore.isJson_empty hw
  -- the opening ends by noting the whole document as changed, which the layered store ignores
  refine ⟨{ c' with changes := c'.changes ++ [[]] }, ?_,
    ⟨hkeep.doc, hkeep.json, hkeep.saved⟩⟩
  have hload : (load level).run.run { files, dir, doc := [], clock } =
      (.ok (), { c' with changes := c'.changes ++ [[]] }) := by
    simp only [load, run_get_bind, hmake, run_set_bind, hnone, Bool.false_eq_true, if_false,
      pure_bind]
    rw [run_bind_ok hsave, run_note]
  unfold openIn
  rw [hload]
  rfl

end ConfigStore

/-- **The layered interface refines three maps.** Where the directories can be made and hold no
configuration file, opening a store succeeds; then on every sequence of calls whose values are
JSON values the store answers each call as the layered store of three empty maps and no active
engine does, and after the calls its document is the layered store's and its configuration file
holds that document as written, whatever the clock its time stamps are read from. -/
theorem layered_refines {level : Nat} {clock : Clock} {files made : FileTree} {dir : PathName}
    (hmake : files.makeDirectories dir = .ok made)
    (hnone : made.holds (ConfigStore.fileIn dir) = false) :
    ∃ c, ConfigStore.openIn level clock files dir = (.ok c, c) ∧
      ∀ calls : List LayerCall, (∀ call ∈ calls, call.IsJson) →
        (c.answerAll calls).1 = (({} : LayeredStore).answerAll calls).1 ∧
          Keeps (c.answerAll calls).2 (({} : LayeredStore).answerAll calls).2 := by
  obtain ⟨c, hopen, hkeep⟩ := ConfigStore.openIn_keeps hmake hnone
  exact ⟨c, hopen, fun calls hc => ConfigStore.answerAll_keeps calls hc hkeep⟩

/-- A store opened in a new directory `config` of an empty tree. -/
theorem layered_refines_new_directory :
    ∃ c, ConfigStore.openIn 0 (Clock.stopped "2026-10-19T12:00:00+00:00") {}
        { parts := ["config"] } = (.ok c, c) ∧
      ∀ calls : List LayerCall, (∀ call ∈ calls, call.IsJson) →
        (c.answerAll calls).1 = (({} : LayeredStore).answerAll calls).1 ∧
          Keeps (c.answerAll calls).2 (({} : LayeredStore).answerAll calls).2 :=
  layered_refines
    (show FileTree.makeDirectories {} { parts := ["config"] } =
      .ok { entries := [(["config"], .directory)] } from rfl)
    (by decide)

end EngineFit
