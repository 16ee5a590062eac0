import Mathlib
import EngineFit.Proofs.LayeredRefinement
import EngineFit.Proofs.ManifestRoundTrip
import EngineFit.Cli.Session

/-!
# Switching the active engine

`use-engine` makes an engine the active one: the engine named, or with `--auto` the best engine
of the catalog for the machine. Run on a configuration store that keeps a layered store `a`, when
the configurations of the engine it is asked for are values that JSON can write, it is atomic
(`useEngine_atomic`). Either it switches: it exits with status 0 after saying that the engine
changed, and its store keeps `a` with the engine's configurations as the engine layer, the user
overrides within the previous engine's keys dropped and the engine active. Or its store still
keeps `a`, document and file alike.

The proof follows the command. Every step before the activation reads the store and prints, but
leaves the store alone (`KeepsStore`), so a failure there keeps `a` (`endsOrKeeps_bind`); the
activation refines the layered store's (`activateEngine_refines`); and what is printed after it
cannot fail (`activateAndAnnounce_run_of_ok`).

The condition on the configurations cannot be dropped. An integer too long to write stops the
save in the middle of the file, after the store has changed, so the command ends abnormally
with neither outcome (`useEngine_unwritable`, `activating_long_integer_breaks_switch`).
-/

namespace EngineFit

/-! ### Reading an engine's manifest -/

section

variable {level : Nat} {m : Manifest}

theorem Manifest.ofText_parsed {text : String} {expected source : Option String}
    (h : Manifest.ofText level text expected source = .ok m) :
    ∃ doc, Manifest.parse doc expected source = .ok m := by
  dsimp only [Manifest.ofText] at h
  split at h
  · cases h
  · split at h
    · split at h
      · cases h
        exact ⟨_, ‹_›⟩
      · cases h
    · cases h
    · cases h

theorem manifestAt_parsed {t : FileTree} {path : PathName} {expected : String}
    (h : manifestAt level t path expected = .ok m) :
    ∃ doc source, Manifest.parse doc (some expected) source = .ok m := by
  unfold manifestAt at h
  split at h
  · cases h
  · split at h
    · cases h
      exact ⟨_, _, (Manifest.ofText_parsed ‹_›).choose_spec⟩
    · cases h
    · cases h

/-- The manifest of an engine is one the manifest reader returned, declaring the engine's
name. -/
theorem loadEngine_parsed {t : FileTree} {dir name : String}
    (h : loadEngine level t dir name = .ok m) :
    ∃ doc source, Manifest.parse doc (some name) source = .ok m := by
  dsimp only [loadEngine] at h
  split at h
  · exact manifestAt_parsed h
  · cases h

/-- An engine's configurations hold each key once, so they are the settings of a layer. -/
theorem loadEngine_configuration_keys {t : FileTree} {dir name : String}
    (h : loadEngine level t dir name = .ok m) : (m.configurations.map Prod.fst).Nodup := by
  obtain ⟨_, _, hparse⟩ := loadEngine_parsed h
  exact (Manifest.parse_configurations hparse).1

end

/-! ### Documents of layered stores -/

/-- Layered stores with different active engines have different documents, whatever their time
stamps. -/
theorem LayeredStore.document_ne_of_active {a a' : LayeredStore} {name : String}
    (h' : a'.active = some name) (h : a.active ≠ some name) (st' st : Config.Stamps) :
    a'.document st' ≠ a.document st := by
  intro hdoc
  have hcache := congrArg (Value.lookup · (.str "cache")) hdoc
  simp only [LayeredStore.lookup_document_cache, LayeredStore.activeValue, h',
    Option.map_some, Option.getD_some, Option.some.injEq, Value.dict.injEq, List.cons.injEq,
    Prod.mk.injEq, true_and, and_true] at hcache
  cases ha : a.active with
  | none => simp [ha] at hcache
  | some p =>
    simp only [ha, Option.map_some, Option.getD_some, Value.str.injEq] at hcache
    exact h (hcache ▸ ha)

/-- A document whose engine layer holds an integer too long to write is not written whole. -/
theorem LayeredStore.emit_document_fault {a : LayeredStore} {k : String} {n : Int}
    (hk : (k, .int n) ∈ a.engine.toList) (hn : Value.tooLongBound ≤ n.natAbs)
    (st : Config.Stamps) : (Json.emit 2 0 (.dict (a.document st))).2 ≠ none := by
  intro hnone
  -- a document written whole has its layers, its engine layer and each engine value written whole
  have hlayers := Json.fault_eq_none_of_emit_dict hnone (.str "layers", .dict a.layers)
    (by simp [LayeredStore.document])
  have hengine := Json.fault_eq_none_of_emit_dict hlayers
    (.str Layer.engine.name, .dict (a.layer .engine).entries)
    (List.mem_map.2 ⟨.engine, by simp [Layer.all], rfl⟩)
  have hint := Json.fault_eq_none_of_emit_dict hengine (.str k, .int n)
    (List.mem_map.2 ⟨(k, .int n), hk, rfl⟩)
  rw [Json.emit_int_fault hn] at hint
  cases hint

/-- The store of the directory `config` whose configuration file holds the document of `a` with
no time stamps set, as it was written; its clock is stopped. -/
def ConfigStore.ofLayered (a : LayeredStore) : ConfigStore where
  files := { entries := [(["config"], .directory), (["config", "config.json"],
    .file (Text.utf8Bytes (Json.emit 2 0 (.dict (a.document {}))).1))] }
  dir := { parts := ["config"] }
  doc := a.document {}
  clock := Clock.stopped "2026-10-19T12:00:00+00:00"

theorem ConfigStore.keeps_ofLayered {a : LayeredStore} (h : a.IsJson) :
    Keeps (ConfigStore.ofLayered a) a :=
  ⟨⟨{}, rfl⟩, h, rfl⟩

namespace Cli

/-! ### What switching does -/

/-- The configuration keys of the engine that was active, whose user overrides a switch drops:
those of its manifest, none when no engine was active or its manifest is gone; the catalog's
error when its manifest cannot be read. -/
def previousKeys (ctx : Context) (files : FileTree) : Option String →
    Except CatalogError (List String)
  | none => .ok []
  | some p =>
    match loadEngine (ctx.level + 2) files ctx.enginesDir p with
    | .ok pm => .ok (pm.configurations.map Prod.fst)
    | .error (.notFound _ _) => .ok []
    | .error e => .error e

/-- The layered store `a'` is `a` switched to the engine `name` with configurations
`configurations`: they are the engine layer, the user overrides within `keys` are dropped, and
the package layer stays. -/
structure Switched (a a' : LayeredStore) (name : String)
    (configurations : List (String × Value)) (keys : List String) : Prop where
  package : a'.package = a.package
  engine : a'.engine.toList = configurations
  user : a'.user = a.user.outside keys
  active : a'.active = some name

/-- The run ended after printing, last, the line that says the engine changed to `name`. -/
def Announced (name : String) (after : Session) : Prop :=
  ∃ out t, after.out = out ++ t ∧
    Console.printed ("Engine changed to \"" ++ name ++ "\".") false false = .ok t

/-- A run from a store kept at `a`, over the file tree `files`, that switched to the engine
`name`: its manifest was read, another engine was active, the previous engine's keys were
found, and the run exits with status 0 after saying so, its store keeping `a` switched. -/
def SwitchedTo (ctx : Context) (files : FileTree) (a : LayeredStore) (name : String)
    (r : Except Failure Nat × Session) : Prop :=
  ∃ m keys a', loadEngine (ctx.level + 2) files ctx.enginesDir name = .ok m ∧
    a.activeEngine ≠ some name ∧ previousKeys ctx files a.activeEngine = .ok keys ∧
    Switched a a' name m.configurations keys ∧ r.1 = .ok 0 ∧ Keeps r.2.store a' ∧
    Announced name r.2

/-- The engine `use-engine` is asked for: the one named, or with `--auto` and no name the best
engine of the catalog for the machine's snapshot. -/
inductive UseChoice (ctx : Context) (files : FileTree) : Option String → Bool → String → Prop
  | named {name : String} (h : name ≠ "") : UseChoice ctx files (some name) false name
  | auto {engine : Option String} {ms : List Manifest} {snap : Snapshot} {scored : List Scored}
      {best : Scored} (hnone : ∀ e ∈ engine, e = "")
      (hcatalog : loadCatalog (ctx.level + 2) files ctx.enginesDir = .ok ms)
      (hsnap : ctx.machine.snapshot = some snap)
      (hscore : scoreEngines snap ms (snapConnection ctx.machine.tools) ctx.storage = .ok scored)
      (htop : topEngine scored = .ok best) :
      UseChoice ctx files engine true best.name

/-! ### Running commands -/

section

variable {α β : Type} {x : CommandM α} {f : α → CommandM β} {s s' : Session}

theorem run_bind_of_ok {a : α} (h : x.run.run s = (.ok a, s')) :
    (x >>= f).run.run s = (f a).run.run s' := by
  simp only [ExceptT.run_bind, StateT.run_bind, h]
  rfl

theorem run_bind_of_error {e : Failure} (h : x.run.run s = (.error e, s')) :
    (x >>= f).run.run s = (.error e, s') := by
  simp only [ExceptT.run_bind, StateT.run_bind, h]
  rfl

@[simp] theorem run_pure' (a : α) : (pure a : CommandM α).run.run s = (.ok a, s) := rfl

@[simp] theorem run_get_bind' (f : Session → CommandM β) :
    (get >>= f).run.run s = (f s).run.run s := rfl

@[simp] theorem run_set_bind' (f : PUnit → CommandM β) :
    (set s' >>= f).run.run s = (f ⟨⟩).run.run s' := rfl

/-- A message is printed as the console lays it out, when it can be. -/
theorem say_run {message t : String} {toErr plain soft : Bool}
    (h : Console.printed message (!plain) (!(plain || soft)) = .ok t) :
    (say message toErr plain soft).run.run s =
      (.ok (), if toErr then { s with err := s.err ++ t } else { s with out := s.out ++ t }) := by
  simp only [say, h]
  rfl

/-- Markup without a bracket holds no tag, so it is always printed. -/
theorem printed_of_no_bracket (message : String) (h : message.contains '[' = false)
    (wrap : Bool) : ∃ t, Console.printed message true wrap = .ok t := by
  simp only [Console.printed, Console.render, h, Bool.not_false, if_true]
  exact ⟨_, rfl⟩

/-- Printing a message as it is never fails. -/
theorem printed_plain (message : String) (wrap : Bool) :
    ∃ t, Console.printed message false wrap = .ok t := ⟨_, rfl⟩

/-- A plain message is always printed: on standard output, as the console lays it out. -/
theorem sayPlain_run (message : String) :
    ∃ t, Console.printed message false false = .ok t ∧
      (sayPlain message).run.run s = (.ok (), { s with out := s.out ++ t }) := by
  obtain ⟨t, ht⟩ := printed_plain message false
  refine ⟨t, ht, ?_⟩
  simp only [sayPlain, say, Bool.not_true, Bool.true_or, ht]
  rfl

/-- A configuration operation that succeeds gives its answer, with the store it leaves. -/
theorem fromConfig_run_ok {m : ConfigM α} {a : α} {c : ConfigStore}
    (h : m.run.run s.store = (.ok a, c)) :
    (fromConfig m).run.run s = (.ok a, { s with store := c }) := by
  simp only [fromConfig, run_get_bind', h, run_set_bind']
  rfl

/-- A configuration that cannot be written whole ends the command abnormally. -/
theorem fromConfig_run_unwritable {m : ConfigM α} {e : Json.DumpError} {c : ConfigStore}
    (h : m.run.run s.store = (.error (.unwritable e), c)) :
    (fromConfig m).run.run s = (.error (.fault (.config (.unwritable e))), { s with store := c }) := by
  simp only [fromConfig, run_get_bind', h, run_set_bind']
  rfl

/-- A configuration operation that fails ends the command, with the store it leaves. -/
theorem fromConfig_run_error {m : ConfigM α} {e : ConfigError} {c : ConfigStore}
    (h : m.run.run s.store = (.error e, c)) :
    ∃ f, (fromConfig m).run.run s = (.error f, { s with store := c }) := by
  simp only [fromConfig, run_get_bind', h, run_set_bind']
  split
  · rename_i hok
    cases hok
  all_goals exact ⟨_, rfl⟩

end

/-- Printing a line for each of some texts never fails. -/
theorem forIn_sayPlain_run (lead : String) (cs : List String) (s : Session) :
    ∃ out, (forIn cs PUnit.unit fun c _ => do
        sayPlain (lead ++ c)
        pure (ForInStep.yield PUnit.unit)).run.run s = (.ok ⟨⟩, { s with out := s.out ++ out }) := by
  induction cs generalizing s with
  | nil => exact ⟨"", by simp⟩
  | cons c cs ih =>
    obtain ⟨t, -, hsay⟩ := sayPlain_run (s := s) (lead ++ c)
    obtain ⟨out, hrest⟩ := ih { s with out := s.out ++ t }
    have hline : (do sayPlain (lead ++ c); pure (ForInStep.yield PUnit.unit) :
        CommandM (ForInStep PUnit)).run.run s = (.ok (.yield ⟨⟩), { s with out := s.out ++ t }) := by
      rw [run_bind_of_ok hsay]
      rfl
    refine ⟨t ++ out, ?_⟩
    rw [List.forIn_cons, run_bind_of_ok hline]
    simpa [String.append_assoc] using hrest

/-! ### Steps that leave the store alone -/

/-- A step of a command that leaves the configuration store as it was, however it ends: it reads
the store, prints, or fails, and nothing more. -/
def KeepsStore {α : Type} (m : CommandM α) : Prop := ∀ s, (m.run.run s).2.store = s.store

section

variable {α β : Type} {x : CommandM α} {f : α → CommandM β} {s : Session}

theorem keepsStore_pure (a : α) : KeepsStore (pure a : CommandM α) := fun _ => rfl

theorem keepsStore_throw (e : Failure) : KeepsStore (throw e : CommandM α) := fun _ => rfl

theorem KeepsStore.bind (hx : KeepsStore x) (hf : ∀ a, KeepsStore (f a)) :
    KeepsStore (x >>= f) := by
  intro s
  have hstore := hx s
  rcases hrun : x.run.run s with ⟨e | a, s'⟩
  · rw [run_bind_of_error hrun]
    simpa [hrun] using hstore
  · rw [run_bind_of_ok hrun, hf a s']
    simpa [hrun] using hstore

theorem keepsStore_forIn {γ : Type} (xs : List α) (init : γ)
    {body : α → γ → CommandM (ForInStep γ)} (h : ∀ a b, KeepsStore (body a b)) :
    KeepsStore (forIn xs init body) := by
  induction xs generalizing init with
  | nil => exact keepsStore_pure init
  | cons a xs ih =>
    rw [List.forIn_cons]
    refine (h a init).bind fun r => ?_
    cases r with
    | done b => exact keepsStore_pure b
    | yield b => exact ih b

theorem keepsStore_say (message : String) (toErr plain soft : Bool) :
    KeepsStore (say message toErr plain soft) := by
  intro s
  unfold say
  split
  · cases toErr <;> rfl
  · rfl

theorem keepsStore_fromCatalog (r : Except CatalogError α) : KeepsStore (fromCatalog r) := by
  intro s
  unfold fromCatalog
  split
  · rfl
  · rfl
  · split <;> rfl
  · rfl

theorem keepsStore_fromScoring (r : Except ScoreError α) : KeepsStore (fromScoring r) := by
  intro s
  unfold fromScoring
  split <;> rfl

theorem keepsStore_files : KeepsStore files := fun _ => rfl

theorem keepsStore_scoreAll (ctx : Context) : KeepsStore (scoreAll ctx) := by
  unfold scoreAll machineSnapshot
  refine keepsStore_files.bind fun t => (keepsStore_fromCatalog _).bind fun ms => ?_
  split
  · exact (keepsStore_pure _).bind fun snap => keepsStore_fromScoring _
  · exact (keepsStore_throw _).bind fun snap => keepsStore_fromScoring _

/-- A step that leaves the store alone keeps a store kept at `a` at `a`. -/
theorem KeepsStore.keeps {a : LayeredStore} (hx : KeepsStore x) (hs : Keeps s.store a) :
    Keeps (x.run.run s).2.store a :=
  (hx s).symm ▸ hs

end

/-- A run from a store kept at `a` that either ends as `done` says, or leaves a store that still
keeps `a`. -/
def EndsOrKeeps {β : Type} (a : LayeredStore) (done : Except Failure β × Session → Prop)
    (r : Except Failure β × Session) : Prop :=
  done r ∨ Keeps r.2.store a

section

variable {α β : Type} {x : CommandM α} {f : α → CommandM β} {s : Session} {a : LayeredStore}
  {done : Except Failure β × Session → Prop}

theorem KeepsStore.endsOrKeeps (hx : KeepsStore x) (hs : Keeps s.store a)
    {done : Except Failure α × Session → Prop} : EndsOrKeeps a done (x.run.run s) :=
  .inr (hx.keeps hs)

/-- **After a step that leaves the store alone**, a run from a store `c` kept at `a` ends as
`done` says or keeps `a`, when every way of going on from the step, with the store still `c`,
does. -/
theorem endsOrKeeps_bind {c : ConfigStore} (hx : KeepsStore x) (hs : s.store = c)
    (hc : Keeps c a)
    (hf : ∀ v s', x.run.run s = (.ok v, s') → s'.store = c →
      EndsOrKeeps a done ((f v).run.run s')) :
    EndsOrKeeps a done ((x >>= f).run.run s) := by
  have hstore : (x.run.run s).2.store = c := (hx s).trans hs
  rcases hrun : x.run.run s with ⟨e | v, s'⟩
  · -- the step failed: the command ends there, with the store as it was
    right
    rw [run_bind_of_error hrun]
    rw [hrun] at hstore
    exact hstore ▸ hc
  · rw [hrun] at hstore
    rw [run_bind_of_ok hrun]
    exact hf v s' hrun hstore

end

/-! ### The activation and what follows it -/

section

variable {s : Session} {a : LayeredStore} {name : String} {m : Manifest} {keys : List String}

/-- An engine's configurations, with each key once, are the entries of a layer. -/
theorem entries_configurations (hkeys : (m.configurations.map Prod.fst).Nodup) :
    (⟨m.configurations, hkeys⟩ : Settings).entries =
      m.configurations.map fun (k, v) => (Value.str k, v) := by
  simp only [Settings.entries]

/-- Once the activation succeeded, the rest of the switch only prints, the engine's components
first and last the line that says the engine changed. -/
theorem activateAndAnnounce_run_of_ok {c : ConfigStore}
    (h : (ConfigStore.activateEngine (.str name)
      (.dict (m.configurations.map fun (k, v) => (.str k, v))) (.list (keys.map .str))).run.run
        s.store = (.ok (), c)) :
    ∃ out t, (activateAndAnnounce name m keys).run.run s =
        (.ok 0, { s with store := c, out := s.out ++ out ++ t }) ∧
      Console.printed ("Engine changed to \"" ++ name ++ "\".") false false = .ok t := by
  unfold activateAndAnnounce
  rw [run_bind_of_ok (fromConfig_run_ok h)]
  split
  · -- the components are listed under a heading, which holds no markup
    obtain ⟨t₀, ht₀⟩ := printed_of_no_bracket "Required components:" (by simp) true
    have hhead : (say "Required components:" : CommandM Unit).run.run { s with store := c } =
        (.ok (), { s with store := c, out := s.out ++ t₀ }) := say_run ht₀
    obtain ⟨out, hout⟩ := forIn_sayPlain_run "- " m.components
      { s with store := c, out := s.out ++ t₀ }
    obtain ⟨t, ht, hsay⟩ := sayPlain_run (s := { s with store := c, out := s.out ++ t₀ ++ out })
      ("Engine changed to \"" ++ name ++ "\".")
    refine ⟨t₀ ++ out, t, ?_, ht⟩
    rw [run_bind_of_ok hhead, run_bind_of_ok hout]
    beta_reduce
    rw [run_bind_of_ok hsay]
    simp [String.append_assoc]
  · obtain ⟨t, ht, hsay⟩ := sayPlain_run (s := { s with store := c })
      ("Engine changed to \"" ++ name ++ "\".")
    refine ⟨"", t, ?_, ht⟩
    rw [run_bind_of_ok hsay]
    simp

/-- **Activating and announcing**, from a store kept at `a` and with configurations that hold
each key once and that JSON can write: either the run exits with status 0 after saying that the
engine changed, its store keeping `a` switched, or the activation was refused and the store
keeps `a`. -/
theorem activateAndAnnounce_atomic (hs : Keeps s.store a)
    (hkeys : (m.configurations.map Prod.fst).Nodup)
    (hjson : ∀ p ∈ m.configurations, Json.IsValue p.2) :
    EndsOrKeeps a (fun r => ∃ a', Switched a a' name m.configurations keys ∧ r.1 = .ok 0 ∧
        Keeps r.2.store a' ∧ Announced name r.2)
      ((activateAndAnnounce name m keys).run.run s) := by
  have hC : ∀ p ∈ (⟨m.configurations, hkeys⟩ : Settings).toList, Json.IsValue p.2 := hjson
  have href := ConfigStore.activateEngine_refines hs hC name keys
  rw [entries_configurations hkeys] at href
  by_cases hn : name.isEmpty
  · -- an empty name is refused before anything changes
    have hrefused : (a.activate name ⟨m.configurations, hkeys⟩ keys).map ((), ·) =
        .error .emptyEngineName := by
      simp [LayeredStore.activate, hn, Except.map]
    rw [hrefused] at href
    obtain ⟨c, hrun, hkeep⟩ := href
    obtain ⟨f, hf⟩ := fromConfig_run_error hrun
    refine Or.inr ?_
    unfold activateAndAnnounce
    rw [run_bind_of_error hf]
    exact hkeep
  · have hswitched : (a.activate name ⟨m.configurations, hkeys⟩ keys).map ((), ·) =
        .ok ((), { a with engine := ⟨m.configurations, hkeys⟩, user := a.user.outside keys,
                          active := some name }) := by
      simp [LayeredStore.activate, hn, Except.map]
    rw [hswitched] at href
    obtain ⟨c, hrun, hkeep⟩ := href
    obtain ⟨out, t, hrest, ht⟩ := activateAndAnnounce_run_of_ok hrun
    refine Or.inl ⟨{ a with engine := ⟨m.configurations, hkeys⟩,
                            user := a.user.outside keys, active := some name },
      ⟨rfl, rfl, rfl, rfl⟩, ?_⟩
    rw [hrest]
    exact ⟨rfl, hkeep, s.out ++ out, t, rfl, ht⟩

/-- **An integer too long to write breaks the activation.** From a store kept at `a` where
another engine is active, activating an engine one of whose configurations is an integer too
long to write changes the store's document, then fails while saving it: the command ends
abnormally, its store holding the new document. -/
theorem activateAndAnnounce_unwritable (hs : Keeps s.store a)
    (hkeys : (m.configurations.map Prod.fst).Nodup) (hname : name ≠ "")
    (hother : a.active ≠ some name) {k : String} {n : Int} (hk : (k, .int n) ∈ m.configurations)
    (hn : Value.tooLongBound ≤ n.natAbs) :
    (∃ e, ((activateAndAnnounce name m keys).run.run s).1 =
        .error (.fault (.config (.unwritable e)))) ∧
      ∀ st, ((activateAndAnnounce name m keys).run.run s).2.store.doc ≠ a.document st := by
  set a' : LayeredStore := { a with engine := ⟨m.configurations, hkeys⟩,
                                    user := a.user.outside keys, active := some name } with ha'
  obtain ⟨st, hdoc⟩ := hs.doc
  obtain ⟨chs, hrun⟩ : ∃ chs, (ConfigStore.activateEngine (.str name)
      (.dict (⟨m.configurations, hkeys⟩ : Settings).entries) (.list (keys.map .str))).run.run
        s.store = ConfigStore.save.run.run { s.store with doc := a'.document st, changes := chs } :=
    ConfigStore.activateEngine_run_save hdoc (by simpa using hname) keys
  rw [entries_configurations hkeys] at hrun
  -- the save stamps the new document, which holds the long integer, so the write stops at it
  set c : ConfigStore := { s.store with doc := a'.document st, changes := chs } with hc
  have hstamped : c.stamped.doc = a'.document { st with updated := some (c.clock c.readings) } :=
    LayeredStore.insertEntry_document_updated st a' _
  have hlong : (Json.emit 2 0 (.dict c.stamped.doc)).2 ≠ none := by
    rw [hstamped]
    exact LayeredStore.emit_document_fault hk hn _
  obtain ⟨e, hfault⟩ := Option.ne_none_iff_exists'.1 hlong
  obtain ⟨files, hsave⟩ := ConfigStore.save_run_unwritable (c := c) hs.writable hfault
  unfold activateAndAnnounce
  rw [run_bind_of_error (fromConfig_run_unwritable (hrun.trans hsave))]
  refine ⟨⟨e, rfl⟩, fun st' => ?_⟩
  show c.stamped.doc ≠ a.document st'
  rw [hstamped]
  exact LayeredStore.document_ne_of_active rfl hother _ _

/-! ### Before the activation -/

theorem files_run : files.run.run s = (.ok s.store.files, s) := rfl

/-- A catalog error ends the command, and nothing else happens. -/
theorem fromCatalog_error_run {α : Type} (e : CatalogError) :
    ∃ f, (fromCatalog (.error e) : CommandM α).run.run s = (.error f, s) := by
  cases e with
  | invalid e =>
    simp only [fromCatalog]
    split <;> exact ⟨_, rfl⟩
  | _ => exact ⟨_, rfl⟩

/-- On a store kept at `a`, the active engine is read as `a`'s, and nothing changes. -/
theorem fromConfig_activeEngine_run (hs : Keeps s.store a) :
    (fromConfig ConfigStore.activeEngine).run.run s = (.ok (a.activeEngine.map .str), s) := by
  obtain ⟨st, hdoc⟩ := hs.doc
  exact fromConfig_run_ok (ConfigStore.activeEngine_run hdoc)

theorem any_same_str_iff {o : Option String} :
    (o.map Value.str).any (·.same (.str name)) = true ↔ o = some name := by
  cases o <;> simp [same_str_iff]

theorem keepsStore_previousEngineKeys (ctx : Context) (previous : Option Value) :
    KeepsStore (previousEngineKeys ctx previous) := by
  unfold previousEngineKeys
  split
  · exact keepsStore_pure _
  · refine keepsStore_files.bind fun t => ?_
    split
    · exact keepsStore_pure _
    · exact keepsStore_pure _
    · exact keepsStore_fromCatalog _
  · exact keepsStore_throw _

/-- The keys the switch finds for the engine that was active are `previousKeys`; when they
cannot be found, the command ends there. -/
theorem previousEngineKeys_run (ctx : Context) (o : Option String) :
    (previousEngineKeys ctx (o.map .str)).run.run s =
      match previousKeys ctx s.store.files o with
      | .ok keys => (.ok keys, s)
      | .error e => (fromCatalog (.error e) : CommandM (List String)).run.run s := by
  cases o with
  | none => rfl
  | some p =>
    unfold previousEngineKeys previousKeys
    dsimp only [Option.map_some]
    rw [run_bind_of_ok files_run]
    rcases loadEngine (ctx.level + 2) s.store.files ctx.enginesDir p with e | pm
    · cases e <;> rfl
    · rfl

theorem previousKeys_of_run {ctx : Context} {o : Option String} {s' : Session}
    (h : (previousEngineKeys ctx (o.map .str)).run.run s = (.ok keys, s')) :
    previousKeys ctx s.store.files o = .ok keys := by
  rw [previousEngineKeys_run] at h
  split at h
  · rename_i found
    rw [found, Except.ok.inj (Prod.mk.inj h).1]
  · -- a manifest that cannot be read ends the command
    obtain ⟨f, hf⟩ : ∃ f, (fromCatalog (.error ‹CatalogError›) : CommandM (List String)).run.run s =
        (.error f, s) := fromCatalog_error_run _
    rw [hf] at h
    cases (Prod.mk.inj h).1

/-- The engines the catalog scores, read from the store's files against the machine's
snapshot. -/
theorem scoreAll_ok {ctx : Context} {scored : List Scored} {s' : Session}
    (h : (scoreAll ctx).run.run s = (.ok scored, s')) :
    ∃ ms snap, loadCatalog (ctx.level + 2) s.store.files ctx.enginesDir = .ok ms ∧
      ctx.machine.snapshot = some snap ∧
      scoreEngines snap ms (snapConnection ctx.machine.tools) ctx.storage = .ok scored := by
  unfold scoreAll machineSnapshot at h
  rw [run_bind_of_ok files_run] at h
  rcases hcat : loadCatalog (ctx.level + 2) s.store.files ctx.enginesDir with e | ms
  · obtain ⟨f, hf⟩ : ∃ f, (fromCatalog (.error e) : CommandM (List Manifest)).run.run s =
        (.error f, s) := fromCatalog_error_run e
    rw [hcat, run_bind_of_error hf] at h
    cases (Prod.mk.inj h).1
  · rw [hcat] at h
    rw [run_bind_of_ok (show (fromCatalog (.ok ms) : CommandM (List Manifest)).run.run s =
      (.ok ms, s) from rfl)] at h
    rcases hsnap : ctx.machine.snapshot with _ | snap
    · rw [hsnap] at h
      cases (Prod.mk.inj h).1
    · rw [hsnap, run_bind_of_ok (run_pure' snap)] at h
      refine ⟨ms, snap, rfl, rfl, ?_⟩
      unfold fromScoring at h
      split at h
      · rename_i x hx
        rw [hx, Except.ok.inj (Prod.mk.inj h).1]
      · cases (Prod.mk.inj h).1
      · cases (Prod.mk.inj h).1

end

/-! ### Switching -/

section

variable {s : Session} {a : LayeredStore}

/-- **Switching to a named engine** from a store kept at `a`, when the engine's configurations are
values that JSON can write: either the run switches to that engine, or its store still keeps
`a`. -/
theorem switchEngine_atomic {ctx : Context} {name : String} (hs : Keeps s.store a)
    (hjson : ∀ m, loadEngine (ctx.level + 2) s.store.files ctx.enginesDir name = .ok m →
      ∀ p ∈ m.configurations, Json.IsValue p.2) :
    EndsOrKeeps a (SwitchedTo ctx s.store.files a name) ((switchEngine ctx name).run.run s) := by
  unfold switchEngine
  rw [run_bind_of_ok files_run]
  split
  · -- no manifest for that name: an error line
    exact ((keepsStore_say _ _ _ _).bind fun _ => keepsStore_pure 1).endsOrKeeps hs
  · exact (keepsStore_fromCatalog _).endsOrKeeps hs
  · rename_i m hm
    rw [run_bind_of_ok (fromConfig_activeEngine_run hs)]
    split
    · -- the engine is active already
      exact ((keepsStore_say _ _ _ _).bind fun _ => keepsStore_pure 0).endsOrKeeps hs
    · rename_i hother
      refine endsOrKeeps_bind (keepsStore_previousEngineKeys ctx _) rfl hs
        fun keys s' hrun hs' => ?_
      have hkept : Keeps s'.store a := hs' ▸ hs
      have hact : EndsOrKeeps a _ ((activateAndAnnounce name m keys).run.run s') :=
        activateAndAnnounce_atomic hkept (loadEngine_configuration_keys hm) (hjson m hm)
      rcases hact with ⟨a', hswitched, hstatus, hkeep, hsaid⟩ | hkeep
      · exact Or.inl ⟨m, keys, a', hm, fun h => hother (any_same_str_iff.2 h),
          previousKeys_of_run hrun, hswitched, hstatus, hkeep, hsaid⟩
      · exact Or.inr hkeep

/-- **Using an engine is atomic.** Run on a store that keeps the layered store `a`, when the
configurations of the engine it is asked for are values that JSON can write, `use-engine` either
switches to that engine, exiting with status 0 after saying so, its store keeping `a` with the
engine's configurations as the engine layer, the user overrides within the previous engine's
keys dropped and the engine active; or its store still keeps `a`, document and file alike. -/
theorem useEngine_atomic {ctx : Context} {engine : Option String} {auto : Bool}
    (hs : Keeps s.store a)
    (hjson : ∀ name m, UseChoice ctx s.store.files engine auto name →
      loadEngine (ctx.level + 2) s.store.files ctx.enginesDir name = .ok m →
      ∀ p ∈ m.configurations, Json.IsValue p.2) :
    (∃ name, UseChoice ctx s.store.files engine auto name ∧
        SwitchedTo ctx s.store.files a name ((useEngine ctx engine auto).run.run s)) ∨
      Keeps ((useEngine ctx engine auto).run.run s).2.store a := by
  show EndsOrKeeps a (fun r => ∃ name, UseChoice ctx s.store.files engine auto name ∧
    SwitchedTo ctx s.store.files a name r) _
  unfold useEngine
  cases auto with
  | false =>
    simp only [Bool.false_eq_true, if_false]
    split
    · exact ((keepsStore_say _ _ _ _).bind fun _ => keepsStore_pure 1).endsOrKeeps hs
    · rename_i name hnamed
      obtain ⟨rfl, hne⟩ := Option.filter_eq_some_iff.1 hnamed
      have hchoice : UseChoice ctx s.store.files (some name) false name :=
        .named (by simpa using hne)
      rcases switchEngine_atomic hs (hjson name · hchoice) with hswitched | hkeep
      · exact Or.inl ⟨name, hchoice, hswitched⟩
      · exact Or.inr hkeep
  | true =>
    simp only [if_true]
    split
    · -- a name and `--auto` together
      exact ((keepsStore_say _ _ _ _).bind fun _ => keepsStore_pure 1).endsOrKeeps hs
    · rename_i hunnamed
      have hnone : ∀ e ∈ engine, e = "" := by
        cases engine <;> simp_all [Option.filter]
      -- scoring, and printing the evaluation, leave the store alone
      refine endsOrKeeps_bind (keepsStore_scoreAll ctx) rfl hs fun scored s₁ hscored hs₁ => ?_
      obtain ⟨ms, snap, hcatalog, hsnap, hscore⟩ := scoreAll_ok hscored
      refine endsOrKeeps_bind (keepsStore_say _ _ _ _) hs₁ hs fun _ s₂ _ hs₂ => ?_
      refine endsOrKeeps_bind (keepsStore_forIn _ _ fun e _ =>
        (keepsStore_say _ _ _ _).bind fun _ => keepsStore_pure _) hs₂ hs fun _ s₃ _ hs₃ => ?_
      split
      · exact (keepsStore_throw _).endsOrKeeps (hs₃ ▸ hs)
      · rename_i best htop
        refine endsOrKeeps_bind (keepsStore_say _ _ _ _) hs₃ hs fun _ s₄ _ hs₄ => ?_
        have hchoice : UseChoice ctx s.store.files engine true best.name :=
          .auto hnone hcatalog hsnap hscore htop
        rcases switchEngine_atomic (hs₄ ▸ hs) (hs₄ ▸ (hjson best.name · hchoice)) with
          hswitched | hkeep
        · exact Or.inl ⟨best.name, hchoice, hs₄ ▸ hswitched⟩
        · exact Or.inr hkeep

/-- A value read as a short integer (an integer, or a boolean as 0 or 1) is one JSON can
write. -/
theorem Json.IsValue.of_numeral? {v : Value} {n : Int}
    (h : v.numeral?.bind Sum.getLeft? = some n) (hn : n.natAbs < Value.tooLongBound) :
    Json.IsValue v := by
  cases v with
  | bool b => exact .bool b
  | int k =>
    simp only [Value.numeral?, Option.bind_some, Sum.getLeft?_inl, Option.some.injEq] at h
    exact .int (h ▸ hn)
  | float x => simp [Value.numeral?] at h
  | _ => simp [Value.numeral?] at h

/-- Switching by name in a tree whose engines directory holds `old`, active with `threads` 8 in
the engine layer and a user override of `threads` to 4, and `e`, whose manifest sets `threads`
to 2: the manifest read from the tree has JSON configurations, and `use-engine e` exits with
status 0. -/
theorem useEngine_atomic_by_name :
    let a : LayeredStore := { engine := { toList := [("threads", .int 8)] },
                              user := { toList := [("threads", .int 4)] }, active := some "old" }
    let files : FileTree :=
      { entries := [(["config"], .directory),
          (["config", "config.json"],
            .file (Text.utf8Bytes (Json.emit 2 0 (.dict (a.document {}))).1)),
          (["engines"], .directory), (["engines", "old"], .directory),
          (["engines", "old", "engine.yaml"], .file (Text.utf8Bytes
            "name: old\ndescription: d\nvendor: v\ngrade: stable\nconfigurations:\n  threads: 8\n")),
          (["engines", "e"], .directory),
          (["engines", "e", "engine.yaml"], .file (Text.utf8Bytes
            "name: e\ndescription: d\nvendor: v\ngrade: stable\nconfigurations:\n  threads: 2\n"))] }
    let s : Session := { store := { ConfigStore.ofLayered a with files } }
    let ctx : Context := { machine := {}, enginesDir := "engines", storage := .null, level := 0 }
    ((useEngine ctx (some "e") false).run.run s).1.toOption = some 0 ∧
    Keeps s.store a ∧
      (∀ name m, UseChoice ctx s.store.files (some "e") false name →
        loadEngine (ctx.level + 2) s.store.files ctx.enginesDir name = .ok m →
        ∀ p ∈ m.configurations, Json.IsValue p.2) ∧
      ((∃ name, UseChoice ctx s.store.files (some "e") false name ∧
          SwitchedTo ctx s.store.files a name ((useEngine ctx (some "e") false).run.run s)) ∨
        Keeps ((useEngine ctx (some "e") false).run.run s).2.store a) := by
  intro a files s ctx
  have hjsonA : a.IsJson := by
    intro l p hp
    cases l <;> simp [a, LayeredStore.layer] at hp <;> subst hp <;>
      exact .int (Json.lt_tooLongBound (by decide))
  have hkeep : Keeps s.store a := ⟨⟨{}, rfl⟩, hjsonA, rfl⟩
  -- the manifest of `e` is read from the tree, with the one configuration `threads`, an integer
  have hread : (loadEngine (ctx.level + 2) s.store.files ctx.enginesDir "e").toOption.map
      (fun m => m.configurations.map fun p => (p.1, p.2.numeral?.bind Sum.getLeft?)) =
        some [("threads", some 2)] := by
    decide +kernel
  have hjson : ∀ name m, UseChoice ctx s.store.files (some "e") false name →
      loadEngine (ctx.level + 2) s.store.files ctx.enginesDir name = .ok m →
      ∀ p ∈ m.configurations, Json.IsValue p.2 := by
    rintro name m ⟨⟩ hm p hp
    rw [hm] at hread
    have hconf : m.configurations.map (fun p => (p.1, p.2.numeral?.bind Sum.getLeft?)) =
        [("threads", some 2)] := by
      simpa [Except.toOption] using hread
    have hp2 : (p.1, p.2.numeral?.bind Sum.getLeft?) ∈ [("threads", some (2 : Int))] :=
      hconf ▸ List.mem_map_of_mem hp
    simp only [List.mem_singleton, Prod.mk.injEq] at hp2
    exact Json.IsValue.of_numeral? hp2.2 (Json.lt_tooLongBound (by decide))
  exact ⟨by decide +kernel, hkeep, hjson, useEngine_atomic hkeep hjson⟩

/-- Once the engine's manifest is read, another engine is active and the previous engine's keys
are found, switching is activating and announcing. -/
theorem switchEngine_run_loaded {ctx : Context} {name : String} {m : Manifest}
    {keys : List String} (hs : Keeps s.store a)
    (hm : loadEngine (ctx.level + 2) s.store.files ctx.enginesDir name = .ok m)
    (hother : a.activeEngine ≠ some name)
    (hkeys : previousKeys ctx s.store.files a.activeEngine = .ok keys) :
    (switchEngine ctx name).run.run s = (activateAndAnnounce name m keys).run.run s := by
  have hprevious : (previousEngineKeys ctx (a.activeEngine.map .str)).run.run s = (.ok keys, s) := by
    rw [previousEngineKeys_run, hkeys]
  unfold switchEngine
  rw [run_bind_of_ok files_run]
  simp only [hm]
  rw [run_bind_of_ok (fromConfig_activeEngine_run hs),
    if_neg (fun h => hother (any_same_str_iff.1 h)), run_bind_of_ok hprevious]

/-- **The condition on configurations cannot be dropped.** Asked by name for an engine whose
manifest holds an integer too long to write, from a store kept at `a` where another engine is
active, `use-engine` neither switches nor keeps `a`: it ends abnormally after changing the
store. -/
theorem useEngine_unwritable {ctx : Context} {name : String} {m : Manifest}
    {keys : List String} (hs : Keeps s.store a)
    (hm : loadEngine (ctx.level + 2) s.store.files ctx.enginesDir name = .ok m)
    (hname : name ≠ "") (hother : a.active ≠ some name)
    (hkeys : previousKeys ctx s.store.files a.activeEngine = .ok keys)
    {k : String} {n : Int} (hk : (k, .int n) ∈ m.configurations)
    (hn : Value.tooLongBound ≤ n.natAbs) :
    ¬ ((∃ name', UseChoice ctx s.store.files (some name) false name' ∧
          SwitchedTo ctx s.store.files a name' ((useEngine ctx (some name) false).run.run s)) ∨
        Keeps ((useEngine ctx (some name) false).run.run s).2.store a) := by
  have hactive : a.activeEngine ≠ some name := by
    simp only [LayeredStore.activeEngine]
    intro h
    exact hother (Option.filter_eq_some_iff.1 h).1
  have huse : (useEngine ctx (some name) false).run.run s =
      (activateAndAnnounce name m keys).run.run s := by
    have hnamed : name.isEmpty = false := by simpa using hname
    rw [← switchEngine_run_loaded hs hm hactive hkeys]
    simp [useEngine, Option.filter, hnamed]
  have hbreak : (∃ e, ((activateAndAnnounce name m keys).run.run s).1 =
        .error (.fault (.config (.unwritable e)))) ∧
      ∀ st, ((activateAndAnnounce name m keys).run.run s).2.store.doc ≠ a.document st :=
    activateAndAnnounce_unwritable hs (loadEngine_configuration_keys hm) hname hother hk hn
  obtain ⟨⟨e, hfault⟩, hdoc⟩ := hbreak
  rw [huse]
  rintro (⟨-, -, -, -, -, -, -, -, -, hstatus, -⟩ | hkeep)
  · rw [hfault] at hstatus
    cases hstatus
  · obtain ⟨st, hst⟩ := hkeep.doc
    exact hdoc st hst

/-- **A switch that is not atomic.** From `old`, active with `threads` 8 in the engine layer and
a user override of `threads` to 4, to `big`, whose configurations hold `threads` 2 and an
integer of 4301 digits: activating `big` neither switches nor keeps the store as it was. -/
theorem activating_long_integer_breaks_switch :
    let a : LayeredStore := { engine := { toList := [("threads", .int 8)] },
                              user := { toList := [("threads", .int 4)] }, active := some "old" }
    let big : Manifest := { name := "big", description := "d", vendor := "v", grade := .stable,
                            configurations := [("threads", .int 2), ("n", .int Value.tooLongBound)] }
    let s : Session := { store := ConfigStore.ofLayered a }
    Keeps s.store a ∧
      ¬ EndsOrKeeps a (fun r => ∃ a', Switched a a' "big" big.configurations ["threads"] ∧
          r.1 = .ok 0 ∧ Keeps r.2.store a' ∧ Announced "big" r.2)
        ((activateAndAnnounce "big" big ["threads"]).run.run s) := by
  intro a big s
  have hjson : a.IsJson := by
    intro l p hp
    cases l <;> simp [a, LayeredStore.layer] at hp <;> subst hp <;>
      exact .int (Json.lt_tooLongBound (by decide))
  have hkeep : Keeps s.store a := ConfigStore.keeps_ofLayered hjson
  have hbreak : (∃ e, ((activateAndAnnounce "big" big ["threads"]).run.run s).1 =
        .error (.fault (.config (.unwritable e)))) ∧
      ∀ st, ((activateAndAnnounce "big" big ["threads"]).run.run s).2.store.doc ≠
        a.document st :=
    activateAndAnnounce_unwritable hkeep (by decide) (by decide) (by decide)
      (.tail _ (.head _)) (Int.natAbs_natCast _).ge
  obtain ⟨⟨e, hfault⟩, hdoc⟩ := hbreak
  refine ⟨hkeep, ?_⟩
  rintro (⟨-, -, hstatus, -⟩ | hkeep')
  · rw [hfault] at hstatus
    cases hstatus
  · obtain ⟨st, hst⟩ := hkeep'.doc
    exact hdoc st hst

end

end Cli
end EngineFit
