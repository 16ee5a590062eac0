import EngineFit.Proofs.UsableStore

/-!
# Opening a store on any configuration file

Opening a configuration store where `config.json` exists reads the file and repairs what it
reads: bytes with no JSON in them, or JSON that is no object, are replaced by the default
document, and an object is given the default sections it lacks (`Config.repair`). Three kinds of
file stop the opening instead (`ConfigStore.OpenFault`): bytes that are not UTF-8, JSON beyond
what the reader reads (an integer of too many digits, a nesting too deep), and an object whose
schema version is a text, null, an array or an object, which cannot be compared with a number.

`ConfigStore.openIn_recovers_except_faults` says that these are exactly the files on which the
opening fails, and that once it succeeds the document holds every default section as the
defaults ask (`Config.HasDefaultSections`) and the calls of the layered interface fail only by
refusing their arguments. The last part rests on the store being usable
(`ConfigStore.answerAll_refuses_only`): the repaired document is a JSON object
(`Config.isValue_repair`), since the reader reads only JSON values, and its `layers` and
`cache` sections are objects.
-/

namespace EngineFit

namespace Except

/-- Reading a result as an option keeps its value; a decoding is evaluated this way, since
results carry no decidable equality. -/
theorem toOption_eq_some_iff {ε α : Type} {x : Except ε α} {a : α} :
    x.toOption = some a ↔ x = .ok a := by
  cases x <;> simp [Except.toOption]

theorem toOption_eq_none_iff {ε α : Type} {x : Except ε α} :
    x.toOption = none ↔ ∃ e, x = .error e := by
  cases x <;> simp [Except.toOption]

end Except

namespace Value

theorem lookup_append (kvs kvs' : List (Value × Value)) (k : Value) :
    lookup (kvs ++ kvs') k = (lookup kvs k).or (lookup kvs' k) := by
  simp only [lookup, List.find?_append, Option.map_or]

theorem lookup_singleton_str (s q : String) (v : Value) :
    lookup [(.str s, v)] (.str q) = if s = q then some v else none := by
  by_cases h : s = q <;> simp [lookup, keySame, h]

/-- An entry under a text key is found under that key. -/
theorem lookup_isSome_of_mem {kvs : List (Value × Value)} {s : String} {v : Value}
    (h : (.str s, v) ∈ kvs) : (lookup kvs (.str s)).isSome := by
  simp only [lookup, Option.isSome_map]
  exact List.find?_isSome.2 ⟨_, h, by simp [keySame]⟩

end Value

namespace Config

/-! ### Repairing a document -/

/-- Whether a schema version can be compared with a number: booleans and numbers can. -/
def comparesWithNumber : Value → Bool
  | .bool _ | .int _ | .float _ => true
  | _ => false

/-- Whether a document holds a default section as the defaults ask: the section is present, and
when its default is an object, it is an object holding every key of the default. -/
def holdsSection (doc : List (Value × Value)) (s : String × Value) : Bool :=
  match Value.lookup doc (.str s.1), s.2 with
  | some (.dict kvs), .dict defaults => defaults.all fun e => (Value.lookup kvs e.1).isSome
  | some _, .dict _ => false
  | some _, _ => true
  | none, _ => false

/-- A document holds every default section as the defaults ask. -/
def HasDefaultSections (doc : List (Value × Value)) : Prop :=
  ∀ s ∈ defaultSections, holdsSection doc s = true

instance (doc : List (Value × Value)) : Decidable (HasDefaultSections doc) :=
  inferInstanceAs (Decidable (∀ s ∈ defaultSections, holdsSection doc s = true))

/-- A section is held when the value under its key is an object holding the default's keys,
or the default is no object. -/
theorem holdsSection_of_lookup {doc : List (Value × Value)} {k : String} {d w : Value}
    (hw : Value.lookup doc (.str k) = some w)
    (hd : ∀ defaults, d = .dict defaults →
      ∃ kvs, w = .dict kvs ∧ ∀ e ∈ defaults, (Value.lookup kvs e.1).isSome) :
    holdsSection doc (k, d) = true := by
  unfold holdsSection
  rw [hw]
  cases d with
  | dict defaults =>
    obtain ⟨kvs, rfl, h⟩ := hd defaults rfl
    simpa using h
  | _ => cases w <;> rfl

theorem holdsSection_congr {doc doc' : List (Value × Value)} {s : String × Value}
    (h : Value.lookup doc (.str s.1) = Value.lookup doc' (.str s.1)) :
    holdsSection doc s = holdsSection doc' s := by
  simp only [holdsSection, h]

/-- Repairing a section leaves the other sections as they were. -/
theorem lookup_repairSection_of_ne (doc : List (Value × Value)) {k q : String} (h : k ≠ q)
    (d : Value) : Value.lookup (repairSection doc k d) (.str q) = Value.lookup doc (.str q) := by
  unfold repairSection
  split <;> simp [Value.lookup_append, Value.lookup_insertEntry_str, Value.lookup_singleton_str, h]

/-- One default entry, added when its key is missing. -/
theorem lookup_fillStep_isSome {acc : List (Value × Value)} {e : Value × Value} {x : Value}
    (h : (Value.lookup acc x).isSome) :
    (Value.lookup (if (Value.lookup acc e.1).isSome then acc else acc ++ [e]) x).isSome := by
  split
  · exact h
  · rw [Value.lookup_append]
    obtain ⟨w, hw⟩ := Option.isSome_iff_exists.1 h
    simp [hw]

/-- Filling a section keeps every key it had. -/
theorem lookup_fillSection_of_isSome (kvs defaults : List (Value × Value)) {x : Value}
    (h : (Value.lookup kvs x).isSome) : (Value.lookup (fillSection kvs defaults) x).isSome := by
  induction defaults generalizing kvs with
  | nil => exact h
  | cons e defaults ih => exact ih _ (lookup_fillStep_isSome h)

/-- **Filling a section** gives it every key of its default that is a text. -/
theorem lookup_fillSection_isSome (kvs defaults : List (Value × Value)) {s : String} {v : Value}
    (h : (.str s, v) ∈ defaults) : (Value.lookup (fillSection kvs defaults) (.str s)).isSome := by
  induction defaults generalizing kvs with
  | nil => cases h
  | cons e defaults ih =>
    rcases List.mem_cons.1 h with rfl | h
    · -- the key is added now, unless it is there
      show (Value.lookup (fillSection (if (Value.lookup kvs (.str s)).isSome then kvs
        else kvs ++ [(.str s, v)]) defaults) (.str s)).isSome
      apply lookup_fillSection_of_isSome
      split
      · assumption
      · simp [Value.lookup_append, Value.lookup_singleton_str]
    · exact ih _ h

/-- **Repairing a section** leaves it held as its default asks: a missing section takes its
default, an object is filled with the default's keys, and a section of another kind is reset
when the default is an object. -/
theorem holdsSection_repairSection (doc : List (Value × Value)) (k : String) {d : Value}
    (hd : Json.IsValue d) : holdsSection (repairSection doc k d) (k, d) = true := by
  -- a default object holds its own keys, which are texts
  have hown : ∀ defaults, d = .dict defaults →
      ∀ e ∈ defaults, (Value.lookup defaults e.1).isSome := by
    rintro defaults rfl ⟨k', v'⟩ he
    obtain ⟨⟨s, hs⟩, -⟩ := Json.isValue_dict_iff.1 hd _ he
    cases hs
    exact Value.lookup_isSome_of_mem he
  unfold repairSection
  split
  · rename_i hnone
    refine holdsSection_of_lookup ?_ fun defaults h => ⟨defaults, h, hown defaults h⟩
    simp [Value.lookup_append, Value.lookup_singleton_str, hnone]
  · rename_i kvs defaults _
    refine holdsSection_of_lookup (w := .dict (fillSection kvs defaults))
      (by simp [Value.lookup_insertEntry_str]) ?_
    rintro defaults' ⟨⟩
    refine ⟨_, rfl, fun e he => ?_⟩
    obtain ⟨⟨s, hs⟩, -⟩ := Json.isValue_dict_iff.1 hd _ he
    obtain ⟨k', v'⟩ := e
    cases hs
    exact lookup_fillSection_isSome kvs defaults he
  · rename_i defaults _ _
    exact holdsSection_of_lookup (by simp [Value.lookup_insertEntry_str])
      fun defaults' h => ⟨defaults', h, hown defaults' h⟩
  · -- a section whose default is no object is kept as it is
    rename_i w hw _ hnot
    exact holdsSection_of_lookup hw fun defaults h => (hnot defaults h).elim

/-- Repairing sections of other keys leaves a section as it was. -/
theorem lookup_foldl_repairSection_of_not_mem (L : List (String × Value)) {q : String}
    (h : q ∉ L.map (·.1)) (doc : List (Value × Value)) :
    Value.lookup (L.foldl (fun d s => repairSection d s.1 s.2) doc) (.str q) =
      Value.lookup doc (.str q) := by
  induction L generalizing doc with
  | nil => rfl
  | cons s L ih =>
    simp only [List.map_cons, List.mem_cons, not_or] at h
    rw [List.foldl_cons, ih h.2, lookup_repairSection_of_ne doc (Ne.symm h.1)]

/-- Repairing the sections of a list, each key once and each default a JSON value, holds every
one of them: the repairs of the others leave a repaired section as it is. -/
theorem holdsSection_foldl_repairSection (L : List (String × Value))
    (hkeys : (L.map (·.1)).Nodup) (hjson : ∀ s ∈ L, Json.IsValue s.2) (doc : List (Value × Value)) :
    ∀ s ∈ L, holdsSection (L.foldl (fun d s => repairSection d s.1 s.2) doc) s = true := by
  induction L generalizing doc with
  | nil => intro s hs; cases hs
  | cons s L ih =>
    rw [List.map_cons, List.nodup_cons] at hkeys
    intro t ht
    rw [List.foldl_cons]
    rcases List.mem_cons.1 ht with rfl | ht
    · rw [holdsSection_congr (lookup_foldl_repairSection_of_not_mem L hkeys.1 _)]
      exact holdsSection_repairSection doc t.1 (hjson t List.mem_cons_self)
    · exact ih hkeys.2 (fun u hu => hjson u (List.mem_cons_of_mem s hu)) _ t ht

/-- The default sections are JSON values. -/
theorem isValue_defaultSections : ∀ s ∈ defaultSections, Json.IsValue s.2 := by
  have hobj : ∀ kvs : List (String × Value), (∀ p ∈ kvs, Json.IsValue p.2) →
      Json.IsValue (Value.obj kvs) := fun kvs h => LayeredStore.isValue_entries h
  intro s hs
  simp only [defaultSections, List.mem_cons, List.mem_nil_iff, or_false] at hs
  rcases hs with rfl | rfl | rfl | rfl | rfl | rfl | rfl
  · exact .int (Json.lt_tooLongBound (n := 1) (by decide))
  · exact .null
  · exact .null
  all_goals
    refine hobj _ fun p hp => ?_
    simp only [List.mem_cons, List.mem_nil_iff, or_false] at hp
    rcases hp with rfl | rfl | rfl <;>
      first | exact .null | exact .str _ | exact Json.isValue_dict_iff.2 fun _ h => by cases h

/-- The default document is a JSON object. -/
theorem isValue_defaultDocument : Json.IsValue (.dict defaultDocument) :=
  LayeredStore.isValue_entries isValue_defaultSections

/-- Filling a section with the entries of a JSON object keeps it a JSON object. -/
theorem TextEntries.fillSection {P : Value → Prop} {kvs defaults : List (Value × Value)}
    (hkvs : Value.TextEntries P kvs) (hdefaults : Value.TextEntries P defaults) :
    Value.TextEntries P (fillSection kvs defaults) := by
  induction defaults generalizing kvs with
  | nil => exact hkvs
  | cons e defaults ih =>
    refine ih ?_ fun p hp => hdefaults p (List.mem_cons_of_mem e hp)
    obtain ⟨k, v⟩ := e
    dsimp only
    split
    · exact hkvs
    · intro p hp
      rcases List.mem_append.1 hp with hp | hp
      · exact hkvs p hp
      · rw [List.mem_singleton.1 hp]
        exact hdefaults _ List.mem_cons_self

/-- Repairing a section of a JSON object with a JSON default keeps it a JSON object. -/
theorem isValue_repairSection {doc : List (Value × Value)} (hdoc : Json.IsValue (.dict doc))
    (k : String) {d : Value} (hd : Json.IsValue d) :
    Json.IsValue (.dict (repairSection doc k d)) := by
  unfold repairSection
  split
  · refine Json.isValue_dict_iff.2 fun p hp => ?_
    rcases List.mem_append.1 hp with hp | hp
    · exact Json.isValue_dict_iff.1 hdoc p hp
    · rw [List.mem_singleton.1 hp]
      exact ⟨⟨k, rfl⟩, hd⟩
  · rename_i kvs defaults hkvs
    refine hdoc.insertEntry k (Json.isValue_dict_iff.2 ?_)
    exact TextEntries.fillSection (Json.isValue_dict_iff.1 (hdoc.of_lookup hkvs))
      (Json.isValue_dict_iff.1 hd)
  · exact hdoc.insertEntry k hd
  · exact hdoc

/-! ### The schema version -/

/-- **Repairing succeeds** on a document whose schema version, if it has one, can be compared
with a number; the sections are then repaired one by one. -/
theorem repair_eq_ok {doc : List (Value × Value)}
    (h : ∀ v, Value.lookup doc (.str "schema_version") = some v → comparesWithNumber v = true) :
    repair doc = .ok (defaultSections.foldl (fun d s => repairSection d s.1 s.2) doc) := by
  unfold repair
  split
  all_goals first
    | rfl
    | (rename_i hv; cases h _ hv)

/-- **Repairing fails** on a JSON schema version that cannot be compared with a number: a text,
null, an array or an object. -/
theorem repair_eq_error {doc : List (Value × Value)} {v : Value}
    (hv : Value.lookup doc (.str "schema_version") = some v) (hj : Json.IsValue v)
    (hc : comparesWithNumber v = false) : repair doc = .error ⟨v.kindName⟩ := by
  unfold repair
  rw [hv]
  cases hj <;> first | rfl | cases hc

/-- A repaired document holds every default section as the defaults ask. -/
theorem hasDefaultSections_of_repair {doc d : List (Value × Value)} (h : repair doc = .ok d) :
    HasDefaultSections d := by
  have hfold := holdsSection_foldl_repairSection defaultSections (by decide)
    isValue_defaultSections doc
  unfold repair at h
  split at h
  all_goals first
    | (cases h; exact hfold)
    | cases h

/-- A JSON object repaired is a JSON object. -/
theorem isValue_repair {doc d : List (Value × Value)} (hdoc : Json.IsValue (.dict doc))
    (h : repair doc = .ok d) : Json.IsValue (.dict d) := by
  have hfold : ∀ L : List (String × Value), (∀ s ∈ L, Json.IsValue s.2) → ∀ doc,
      Json.IsValue (.dict doc) →
      Json.IsValue (.dict (L.foldl (fun d s => repairSection d s.1 s.2) doc)) := by
    intro L hL
    induction L with
    | nil => exact fun _ h => h
    | cons s L ih =>
      intro doc hdoc
      exact ih (fun t ht => hL t (List.mem_cons_of_mem s ht)) _
        (isValue_repairSection hdoc s.1 (hL s List.mem_cons_self))
  unfold repair at h
  split at h
  all_goals first
    | (cases h; exact hfold _ isValue_defaultSections doc hdoc)
    | cases h

/-- A section held whose default is an object is an object. -/
theorem exists_dict_of_holdsSection {doc defaults : List (Value × Value)} {k : String}
    (h : holdsSection doc (k, .dict defaults) = true) :
    ∃ kvs, Value.lookup doc (.str k) = some (.dict kvs) := by
  unfold holdsSection at h
  cases hk : Value.lookup doc (.str k) with
  | none => simp [hk] at h
  | some w =>
    rw [hk] at h
    cases w with
    | dict kvs => exact ⟨kvs, rfl⟩
    | _ => cases h

/-- A document holding the default sections has objects for `layers` and `cache`. -/
theorem HasDefaultSections.layers {doc : List (Value × Value)} (h : HasDefaultSections doc) :
    ∃ ls, Value.lookup doc (.str "layers") = some (.dict ls) :=
  exists_dict_of_holdsSection
    (h ("layers", Value.obj [("package", .dict []), ("engine", .dict []), ("user", .dict [])])
      (by simp [defaultSections]))

theorem HasDefaultSections.cache {doc : List (Value × Value)} (h : HasDefaultSections doc) :
    ∃ cs, Value.lookup doc (.str "cache") = some (.dict cs) :=
  exists_dict_of_holdsSection (h ("cache", Value.obj [("active-engine", .null)])
    (by simp [defaultSections]))

/-- The document of a layered store holds every default section as the defaults ask, whatever
its time stamps. -/
theorem hasDefaultSections_document (a : LayeredStore) (st : Stamps) :
    HasDefaultSections (a.document st) := by
  obtain ⟨created, updated⟩ := st
  intro s hs
  simp only [defaultSections, List.mem_cons, List.mem_nil_iff, or_false] at hs
  -- each section is looked up under its text key; only the stamps' kinds are needed
  rcases hs with rfl | rfl | rfl | rfl | rfl | rfl | rfl <;>
    cases created <;> cases updated <;> rfl

end Config

namespace ConfigStore

/-! ### Opening on an existing file -/

theorem readText_of_read {t : FileTree} {p : PathName} {bytes : List UInt8}
    (h : t.read p = .ok bytes) :
    t.readText p = match Text.decodeUtf8 bytes with
      | .ok s => .ok (Text.unifyNewlines s)
      | .error e => .error (.encoding e) := by
  -- the statement's `match` is not the definition's, so both are read at each decoding
  cases hd : Text.decodeUtf8 bytes <;> simp only [FileTree.readText, h, hd]

/-- A file that can be read is held. -/
theorem holds_of_read {t : FileTree} {p : PathName} {bytes : List UInt8}
    (h : t.read p = .ok bytes) : t.holds p = true := by
  obtain ⟨r, hl, hr⟩ := FileTree.read_eq_ok.1 h
  simp [FileTree.holds, FileTree.entry?, hl, hr]

/-- Opening where the directories are made and the configuration file is held: the document
read is repaired, a file to be replaced is replaced by the default document, saved, and a fault
stops the opening. -/
theorem load_run {level : Nat} {clock : Clock} {files made : FileTree} {dir : PathName}
    (hmake : files.makeDirectories dir = .ok made) (hholds : made.holds (fileIn dir) = true) :
    (load level).run.run { files, dir, doc := [], clock } =
      match readDocument (level + 1) made dir with
      | .ok (some doc) =>
        match Config.repair doc with
        | .ok doc => (.ok (), { files := made, dir, doc, clock, changes := [[]] })
        | .error e => (.error (.schema e), { files := made, dir, doc := [], clock })
      | .ok none => (do save; note []).run.run
          { files := made, dir, doc := Config.madeAt (clock 0), clock, readings := 1 }
      | .error e => (.error e, { files := made, dir, doc := [], clock }) := by
  simp only [load, run_get_bind, hmake, run_set_bind, hholds, if_true]
  cases readDocument (level + 1) made dir with
  | error e => simp only [run_throw_bind]
  | ok d =>
    cases d with
    | none => simp only [pure_bind, run_set_bind]
    | some doc =>
      cases hrepair : Config.repair doc with
      | ok doc' => simp only [hrepair, pure_bind, run_set_bind, run_note, List.nil_append]
      | error e => simp only [hrepair, pure_bind, run_throw_bind]

/-- The faults that stop a store from opening on a configuration file, read off the file's
bytes: they are not UTF-8; their text is JSON beyond what the reader reads, an integer of too
many digits or a nesting too deep; or it is an object whose schema version cannot be compared
with a number, named by its kind. -/
inductive OpenFault (room : Nat) (bytes : List UInt8) : ConfigError → Prop
  | encoding {e : Text.Utf8Error} : Text.decodeUtf8 bytes = .error e →
      OpenFault room bytes (.encoding e)
  | beyondReader {text : String} {e : Json.ReadError} : Text.decodeUtf8 bytes = .ok text →
      Json.read room (Text.unifyNewlines text) = .error e → e.fault.isSyntax = false →
      OpenFault room bytes (.beyondReader e.fault)
  | schema {text : String} {kvs : List (Value × Value)} {v : Value} :
      Text.decodeUtf8 bytes = .ok text →
      Json.read room (Text.unifyNewlines text) = .ok (.dict kvs) →
      Value.lookup kvs (.str "schema_version") = some v → Config.comparesWithNumber v = false →
      OpenFault room bytes (.schema ⟨v.kindName⟩)

section Opening

variable {level : Nat} {clock : Clock} {files made : FileTree} {dir : PathName}
  {bytes : List UInt8}

/-- What opening reads off the bytes of the configuration file. -/
theorem readDocument_of_read (hfile : made.read (fileIn dir) = .ok bytes) :
    readDocument (level + 1) made dir =
      match Text.decodeUtf8 bytes with
      | .error e => .error (.encoding e)
      | .ok text =>
        match Json.read (roomAbove (level + 2)) (Text.unifyNewlines text) with
        | .ok (.dict kvs) => .ok (some kvs)
        | .error e => if e.fault.isSyntax then .ok none else .error (.beyondReader e.fault)
        | .ok _ => .ok none := by
  unfold readDocument
  rw [readText_of_read hfile]
  cases Text.decodeUtf8 bytes <;> rfl

theorem openIn_fst (level : Nat) (clock : Clock) (files : FileTree) (dir : PathName) :
    (openIn level clock files dir).1 = ((load level).run.run { files, dir, doc := [], clock }).1.map
      fun _ => ((load level).run.run { files, dir, doc := [], clock }).2 := rfl

/-- **A faulty file stops the opening**, with its fault. -/
theorem openIn_of_openFault (hmake : files.makeDirectories dir = .ok made)
    (hfile : made.read (fileIn dir) = .ok bytes) {e : ConfigError}
    (hf : OpenFault (roomAbove (level + 2)) bytes e) :
    (openIn level clock files dir).1 = .error e := by
  rw [openIn_fst, load_run hmake (holds_of_read hfile), readDocument_of_read hfile]
  cases hf with
  | encoding he => simp [he, Except.map]
  | beyondReader ht hr hs => simp [ht, hr, hs, Except.map]
  | schema ht hr hv hc =>
    have hrepair := Config.repair_eq_error hv ((Json.read_isValue hr).of_lookup hv) hc
    simp [ht, hr, hrepair, Except.map]

/-- A store whose document holds the default sections as a JSON object, and whose configuration
file can be written, is usable. -/
theorem usable_of_sections {c : ConfigStore} (hjson : Json.IsValue (.dict c.doc))
    (hsections : Config.HasDefaultSections c.doc) (hw : c.files.Writable (fileIn c.dir)) :
    Usable c :=
  ⟨hjson, hsections.layers, hsections.cache, hw⟩

/-- A file with no JSON object in it is replaced by the default document made at the first
reading of the clock, saved: the store is usable and holds every default section. -/
theorem save_default_run (hw : made.Writable (fileIn dir)) :
    ∃ c, (do save; note []).run.run
        { files := made, dir, doc := Config.madeAt (clock 0), clock, readings := 1 } =
      (.ok (), c) ∧ Usable c ∧ Config.HasDefaultSections c.doc := by
  set S : ConfigStore := { files := made, dir, doc := Config.madeAt (clock 0), clock,
                           readings := 1 } with hS
  -- the document made and stamped by the save is that of the empty layered store
  have hdoc : S.stamped.doc = ({} : LayeredStore).document ⟨some (clock 0), some (clock 1)⟩ := by
    rw [stamped_doc]
    show Value.insertEntry (Config.madeAt (clock 0)) _ _ = _
    rw [← LayeredStore.document_madeAt, LayeredStore.insertEntry_document_updated]
  have hjson : Json.IsValue (.dict S.stamped.doc) := by
    rw [hdoc]
    exact LayeredStore.isValue_document LayeredStore.isJson_empty _
  have hsections : Config.HasDefaultSections S.stamped.doc := by
    rw [hdoc]
    exact Config.hasDefaultSections_document {} _
  obtain ⟨files', hsave, hread⟩ := save_run (c := S) hw (Json.emit_fault_eq_none hjson 2 0)
  refine ⟨{ S.stamped with files := files', changes := S.stamped.changes ++ [[]] },
    by rw [run_bind_ok hsave, run_note], ?_, hsections⟩
  exact usable_of_sections hjson hsections (FileTree.writable_of_read hread)

/-- **Opening on an existing file** either stops at a fault of the file, or gives a usable store
whose document holds every default section. -/
theorem openIn_cases (hmake : files.makeDirectories dir = .ok made)
    (hfile : made.read (fileIn dir) = .ok bytes) :
    (∃ e, (openIn level clock files dir).1 = .error e ∧
        OpenFault (roomAbove (level + 2)) bytes e) ∨
      ∃ c, (openIn level clock files dir).1 = .ok c ∧ Usable c ∧
        Config.HasDefaultSections c.doc := by
  rw [openIn_fst, load_run hmake (holds_of_read hfile), readDocument_of_read hfile]
  obtain ⟨c, hdefault, hc, hsections⟩ := save_default_run (FileTree.writable_of_read hfile)
  cases hdecode : Text.decodeUtf8 bytes with
  | error e => exact .inl ⟨_, rfl, .encoding hdecode⟩
  | ok text =>
    dsimp only
    cases hread : Json.read (roomAbove (level + 2)) (Text.unifyNewlines text) with
    | error re =>
      cases hgrammar : re.fault.isSyntax
      · exact .inl ⟨_, by simp [hgrammar, Except.map], .beyondReader hdecode hread hgrammar⟩
      · refine .inr ⟨c, ?_, hc, hsections⟩
        simp only [hgrammar, if_true]
        rw [hdefault]
        rfl
    | ok v =>
      cases v with
      | dict kvs =>
        by_cases hcmp : ∀ w, Value.lookup kvs (.str "schema_version") = some w →
            Config.comparesWithNumber w = true
        · -- the object is repaired
          obtain ⟨repaired, hrepair⟩ : ∃ d, Config.repair kvs = .ok d := ⟨_, Config.repair_eq_ok hcmp⟩
          have hsections' := Config.hasDefaultSections_of_repair hrepair
          refine .inr ⟨{ files := made, dir := dir, doc := repaired, clock, changes := [[]] }, ?_,
            usable_of_sections (Config.isValue_repair (Json.read_isValue hread) hrepair)
              hsections' (FileTree.writable_of_read hfile), hsections'⟩
          simp [hrepair, Except.map]
        · -- a schema version that cannot be compared with a number stops it
          obtain ⟨w, hw, hcw⟩ : ∃ w, Value.lookup kvs (.str "schema_version") = some w ∧
              Config.comparesWithNumber w = false := by
            simpa using hcmp
          have hrepair := Config.repair_eq_error hw ((Json.read_isValue hread).of_lookup hw) hcw
          exact .inl ⟨_, by simp [hrepair, Except.map], .schema hdecode hread hw hcw⟩
      | _ =>
        -- JSON that is no object is replaced by the default document
        refine .inr ⟨c, ?_, hc, hsections⟩
        dsimp only
        rw [hdefault]
        rfl

/-- **Opening a store on any configuration file.** Where the directories can be made and
`config.json` holds some bytes, opening fails exactly on a faulty file: bytes that are not
UTF-8, JSON beyond what the reader reads, or an object whose schema version cannot be compared
with a number. Once it succeeds, the document holds every default section as the defaults ask,
and along every sequence of calls of the layered interface with JSON values, every call that
fails refuses its arguments. -/
theorem openIn_recovers_except_faults {level : Nat} {clock : Clock} {files made : FileTree}
    {dir : PathName} {bytes : List UInt8} (hmake : files.makeDirectories dir = .ok made)
    (hfile : made.read (fileIn dir) = .ok bytes) :
    (∀ e, (openIn level clock files dir).1 = .error e ↔
      OpenFault (roomAbove (level + 2)) bytes e) ∧
    ∀ c, (openIn level clock files dir).1 = .ok c →
      Config.HasDefaultSections c.doc ∧
      ∀ calls : List LayerCall, (∀ call ∈ calls, call.IsJson) →
        ∀ e, LayerAnswer.failed e ∈ (c.answerAll calls).1 → e.refusesArguments = true := by
  refine ⟨fun e => ⟨fun h => ?_, openIn_of_openFault hmake hfile⟩, fun c h => ?_⟩
  · rcases openIn_cases hmake hfile with ⟨e', h', hf⟩ | ⟨c, h', -⟩
    · rw [h] at h'
      cases h'
      exact hf
    · rw [h] at h'
      cases h'
  · rcases openIn_cases hmake hfile with ⟨e', h', -⟩ | ⟨c', h', hc, hsections⟩
    · rw [h] at h'
      cases h'
    · rw [h] at h'
      cases h'
      exact ⟨hsections, fun calls hcalls => (answerAll_refuses_only hc calls hcalls).2⟩

/-- A configuration file of the one byte `0xff`, which is not UTF-8, stops the opening with the
decoding fault. -/
theorem openIn_refuses_invalid_utf8 :
    FileTree.makeDirectories
        { entries := [(["config"], .directory), (["config", "config.json"], .file [0xff])] }
        { parts := ["config"] } =
      .ok { entries := [(["config"], .directory), (["config", "config.json"], .file [0xff])] } ∧
    FileTree.read { entries := [(["config"], .directory), (["config", "config.json"], .file [0xff])] }
        (fileIn { parts := ["config"] }) = .ok [0xff] ∧
    ∃ e, (openIn 0 (Clock.stopped "2026-10-19T12:00:00+00:00")
        { entries := [(["config"], .directory), (["config", "config.json"], .file [0xff])] }
        { parts := ["config"] }).1 = .error (.encoding e) := by
  have hmake : FileTree.makeDirectories
      { entries := [(["config"], .directory), (["config", "config.json"], .file [0xff])] }
      { parts := ["config"] } =
      .ok { entries := [(["config"], .directory), (["config", "config.json"], .file [0xff])] } := rfl
  have hfile : FileTree.read
      { entries := [(["config"], .directory), (["config", "config.json"], .file [0xff])] }
      (fileIn { parts := ["config"] }) = .ok [0xff] := rfl
  obtain ⟨e, he⟩ : ∃ e, Text.decodeUtf8 [0xff] = .error e :=
    Except.toOption_eq_none_iff.1 (by decide +kernel)
  exact ⟨hmake, hfile, e, ((@openIn_recovers_except_faults 0 _ _ _ _ _ hmake hfile).1 _).2
    (.encoding he)⟩

/-- A configuration file holding `{"schema_version": "1"}` stops the opening: a text
cannot be compared with a number. -/
theorem openIn_refuses_text_schema_version :
    (openIn 0 (Clock.stopped "2026-10-19T12:00:00+00:00") { entries := [(["config"], .directory),
        (["config", "config.json"], .file (Text.utf8Bytes "\x7b\"schema_version\": \"1\"\x7d"))] }
      { parts := ["config"] }).1 = .error (.schema ⟨"str"⟩) := by
  have hdecode : Text.decodeUtf8 (Text.utf8Bytes "\x7b\"schema_version\": \"1\"\x7d") =
      .ok "\x7b\"schema_version\": \"1\"\x7d" :=
    Except.toOption_eq_some_iff.1 (by decide +kernel)
  have hread : Json.read (roomAbove (0 + 2))
      (Text.unifyNewlines "\x7b\"schema_version\": \"1\"\x7d") =
      .ok (.dict [(.str "schema_version", .str "1")]) := by with_unfolding_all rfl
  exact openIn_of_openFault rfl rfl (.schema hdecode hread
    (by rw [Value.lookup_singleton_str, if_pos rfl]) rfl)

end Opening

end ConfigStore

end EngineFit
