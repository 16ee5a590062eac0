import EngineFit.Proofs.ConfigFile

/-!
# Dotted keys

A configuration document is a tree of objects, and a dotted key names a path through it: the
texts between its dots (`Config.keyParts`), empty texts included. Reading a key
(`ConfigStore.get?`) walks the path through objects and falls back to a default where it leaves
them; setting a key (`ConfigStore.setValue`) walks it too, puts an empty object in place of
anything on the way that is no object, and writes the value at the end.

The two obey the laws of a nested map (`ConfigStore.get?_setValue`) away from `updated_at`,
which every save stamps with the time: a key reads back the value last set under it, and a key
whose path is neither a prefix nor an extension of the path set reads as it did before. A key
under `updated_at` reads the stamp, or its default below it, however it was set
(`ConfigStore.setValue_under_updated_at_reads_default`). All of it holds of every document,
and whether or not the write that follows a set succeeds, since the document is changed and
stamped before it is written. They rest on the same laws
for one level of objects (`Value.lookup_insertEntry_str`), carried down the path set by
induction (`Config.valueAt_setAt_self`, `Config.valueAt_setAt_of_diverge`).
-/

namespace EngineFit

namespace Value

/-- A key is the same key as a text only when it is that text. -/
theorem keySame_str_iff {k : Value} {p : String} : k.keySame (.str p) = true ↔ k = .str p := by
  cases k <;> simp [keySame, numEq]

theorem lookup_cons (k w key : Value) (kvs : List (Value × Value)) :
    lookup ((k, w) :: kvs) key = if k.keySame key then some w else lookup kvs key := by
  simp only [lookup, List.find?_cons]
  split <;> simp_all

/-- Replacing the values under a text key, then reading a text key: the value put when the keys
are one text and the key was there, what was there before when they differ. -/
theorem lookup_map_replace (kvs : List (Value × Value)) (p q : String) (v : Value) :
    lookup (kvs.map fun e => if e.1.keySame (.str p) then (e.1, v) else e) (.str q) =
      if p = q then (if kvs.any (·.1.keySame (.str p)) then some v else none)
      else lookup kvs (.str q) := by
  induction kvs with
  | nil => simp [lookup]
  | cons e kvs ih =>
    obtain ⟨k, w⟩ := e
    simp only [List.map_cons, List.any_cons]
    by_cases hkq : k = .str q
    · -- the first entry is the one read
      subst hkq
      by_cases hpq : p = q
      · subst hpq
        simp [lookup_cons, keySame]
      · have hqp : (q == p) = false := by simpa using Ne.symm hpq
        simp [lookup_cons, keySame, hpq, hqp]
    · have hq : k.keySame (.str q) = false :=
        Bool.eq_false_iff.2 fun h => hkq (keySame_str_iff.1 h)
      by_cases hkp : k = .str p
      · subst hkp
        have hpq : p ≠ q := fun h => hkq (h ▸ rfl)
        simp [lookup_cons, keySame, hpq, ih]
      · have hp : k.keySame (.str p) = false :=
          Bool.eq_false_iff.2 fun h => hkp (keySame_str_iff.1 h)
        simp only [hp, hq, Bool.false_or, Bool.false_eq_true, ite_false, lookup_cons]
        exact ih

/-- **One level of a nested map.** Writing under a text key and then reading a text key gives
the value written when the two keys are one text, and what the mapping held before when they
differ. -/
theorem lookup_insertEntry_str (kvs : List (Value × Value)) (p q : String) (v : Value) :
    lookup (insertEntry kvs (.str p) v) (.str q) =
      if p = q then some v else lookup kvs (.str q) := by
  unfold insertEntry
  split
  · rename_i hany
    rw [lookup_map_replace, hany]
    simp
  · rename_i hany
    -- the key is new, so it is written at the end and found there only
    have hnone : lookup kvs (.str p) = none := by
      simp only [lookup, Option.map_eq_none_iff, List.find?_eq_none]
      intro e he hs
      exact hany (List.any_eq_true.2 ⟨e, he, hs⟩)
    unfold lookup at hnone ⊢
    rw [List.find?_append]
    by_cases hpq : p = q
    · subst hpq
      simp [Option.map_eq_none_iff.1 hnone, keySame]
    · simp [keySame, hpq]

end Value

namespace Config

@[simp] theorem valueAt_nil (v : Value) : valueAt v [] = some v := rfl

theorem valueAt_dict_cons (kvs : List (Value × Value)) (p : String) (ps : List String) :
    valueAt (.dict kvs) (p :: ps) = (Value.lookup kvs (.str p)).bind (valueAt · ps) := rfl

/-- A path that goes on from a value that is no object leads nowhere. -/
theorem valueAt_cons_of_ne_dict {w : Value} (hw : ∀ c, w ≠ .dict c) (p : String)
    (ps : List String) : valueAt w (p :: ps) = none := by
  cases w with
  | dict c => exact absurd rfl (hw c)
  | _ => rfl

/-- A path whose first key is not the one written reads as before. -/
theorem valueAt_insertEntry_of_ne (kvs : List (Value × Value)) {p q : String} (h : p ≠ q)
    (w : Value) (qs : List String) :
    valueAt (.dict (Value.insertEntry kvs (.str p) w)) (q :: qs) =
      valueAt (.dict kvs) (q :: qs) := by
  simp [valueAt_dict_cons, Value.lookup_insertEntry_str, h]

/-- A path whose first key is the one written goes on from the value written. -/
theorem valueAt_insertEntry_self (kvs : List (Value × Value)) (p : String) (w : Value)
    (qs : List String) :
    valueAt (.dict (Value.insertEntry kvs (.str p) w)) (p :: qs) = valueAt w qs := by
  simp [valueAt_dict_cons, Value.lookup_insertEntry_str]

/-- Every dotted key has a path of at least one part. -/
theorem keyParts_ne_nil (key : String) : keyParts key ≠ [] := by
  simp [keyParts, List.splitOn_ne_nil]

/-- **A path set reads back.** Setting a value at a path of at least one key, then reading the
path, gives the value. -/
theorem valueAt_setAt_self (kvs : List (Value × Value)) {ps : List String} (hps : ps ≠ [])
    (v : Value) : valueAt (.dict (setAt kvs ps v)) ps = some v := by
  induction ps generalizing kvs with
  | nil => exact absurd rfl hps
  | cons p ps ih =>
    cases ps with
    | nil => simp [setAt, valueAt_dict_cons, Value.lookup_insertEntry_str]
    | cons p' ps =>
      simp only [setAt, valueAt_dict_cons, Value.lookup_insertEntry_str, ↓reduceIte,
        Option.bind_some]
      exact ih _ (List.cons_ne_nil _ _)

/-- **Paths that part keep their values.** Setting a value at a path leaves the value at every
path that is neither a prefix nor an extension of it: the two paths part at some key, above
which setting only walks through objects, or makes an object holding the set path alone. -/
theorem valueAt_setAt_of_diverge (kvs : List (Value × Value)) {ps qs : List String}
    (hqp : ¬ qs <+: ps) (hpq : ¬ ps <+: qs) (v : Value) :
    valueAt (.dict (setAt kvs ps v)) qs = valueAt (.dict kvs) qs := by
  induction ps generalizing kvs qs with
  | nil => exact absurd (List.nil_prefix) hpq
  | cons p ps ih =>
    obtain ⟨q, qs, rfl⟩ : ∃ q qs', qs = q :: qs' := by
      cases qs with
      | nil => exact absurd List.nil_prefix hqp
      | cons q qs => exact ⟨q, qs, rfl⟩
    by_cases hpq' : p = q
    · subst hpq'
      -- one first key: the paths part below it
      have hqp₁ : ¬ qs <+: ps := fun h => hqp ((List.prefix_cons_inj p).2 h)
      have hpq₁ : ¬ ps <+: qs := fun h => hpq ((List.prefix_cons_inj p).2 h)
      cases ps with
      | nil => exact absurd List.nil_prefix hpq₁
      | cons p' ps =>
        simp only [setAt, valueAt_dict_cons, Value.lookup_insertEntry_str, ↓reduceIte,
          Option.bind_some]
        rw [ih _ hqp₁ hpq₁]
        cases qs with
        | nil => exact absurd List.nil_prefix hqp₁
        | cons q' qs =>
          -- what set walked into: the object there, or an empty one in place of anything else
          cases hl : Value.lookup kvs (.str p) with
          | none => rfl
          | some w =>
            cases w with
            | dict c => rfl
            | _ => rfl
    · -- different first keys: the entry read is not the one written
      cases ps with
      | nil => simp [setAt, valueAt_dict_cons, Value.lookup_insertEntry_str, hpq']
      | cons p' ps => simp [setAt, valueAt_dict_cons, Value.lookup_insertEntry_str, hpq']

end Config

namespace ConfigStore

/-- Writing the document changes the files only; the document stays as it was, also when the
write fails. -/
theorem writeDocument_run_doc (c : ConfigStore) : (writeDocument.run.run c).2.doc = c.doc := by
  unfold writeDocument
  simp only [run_get_bind, run_set_bind]
  split
  · simp only [run_set_bind]
    split <;> rfl
  · rfl

/-- Saving leaves the document stamped, also when the write fails. -/
theorem save_run_doc (c : ConfigStore) : (save.run.run c).2.doc = c.stamped.doc := by
  rw [save_run_eq]
  exact writeDocument_run_doc _

/-- Setting a key leaves the document with the value set at the key's path and the save's time
stamped, whatever the write that follows does. -/
theorem setValue_run_doc (c : ConfigStore) (key : String) (v : Value) :
    ((setValue key v).run.run c).2.doc =
      Value.insertEntry (Config.setAt c.doc (Config.keyParts key) v) (.str "updated_at")
        (.str (c.clock c.readings)) := by
  simp only [setValue, run_getThe_bind, run_note_bind, run_modifyThe_bind]
  exact save_run_doc _

/-- Reading a key reads the document and changes nothing. -/
theorem get?_run (c : ConfigStore) (key : String) (d : Value) :
    (get? key d).run.run c =
      (.ok ((Config.valueAt (.dict c.doc) (Config.keyParts key)).getD d), c) := rfl

/-- After a set, a key under `updated_at` reads the time the save stamped when it is
`updated_at` itself, and the default below it. -/
theorem get?_setValue_updated_at (c : ConfigStore) (k k' : String) (v x : Value)
    {rest : List String} (hk' : Config.keyParts k' = "updated_at" :: rest) :
    ((get? k' x).run.run ((setValue k v).run.run c).2).1 =
      .ok (if rest = [] then .str (c.clock c.readings) else x) := by
  rw [get?_run, setValue_run_doc, hk', Config.valueAt_insertEntry_self]
  cases rest with
  | nil => rfl
  | cons q qs => rw [Config.valueAt_cons_of_ne_dict (fun _ h => by cases h)]; rfl

/-- **Dotted keys obey the laws of a nested map, away from the time stamp of a save.** After a
key is set, whether or not the write that follows succeeds: the key reads as the value set,
unless its first part is `updated_at`; a key whose path is neither a prefix nor an extension of
the path set, and whose first part is not `updated_at`, reads as it did before, with any
default; and a key whose first part is `updated_at` reads the time the save stamped when it is
`updated_at` itself, and its default below it. -/
theorem get?_setValue (c : ConfigStore) (k k' : String) (v x : Value) :
    ((Config.keyParts k).head? ≠ some "updated_at" →
      (get? k x).run.run ((setValue k v).run.run c).2 = (.ok v, ((setValue k v).run.run c).2)) ∧
    (¬ Config.keyParts k' <+: Config.keyParts k → ¬ Config.keyParts k <+: Config.keyParts k' →
      (Config.keyParts k').head? ≠ some "updated_at" →
      ((get? k' x).run.run ((setValue k v).run.run c).2).1 = ((get? k' x).run.run c).1) ∧
    (∀ rest, Config.keyParts k' = "updated_at" :: rest →
      ((get? k' x).run.run ((setValue k v).run.run c).2).1 =
        .ok (if rest = [] then .str (c.clock c.readings) else x)) := by
  refine ⟨fun hk => ?_, fun hqp hpq hk' => ?_, fun rest hk' =>
    get?_setValue_updated_at c k k' v x hk'⟩
  · obtain ⟨p, ps, hps⟩ := List.exists_cons_of_ne_nil (Config.keyParts_ne_nil k)
    have hp : "updated_at" ≠ p := fun h => hk (by rw [hps, ← h]; rfl)
    rw [get?_run, setValue_run_doc, hps, Config.valueAt_insertEntry_of_ne _ hp, ← hps,
      Config.valueAt_setAt_self _ (Config.keyParts_ne_nil k)]
    rfl
  · obtain ⟨q, qs, hqs⟩ := List.exists_cons_of_ne_nil (Config.keyParts_ne_nil k')
    have hq : "updated_at" ≠ q := fun h => hk' (by rw [hqs, ← h]; rfl)
    rw [get?_run, get?_run, setValue_run_doc, hqs, Config.valueAt_insertEntry_of_ne _ hq, ← hqs,
      Config.valueAt_setAt_of_diverge _ hqp hpq]

/-- Setting `paths.engines` in a default store leaves `paths.cache` as it was: the two paths
part below `paths`, and neither is under `updated_at`. -/
theorem get?_setValue_sibling :
    let c : ConfigStore := { files := {}, dir := {}, doc := Config.defaultDocument,
                             clock := Clock.stopped "2026-10-19T12:00:00+00:00" }
    ¬ Config.keyParts "paths.cache" <+: Config.keyParts "paths.engines" ∧
    ¬ Config.keyParts "paths.engines" <+: Config.keyParts "paths.cache" ∧
    (Config.keyParts "paths.cache").head? ≠ some "updated_at" ∧
    ((get? "paths.cache").run.run
        ((setValue "paths.engines" (.str "/opt/engines")).run.run c).2).1 =
      ((get? "paths.cache").run.run c).1 := by
  intro c
  have hqp : ¬ Config.keyParts "paths.cache" <+: Config.keyParts "paths.engines" := by decide
  have hpq : ¬ Config.keyParts "paths.engines" <+: Config.keyParts "paths.cache" := by decide
  have hk : (Config.keyParts "paths.cache").head? ≠ some "updated_at" := by decide
  exact ⟨hqp, hpq, hk,
    (get?_setValue c "paths.engines" "paths.cache" (.str "/opt/engines") .null).2.1 hqp hpq hk⟩

/-- **A value set under `updated_at` does not read back.** Setting `updated_at.x` to 5 and
reading it with default 0 gives 0: the save that follows the set stamps `updated_at` with the
time, a text, over the object just made there. -/
theorem setValue_under_updated_at_reads_default :
    let c : ConfigStore := { files := {}, dir := {}, doc := Config.defaultDocument,
                             clock := Clock.stopped "2026-10-19T12:00:00+00:00" }
    ((get? "updated_at.x" (.int 0)).run.run
        ((setValue "updated_at.x" (.int 5)).run.run c).2).1 = .ok (.int 0) := by
  intro c
  have hk : Config.keyParts "updated_at.x" = ["updated_at", "x"] := by decide
  rw [get?_setValue_updated_at c "updated_at.x" "updated_at.x" (.int 5) (.int 0) hk]
  rfl

end ConfigStore

end EngineFit
