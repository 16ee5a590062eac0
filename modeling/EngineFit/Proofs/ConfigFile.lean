import EngineFit.Config.Layered

/-!
# Saving the configuration file

A configuration store saves its document as indented JSON in `config.json` in its directory,
after copying the file there to `config.json.bak`, and stamps `updated_at` with the time first.
This module proves that a save succeeds and leaves the file holding the stamped document as
written, whenever the file's place can be written and the stamped document is written without a
fault.

The file tree facts come first: giving a place an entry keeps every walk through directories
(`FileTree.walk_put`), making directories leads the path to a directory
(`FileTree.locate_makeDirectories`), and a write is read back, while a file written elsewhere
is not disturbed (`FileTree.read_write`, `FileTree.read_of_write`).
-/

namespace EngineFit

namespace FileTree

/-! ### Places and walks -/

theorem at?_eq (t : FileTree) (r : List String) :
    t.at? r = if r.isEmpty then some .directory else Keyed.find t.entries r := rfl

theorem entries_put (t : FileTree) (q : List String) (e : Entry) :
    (t.put q e).entries = Keyed.put t.entries q e := by
  unfold put Keyed.put
  split <;> rfl

/-- Giving a place an entry: the working directory stays a directory, the place holds the entry
and every other place what it held. -/
theorem at?_put (t : FileTree) (q r : List String) (e : Entry) :
    (t.put q e).at? r =
      if r.isEmpty then some .directory else if r = q then some e else t.at? r := by
  rw [at?_eq, at?_eq, entries_put, Keyed.find_put]
  by_cases hr : r.isEmpty <;> simp [hr]

@[simp] theorem at?_nil (t : FileTree) : t.at? [] = some .directory := rfl

/-- A place that is not a directory is no place a walk passes through, so giving it an entry
keeps the walk. -/
theorem walk_put {t : FileTree} {q : List String} (hq : t.at? q ≠ some .directory) (e : Entry)
    {here ps : List String} {r : List String} (h : t.walk here ps = .ok r) :
    (t.put q e).walk here ps = .ok r := by
  induction ps generalizing here with
  | nil => exact h
  | cons c rest ih =>
    -- the walk went on from `here`, so `here` is a directory, and so not `q`
    have hdir : t.at? here = some .directory := by
      unfold walk at h
      split at h <;> simp_all
    have hdir' : (t.put q e).at? here = some .directory := by
      rw [at?_put]
      by_cases hr : here.isEmpty
      · simp [hr]
      · have hne : here ≠ q := fun hq' => hq (hq' ▸ hdir)
        simp [hr, hne, hdir]
    unfold walk at h ⊢
    rw [hdir] at h
    rw [hdir']
    simp only at h ⊢
    by_cases hc : c == ".."
    · by_cases he : here.isEmpty
      · simp [hc, he] at h
      · simp only [hc, he, ite_true, Bool.false_eq_true, ite_false] at h ⊢
        exact ih h
    · simp only [hc, Bool.false_eq_true, ite_false] at h ⊢
      exact ih h

theorem walk_append (t : FileTree) (here ps qs : List String) :
    t.walk here (ps ++ qs) = (t.walk here ps).bind (t.walk · qs) := by
  induction ps generalizing here with
  | nil => rfl
  | cons c rest ih =>
    simp only [List.cons_append, walk]
    split
    · rfl
    · rfl
    · by_cases hc : c == ".."
      · by_cases he : here.isEmpty
        · simp [hc, he, Except.bind]
        · simp only [hc, he, ite_true, Bool.false_eq_true, ite_false]
          exact ih _
      · simp only [hc, Bool.false_eq_true, ite_false]
        exact ih _

/-- One component walked from a directory. -/
theorem walk_single {t : FileTree} {here : List String} (hd : t.at? here = some .directory)
    (c : String) :
    t.walk here [c] =
      if c == ".." then (if here.isEmpty then .error .notFound else .ok here.dropLast)
      else .ok (here ++ [c]) := by
  simp only [walk, hd]

/-- A place that a walk keeps: a path name leads there in a tree given an entry elsewhere. -/
theorem locate_put {t : FileTree} {q : List String} (hq : t.at? q ≠ some .directory) (e : Entry)
    {p : PathName} {r : List String} (h : t.locate p = .ok r) : (t.put q e).locate p = .ok r := by
  unfold locate at h ⊢
  split
  · simp_all
  · simp_all only [Bool.false_eq_true, ite_false]
    exact walk_put hq e h

/-- A component pushed onto a path name that leads to a directory. -/
theorem locate_push {t : FileTree} {p : PathName} {r : List String} (h : t.locate p = .ok r)
    (hd : t.at? r = some .directory) {c : String} (hc : c ≠ "..") :
    t.locate (p.push c) = .ok (r ++ [c]) := by
  unfold locate at h ⊢
  cases habs : p.isAbsolute with
  | true => simp [habs] at h
  | false =>
    have habs' : (p.push c).isAbsolute = false := habs
    simp only [habs, Bool.false_eq_true, ite_false] at h
    rw [habs']
    simp only [Bool.false_eq_true, ite_false, PathName.push, walk_append, h, Except.bind,
      walk_single hd, beq_iff_eq, hc]

/-! ### Making directories -/

/-- What making directories keeps along the way: the components done lead to the place
reached, and every place on the way down to it is a directory. -/
structure Made (done : List String) (acc : FileTree × List String) : Prop where
  walk : acc.1.walk [] done = .ok acc.2
  prefixes : ∀ q, q <+: acc.2 → acc.1.at? q = some .directory

theorem made_step {done : List String} {acc acc' : FileTree × List String} {c : String}
    (hm : Made done acc) (h : makeStep acc c = .ok acc') : Made (done ++ [c]) acc' := by
  obtain ⟨t, here⟩ := acc
  have hhere : t.at? here = some .directory := hm.prefixes here (List.prefix_refl here)
  unfold makeStep at h
  simp only at h
  split at h
  · -- `..` steps back out to the place above, itself on the way down
    rename_i hc
    split at h
    · cases h
    · rename_i hne
      cases h
      refine ⟨?_, fun q hq => hm.prefixes q (hq.trans (List.dropLast_prefix here))⟩
      simp only [walk_append, hm.walk, Except.bind, walk_single hhere, hc, hne]
      rfl
  · rename_i hc
    have hwalk : t.walk [] (done ++ [c]) = .ok (here ++ [c]) := by
      simp only [walk_append, hm.walk, Except.bind, walk_single hhere, hc]
      rfl
    split at h
    · -- the place is a directory already
      rename_i hd
      cases h
      refine ⟨hwalk, fun q hq => ?_⟩
      rcases List.prefix_concat_iff.1 hq with rfl | hq
      · exact hd
      · exact hm.prefixes q hq
    · cases h
    · -- a missing place becomes a directory
      rename_i hn
      cases h
      have hq' : t.at? (here ++ [c]) ≠ some .directory := by simp [hn]
      refine ⟨?_, fun q hq => ?_⟩
      · simp only [walk_append, walk_put hq' _ hm.walk, Except.bind]
        have hd' : (t.put (here ++ [c]) .directory).at? here = some .directory := by
          rw [at?_put]
          split
          · rfl
          · rw [if_neg (by simp), hhere]
        simp [walk_single hd', hc]
      · rw [at?_put]
        rcases List.prefix_concat_iff.1 hq with rfl | hq
        · simp
        · split
          · rfl
          · have hne : q ≠ here ++ [c] := fun he => by
              have := hq.length_le
              rw [he, List.length_append, List.length_singleton] at this
              omega
            rw [if_neg hne, hm.prefixes q hq]

theorem made_foldlM {parts done : List String} {acc acc' : FileTree × List String}
    (hm : Made done acc) (h : parts.foldlM makeStep acc = .ok acc') :
    Made (done ++ parts) acc' := by
  induction parts generalizing done acc with
  | nil =>
    cases h
    simpa using hm
  | cons c rest ih =>
    rw [List.foldlM_cons] at h
    cases hs : makeStep acc c with
    | error e => simp [hs] at h; cases h
    | ok mid =>
      rw [hs] at h
      simpa using ih (made_step hm hs) h

/-- **Making directories.** Once they are made, the path name leads to a directory. -/
theorem locate_makeDirectories {t t' : FileTree} {p : PathName}
    (h : t.makeDirectories p = .ok t') :
    ∃ r, t'.locate p = .ok r ∧ t'.at? r = some .directory := by
  unfold makeDirectories at h
  split at h
  · cases h
  · rename_i habs
    cases hf : p.parts.foldlM makeStep (t, []) with
    | error e => simp [hf, Except.map] at h
    | ok acc =>
      simp only [hf, Except.map, Except.ok.injEq] at h
      subst h
      have hm0 : Made [] (t, []) := ⟨rfl, fun q hq => by simp [List.prefix_nil.1 hq]⟩
      have hm := made_foldlM hm0 hf
      refine ⟨acc.2, ?_, hm.prefixes _ (List.prefix_refl _)⟩
      simpa [locate, habs] using hm.walk

/-! ### Reading and writing -/

/-- A path name leads to a place where a file can be written: one that is no directory. -/
def Writable (t : FileTree) (p : PathName) : Prop :=
  ∃ r, t.locate p = .ok r ∧ t.at? r ≠ some .directory

theorem read_eq_ok {t : FileTree} {p : PathName} {b : List UInt8} :
    t.read p = .ok b ↔ ∃ r, t.locate p = .ok r ∧ t.at? r = some (.file b) := by
  unfold read
  cases hl : t.locate p with
  | error e => simp [bind, Except.bind]
  | ok r =>
    simp only [bind, Except.bind]
    split <;> simp_all [throw, throwThe, MonadExceptOf.throw, pure, Except.pure]

theorem write_eq {t : FileTree} {p : PathName} {r : List String} (hl : t.locate p = .ok r)
    (hr : t.at? r ≠ some .directory) (b : List UInt8) :
    t.write p b = .ok (t.put r (.file b)) := by
  unfold write
  simp only [hl, bind, Except.bind]
  rfl

/-- **A write is read back.** Where a path name leads to a place that is not a directory, the
file written there is read as written. -/
theorem read_write {t : FileTree} {p : PathName} (hw : t.Writable p) (b : List UInt8) :
    ∃ t', t.write p b = .ok t' ∧ t'.read p = .ok b := by
  obtain ⟨r, hl, hr⟩ := hw
  refine ⟨_, write_eq hl hr b, read_eq_ok.2 ⟨r, locate_put hr _ hl, ?_⟩⟩
  have hne : r.isEmpty = false := by
    cases r with
    | nil => simp at hr
    | cons _ _ => rfl
  simp [at?_put, hne]

/-- **A write elsewhere.** A file read before another is written is read after it as it was,
or as the bytes written when the two are one place. -/
theorem read_of_write {t t' : FileTree} {p q : PathName} {b b' : List UInt8}
    (hp : t.read p = .ok b) (hq : t.write q b' = .ok t') :
    t'.read p = .ok b ∨ t'.read p = .ok b' := by
  obtain ⟨r, hl, hr⟩ := read_eq_ok.1 hp
  unfold write at hq
  cases hlq : t.locate q with
  | error e => simp [hlq, bind, Except.bind] at hq
  | ok rq =>
    simp only [hlq, bind, Except.bind] at hq
    split at hq
    · cases hq
    · rename_i hrq
      cases hq
      have hrq' : t.at? rq ≠ some .directory := fun h => hrq h
      have hl' := locate_put hrq' (.file b') hl
      have hne : r.isEmpty = false := by
        cases r with
        | nil => simp at hr
        | cons _ _ => rfl
      by_cases he : r = rq
      · subst he
        exact .inr (read_eq_ok.2 ⟨r, hl', by simp [at?_put, hne]⟩)
      · exact .inl (read_eq_ok.2 ⟨r, hl', by simp [at?_put, hne, he, hr]⟩)

/-- A file that can be read is a place that can be written. -/
theorem writable_of_read {t : FileTree} {p : PathName} {b : List UInt8} (h : t.read p = .ok b) :
    t.Writable p := by
  obtain ⟨r, hl, hr⟩ := read_eq_ok.1 h
  exact ⟨r, hl, by simp [hr]⟩

/-- A name in a directory that holds nothing yet is a place that can be written. -/
theorem writable_push {t : FileTree} {p : PathName} {r : List String} (hl : t.locate p = .ok r)
    (hd : t.at? r = some .directory) {c : String} (hc : c ≠ "..")
    (hn : t.holds (p.push c) = false) :
    t.Writable (p.push c) := by
  have hl' := locate_push hl hd hc
  refine ⟨r ++ [c], hl', ?_⟩
  simp only [holds, entry?, hl', Option.isSome_eq_false_iff, Option.isNone_iff_eq_none] at hn
  simp [hn]

end FileTree

namespace Json

/-! ### JSON values -/

/-- The JSON values: null, booleans, integers short enough to write in decimal, doubles, texts,
and arrays and objects of JSON values, objects under text keys. -/
inductive IsValue : Value → Prop
  | null : IsValue .null
  | bool (b : Bool) : IsValue (.bool b)
  | int {n : Int} (h : n.natAbs < Value.tooLongBound) : IsValue (.int n)
  | float (x : Float) : IsValue (.float x)
  | str (s : String) : IsValue (.str s)
  | list {xs : List Value} (h : ∀ x ∈ xs, IsValue x) : IsValue (.list xs)
  | dict {kvs : List (Value × Value)} (keys : ∀ p ∈ kvs, ∃ k, p.1 = .str k)
      (values : ∀ p ∈ kvs, IsValue p.2) : IsValue (.dict kvs)

/-- Numbers below ten thousand are short enough to write in decimal. -/
theorem lt_tooLongBound {n : Nat} (h : n < 10000) : n < Value.tooLongBound := by
  unfold Value.tooLongBound
  -- the digit limit stays a name, so that no power of ten is evaluated
  generalize hk : Number.digitLimit = k
  have hk4 : 4 ≤ k := by rw [← hk]; decide
  exact Nat.lt_of_lt_of_le h (Nat.pow_le_pow_right (by decide : 10 > 0) hk4)

/-- A value written in one piece that is refused is refused when written whole. -/
theorem emit_of_pieceText_error {v : Value} {e : DumpError} (h : pieceText? v = some (.error e))
    (step level : Nat) : (emit step level v).2 = some e := by
  cases v <;> simp_all [pieceText?, emit]

/-- Items each written without a fault are written without a fault. -/
theorem emitItems_fault {step level : Nat} {xs : List Value}
    (h : ∀ x ∈ xs, (emit step level x).2 = none) (lead : String) :
    (emitItems step level lead xs).2 = none := by
  induction xs generalizing lead with
  | nil => rfl
  | cons x xs ih =>
    have hx := h x List.mem_cons_self
    have hxs := ih (fun y hy => h y (List.mem_cons_of_mem x hy))
    unfold emitItems
    cases hp : pieceText? x with
    | none => simp [hx, hxs]
    | some r =>
      cases r with
      | ok s => simp [hxs]
      | error e => simp [emit_of_pieceText_error hp] at hx

/-- Entries under text keys, each value written without a fault, are written without a fault. -/
theorem emitEntries_fault {step level : Nat} {kvs : List (Value × Value)}
    (hk : ∀ p ∈ kvs, ∃ k, p.1 = .str k) (h : ∀ p ∈ kvs, (emit step level p.2).2 = none)
    (lead : String) : (emitEntries step level lead kvs).2 = none := by
  induction kvs generalizing lead with
  | nil => rfl
  | cons p kvs ih =>
    obtain ⟨k, v⟩ := p
    obtain ⟨s, hs⟩ := hk (k, v) List.mem_cons_self
    have hv := h (k, v) List.mem_cons_self
    have hkvs := ih (fun q hq => hk q (List.mem_cons_of_mem _ hq))
      (fun q hq => h q (List.mem_cons_of_mem _ hq))
    simp only at hs hv
    subst hs
    unfold emitEntries
    simp only [keyPiece]
    cases hp : pieceText? v with
    | none => simp [hv, hkvs]
    | some r =>
      cases r with
      | ok s => simp [hkvs]
      | error e => simp [emit_of_pieceText_error hp] at hv

/-- **JSON values are written whole.** Writing a JSON value meets no fault, at any indentation. -/
theorem emit_fault_eq_none {v : Value} (hv : IsValue v) (step level : Nat) :
    (emit step level v).2 = none := by
  induction hv generalizing level with
  | null | bool | float | str => rfl
  | int h => simp [emit, pieceText?, intText, h]
  | @list xs _ ih =>
    cases xs with
    | nil => rfl
    | cons x xs =>
      simp only [emit]
      rw [show emitItems step (level + 1) _ (x :: xs) = ((emitItems step (level + 1)
        ("[" ++ breakAt step (level + 1)) (x :: xs)).1, none) from
        Prod.ext rfl (emitItems_fault (fun y hy => ih y hy (level + 1)) _)]
  | @dict kvs keys _ ih =>
    cases kvs with
    | nil => rfl
    | cons p kvs =>
      simp only [emit]
      rw [show emitEntries step (level + 1) "" (p :: kvs) = ((emitEntries step (level + 1) ""
        (p :: kvs)).1, none) from
        Prod.ext rfl (emitEntries_fault keys (fun q hq => ih q hq (level + 1)) _)]

/-- A value written in one piece is written so whole. -/
theorem emit_of_pieceText_ok {v : Value} {t : String} (h : pieceText? v = some (.ok t))
    (step level : Nat) : emit step level v = (t, none) := by
  cases v <;> simp_all [pieceText?, emit]

/-- Entries written without a fault have each value written without a fault. -/
theorem fault_eq_none_of_emitEntries {step level : Nat} {lead : String}
    {kvs : List (Value × Value)} (h : (emitEntries step level lead kvs).2 = none) :
    ∀ p ∈ kvs, (emit step level p.2).2 = none := by
  induction kvs generalizing lead with
  | nil => simp
  | cons p kvs ih =>
    obtain ⟨k, v⟩ := p
    unfold emitEntries at h
    split at h
    · simp at h
    · intro q hq
      cases hp : pieceText? v with
      | none =>
        cases hv : emit step level v with
        | mk t fault =>
          cases fault with
          | some e => simp [hp, hv] at h
          | none =>
            simp only [hp, hv] at h
            rcases List.mem_cons.1 hq with rfl | hq
            · simp [hv]
            · exact ih h q hq
      | some r =>
        cases r with
        | ok t =>
          simp only [hp] at h
          rcases List.mem_cons.1 hq with rfl | hq
          · simp [emit_of_pieceText_ok hp]
          · exact ih h q hq
        | error e => simp [hp] at h

/-- A mapping written without a fault has each value written without a fault. -/
theorem fault_eq_none_of_emit_dict {step level : Nat} {kvs : List (Value × Value)}
    (h : (emit step level (.dict kvs)).2 = none) :
    ∀ p ∈ kvs, (emit step (level + 1) p.2).2 = none := by
  cases kvs with
  | nil => simp
  | cons p kvs =>
    unfold emit at h
    split at h
    · rename_i body hbody
      exact fault_eq_none_of_emitEntries (by rw [hbody])
    · rename_i body fault hbody
      simp only at h
      exact fault_eq_none_of_emitEntries (by rw [hbody, h])

/-- An integer too long to write in decimal stops the writing. -/
theorem emit_int_fault {n : Int} (h : Value.tooLongBound ≤ n.natAbs) (step level : Nat) :
    (emit step level (.int n)).2 = some .tooLong := by
  simp [emit, pieceText?, intText, Nat.not_lt.2 h]

end Json

namespace ConfigStore

/-! ### Running store operations -/

section Run

variable {α β : Type} {c c' : ConfigStore}

theorem run_bind_ok {x : ConfigM α} {f : α → ConfigM β} {a : α}
    (h : x.run.run c = (.ok a, c')) :
    (x >>= f).run.run c = (f a).run.run c' := by
  simp only [ExceptT.run_bind, StateT.run_bind, h]
  rfl

theorem run_bind_error {x : ConfigM α} {f : α → ConfigM β} {e : ConfigError}
    (h : x.run.run c = (.error e, c')) : (x >>= f).run.run c = (.error e, c') := by
  simp only [ExceptT.run_bind, StateT.run_bind, h]
  rfl

@[simp] theorem run_get_bind (f : ConfigStore → ConfigM β) :
    (get >>= f).run.run c = (f c).run.run c := rfl

@[simp] theorem run_getThe_bind (f : ConfigStore → ConfigM β) :
    (getThe ConfigStore >>= f).run.run c = (f c).run.run c := rfl

@[simp] theorem run_modifyThe_bind (f : ConfigStore → ConfigStore) (g : PUnit → ConfigM β) :
    (modifyThe ConfigStore f >>= g).run.run c = (g ⟨⟩).run.run (f c) := rfl

@[simp] theorem run_set_bind (f : PUnit → ConfigM β) :
    (set c' >>= f).run.run c = (f ⟨⟩).run.run c' := rfl

@[simp] theorem run_set : (set c' : ConfigM PUnit).run.run c = (.ok ⟨⟩, c') := rfl

@[simp] theorem run_pure (a : α) : (pure a : ConfigM α).run.run c = (.ok a, c) := rfl

@[simp] theorem run_throw (e : ConfigError) : (throw e : ConfigM α).run.run c = (.error e, c) :=
  rfl

@[simp] theorem id_pure (x : α) : (pure x : Id α) = x := rfl

@[simp] theorem run_throw_bind (e : ConfigError) (f : α → ConfigM β) :
    (throw e >>= f).run.run c = (.error e, c) := rfl

@[simp] theorem run_note_bind (position : List String) (f : PUnit → ConfigM β) :
    (note position >>= f).run.run c =
      (f ⟨⟩).run.run { c with changes := c.changes ++ [position] } := rfl

@[simp] theorem run_note (position : List String) :
    (note position).run.run c = (.ok (), { c with changes := c.changes ++ [position] }) := rfl

/-- A loop each of whose rounds only notes positions changes nothing but the notes. -/
theorem run_forIn_notes {γ : Type} (xs : List γ)
    (body : γ → PUnit → ConfigM (ForInStep PUnit))
    (hbody : ∀ x c, ∃ chs,
      (body x ⟨⟩).run.run c = (.ok (.yield ⟨⟩), { c with changes := chs }))
    (c : ConfigStore) :
    ∃ chs, (forIn xs ⟨⟩ body).run.run c = (.ok ⟨⟩, { c with changes := chs }) := by
  induction xs generalizing c with
  | nil => exact ⟨c.changes, rfl⟩
  | cons x xs ih =>
    obtain ⟨chs, hx⟩ := hbody x c
    obtain ⟨chs', hxs⟩ := ih { c with changes := chs }
    refine ⟨chs', ?_⟩
    rw [List.forIn_cons, run_bind_ok hx]
    exact hxs

/-- A round that notes one position. -/
theorem run_note_yield (position : List String) (c : ConfigStore) :
    ∃ chs, (do note position; pure (ForInStep.yield PUnit.unit) : ConfigM _).run.run c =
      (.ok (.yield PUnit.unit), { c with changes := chs }) :=
  ⟨_, rfl⟩

end Run

/-! ### Saving -/

/-- Backing the configuration file up keeps its place writable. -/
theorem writable_backUp {files : FileTree} {dir : PathName} (hw : files.Writable (fileIn dir)) :
    (backUp files dir).Writable (fileIn dir) := by
  unfold backUp
  cases hr : files.read (fileIn dir) with
  | error e => exact hw
  | ok bytes =>
    simp only
    cases hb : files.write (backupIn dir) bytes with
    | error e => exact hw
    | ok backed =>
      -- the backup holds the file's own bytes, so the file reads the same either way
      have hread : backed.read (fileIn dir) = .ok bytes :=
        (FileTree.read_of_write hr hb).elim id id
      exact FileTree.writable_of_read hread

/-- Writing the document where the configuration file can be written and the document is
written without a fault succeeds, changes only the file tree, and leaves the file holding the
document as written. -/
theorem writeDocument_run {c : ConfigStore} (hw : c.files.Writable (fileIn c.dir))
    (hj : (Json.emit 2 0 (.dict c.doc)).2 = none) :
    ∃ files, writeDocument.run.run c = (.ok (), { c with files }) ∧
      files.read (fileIn c.dir) = .ok (Text.utf8Bytes (Json.emit 2 0 (.dict c.doc)).1) := by
  obtain ⟨files, hwrite, hread⟩ :=
    FileTree.read_write (writable_backUp hw) (Text.utf8Bytes (Json.emit 2 0 (.dict c.doc)).1)
  refine ⟨files, ?_, hread⟩
  simp only [writeDocument, run_get_bind, run_set_bind, hwrite, hj]
  rfl

/-- Writing a document that holds a value JSON cannot write writes the file up to that value,
then fails: the store keeps its document, with the file changed. -/
theorem writeDocument_run_unwritable {c : ConfigStore} (hw : c.files.Writable (fileIn c.dir))
    {e : Json.DumpError} (hj : (Json.emit 2 0 (.dict c.doc)).2 = some e) :
    ∃ files, writeDocument.run.run c = (.error (.unwritable e), { c with files }) := by
  obtain ⟨files, hwrite, -⟩ :=
    FileTree.read_write (writable_backUp hw) (Text.utf8Bytes (Json.emit 2 0 (.dict c.doc)).1)
  refine ⟨files, ?_⟩
  simp only [writeDocument, run_get_bind, run_set_bind, hwrite, hj]
  rfl

@[simp] theorem stamped_files (c : ConfigStore) : c.stamped.files = c.files := rfl

@[simp] theorem stamped_dir (c : ConfigStore) : c.stamped.dir = c.dir := rfl

@[simp] theorem stamped_clock (c : ConfigStore) : c.stamped.clock = c.clock := rfl

theorem stamped_doc (c : ConfigStore) :
    c.stamped.doc = Value.insertEntry c.doc (.str "updated_at") (.str (c.clock c.readings)) := rfl

/-- A save is a write of the stamped store. -/
theorem save_run_eq (c : ConfigStore) : save.run.run c = writeDocument.run.run c.stamped := rfl

/-- **Saving.** Where the configuration file can be written and the stamped document is written
without a fault, saving succeeds, stamps the document and changes the file tree, and leaves the
file holding the stamped document as written. -/
theorem save_run {c : ConfigStore} (hw : c.files.Writable (fileIn c.dir))
    (hj : (Json.emit 2 0 (.dict c.stamped.doc)).2 = none) :
    ∃ files, save.run.run c = (.ok (), { c.stamped with files }) ∧
      files.read (fileIn c.dir) = .ok (Text.utf8Bytes (Json.emit 2 0 (.dict c.stamped.doc)).1) := by
  rw [save_run_eq]
  exact writeDocument_run (c := c.stamped) hw hj

/-- Saving a document whose stamped form holds a value JSON cannot write writes the file up to
that value, then fails: the store keeps its stamped document, with the file changed. -/
theorem save_run_unwritable {c : ConfigStore} (hw : c.files.Writable (fileIn c.dir))
    {e : Json.DumpError} (hj : (Json.emit 2 0 (.dict c.stamped.doc)).2 = some e) :
    ∃ files, save.run.run c = (.error (.unwritable e), { c.stamped with files }) := by
  rw [save_run_eq]
  exact writeDocument_run_unwritable (c := c.stamped) hw hj

end ConfigStore

end EngineFit
