import Mathlib
import EngineFit.Proofs.EngineSwitch

/-!
# Linting agrees with loading

A manifest file is linted by its path (`checkManifestFile`), and loaded by the name of its
engine (`loadEngine`) or with every engine directory of an engines directory (`loadCatalog`).
The three find the file and the name it must declare differently: linting reads both from the
path's text, loading from the name it is given or the names a listing gives.

They agree. The text of a path name in the form `PathName.ofString` gives (`PathName.Normal`)
reads back to the same path name (`PathName.ofString_toText`), and a name that is one component
(`PathName.IsComponent`) appends as it is (`PathName.child_component`). So linting the manifest
file of engine `n` of a directory and loading that engine read the same file under the same
name, and once the file is there they give the same result, error included
(`checkManifestFile_agrees_with_loadEngine`). In a file tree as a file system holds one
(`FileTree.WellNamed`), a listing gives distinct names that are components, so the catalog
reads the engine directories in increasing order of names, each as linting its file does, and
stops at the first whose file does not lint (`checkManifestFile_agrees_with_loading`).

The error linting and loading share need not reject the manifest: a scalar that denotes no
value, such as an impossible date, stops both with the scalar's error, which names no file
(`checkManifestFile_stops_on_impossible_date`).
-/

namespace EngineFit

/-! ### Path names that read back -/

namespace PathName

/-- A component that reads back as itself from a path's text: not empty, not `.`, and without
a slash. -/
def IsComponent (c : String) : Prop := c ≠ "" ∧ c ≠ "." ∧ '/' ∉ c.toList

instance : DecidablePred IsComponent := fun c =>
  inferInstanceAs (Decidable (c ≠ "" ∧ c ≠ "." ∧ '/' ∉ c.toList))

/-- A path name in the form `ofString` gives: a root of at most two slashes, and components that
read back as themselves. -/
structure Normal (p : PathName) : Prop where
  root : p.root = "" ∨ p.root = "/" ∨ p.root = "//"
  parts : ∀ c ∈ p.parts, IsComponent c

/-- No piece of a text split at a character holds that character. -/
theorem not_mem_of_mem_splitOn {xs l : List Char} {x : Char} (h : l ∈ xs.splitOn x) : x ∉ l := by
  rw [List.splitOn_eq_splitOnP] at h
  induction xs generalizing l with
  | nil => simp_all
  | cons a xs ih =>
    rw [List.splitOnP_cons_eq_if_modifyHead] at h
    split at h
    · -- a separator starts a new piece
      rcases List.mem_cons.1 h with rfl | h
      · simp
      · exact ih h
    · -- any other character joins the first piece
      next hax =>
      obtain ⟨l', ls, hls⟩ := List.exists_cons_of_ne_nil (List.splitOnP_ne_nil (· == x) xs)
      rw [hls, List.modifyHead_cons] at h
      rcases List.mem_cons.1 h with rfl | h
      · have hl' := ih (hls ▸ List.mem_cons_self)
        simp only [beq_iff_eq] at hax
        simp only [List.mem_cons, not_or]
        exact ⟨fun h => hax h.symm, hl'⟩
      · exact ih (hls ▸ List.mem_cons_of_mem _ h)

theorem root_ofString (s : String) :
    (ofString s).root = "" ∨ (ofString s).root = "/" ∨ (ofString s).root = "//" := by
  simp only [ofString]
  split <;> simp

theorem isComponent_of_mem_ofString {s c : String} (h : c ∈ (ofString s).parts) : IsComponent c := by
  simp only [ofString, List.mem_filter, List.mem_map, Bool.and_eq_true, bne_iff_ne, ne_eq] at h
  obtain ⟨⟨l, hl, rfl⟩, hne, hdot⟩ := h
  exact ⟨hne, hdot, by simpa using not_mem_of_mem_splitOn hl⟩

theorem normal_ofString (s : String) : (ofString s).Normal :=
  ⟨root_ofString s, fun _ => isComponent_of_mem_ofString⟩

theorem Normal.push {p : PathName} {c : String} (h : p.Normal) (hc : IsComponent c) :
    (p.push c).Normal := by
  refine ⟨h.root, fun c' hc' => ?_⟩
  simp only [PathName.push, List.mem_append, List.mem_singleton] at hc'
  rcases hc' with hc' | rfl
  exacts [h.parts c' hc', hc]

/-- The slashes of a root split off as empty pieces, which reading drops. -/
theorem filter_splitOn_slash (xs : List Char) :
    (((('/' :: xs).splitOn '/').map String.ofList).filter fun p => p != "" && p != ".") =
      (((xs.splitOn '/').map String.ofList).filter fun p => p != "" && p != ".") := by
  rw [List.splitOn_eq_splitOnP, List.splitOnP_cons_eq_if_modifyHead, if_pos (by decide),
    ← List.splitOn_eq_splitOnP]
  simp

theorem filter_splitOn_intercalate {parts : List String} (h : ∀ c ∈ parts, IsComponent c) :
    ((((['/'].intercalate (parts.map String.toList)).splitOn '/').map String.ofList).filter
      fun p => p != "" && p != ".") = parts := by
  cases parts with
  | nil => decide
  | cons c cs =>
    rw [List.splitOn_intercalate '/' (by simpa using fun c hc => (h c hc).2.2) (by simp)]
    have hid : ((c :: cs).map String.toList).map String.ofList = c :: cs := by
      simp [List.map_map, Function.comp_def]
    rw [hid, List.filter_eq_self.2]
    intro c' hc'
    simpa [bne_iff_ne] using ⟨(h c' hc').1, (h c' hc').2.1⟩

/-- The components of a path name, written with slashes between them, do not start with a
slash. -/
theorem head?_intercalate_ne_slash {parts : List String} (h : ∀ c ∈ parts, IsComponent c) :
    (['/'].intercalate (parts.map String.toList)).head? ≠ some '/' := by
  cases parts with
  | nil => simp
  | cons c cs =>
    -- the text starts with the first component, which is not empty and has no slash
    obtain ⟨hne, -, hslash⟩ := h c List.mem_cons_self
    obtain ⟨a, l, hal⟩ := List.exists_cons_of_ne_nil (by simpa using hne : c.toList ≠ [])
    have ha : a ≠ '/' := fun ha => hslash (by simp [hal, ha])
    cases cs with
    | nil => simpa [hal] using ha
    | cons c' cs => simpa [List.intercalate_cons_cons, hal] using ha

/-- A text made of a root of slashes and what follows it, which does not start with a slash,
reads back that root. -/
theorem root_ofString_of_toList {s r : String} {L : List Char}
    (hr : r = "" ∨ r = "/" ∨ r = "//") (hL : L.head? ≠ some '/') (hs : s.toList = r.toList ++ L) :
    (ofString s).root = r := by
  simp only [ofString]
  rw [hs]
  rcases hr with rfl | rfl | rfl <;> cases L <;> simp_all

/-- **A path name's text reads back to it**, for a path name in the form `ofString` gives. -/
theorem ofString_toText {p : PathName} (h : p.Normal) : ofString p.toText = p := by
  obtain ⟨root, parts⟩ := p
  by_cases hdot : root = "" ∧ parts = []
  · -- the current directory, written `.`
    obtain ⟨rfl, rfl⟩ := hdot
    decide
  · have htext : (toText ⟨root, parts⟩).toList =
        root.toList ++ ['/'].intercalate (parts.map String.toList) := by
      have : ¬(root.isEmpty && parts.isEmpty) = true := by simpa [String.isEmpty_iff] using hdot
      simp [toText, this, String.toList_intercalate]
    have hroot : (ofString (toText ⟨root, parts⟩)).root = root :=
      root_ofString_of_toList h.root (head?_intercalate_ne_slash h.parts) htext
    have hparts : (ofString (toText ⟨root, parts⟩)).parts = parts := by
      simp only [ofString]
      rw [htext]
      rcases h.root with rfl | rfl | rfl <;>
        simp [filter_splitOn_slash, filter_splitOn_intercalate h.parts]
    calc ofString (toText ⟨root, parts⟩)
        = ⟨(ofString (toText ⟨root, parts⟩)).root, (ofString (toText ⟨root, parts⟩)).parts⟩ := rfl
      _ = ⟨root, parts⟩ := by rw [hroot, hparts]

/-- A component taken as text is a relative path name of that one component. -/
theorem ofString_component {c : String} (hc : IsComponent c) : ofString c = ⟨"", [c]⟩ := by
  have hn : Normal ⟨"", [c]⟩ := ⟨.inl rfl, by simpa using hc⟩
  have ht : toText ⟨"", [c]⟩ = c := by
    simp [toText]
  simpa [ht] using ofString_toText hn

/-- So appending a component as text appends it as it is. -/
theorem child_component {p : PathName} {c : String} (hc : IsComponent c) : p.child c = p.push c := by
  simp [child, join, isAbsolute, ofString_component hc, PathName.push]

end PathName

/-! ### Listings -/

namespace FileTree

/-- A file tree as a file system holds one: each place once, and every component of a place
one that reads back as itself. -/
structure WellNamed (t : FileTree) : Prop where
  nodup : (t.entries.map Prod.fst).Nodup
  names : ∀ e ∈ t.entries, ∀ c ∈ e.1, PathName.IsComponent c

variable {t : FileTree} {p : PathName} {names : List String}

/-- The names a directory lists are the last components of the places one level below it. -/
theorem list_eq_ok (h : t.list p = .ok names) :
    ∃ place, names = (t.entries.map Prod.fst).filterMap fun q =>
      if q.dropLast == place && q.length == place.length + 1 then q.getLast? else none := by
  unfold list at h
  cases hl : t.locate p with
  | error e => simp [hl, bind, Except.bind] at h
  | ok place =>
    simp only [hl, bind, Except.bind] at h
    split at h
    · cases h
    · cases h
    · refine ⟨place, ?_⟩
      simp only [pure, Except.pure, Except.ok.injEq] at h
      rw [← h, List.filterMap_map]
      rfl

theorem WellNamed.isComponent_of_list (ht : t.WellNamed) (h : t.list p = .ok names) {n : String}
    (hn : n ∈ names) : PathName.IsComponent n := by
  obtain ⟨place, rfl⟩ := list_eq_ok h
  obtain ⟨q, hq, hqn⟩ := List.mem_filterMap.1 hn
  obtain ⟨e, he, rfl⟩ := List.mem_map.1 hq
  split at hqn
  · exact ht.names e he n (List.mem_of_getLast? hqn)
  · cases hqn

theorem WellNamed.nodup_list (ht : t.WellNamed) (h : t.list p = .ok names) : names.Nodup := by
  obtain ⟨place, rfl⟩ := list_eq_ok h
  -- a place listed under a name is the directory's place followed by that name
  have hplace : ∀ q n, (if q.dropLast == place && q.length == place.length + 1 then q.getLast?
      else none) = some n → q = place ++ [n] := by
    intro q n hq
    split at hq
    · next hc =>
      simp only [Bool.and_eq_true, beq_iff_eq] at hc
      rw [← hc.1, List.dropLast_append_getLast? n hq]
    · cases hq
  exact ht.nodup.filterMap fun q q' n hq hq' => (hplace q n hq).trans (hplace q' n hq').symm

end FileTree

/-! ### The catalog -/

/-- The manifest file of engine `n` in the engines directory `dir`. -/
def manifestPath (dir : PathName) (n : String) : PathName := (dir.child n).child manifestFileName

theorem isComponent_manifestFileName : PathName.IsComponent manifestFileName := by decide

/-- A manifest read with a name expected declares that name. -/
theorem Manifest.parse_name {doc : Value} {e : String} {source : Option String} {m : Manifest}
    (h : Manifest.parse doc (some e) source = .ok m) (he : e ≠ "") : m.name = e := by
  rw [Manifest.parse_eq_ok_iff] at h
  simp only [buildManifest, bind_eq_ok] at h
  -- the reader's thirteen steps; the name is read by the second and checked by the third
  obtain ⟨_, _, name, _, u, hcheck, _, _, _, _, _, _, _, _, _, _, _, _, _, _, _, _, _, _, _, _,
    hm⟩ := h
  rw [pure_eq_ok] at hm
  subst hm
  exact (checkName_ok_iff.1 ⟨u, hcheck⟩) e rfl he

theorem manifestAt_name {level : Nat} {t : FileTree} {path : PathName} {n : String} {m : Manifest}
    (h : manifestAt level t path n = .ok m) (hn : n ≠ "") : m.name = n := by
  obtain ⟨doc, source, hparse⟩ := manifestAt_parsed h
  exact Manifest.parse_name hparse hn

section Catalog

variable {level : Nat} {t : FileTree} {d : PathName} {n : String}

theorem manifestPath_eq_push (hn : PathName.IsComponent n) :
    manifestPath d n = (d.push n).push manifestFileName := by
  rw [manifestPath, PathName.child_component hn,
    PathName.child_component isComponent_manifestFileName]

/-- Linting the manifest file of an engine directory reads it under the directory's name, once
the file is there. -/
theorem checkManifestFile_manifestPath (hd : d.Normal) (hn : PathName.IsComponent n) :
    checkManifestFile level t (manifestPath d n).toText =
      if t.isFile (manifestPath d n) then manifestAt level t (manifestPath d n) n
      else .error (.invalid ⟨some (manifestPath d n).toText, .missingFile⟩) := by
  have hpath := manifestPath_eq_push (d := d) hn
  have hnormal : (manifestPath d n).Normal := hpath ▸ (hd.push hn).push isComponent_manifestFileName
  unfold checkManifestFile
  rw [PathName.ofString_toText hnormal]
  have hname : (manifestPath d n).name = manifestFileName := by
    simp [hpath, PathName.name, PathName.push]
  have hparent : (manifestPath d n).parent.name = n := by
    simp [hpath, PathName.name, PathName.parent, PathName.push]
  simp only [hname, hparent, bne_self_eq_false, Bool.false_eq_true, if_false]
  by_cases hf : t.isFile (manifestPath d n) <;> simp [hf]

/-- Loading an engine reads its manifest file under the engine's name, once the file is there. -/
theorem loadEngine_eq (dir : String) :
    loadEngine level t dir n =
      if t.isFile (manifestPath (.ofString dir) n) then
        manifestAt level t (manifestPath (.ofString dir) n) n
      else .error (.notFound n (manifestPath (.ofString dir) n).toText) := rfl

/-- The manifest of the engine directory `n` of the engines directory `d`, as the catalog reads
it. -/
def catalogEntry (level : Nat) (t : FileTree) (d : PathName) (n : String) :
    Except CatalogError Manifest :=
  let path := (d.push n).push manifestFileName
  if t.isFile path then manifestAt level t path n else throw (.noManifestFile path.toText)

/-- The engine directories among the names a listing of `d` gives, in code-point order. -/
def engineDirs (t : FileTree) (d : PathName) (names : List String) : List String :=
  (names.mergeSort fun a b => decide (a ≤ b)).filter fun n => t.isDirectory (d.push n)

theorem loadCatalog_of_list {dir : String} {names : List String}
    (h : t.list (.ofString dir) = .ok names) :
    loadCatalog level t dir =
      (engineDirs t (.ofString dir) names).mapM (catalogEntry level t (.ofString dir)) := by
  simp only [loadCatalog, h]
  rfl

theorem catalogEntry_eq (hn : PathName.IsComponent n) :
    catalogEntry level t d n =
      if t.isFile (manifestPath d n) then manifestAt level t (manifestPath d n) n
      else .error (.noManifestFile (manifestPath d n).toText) := by
  rw [manifestPath_eq_push hn]
  rfl

/-- An engine directory is read by the catalog exactly when linting its manifest file reads,
and to the same manifest. -/
theorem catalogEntry_eq_ok_iff (hd : d.Normal) (hn : PathName.IsComponent n) {m : Manifest} :
    catalogEntry level t d n = .ok m ↔ checkManifestFile level t (manifestPath d n).toText = .ok m := by
  rw [catalogEntry_eq hn, checkManifestFile_manifestPath hd hn]
  by_cases hf : t.isFile (manifestPath d n) <;> simp [hf]

/-- The catalog's manifests carry the names of their directories. -/
theorem catalogEntries_names {ns : List String} {ms : List Manifest}
    (h : List.Forall₂ (fun n m => catalogEntry level t d n = .ok m) ns ms)
    (hns : ∀ n ∈ ns, PathName.IsComponent n) :
    ms.map Manifest.name = ns ∧ ∀ m ∈ ms, catalogEntry level t d m.name = .ok m := by
  induction h with
  | nil => simp
  | @cons n m ns ms hnm _ ih =>
    obtain ⟨ih₁, ih₂⟩ := ih fun n' hn' => hns n' (List.mem_cons_of_mem _ hn')
    have hn := hns n List.mem_cons_self
    -- the head is read from its manifest file, under its own name
    have hname : m.name = n := by
      rw [catalogEntry_eq hn] at hnm
      split at hnm
      · exact manifestAt_name hnm hn.1
      · cases hnm
    refine ⟨by simp [hname, ih₁], fun m' hm' => ?_⟩
    rcases List.mem_cons.1 hm' with rfl | hm'
    · rwa [hname]
    · exact ih₂ m' hm'

theorem mem_engineDirs {names : List String} :
    n ∈ engineDirs t d names ↔ n ∈ names ∧ t.isDirectory (d.push n) = true := by
  simp [engineDirs, List.mem_mergeSort]

/-- A listing without repeated names gives its engine directories in increasing order. -/
theorem pairwise_lt_engineDirs {names : List String} (hnd : names.Nodup) :
    (engineDirs t d names).Pairwise (· < ·) := by
  have hle : (names.mergeSort fun a b => decide (a ≤ b)).Pairwise
      (fun a b => decide (a ≤ b) = true) :=
    List.pairwise_mergeSort
      (fun a b c hab hbc => by simpa using le_trans (by simpa using hab) (by simpa using hbc))
      (fun a b => by simpa using le_total a b) names
  have hnd' : (names.mergeSort fun a b => decide (a ≤ b)).Nodup :=
    (List.mergeSort_perm _ _).nodup_iff.2 hnd
  exact ((hle.and hnd').imp fun ⟨hab, hne⟩ => lt_of_le_of_ne (by simpa using hab) hne).filter _

end Catalog

/-- In an increasing list, what comes before an item is what lies below it. -/
theorem mem_prefix_iff_lt {α : Type} [Preorder α] {pre post : List α} {a b : α}
    (hl : (pre ++ a :: post).Pairwise (· < ·)) (hb : b ∈ pre ++ a :: post) : b ∈ pre ↔ b < a := by
  obtain ⟨-, hpost, hcross⟩ := List.pairwise_append.1 hl
  constructor
  · exact fun h => hcross b h a List.mem_cons_self
  · intro hba
    rcases List.mem_append.1 hb with h | h
    · exact h
    · rcases List.mem_cons.1 h with rfl | h
      · exact absurd hba (lt_irrefl _)
      · exact absurd hba (lt_asymm (List.rel_of_pairwise_cons hpost h))

/-! ### Linting agrees with loading -/

section Agreement

variable {level : Nat} {t : FileTree} {D : String}

/-- **Linting an engine's manifest file agrees with loading the engine**: they read the same
manifest, and once the file is there they give the same result, error included. -/
theorem checkManifestFile_agrees_with_loadEngine {n : String} (hn : PathName.IsComponent n) :
    (∀ m, checkManifestFile level t (manifestPath (.ofString D) n).toText = .ok m ↔
      loadEngine level t D n = .ok m) ∧
    (t.isFile (manifestPath (.ofString D) n) →
      checkManifestFile level t (manifestPath (.ofString D) n).toText = loadEngine level t D n) := by
  rw [checkManifestFile_manifestPath (PathName.normal_ofString D) hn, loadEngine_eq]
  by_cases hf : t.isFile (manifestPath (.ofString D) n) <;> simp [hf]

variable {names : List String} (ht : t.WellNamed) (h : t.list (.ofString D) = .ok names)
include ht h

/-- The engine directories of a listing are its names that lead to directories, appended as
text. -/
theorem mem_engineDirs_iff {n : String} :
    n ∈ engineDirs t (.ofString D) names ↔
      n ∈ names ∧ t.isDirectory ((PathName.ofString D).child n) = true := by
  rw [mem_engineDirs]
  constructor
  · rintro ⟨hn, hdir⟩
    exact ⟨hn, by rwa [PathName.child_component (ht.isComponent_of_list h hn)]⟩
  · rintro ⟨hn, hdir⟩
    exact ⟨hn, by rwa [← PathName.child_component (ht.isComponent_of_list h hn)]⟩

/-- The catalog is read exactly when the manifest file of each engine directory lints. -/
theorem loadCatalog_ok_iff :
    (∃ ms, loadCatalog level t D = .ok ms) ↔
      ∀ n ∈ names, t.isDirectory ((PathName.ofString D).child n) = true →
        ∃ m, checkManifestFile level t (manifestPath (.ofString D) n).toText = .ok m := by
  rw [loadCatalog_of_list h, exists_mapM_eq_ok]
  constructor
  · intro hall n hn hdir
    obtain ⟨m, hm⟩ := hall n ((mem_engineDirs_iff ht h).2 ⟨hn, hdir⟩)
    exact ⟨m, (catalogEntry_eq_ok_iff (PathName.normal_ofString D)
      (ht.isComponent_of_list h hn)).1 hm⟩
  · intro hall n hE
    obtain ⟨hn, hdir⟩ := (mem_engineDirs_iff ht h).1 hE
    obtain ⟨m, hm⟩ := hall n hn hdir
    exact ⟨m, (catalogEntry_eq_ok_iff (PathName.normal_ofString D)
      (ht.isComponent_of_list h hn)).2 hm⟩

/-- A catalog that is read holds the manifests of its engine directories, named after them, in
increasing order of names, each as linting its file gives it. -/
theorem loadCatalog_eq_ok {ms : List Manifest} (hms : loadCatalog level t D = .ok ms) :
    (ms.map Manifest.name).Pairwise (· < ·) ∧
      (∀ n, n ∈ ms.map Manifest.name ↔
        n ∈ names ∧ t.isDirectory ((PathName.ofString D).child n) = true) ∧
      ∀ m ∈ ms, checkManifestFile level t (manifestPath (.ofString D) m.name).toText = .ok m := by
  rw [loadCatalog_of_list h, mapM_eq_ok_iff_forall₂] at hms
  have hE : ∀ n ∈ engineDirs t (.ofString D) names, PathName.IsComponent n :=
    fun n hn => ht.isComponent_of_list h (mem_engineDirs.1 hn).1
  obtain ⟨hnames, hentries⟩ := catalogEntries_names hms hE
  refine ⟨hnames ▸ pairwise_lt_engineDirs (ht.nodup_list h), fun n => ?_, fun m hm => ?_⟩
  · rw [hnames, mem_engineDirs_iff ht h]
  · have hmE : m.name ∈ engineDirs t (.ofString D) names := hnames ▸ List.mem_map_of_mem hm
    exact (catalogEntry_eq_ok_iff (PathName.normal_ofString D) (hE _ hmE)).1 (hentries m hm)

/-- Reading the catalog stops at the engine directory of least name whose manifest file does not
lint: with its error when the file is there, and for the missing file otherwise. -/
theorem loadCatalog_eq_error_iff {e : CatalogError} :
    loadCatalog level t D = .error e ↔
      ∃ n ∈ names, t.isDirectory ((PathName.ofString D).child n) = true ∧
        (∀ n' ∈ names, t.isDirectory ((PathName.ofString D).child n') = true → n' < n →
          ∃ m, checkManifestFile level t (manifestPath (.ofString D) n').toText = .ok m) ∧
        if t.isFile (manifestPath (.ofString D) n) then
          checkManifestFile level t (manifestPath (.ofString D) n).toText = .error e
        else e = .noManifestFile (manifestPath (.ofString D) n).toText := by
  have hd := PathName.normal_ofString D
  have hsorted := pairwise_lt_engineDirs (t := t) (d := .ofString D) (ht.nodup_list h)
  -- the failing directory's own error, by whether its manifest file is there
  have hfail : ∀ n ∈ names, (catalogEntry level t (.ofString D) n = .error e ↔
      if t.isFile (manifestPath (.ofString D) n) then
        checkManifestFile level t (manifestPath (.ofString D) n).toText = .error e
      else e = .noManifestFile (manifestPath (.ofString D) n).toText) := by
    intro n hn
    have hc := ht.isComponent_of_list h hn
    rw [catalogEntry_eq hc, checkManifestFile_manifestPath hd hc]
    by_cases hf : t.isFile (manifestPath (.ofString D) n) <;> simp [hf, eq_comm]
  rw [loadCatalog_of_list h, mapM_eq_error_iff]
  constructor
  · rintro ⟨pre, n, post, hE, hpre, hn⟩
    have hnE : n ∈ engineDirs t (.ofString D) names := hE ▸ List.mem_append_right _ List.mem_cons_self
    obtain ⟨hnames, hdir⟩ := (mem_engineDirs_iff ht h).1 hnE
    refine ⟨n, hnames, hdir, fun n' hn' hdir' hlt => ?_, (hfail n hnames).1 hn⟩
    -- a directory of smaller name comes before the failing one, and was read
    have hn'E := (mem_engineDirs_iff ht h).2 ⟨hn', hdir'⟩
    rw [hE] at hsorted hn'E
    obtain ⟨m, hm⟩ := hpre n' ((mem_prefix_iff_lt hsorted hn'E).2 hlt)
    exact ⟨m, (catalogEntry_eq_ok_iff hd (ht.isComponent_of_list h hn')).1 hm⟩
  · rintro ⟨n, hnames, hdir, hleast, hn⟩
    obtain ⟨pre, post, hE⟩ := List.append_of_mem ((mem_engineDirs_iff ht h).2 ⟨hnames, hdir⟩)
    refine ⟨pre, n, post, hE, fun n' hn' => ?_, (hfail n hnames).2 hn⟩
    -- each directory before the failing one has a smaller name, so it lints
    have hn'E : n' ∈ engineDirs t (.ofString D) names := hE ▸ List.mem_append_left _ hn'
    obtain ⟨hn'names, hdir'⟩ := (mem_engineDirs_iff ht h).1 hn'E
    rw [hE] at hsorted
    obtain ⟨m, hm⟩ := hleast n' hn'names hdir'
      ((mem_prefix_iff_lt hsorted (hE ▸ hn'E)).1 hn')
    exact ⟨m, (catalogEntry_eq_ok_iff hd (ht.isComponent_of_list h hn'names)).2 hm⟩

end Agreement

/-- **Linting agrees with loading.**  For every engines directory `D` of a file tree as a file
system holds one, and every engine name that is one path component: linting the engine's
manifest file and loading the engine read the same manifest, and once the file is there they
give the same result, error included. Where `D` lists, the catalog is read exactly when the
manifest file of each engine directory lints; it then holds those manifests, named after their
directories, in increasing order of names; and otherwise it stops at the engine directory of
least name whose manifest file does not lint, with that file's error, or for the missing file
when there is none. -/
theorem checkManifestFile_agrees_with_loading (level : Nat) {t : FileTree} (ht : t.WellNamed)
    (D : String) :
    (∀ n, PathName.IsComponent n →
      (∀ m, checkManifestFile level t (manifestPath (.ofString D) n).toText = .ok m ↔
        loadEngine level t D n = .ok m) ∧
      (t.isFile (manifestPath (.ofString D) n) →
        checkManifestFile level t (manifestPath (.ofString D) n).toText =
          loadEngine level t D n)) ∧
    ∀ names, t.list (.ofString D) = .ok names →
      ((∃ ms, loadCatalog level t D = .ok ms) ↔
        ∀ n ∈ names, t.isDirectory ((PathName.ofString D).child n) = true →
          ∃ m, checkManifestFile level t (manifestPath (.ofString D) n).toText = .ok m) ∧
      (∀ ms, loadCatalog level t D = .ok ms →
        (ms.map Manifest.name).Pairwise (· < ·) ∧
        (∀ n, n ∈ ms.map Manifest.name ↔
          n ∈ names ∧ t.isDirectory ((PathName.ofString D).child n) = true) ∧
        ∀ m ∈ ms, checkManifestFile level t (manifestPath (.ofString D) m.name).toText = .ok m) ∧
      ∀ e, loadCatalog level t D = .error e ↔
        ∃ n ∈ names, t.isDirectory ((PathName.ofString D).child n) = true ∧
          (∀ n' ∈ names, t.isDirectory ((PathName.ofString D).child n') = true → n' < n →
            ∃ m, checkManifestFile level t (manifestPath (.ofString D) n').toText = .ok m) ∧
          if t.isFile (manifestPath (.ofString D) n) then
            checkManifestFile level t (manifestPath (.ofString D) n).toText = .error e
          else e = .noManifestFile (manifestPath (.ofString D) n).toText :=
  ⟨fun _ hn => checkManifestFile_agrees_with_loadEngine hn, fun _ h =>
    ⟨loadCatalog_ok_iff ht h, fun _ => loadCatalog_eq_ok ht h, fun _ => loadCatalog_eq_error_iff ht h⟩⟩

/-- A tree with one engine directory, whose manifest file linting and loading read alike. -/
theorem checkManifestFile_agrees_on_one_engine :
    let t : FileTree :=
      { entries := [(["engines"], .directory), (["engines", "e"], .directory),
          (["engines", "e", "engine.yaml"],
            .file (Text.utf8Bytes "name: e\ndescription: d\nvendor: v\ngrade: stable\n"))] }
    t.WellNamed ∧ checkManifestFile 0 t "engines/e/engine.yaml" = loadEngine 0 t "engines" "e" := by
  intro t
  have ht : t.WellNamed := ⟨by decide +kernel, by decide +kernel⟩
  have hpath : (manifestPath (.ofString "engines") "e").toText = "engines/e/engine.yaml" := by
    decide +kernel
  have hfile : t.isFile (manifestPath (.ofString "engines") "e") = true := by decide +kernel
  exact ⟨ht, hpath ▸ ((checkManifestFile_agrees_with_loading 0 ht "engines").1 "e" (by decide)).2 hfile⟩

/-- Whether a catalog error is the scalar error of a day that its month does not have. -/
def CatalogError.isImpossibleDay : CatalogError → Bool
  | .scalar .dayOutOfRange => true
  | _ => false

theorem CatalogError.isImpossibleDay_iff {e : CatalogError} :
    e.isImpossibleDay = true ↔ e = .scalar .dayOutOfRange := by
  cases e with
  | scalar s => cases s <;> simp [isImpossibleDay]
  | _ => simp [isImpossibleDay]

/-- A manifest file holding an impossible date: linting it and loading its engine both stop
with the date's scalar error, which names no file, not with a rejection of the manifest. -/
theorem checkManifestFile_stops_on_impossible_date :
    let t : FileTree :=
      { entries := [(["engines"], .directory), (["engines", "e"], .directory),
          (["engines", "e", "engine.yaml"],
            .file (Text.utf8Bytes ("name: e\ndescription: d\nvendor: v\ngrade: stable\n" ++
              "configurations:\n  when: 2020-02-30\n")))] }
    checkManifestFile 0 t "engines/e/engine.yaml" = .error (.scalar .dayOutOfRange) ∧
      loadEngine 0 t "engines" "e" = .error (.scalar .dayOutOfRange) := by
  intro t
  have hpath : (manifestPath (.ofString "engines") "e").toText = "engines/e/engine.yaml" := by
    decide +kernel
  have hfile : t.isFile (manifestPath (.ofString "engines") "e") = true := by decide +kernel
  have hread : (errorOf? (manifestAt 0 t (manifestPath (.ofString "engines") "e") "e")).map
      CatalogError.isImpossibleDay = some true := by
    decide +kernel
  have hat : manifestAt 0 t (manifestPath (.ofString "engines") "e") "e" =
      .error (.scalar .dayOutOfRange) := by
    obtain ⟨e, he, hday⟩ := Option.map_eq_some_iff.1 hread
    rw [errorOf?_eq_some.1 he, CatalogError.isImpossibleDay_iff.1 hday]
  rw [← hpath, checkManifestFile_manifestPath (PathName.normal_ofString _) (by decide),
    loadEngine_eq, if_pos hfile, if_pos hfile, hat]
  exact ⟨rfl, rfl⟩

end EngineFit
