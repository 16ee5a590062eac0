import EngineFit.Proofs.SnapshotInput
import EngineFit.Hardware.Cache

/-!
# What loading the snapshot cache can fail with

Loading a cache file gives its snapshot, or nothing when the file is missing, unreadable, not
JSON or not a valid snapshot. It fails for exactly two kinds of file
(`SnapshotCache.load_eq_error_iff`): bytes that are no UTF-8 text, and JSON beyond what the
reader reads, an integer of more than `Number.digitLimit` digits or nesting deeper than the
reader has room for. A document the reader does read is writable (`Json.read_writable`), so the
snapshot reader refuses it only for its shape (`Snapshot.parse_rejects`), which loading takes
as a miss.

Getting with a probe then gives the cached snapshot or the probe's, and fails only when
loading fails, the probe fails, or the probe's snapshot has no JSON form
(`SnapshotCache.get_eq_ok`, `SnapshotCache.get_eq_error`).
-/

namespace EngineFit
namespace SnapshotCache

/-- The cache files that loading fails on: text that is no UTF-8, and JSON beyond the reader,
read with the room left at call level `level`. -/
inductive LoadFault (c : SnapshotCache) (level : Nat) (files : FileTree) : CacheError → Prop
  | encoding {u : Text.Utf8Error} : files.holds c.path = true →
      files.readText c.path = .error (.encoding u) → LoadFault c level files (.encoding u)
  | beyondReader {text : String} {e : Json.ReadError} : files.holds c.path = true →
      files.readText c.path = .ok text → Json.read (roomAbove (level + 1)) text = .error e →
      e.fault.isSyntax = false → LoadFault c level files (.beyondReader e.fault)

/-- **Loading fails exactly on a file that is no UTF-8 text or JSON beyond the reader.** -/
theorem load_eq_error_iff {c : SnapshotCache} {level : Nat} {files : FileTree} {e : CacheError} :
    c.load level files = .error e ↔ c.LoadFault level files e := by
  constructor
  · intro h
    unfold load at h
    split at h
    · cases h
    · rename_i hholds
      simp only [Bool.not_eq_true', Bool.not_eq_false] at hholds
      split at h
      · rename_i u hu
        cases h
        exact .encoding hholds hu
      · cases h
      · rename_i text htext
        split at h
        · rename_i f hf
          split at h
          · cases h
          · rename_i hgrammar
            cases h
            exact .beyondReader hholds htext hf (by simpa using hgrammar)
        · rename_i doc hdoc
          split at h
          · cases h
          · rename_i pe hpe
            -- the document read is writable, so its snapshot is refused only for its shape
            have hrejects := Snapshot.parse_rejects (Json.read_writable hdoc) pe hpe
            simp [hrejects] at h
  · intro h
    cases h with
    | encoding hholds hu => simp [load, hholds, hu]
    | beyondReader hholds htext hread hgrammar => simp [load, hholds, htext, hread, hgrammar]

/-- A snapshot is saved with a fault only when writing it as JSON meets one. -/
theorem save_fault {c : SnapshotCache} {files : FileTree} {s : Snapshot} {de : Json.DumpError}
    (h : (c.save files s).2 = some de) : (Json.emit 2 0 s.toValue).2 = some de := by
  unfold save at h
  split at h
  · cases h
  · dsimp only at h
    split at h
    · exact h
    · cases h

section Get

variable {c : SnapshotCache} {level : Nat} {files : FileTree} {p : Except ProbeFailure Snapshot}

/-- Getting with a probe gives the cached snapshot or the probe's. -/
theorem get_eq_ok {r : Snapshot} (h : (c.get level files (some p)).2.2 = .ok r) :
    c.load (level + 1) files = .ok (some r) ∨ p = .ok r := by
  unfold get at h
  split at h
  · cases h
  · rename_i s hs
    cases h
    exact .inl hs
  · split at h
    · cases h
    · cases h
    · rename_i s hs
      cases hs
      split at h
      · cases h
        exact .inr rfl
      · cases h

/-- Getting with a probe fails only when loading fails, the probe fails, or the probe's
snapshot has no JSON form. -/
theorem get_eq_error {e : CacheError} (h : (c.get level files (some p)).2.2 = .error e) :
    c.LoadFault (level + 1) files e ∨ (∃ pf, p = .error pf ∧ e = .probe pf) ∨
      ∃ s de, p = .ok s ∧ e = .unwritable de ∧ (Json.emit 2 0 s.toValue).2 = some de := by
  unfold get at h
  split at h
  · rename_i e' he'
    cases h
    exact .inl (load_eq_error_iff.1 he')
  · cases h
  · split at h
    · rename_i hnone
      cases hnone
    · rename_i pf hpf
      cases hpf
      cases h
      exact .inr (.inl ⟨pf, rfl, rfl⟩)
    · rename_i s hs
      cases hs
      split at h
      · cases h
      · rename_i de hsave
        cases h
        exact .inr (.inr ⟨s, de, rfl, rfl, save_fault (by rw [hsave])⟩)

end Get

end SnapshotCache

/-- **Snapshot input is reported, within the digit limit.** A snapshot read from a document is
well formed, and a writable document is refused only for its shape; loading the cache fails
exactly on a file that is no UTF-8 text or JSON beyond the reader; and getting with a probe
gives the cached snapshot or the probe's, failing only when loading fails, the probe fails or
the probe's snapshot has no JSON form. -/
theorem snapshotInput_reported (d : Value) (c : SnapshotCache) (level : Nat) (files : FileTree)
    (p : Except ProbeFailure Snapshot) :
    (∀ s, Snapshot.parse d = .ok s → s.WellFormed) ∧
    (d.writable = true → ∀ e, Snapshot.parse d = .error e → e.isRejection = true) ∧
    (∀ e, c.load level files = .error e ↔ c.LoadFault level files e) ∧
    (∀ r, (c.get level files (some p)).2.2 = .ok r →
      c.load (level + 1) files = .ok (some r) ∨ p = .ok r) ∧
    (∀ e, (c.get level files (some p)).2.2 = .error e →
      c.LoadFault (level + 1) files e ∨ (∃ pf, p = .error pf ∧ e = .probe pf) ∨
        ∃ s de, p = .ok s ∧ e = .unwritable de ∧ (Json.emit 2 0 s.toValue).2 = some de) :=
  ⟨fun _ h => Snapshot.parse_wellFormed h,
    fun hd e h => Snapshot.parse_rejects hd e h,
    fun _ => SnapshotCache.load_eq_error_iff,
    fun _ h => SnapshotCache.get_eq_ok h,
    fun _ h => SnapshotCache.get_eq_error h⟩

end EngineFit
