import Mathlib
import EngineFit.Proofs.WrittenFields

/-!
# The hexadecimal identifier grammar

A hexadecimal identifier (a vendor, device or class id, an implementer or part number) is
documented as a natural number, or as a text that, once its blanks are stripped, is a nonempty
run of ASCII hexadecimal digits in either case, with an optional `0x` or `0X` before it
(`DocumentedHex`). Any other value is refused as an invalid hex value, shown in literal form.

`parseHex_reads_documented_ids_exactly` proves that the reader `parseHex` keeps to this grammar
at every value, with no exception: an id text is read at any length, and its prefix is told by
its first two characters alone. It also proves that the reader inverts the writer: `0x` and the
digits of `n`, padded with zeros to any width, are read back as `n`.

The digits are those of `HexText.alphabet`, each worth its place among the lower-case digits
(`HexText.weight`); a run is worth its digits read in base 16, the first the most significant
(`HexText.digitsValue`, through `Nat.ofDigits`). The reader's digit table `Text.hexDigit?` is
that alphabet with those weights (`HexText.hexDigit?_eq`): checked on the 128 ASCII characters,
and no character beyond them is read as a digit.
-/

namespace EngineFit

namespace HexText

/-- The hexadecimal digits, in either case. -/
def alphabet : List Char := "0123456789abcdefABCDEF".toList

/-- The value of a hexadecimal digit: its place among the lower-case digits. -/
def weight (c : Char) : Nat := "0123456789abcdef".toList.idxOf c.toLower

/-! ### The digit table -/

/-- On the ASCII characters the digit table is the alphabet with its weights. -/
theorem hexDigit?_ofNat_ascii : ∀ m < 128, Text.hexDigit? (Char.ofNat m) =
    if Char.ofNat m ∈ alphabet then some (weight (Char.ofNat m)) else none := by
  decide +kernel

theorem alphabet_ascii : alphabet.all (·.toNat < 128) := by
  decide

/-- No character beyond ASCII is a digit. -/
theorem hexDigit?_of_ascii_le {c : Char} (h : 128 ≤ c.toNat) : Text.hexDigit? c = none := by
  have above : ∀ b : Char, b.toNat < 128 → ¬ c ≤ b := by
    intro b hb hc
    rw [Char.le_def, UInt32.le_iff_toNat_le, Char.toNat_val, Char.toNat_val] at hc
    omega
  unfold Text.hexDigit?
  rw [if_neg fun h => above '9' (by decide) h.2, if_neg fun h => above 'f' (by decide) h.2,
    if_neg fun h => above 'F' (by decide) h.2]

/-- The digit table is the alphabet with its weights. -/
theorem hexDigit?_eq (c : Char) :
    Text.hexDigit? c = if c ∈ alphabet then some (weight c) else none := by
  by_cases hc : c.toNat < 128
  · obtain ⟨m, hm, rfl⟩ : ∃ m < 128, c = Char.ofNat m :=
      ⟨c.toNat, hc, (Char.ofNat_toNat c).symm⟩
    exact hexDigit?_ofNat_ascii m hm
  · have hout : c ∉ alphabet := fun hmem =>
      hc (by simpa using List.all_eq_true.1 alphabet_ascii c hmem)
    rw [hexDigit?_of_ascii_le (by omega), if_neg hout]

/-- The letters of the prefix are no digits. -/
theorem prefix_letters : 'x' ∉ alphabet ∧ 'X' ∉ alphabet := by
  decide

/-! ### Runs of digits -/

/-- The value of a run of hexadecimal digits, the first digit the most significant. -/
def digitsValue (ds : List Char) : Nat :=
  Nat.ofDigits 16 (ds.reverse.map weight)

theorem digitsValue_cons (c : Char) (ds : List Char) :
    digitsValue (c :: ds) = weight c * 16 ^ ds.length + digitsValue ds := by
  simp [digitsValue, Nat.ofDigits_append]
  ring

/-- The reader's fold from `acc` succeeds exactly on a run of digits, and shifts `acc` past
it. -/
theorem foldlM_hexDigit?_eq_some {ds : List Char} {acc n : Nat} :
    ds.foldlM (fun acc c => (Text.hexDigit? c).map (acc * 16 + ·)) acc = some n ↔
      (∀ c ∈ ds, c ∈ alphabet) ∧ n = acc * 16 ^ ds.length + digitsValue ds := by
  induction ds generalizing acc with
  | nil => simp [digitsValue, eq_comm]
  | cons c ds ih =>
    rw [List.foldlM_cons, hexDigit?_eq]
    by_cases hc : c ∈ alphabet
    · -- the digit shifts `acc` one place up, and the rest is read from there
      have shift : (acc * 16 + weight c) * 16 ^ ds.length + digitsValue ds =
          acc * 16 ^ (c :: ds).length + digitsValue (c :: ds) := by
        rw [digitsValue_cons, List.length_cons]
        ring
      rw [if_pos hc]
      simp only [Option.map_some, Option.bind_eq_bind, Option.bind_some, ih, shift,
        List.forall_mem_cons, hc, true_and]
    · simp [hc]

/-- A run is read as a number exactly when it is a nonempty run of digits, and then as its
value. -/
theorem hexNat?_eq_some_iff {ds : List Char} {n : Nat} :
    Text.hexNat? ds = some n ↔ ds ≠ [] ∧ (∀ c ∈ ds, c ∈ alphabet) ∧ digitsValue ds = n := by
  cases ds with
  | nil => simp [Text.hexNat?]
  | cons c ds =>
    rw [hexNat?_of_ne_nil (List.cons_ne_nil c ds), foldlM_hexDigit?_eq_some]
    simp [eq_comm]

/-! ### The prefix -/

/-- The prefixes an identifier text may open with: none, `0x` and `0X`. -/
def prefixes : List (List Char) := [[], ['0', 'x'], ['0', 'X']]

/-- `cs` is an identifier text: one of the `prefixes`, then the hexadecimal digits `ds`, one at
least, and nothing else. -/
def Shape (cs ds : List Char) : Prop :=
  ds ≠ [] ∧ (∀ c ∈ ds, c ∈ alphabet) ∧ ∃ pre ∈ prefixes, cs = pre ++ ds

/-- The characters the reader takes for digits: the text less a leading `0x` or `0X`. -/
def dropPrefix (cs : List Char) : List Char :=
  match cs with
  | '0' :: x :: rest => if x = 'x' ∨ x = 'X' then rest else cs
  | _ => cs

/-- A run of digits has no prefix to take off. -/
theorem dropPrefix_of_digits {ds : List Char} (h : ∀ c ∈ ds, c ∈ alphabet) :
    dropPrefix ds = ds := by
  unfold dropPrefix
  split
  · rename_i x rest
    have hx : x ∈ alphabet := h x (by simp)
    rw [if_neg]
    rintro (rfl | rfl)
    exacts [prefix_letters.1 hx, prefix_letters.2 hx]
  · rfl

/-- A text is an identifier text of the digits `ds` exactly when `ds` is what is left once the
prefix is taken off, and a nonempty run of digits. -/
theorem shape_iff {cs ds : List Char} :
    Shape cs ds ↔ ds = dropPrefix cs ∧ ds ≠ [] ∧ ∀ c ∈ ds, c ∈ alphabet := by
  constructor
  · rintro ⟨hne, hall, pre, hpre, rfl⟩
    refine ⟨?_, hne, hall⟩
    simp only [prefixes, List.mem_cons, List.not_mem_nil, or_false] at hpre
    rcases hpre with rfl | rfl | rfl
    · exact (dropPrefix_of_digits hall).symm
    · simp [dropPrefix]
    · simp [dropPrefix]
  · rintro ⟨rfl, hne, hall⟩
    refine ⟨hne, hall, ?_⟩
    unfold dropPrefix
    split
    · rename_i x rest
      by_cases hx : x = 'x' ∨ x = 'X'
      · rw [if_pos hx]
        rcases hx with rfl | rfl
        · exact ⟨['0', 'x'], by simp [prefixes], rfl⟩
        · exact ⟨['0', 'X'], by simp [prefixes], rfl⟩
      · rw [if_neg hx]
        exact ⟨[], by simp [prefixes], rfl⟩
    · exact ⟨[], by simp [prefixes], rfl⟩

end HexText

/-- The documented hexadecimal identifiers: a natural number is its own id, and a text whose
stripped form is an identifier text is the value of its digits. -/
def DocumentedHex (v : Value) (n : Nat) : Prop :=
  v = .int n ∨ ∃ s ds, v = .str s ∧ HexText.Shape (Text.strip s).toList ds ∧
    n = HexText.digitsValue ds

/-- The reader on a text: the digits left once blanks and the prefix are taken off. -/
theorem parseHex_str (s : String) :
    parseHex (.str s) =
      match Text.hexNat? (HexText.dropPrefix (Text.strip s).toList) with
      | some n => .ok n
      | none => .error (.invalidHex (.str s)) := by
  dsimp only [parseHex, hexValue?]
  -- with the stripped characters held abstract, the two prefix matches compare by their cases
  generalize (Text.strip s).toList = cs
  rfl

theorem parseHex_int (m : Int) :
    parseHex (.int m) = if m < 0 then .error (rejected .invalidHex (.int m)) else .ok m.toNat :=
  rfl

/-- A text is read as `n` exactly when its stripped form is an identifier text worth `n`. -/
theorem parseHex_str_eq_ok_iff {s : String} {n : Nat} :
    parseHex (.str s) = .ok n ↔
      ∃ ds, HexText.Shape (Text.strip s).toList ds ∧ HexText.digitsValue ds = n := by
  rw [parseHex_str]
  generalize (Text.strip s).toList = cs
  simp only [HexText.shape_iff]
  constructor
  · intro h
    split at h
    · rename_i m hm
      cases h
      obtain ⟨hne, hall, rfl⟩ := HexText.hexNat?_eq_some_iff.1 hm
      exact ⟨_, ⟨rfl, hne, hall⟩, rfl⟩
    · cases h
  · rintro ⟨ds, ⟨rfl, hne, hall⟩, rfl⟩
    rw [HexText.hexNat?_eq_some_iff.2 ⟨hne, hall, rfl⟩]

theorem documentedHex_int (m : Int) (n : Nat) : DocumentedHex (.int m) n ↔ m = n := by
  simp [DocumentedHex]

theorem documentedHex_str (s : String) (n : Nat) :
    DocumentedHex (.str s) n ↔
      ∃ ds, HexText.Shape (Text.strip s).toList ds ∧ HexText.digitsValue ds = n := by
  simp [DocumentedHex, eq_comm]

/-- The reader reads exactly the documented ids of a value. -/
theorem parseHex_eq_ok_iff (v : Value) (n : Nat) : parseHex v = .ok n ↔ DocumentedHex v n := by
  cases v with
  | int m =>
    rw [parseHex_int, documentedHex_int]
    by_cases hm : m < 0
    · -- a negative integer is refused, and is no natural number
      rw [if_pos hm]
      constructor
      · intro h
        cases h
      · intro h
        omega
    · rw [if_neg hm, Except.ok.injEq]
      omega
  | str s => rw [parseHex_str_eq_ok_iff, documentedHex_str]
  | _ => simp [parseHex, DocumentedHex]

/-- Every refusal is the invalid-hex error showing the value, unless the value is an integer too
long to show. -/
theorem parseHex_error {v : Value} {e : UnitError} (h : parseHex v = .error e) :
    e = rejected .invalidHex v := by
  cases v with
  | int m =>
    rw [parseHex_int] at h
    split at h
    · exact (Except.error.inj h).symm
    · cases h
  | str s =>
    rw [parseHex_str] at h
    split at h
    · cases h
    · cases h
      rfl
  | _ =>
    cases h
    rfl

/-- **The id reader keeps to the documented grammar, and inverts the writer.** At every value
the reader reads exactly the documented ids, and refuses a value with none as an invalid hex
value shown in literal form (a negative integer too long to write in decimal is refused for its
length instead); and `0x` followed by the digits of `n`, padded to any width, is read back as
`n`. -/
theorem parseHex_reads_documented_ids_exactly :
    (∀ v n, parseHex v = .ok n ↔ DocumentedHex v n) ∧
      (∀ v, (∀ n, ¬ DocumentedHex v n) → parseHex v = .error (rejected .invalidHex v)) ∧
      ∀ width n : Nat, parseHex (.str (hexText width n)) = .ok n := by
  refine ⟨parseHex_eq_ok_iff, fun v hnone => ?_, parseHex_hexText⟩
  cases h : parseHex v with
  | ok n => exact absurd ((parseHex_eq_ok_iff v n).1 h) (hnone n)
  | error e => rw [parseHex_error h]

example : (parseHex (.str " 0XB33F\n")).toOption = some 0xB33F := by
  decide +kernel

example : (parseHex (.str "0x")).toOption = none := by
  decide +kernel

end EngineFit
