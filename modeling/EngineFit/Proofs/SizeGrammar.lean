import EngineFit.Units

/-!
# The size grammar

A byte size is documented as a natural number, or as a text of decimal digits with an optional
unit letter, `M` for mebibytes or `G` for gibibytes, and nothing before or after
(`DocumentedSize`); any other value is refused as an invalid size, shown in literal form.

The reader `parseSize` keeps to this grammar at every value but three kinds
(`SizeException`), and `parseSize_meets_grammar_iff` proves that it meets the grammar exactly at
the others:

* a size text followed by one line feed is read as the size, since the end anchor of the
  pattern also matches before a final line feed;
* a size text of more than `Number.digitLimit` digits is refused for its length, not read;
* a value that is no natural number and holds an integer too long to write in decimal (a
  negative integer, or a list or mapping holding one) is refused for that length, since the
  error cannot show it.

Digits are the decimal digits of any script, each worth its value (`SizeText.digitsValue`), as
both the pattern and the conversion to an integer read them. The reader's view of a text is
`sizeParts?`, and `SizeText.sizeParts?_of_shape` and `SizeText.shape_of_sizeParts?` say what it
takes a text to be: a size text, possibly followed by one line feed.
-/

namespace EngineFit

namespace SizeText

/-- The unit letters a size text may end in, with the bytes each stands for: none, `M` and
`G`. -/
def units : List (List Char × Nat) := [([], 1), (['M'], mebibyte), (['G'], gibibyte)]

/-- The value of a run of decimal digits of any script. -/
def digitsValue (ds : List Char) : Nat :=
  ds.foldl (fun n c => n * 10 + (Text.digitValue? c).getD 0) 0

/-- `cs` is a size text: the decimal digits `ds`, one at least, then at most one unit letter, of
scale `scale`, and nothing else. -/
def Shape (cs ds : List Char) (scale : Nat) : Prop :=
  isDecimalRun ds = true ∧ ∃ unit, (unit, scale) ∈ units ∧ cs = ds ++ unit

theorem mem_units {unit : List Char} {scale : Nat} :
    (unit, scale) ∈ units ↔
      unit = [] ∧ scale = 1 ∨ unit = ['M'] ∧ scale = mebibyte ∨ unit = ['G'] ∧ scale = gibibyte := by
  simp [units]

/-- A line feed and the unit letters are no decimal digits. -/
theorem suffix_not_digit : Text.digitValue? '\n' = none ∧ Text.digitValue? 'M' = none ∧
    Text.digitValue? 'G' = none := by
  decide +kernel

/-- A run of decimal digits ends in a digit. -/
theorem exists_last_of_isDecimalRun {ds : List Char} (h : isDecimalRun ds = true) :
    ∃ init d, ds = init ++ [d] ∧ d ≠ '\n' ∧ d ≠ 'M' ∧ d ≠ 'G' := by
  obtain ⟨hne, hall⟩ : ds ≠ [] ∧ ∀ c ∈ ds, (Text.digitValue? c).isSome := by
    simpa [isDecimalRun] using h
  obtain ⟨init, d, rfl⟩ : ∃ init d, ds = init ++ [d] := by
    obtain ⟨init, d, h⟩ := List.eq_nil_or_concat ds |>.resolve_left hne
    exact ⟨init, d, by simpa using h⟩
  have hd : (Text.digitValue? d).isSome := hall d (by simp)
  obtain ⟨h1, h2, h3⟩ := suffix_not_digit
  refine ⟨init, d, rfl, ?_, ?_, ?_⟩ <;> rintro rfl <;> simp_all

/-- The reader takes a size text, or a size text followed by a line feed, for the size text it
is. -/
theorem sizeParts?_of_shape {s : String} {cs ds : List Char} {scale : Nat}
    (hs : s.toList = cs ∨ s.toList = cs ++ ['\n']) (h : Shape cs ds scale) :
    sizeParts? s = some (ds, scale) := by
  obtain ⟨hrun, unit, hunit, rfl⟩ := h
  obtain ⟨init, d, rfl, hnl, hM, hG⟩ := exists_last_of_isDecimalRun hrun
  unfold sizeParts?
  rcases mem_units.1 hunit with ⟨rfl, rfl⟩ | ⟨rfl, rfl⟩ | ⟨rfl, rfl⟩ <;> rcases hs with hs | hs <;>
    simp [hs, hnl, hM, hG, hrun]

/-- What the reader takes a size text to be: the text less one final line feed is a size text of
those digits and that scale. -/
theorem shape_of_sizeParts? {s : String} {ds : List Char} {scale : Nat}
    (h : sizeParts? s = some (ds, scale)) :
    ∃ cs, (s.toList = cs ∨ s.toList = cs ++ ['\n']) ∧ Shape cs ds scale := by
  unfold sizeParts? at h
  simp only at h
  -- first the final line feed is taken off
  generalize hcs : (if (s.toList.getLast? == some '\n') = true then s.toList.dropLast
    else s.toList) = cs at h
  have hs : s.toList = cs ∨ s.toList = cs ++ ['\n'] := by
    split at hcs
    · rename_i hl
      obtain ⟨ys, hys⟩ := List.getLast?_eq_some_iff.1 (by simpa using hl)
      rw [hys, List.dropLast_concat] at hcs
      exact .inr (hcs ▸ hys)
    · exact .inl hcs
  refine ⟨cs, hs, ?_⟩
  -- then the unit letter
  split at h
  · rename_i hM
    obtain ⟨ys, rfl⟩ := List.getLast?_eq_some_iff.1 hM
    split at h
    · cases h
      exact ⟨‹_›, ['M'], mem_units.2 (by simp), by simp⟩
    · cases h
  · rename_i hG
    obtain ⟨ys, rfl⟩ := List.getLast?_eq_some_iff.1 hG
    split at h
    · cases h
      exact ⟨‹_›, ['G'], mem_units.2 (by simp), by simp⟩
    · cases h
  · split at h
    · cases h
      exact ⟨‹_›, [], mem_units.2 (by simp), by simp⟩
    · cases h

/-- The digits of a size text are read as their value, unless there are more than the limit. -/
theorem readDecimal_eq (ds : List Char) :
    readDecimal ds = if Number.digitLimit < ds.length then .error (.reading ds.length)
      else .ok (digitsValue ds) := by
  unfold readDecimal Number.checkDigitCount
  split <;> rfl

/-- A size text ends in a digit or a unit letter, never in a line feed. -/
theorem getLast?_ne_lineFeed {cs ds : List Char} {scale : Nat} (h : Shape cs ds scale) :
    cs.getLast? ≠ some '\n' := by
  obtain ⟨hrun, unit, hunit, rfl⟩ := h
  obtain ⟨init, d, rfl, hnl, -, -⟩ := exists_last_of_isDecimalRun hrun
  rcases mem_units.1 hunit with ⟨rfl, -⟩ | ⟨rfl, -⟩ | ⟨rfl, -⟩ <;> simp [hnl]

/-- A text is a size text in at most one way. -/
theorem Shape.unique {cs ds ds' : List Char} {scale scale' : Nat} (h : Shape cs ds scale)
    (h' : Shape cs ds' scale') : ds = ds' ∧ scale = scale' := by
  have hs := sizeParts?_of_shape (s := String.ofList cs) (.inl String.toList_ofList) h
  rw [sizeParts?_of_shape (.inl String.toList_ofList) h'] at hs
  cases hs
  exact ⟨rfl, rfl⟩

end SizeText

/-- The documented sizes: a natural number is its own size, and a size text is the value of its
digits times the bytes of its unit. -/
def DocumentedSize (v : Value) (n : Nat) : Prop :=
  v = .int n ∨ ∃ s ds scale, v = .str s ∧ SizeText.Shape s.toList ds scale ∧
    n = SizeText.digitsValue ds * scale

/-- Where the reader parts from the documented grammar. -/
inductive SizeException : Value → Prop
  /-- A size text followed by one line feed, which is read as the size. -/
  | lineFeed {s : String} {cs ds : List Char} {scale : Nat} :
      s.toList = cs ++ ['\n'] → SizeText.Shape cs ds scale → SizeException (.str s)
  /-- A size text of more digits than are read. -/
  | tooManyDigits {s : String} {ds : List Char} {scale : Nat} :
      SizeText.Shape s.toList ds scale → Number.digitLimit < ds.length → SizeException (.str s)
  /-- A value other than a natural number that cannot be written in the error. -/
  | unwritable {v : Value} : (∀ n : Nat, v ≠ .int n) → v.writable = false → SizeException v

/-- The reader meets the documented grammar at `v`: it reads exactly the documented sizes of
`v`, and refuses a value with none as an invalid size. -/
def MeetsSizeGrammar (v : Value) : Prop :=
  (∀ n, parseSize v = .ok n ↔ DocumentedSize v n) ∧
    ((∀ n, ¬ DocumentedSize v n) → parseSize v = .error (.invalidSize v))

theorem documentedSize_int (m : Int) (n : Nat) : DocumentedSize (.int m) n ↔ m = n := by
  simp [DocumentedSize]

theorem documentedSize_str (s : String) (n : Nat) :
    DocumentedSize (.str s) n ↔
      ∃ ds scale, SizeText.Shape s.toList ds scale ∧ n = SizeText.digitsValue ds * scale := by
  simp [DocumentedSize]

/-- The reader on a text it takes for a size: the digits' value scaled, unless there are more
digits than are read. -/
theorem parseSize_str_of_sizeParts? {s : String} {ds : List Char} {scale : Nat}
    (hp : sizeParts? s = some (ds, scale)) :
    parseSize (.str s) = if Number.digitLimit < ds.length then .error (.digits (.reading ds.length))
      else .ok (SizeText.digitsValue ds * scale) := by
  by_cases hlen : Number.digitLimit < ds.length <;>
    simp [parseSize, hp, SizeText.readDecimal_eq, hlen]

/-- The reader on a text it does not take for a size: an invalid size. -/
theorem parseSize_str_of_sizeParts?_none {s : String} (hp : sizeParts? s = none) :
    parseSize (.str s) = .error (.invalidSize (.str s)) := by
  simp only [parseSize, hp]

theorem parseSize_int (m : Int) :
    parseSize (.int m) = if m < 0 then .error (rejected .invalidSize (.int m)) else .ok m.toNat := by
  unfold parseSize
  rfl

/-- A value that can be shown is refused with the rule's own error. -/
theorem rejected_of_writable (mk : Value → UnitError) {v : Value} (h : v.writable = true) :
    rejected mk v = mk v := by
  simp [rejected, Value.literalChecked, h]

/-- A value too long to show is refused for its length. -/
theorem rejected_of_unwritable (mk : Value → UnitError) {v : Value} (h : v.writable = false) :
    rejected mk v = .digits .writing := by
  simp [rejected, Value.literalChecked, h]

/-- The reader refuses a value that is no natural number and cannot be shown for its length. -/
theorem parseSize_unwritable {v : Value} (hnat : ∀ n : Nat, v ≠ .int n)
    (hw : v.writable = false) : parseSize v = .error (.digits .writing) := by
  cases v with
  | int m =>
    have hm : m < 0 := Int.not_le.1 fun hm => hnat m.toNat (by rw [Int.toNat_of_nonneg hm])
    rw [parseSize_int, if_pos hm, rejected_of_unwritable _ hw]
  | str s => simp [Value.writable] at hw
  | _ => exact congrArg Except.error (rejected_of_unwritable _ hw)

/-- The reader meets the grammar at an integer unless it is negative and too long to show. -/
theorem meets_int {m : Int} (hx : ¬ SizeException (.int m)) : MeetsSizeGrammar (.int m) := by
  refine ⟨fun n => ?_, fun hnone => ?_⟩
  · rw [documentedSize_int, parseSize_int]
    by_cases hm : m < 0
    · rw [if_pos hm]
      constructor
      · intro h
        cases h
      · intro h
        omega
    · rw [if_neg hm, Except.ok.injEq]
      omega
  · have hm : m < 0 := by
      refine (Int.lt_or_le m 0).resolve_right fun hm => ?_
      exact hnone m.toNat ((documentedSize_int _ _).2 (by omega))
    rw [parseSize_int, if_pos hm]
    cases hw : Value.writable (.int m) with
    | true => rw [rejected_of_writable _ hw]
    | false => exact absurd (.unwritable (fun n h => by cases h; omega) hw) hx

/-- The reader meets the grammar at a value that is no integer and no text unless it cannot be
shown: no size is documented for it, and it is refused as an invalid size. -/
theorem meets_of_rejected {v : Value} (hv : parseSize v = .error (rejected .invalidSize v))
    (hnat : ∀ n : Nat, v ≠ .int n) (hstr : ∀ s, v ≠ .str s) (hx : ¬ SizeException v) :
    MeetsSizeGrammar v := by
  have hnone : ∀ n, ¬ DocumentedSize v n := by
    rintro n (h | ⟨s, -, -, h, -⟩)
    · exact hnat n h
    · exact hstr s h
  have hw : v.writable = true := by
    cases hw : v.writable with
    | true => rfl
    | false => exact absurd (.unwritable hnat hw) hx
  rw [rejected_of_writable _ hw] at hv
  exact ⟨fun n => iff_of_false (by rw [hv]; intro h; cases h) (hnone n), fun _ => hv⟩

/-- The reader meets the grammar at a text unless the text is a size text followed by a line
feed, or has more digits than are read. -/
theorem meets_str {s : String} (hx : ¬ SizeException (.str s)) : MeetsSizeGrammar (.str s) := by
  cases hp : sizeParts? s with
  | none =>
    -- no size text: nothing is documented, and the text is refused
    have hnone : ∀ n, ¬ DocumentedSize (.str s) n := by
      rintro n hdoc
      obtain ⟨ds, scale, hshape, -⟩ := (documentedSize_str s n).1 hdoc
      rw [SizeText.sizeParts?_of_shape (.inl rfl) hshape] at hp
      cases hp
    have herr := parseSize_str_of_sizeParts?_none hp
    exact ⟨fun n => ⟨fun h => (by rw [herr] at h; cases h), fun h => absurd h (hnone n)⟩,
      fun _ => herr⟩
  | some parts =>
    obtain ⟨ds, scale⟩ := parts
    obtain ⟨cs, hs, hshape⟩ := SizeText.shape_of_sizeParts? hp
    -- the text is the size text itself: a final line feed is an exception
    have hcs : s.toList = cs := hs.resolve_right fun h => hx (.lineFeed h hshape)
    subst hcs
    have hlen : ¬ Number.digitLimit < ds.length := fun h => hx (.tooManyDigits hshape h)
    have hok : parseSize (.str s) = .ok (SizeText.digitsValue ds * scale) := by
      rw [parseSize_str_of_sizeParts? hp, if_neg hlen]
    refine ⟨fun n => ?_, fun hnone => absurd ((documentedSize_str s _).2
      ⟨ds, scale, hshape, rfl⟩) (hnone _)⟩
    rw [hok, documentedSize_str]
    constructor
    · intro h
      cases h
      exact ⟨ds, scale, hshape, rfl⟩
    · rintro ⟨ds', scale', hshape', rfl⟩
      obtain ⟨rfl, rfl⟩ := hshape.unique hshape'
      rfl

/-- **The size reader keeps to the documented grammar, with three exceptions.** At every value
the reader reads exactly the documented sizes and refuses a value with none as an invalid size,
except at a size text followed by one line feed, which it reads; a size text of more digits than
`Number.digitLimit`, which it refuses for its length; and a value other than a natural number
that holds an integer too long to write, which it refuses for that length. -/
theorem parseSize_meets_grammar_iff (v : Value) : MeetsSizeGrammar v ↔ ¬ SizeException v := by
  constructor
  · rintro ⟨hok, herr⟩ hx
    cases hx with
    | @lineFeed s cs ds scale hs hshape =>
      -- nothing is documented, since no size text ends in a line feed
      have hnone : ∀ n, ¬ DocumentedSize (.str s) n := by
        rintro n hdoc
        obtain ⟨ds', scale', hshape', -⟩ := (documentedSize_str s n).1 hdoc
        exact SizeText.getLast?_ne_lineFeed hshape' (by simp [hs])
      have h := herr hnone
      rw [parseSize_str_of_sizeParts? (SizeText.sizeParts?_of_shape (.inr hs) hshape)] at h
      split at h <;> cases h
    | @tooManyDigits s ds scale hshape hlong =>
      have h := (hok _).2 ((documentedSize_str s _).2 ⟨ds, scale, hshape, rfl⟩)
      rw [parseSize_str_of_sizeParts? (SizeText.sizeParts?_of_shape (.inl rfl) hshape),
        if_pos hlong] at h
      cases h
    | @unwritable v hnat hw =>
      -- nothing is documented, since a text can always be shown
      have h := herr fun n hdoc => by
        rcases hdoc with h | ⟨s, -, -, rfl, -⟩
        · exact hnat n h
        · simp [Value.writable] at hw
      rw [parseSize_unwritable hnat hw] at h
      cases h
  · intro hx
    cases v with
    | int m => exact meets_int hx
    | str s => exact meets_str hx
    | _ => exact meets_of_rejected rfl (fun _ h => by cases h) (fun _ h => by cases h) hx

/-- A size text followed by a line feed is read as the size, though the grammar documents none
for it. -/
theorem parseSize_reads_final_lineFeed :
    parseSize (.str "4G\n") = .ok (4 * gibibyte) ∧ ∀ n, ¬ DocumentedSize (.str "4G\n") n := by
  have hp : sizeParts? "4G\n" = some (['4'], gibibyte) := by decide +kernel
  have hfour : SizeText.digitsValue ['4'] = 4 := by decide +kernel
  refine ⟨?_, fun n hdoc => ?_⟩
  · rw [parseSize_str_of_sizeParts? hp, if_neg (by decide), hfour]
  · obtain ⟨ds, scale, hshape, -⟩ := (documentedSize_str _ n).1 hdoc
    exact SizeText.getLast?_ne_lineFeed hshape (by decide +kernel)

/-! ### Sizes too long to write -/

/-- A size text of not too many digits is read as its size. -/
theorem parseSize_of_shape {s : String} {ds : List Char} {scale : Nat}
    (h : SizeText.Shape s.toList ds scale) (hlen : ds.length ≤ Number.digitLimit) :
    parseSize (.str s) = .ok (SizeText.digitsValue ds * scale) := by
  rw [parseSize_str_of_sizeParts? (SizeText.sizeParts?_of_shape (.inl rfl) h), if_neg (by omega)]

theorem digitValue?_nine : Text.digitValue? '9' = some 9 := by
  decide +kernel

/-- A run of `k` nines is worth one less than the `k`-th power of ten. -/
theorem SizeText.digitsValue_nines (k : Nat) :
    digitsValue (List.replicate k '9') = Nat.pow 10 k - 1 := by
  induction k with
  | zero => rfl
  | succ k ih =>
    have hpos : 0 < Nat.pow 10 k := Nat.pow_pos (by decide)
    have hpow : Nat.pow 10 (k + 1) = Nat.pow 10 k * 10 := rfl
    rw [List.replicate_succ', digitsValue, List.foldl_append, ← digitsValue, ih, hpow]
    simp only [List.foldl_cons, List.foldl_nil, digitValue?_nine, Option.getD_some]
    omega

/-- `k` nines followed by `M` are read as that many mebibytes, when they are not too many
digits: a size of more than `k` digits when `k` is large. -/
theorem parseSize_nines_mebibytes {k : Nat} (hk : 0 < k) (hlen : k ≤ Number.digitLimit) :
    parseSize (.str (String.ofList (List.replicate k '9') ++ "M")) =
      .ok ((Nat.pow 10 k - 1) * mebibyte) := by
  have hshape : SizeText.Shape (String.ofList (List.replicate k '9') ++ "M").toList
      (List.replicate k '9') mebibyte := by
    refine ⟨?_, ['M'], SizeText.mem_units.2 (.inr (.inl ⟨rfl, rfl⟩)), by simp⟩
    simp only [isDecimalRun, List.isEmpty_replicate, List.all_replicate, digitValue?_nine]
    simp
    omega
  rw [parseSize_of_shape hshape (by simpa using hlen), SizeText.digitsValue_nines]

end EngineFit
