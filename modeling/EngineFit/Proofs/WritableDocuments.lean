import Mathlib
import EngineFit.Json.Read
import EngineFit.Value.Literal

/-!
# Documents that can be written

A document is *writable* (`Value.writable`) when every integer in it has at most
`Number.digitLimit` digits, so that its literal and plain forms can be written. Readers of a
document look at its parts through `Value.view`, `Value.get?` and `Value.getD`; each of these
keeps a writable document writable (`Value.writable_view`, `Value.writable_of_get?`,
`Value.writable_getD`), also for a collection that contains itself, whose view puts the
collection back where its body refers to it (`Value.writable_subst`).

The JSON reader stops at an integer of more digits than that limit, so every document it reads
is writable (`Json.read_writable`): the reader's limit and the writer's are one limit.
-/

namespace EngineFit
namespace Value

@[simp] theorem writableItems_iff {xs : List Value} :
    writableItems xs = true ↔ ∀ x ∈ xs, x.writable = true := by
  induction xs with
  | nil => simp [writableItems]
  | cons x xs ih => simp [writableItems, ih]

@[simp] theorem writableEntries_iff {kvs : List (Value × Value)} :
    writableEntries kvs = true ↔ ∀ p ∈ kvs, p.1.writable = true ∧ p.2.writable = true := by
  induction kvs with
  | nil => simp [writableEntries]
  | cons p kvs ih =>
    obtain ⟨k, v⟩ := p
    simp [writableEntries, ih, and_assoc]

mutual
/-- Putting a writable value where a body refers to its anchor keeps a value writable. -/
theorem writable_subst {id : Nat} {r : Value} (hr : r.writable = true) :
    ∀ v : Value, v.writable = true → (subst id r v).writable = true
  | .recur j => fun _ => by
    unfold subst
    split
    · exact hr
    · rfl
  | .anchor j b => fun hv => by
    unfold subst
    split
    · exact hv
    · exact writable_subst hr b hv
  | .tuple xs | .set xs | .list xs => writableItems_substItems hr xs
  | .dict kvs => writableEntries_substEntries hr kvs
  -- a scalar is left as it is; its writability is not unfolded, which would weigh the bound
  | .null | .bool _ | .int _ | .float _ | .str _ | .date _ | .stamp _ | .bytes _ => fun hv => by
    simp only [subst]
    exact hv
/-- `writable_subst` on every item. -/
theorem writableItems_substItems {id : Nat} {r : Value} (hr : r.writable = true) :
    ∀ xs : List Value, writableItems xs = true → writableItems (substItems id r xs) = true
  | [] => fun _ => rfl
  | x :: xs => fun h => by
    simp only [substItems, writableItems, Bool.and_eq_true] at h ⊢
    exact ⟨writable_subst hr x h.1, writableItems_substItems hr xs h.2⟩
/-- `writable_subst` on every key and value. -/
theorem writableEntries_substEntries {id : Nat} {r : Value} (hr : r.writable = true) :
    ∀ kvs : List (Value × Value), writableEntries kvs = true →
      writableEntries (substEntries id r kvs) = true
  | [] => fun _ => rfl
  | (k, v) :: rest => fun h => by
    simp only [substEntries, writableEntries, Bool.and_eq_true] at h ⊢
    exact ⟨⟨writable_subst hr k h.1.1, writable_subst hr v h.1.2⟩,
      writableEntries_substEntries hr rest h.2⟩
end

/-- A reader's view of a writable value is writable: unfolding an anchor puts the writable
collection itself where its body refers to it. -/
theorem writable_view {v : Value} (hv : v.writable = true) : v.view.writable = true := by
  cases v with
  | anchor id b => exact writable_subst hv b hv
  | _ => exact hv

theorem writable_of_lookup {kvs : List (Value × Value)} {k x : Value}
    (hkvs : writableEntries kvs = true) (h : lookup kvs k = some x) : x.writable = true := by
  unfold lookup at h
  obtain ⟨p, hp, rfl⟩ := Option.map_eq_some_iff.1 h
  exact (writableEntries_iff.1 hkvs p (List.mem_of_find?_eq_some hp)).2

/-- An entry of a writable mapping is writable. -/
theorem writable_of_get? {v x : Value} {key : String} (hv : v.writable = true)
    (h : v.get? key = some x) : x.writable = true := by
  have hview := writable_view hv
  unfold get? at h
  split at h
  · rename_i kvs hkvs
    rw [hkvs] at hview
    exact writable_of_lookup hview h
  · cases h

theorem writable_getD {v : Value} (hv : v.writable = true) (key : String) :
    (v.getD key).writable = true := by
  unfold getD
  cases h : v.get? key with
  | none => rfl
  | some x => exact writable_of_get? hv h

/-- Every entry of a mapping has a text key and a value with `P`, as in the objects of JSON. -/
def TextEntries (P : Value → Prop) (kvs : List (Value × Value)) : Prop :=
  ∀ p ∈ kvs, (∃ k, p.1 = .str k) ∧ P p.2

/-- An entry after writing one is an entry from before, or carries the value written under the
key written or under a key from before. -/
theorem mem_insertEntry {kvs : List (Value × Value)} {k v : Value} {p : Value × Value}
    (hp : p ∈ insertEntry kvs k v) : p ∈ kvs ∨ p.2 = v ∧ (p.1 = k ∨ ∃ q ∈ kvs, p.1 = q.1) := by
  unfold insertEntry at hp
  split at hp
  · obtain ⟨q, hq, rfl⟩ := List.mem_map.1 hp
    split
    · exact .inr ⟨rfl, .inr ⟨q, hq, rfl⟩⟩
    · exact .inl hq
  · rcases List.mem_append.1 hp with hp | hp
    · exact .inl hp
    · exact .inr ⟨by rw [List.mem_singleton.1 hp], .inl (by rw [List.mem_singleton.1 hp])⟩

/-- Writing a value with `P` under a text key keeps the entries text-keyed with `P`. -/
theorem TextEntries.insertEntry {P : Value → Prop} {kvs : List (Value × Value)} {k v : Value}
    (hkvs : TextEntries P kvs) (hk : ∃ s, k = .str s) (hv : P v) :
    TextEntries P (Value.insertEntry kvs k v) := by
  intro p hp
  rcases mem_insertEntry hp with hp | ⟨hpv, hpk⟩
  · exact hkvs p hp
  · refine ⟨?_, hpv ▸ hv⟩
    rcases hpk with hpk | ⟨q, hq, hpq⟩
    · exact hpk ▸ hk
    · exact hpq ▸ (hkvs q hq).1

end Value

namespace Json

/-! ### Integers the reader reads -/

theorem isDigit_sub_lt {c : Char} (h : isDigit c = true) : c.toNat - '0'.toNat < 10 := by
  simp only [isDigit, decide_eq_true_eq] at h
  have h9 : c.val.toNat ≤ 57 := UInt32.le_iff_toNat_le.mp h.2
  have hc : c.toNat = c.val.toNat := rfl
  have h0 : '0'.toNat = 48 := rfl
  omega

/-- Digits read from the left into `acc` stay below `acc + 1` shifted by their count. -/
theorem foldl_digits_lt (l : List Char) (hl : ∀ c ∈ l, isDigit c = true) (acc : Nat) :
    l.foldl (fun n c => n * 10 + (c.toNat - '0'.toNat)) acc < (acc + 1) * 10 ^ l.length := by
  induction l generalizing acc with
  | nil => simp
  | cons c l ih =>
    have hc := isDigit_sub_lt (hl c List.mem_cons_self)
    have hrest := ih (fun d hd => hl d (List.mem_cons_of_mem c hd))
      (acc * 10 + (c.toNat - '0'.toNat))
    calc l.foldl _ (acc * 10 + (c.toNat - '0'.toNat))
        < (acc * 10 + (c.toNat - '0'.toNat) + 1) * 10 ^ l.length := hrest
      _ ≤ (acc + 1) * 10 * 10 ^ l.length := Nat.mul_le_mul_right _ (by omega)
      _ = (acc + 1) * 10 ^ (c :: l).length := by
        rw [List.length_cons, Nat.pow_succ, Nat.mul_assoc, Nat.mul_comm 10]

/-- The digits between `i` and `j` make a number of at most `j - i` digits. -/
theorem digitsValue_lt {cs : Array Char} {i j : Nat}
    (h : ∀ c ∈ (cs.toList.drop i).take (j - i), isDigit c = true) :
    digitsValue cs i j < 10 ^ (j - i) := by
  unfold digitsValue
  rw [Array.toList_extract, List.extract_eq_take_drop]
  have hlen : ((cs.toList.drop i).take (j - i)).length ≤ j - i := List.length_take_le _ _
  calc _ < (0 + 1) * 10 ^ ((cs.toList.drop i).take (j - i)).length := foldl_digits_lt _ h 0
    _ ≤ 10 ^ (j - i) := by
      rw [Nat.zero_add, Nat.one_mul]
      exact Nat.pow_le_pow_right (by decide) hlen

theorem le_skipDigits (cs : Array Char) (i : Nat) : i ≤ skipDigits cs i := by
  fun_induction skipDigits cs i with
  | case1 => omega
  | case2 => exact Nat.le_refl _
  | case3 => exact Nat.le_refl _

/-- What `skipDigits` skips are digits. -/
theorem digits_skipped (cs : Array Char) (i : Nat) :
    ∀ c ∈ (cs.toList.drop i).take (skipDigits cs i - i), isDigit c = true := by
  fun_induction skipDigits cs i with
  | case1 i h hd ih =>
    have hle := le_skipDigits cs (i + 1)
    rw [List.drop_eq_getElem_cons (by simpa using h),
      show skipDigits cs (i + 1) - i = (skipDigits cs (i + 1) - (i + 1)) + 1 by omega,
      List.take_succ_cons]
    intro c hc
    rcases List.mem_cons.1 hc with rfl | hc
    · simpa using hd
    · exact ih c hc
  | case2 => simp
  | case3 => simp

theorem drop_eq_cons_of_at? {cs : Array Char} {s : Nat} {c : Char} (h : at? cs s = some c) :
    cs.toList.drop s = c :: cs.toList.drop (s + 1) := by
  unfold at? at h
  obtain ⟨hs, rfl⟩ := Array.getElem?_eq_some_iff.1 h
  rw [List.drop_eq_getElem_cons (by simpa using hs)]
  simp

theorem isDigit_of_leading {c : Char} (h : c = '0' ∨ '1' ≤ c ∧ c ≤ '9') :
    isDigit c = true := by
  simp only [isDigit, decide_eq_true_eq]
  rcases h with rfl | ⟨h1, h9⟩
  · decide
  · exact ⟨Char.le_trans (by decide) h1, h9⟩

/-- The integer part of a number, from its first digit `c` at `s`: a lone `0`, or a digit
and the digits after it. -/
theorem digits_integerPart {cs : Array Char} {s : Nat} {c : Char} (hc : at? cs s = some c)
    (hlead : c = '0' ∨ '1' ≤ c ∧ c ≤ '9') :
    ∀ d ∈ (cs.toList.drop s).take ((if c = '0' then s + 1 else skipDigits cs (s + 1)) - s),
      isDigit d = true := by
  have hc' := isDigit_of_leading hlead
  rw [drop_eq_cons_of_at? hc]
  split
  · simpa using hc'
  · have hle := le_skipDigits cs (s + 1)
    rw [show skipDigits cs (s + 1) - s = (skipDigits cs (s + 1) - (s + 1)) + 1 by omega,
      List.take_succ_cons]
    intro d hd
    rcases List.mem_cons.1 hd with rfl | hd
    · exact hc'
    · exact digits_skipped cs (s + 1) d hd

/-- **A number is an integer of at most as many digits as it spans, or a double.** The span
starts after a minus sign. -/
theorem number_result {cs : Array Char} {i j : Nat} {v : Value} (h : number cs i = some (v, j)) :
    (∃ n : Int, v = .int n ∧
      n.natAbs < 10 ^ (j - (if at? cs i = some '-' then i + 1 else i))) ∨
    ∃ x, v = .float x := by
  unfold number at h
  dsimp only at h
  generalize hneg : (at? cs i == some '-') = negative at h
  generalize hs : (if negative = true then i + 1 else i) = s at h
  split at h
  · rename_i c hc
    by_cases hlead : c = '0' ∨ ('1' ≤ c ∧ c ≤ '9')
    · rw [if_pos hlead] at h
      have hdigits := digits_integerPart hc hlead
      generalize (if c = '0' then s + 1 else skipDigits cs (s + 1)) = intEnd at h hdigits
      split at h
      · simp only [Option.some.injEq, Prod.mk.injEq] at h
        obtain ⟨rfl, rfl⟩ := h
        refine .inl ⟨_, rfl, ?_⟩
        have habs : (if negative = true then -(digitsValue cs s intEnd : Int)
            else (digitsValue cs s intEnd : Int)).natAbs = digitsValue cs s intEnd := by
          split <;> simp
        have hspan : (if at? cs i = some '-' then i + 1 else i) = s := by
          rw [← hs, ← hneg]
          by_cases hm : at? cs i = some '-' <;> simp [hm]
        rw [habs, hspan]
        exact digitsValue_lt hdigits
      · simp only [Option.some.injEq, Prod.mk.injEq] at h
        exact .inr ⟨_, h.1.symm⟩
    · rw [if_neg hlead] at h
      cases h
  · cases h

/-- An integer of at most the digit limit's count of digits is writable. -/
theorem int_writable_of_digits {n : Int} {count : Nat} (hn : n.natAbs < 10 ^ count)
    (hcount : count ≤ Number.digitLimit) : (Value.int n).writable = true := by
  simp only [Value.writable, decide_eq_true_eq]
  unfold Value.tooLongBound
  -- the digit limit stays a name, so that no power of ten is evaluated
  generalize Number.digitLimit = k at hcount ⊢
  exact Nat.lt_of_lt_of_le hn (Nat.pow_le_pow_right (by decide) hcount)

/-- An integer the reader reads, led by `c`, within the digit limit is writable. -/
theorem int_read_writable {cs : Array Char} {i k : Nat} {c : Char} {n : Int}
    (hc : at? cs i = some c) (hnum : number cs i = some (.int n, k))
    (hcount : ¬k - i - (if c = '-' then 1 else 0) > Number.digitLimit) :
    (Value.int n).writable = true := by
  rcases number_result hnum with ⟨m, hm, hbound⟩ | ⟨x, hx⟩
  · cases hm
    rw [hc] at hbound
    refine int_writable_of_digits hbound ?_
    by_cases hminus : c = '-' <;> simp [hminus] at hbound hcount ⊢ <;> omega
  · cases hx

/-- A value read by a branch that answers at once has what that value has. -/
theorem of_ok {P : Value → Prop} {w v : Value} {k j : Nat} {ε : Type}
    (h : (Except.ok (w, k) : Except ε _) = .ok (v, j)) (hw : P w) : P v := by
  cases h
  exact hw

/-- A literal read in one branch of a choice has what the literal has; the other branch is left
to show. -/
theorem of_ite_ok {P : Value → Prop} {p : Prop} [Decidable p] {w v : Value} {k j : Nat}
    {rest : Except ReadError (Value × Nat)} (h : (if p then .ok (w, k) else rest) = .ok (v, j))
    (hw : P w) (hrest : rest = .ok (v, j) → P v) : P v := by
  by_cases hp : p
  · rw [if_pos hp] at h
    exact of_ok h hw
  · rw [if_neg hp] at h
    exact hrest h

/-! ### Documents the reader reads -/

/-- A property of values that every value the reader builds has once its parts have it: texts,
the literals, doubles, integers within the digit limit, and arrays and objects under text keys
of values that have it. -/
structure ReadClosed (P : Value → Prop) : Prop where
  str (s : String) : P (.str s)
  null : P .null
  bool (b : Bool) : P (.bool b)
  float (x : Float) : P (.float x)
  int {n : Int} : (Value.int n).writable = true → P (.int n)
  list {xs : List Value} : (∀ x ∈ xs, P x) → P (.list xs)
  dict {kvs : List (Value × Value)} : Value.TextEntries P kvs → P (.dict kvs)

section Readers

variable {P : Value → Prop} (hP : ReadClosed P) {room : Nat} {cs : Array Char} {fuel : Nat}
include hP

/-- One step of reading a value: a text, a literal, a number within the digit limit, or a
mapping or list that the other readers complete. -/
theorem value_closed_step
    (hmembers : ∀ i depth acc v j, Value.TextEntries P acc →
      members room cs i depth acc fuel = .ok (v, j) → P v)
    (helements : ∀ i depth acc v j, (∀ x ∈ acc, P x) →
      elements room cs i depth acc fuel = .ok (v, j) → P v)
    {i depth j : Nat} {v : Value} (h : value room cs i depth (fuel + 1) = .ok (v, j)) : P v := by
  rw [value] at h
  split at h
  · -- a text
    cases hs : stringBody cs i (i + 1) "" with
    | error e => simp [hs, Except.map] at h
    | ok p =>
      simp only [hs, Except.map, Except.ok.injEq] at h
      rw [← (Prod.mk.inj h).1]
      exact hP.str _
  · -- an object
    split at h
    · cases h
    · dsimp only at h
      split at h
      · exact of_ok h (hP.dict (by simp [Value.TextEntries]))
      · exact hmembers _ _ _ _ _ (by simp [Value.TextEntries]) h
  · -- an array
    split at h
    · cases h
    · dsimp only at h
      split at h
      · exact of_ok h (hP.list (by simp))
      · exact helements _ _ _ _ _ (by simp) h
  · rename_i c _ _ _ hc
    -- the literals null, true, false, NaN, Infinity and -Infinity
    refine of_ite_ok h hP.null fun h => ?_
    iterate 2 refine of_ite_ok h (hP.bool _) fun h => ?_
    iterate 3 refine of_ite_ok h (hP.float _) fun h => ?_
    split at h
    · -- an integer, read only within the digit limit
      rename_i n k hnum
      dsimp only at h
      by_cases hcount : k - i - (if c = '-' then 1 else 0) > Number.digitLimit
      · rw [if_pos hcount] at h
        cases h
      · rw [if_neg hcount] at h
        exact of_ok h (hP.int (int_read_writable hc hnum hcount))
    · -- any other number is a double
      rename_i r hnot hnum
      cases h
      rcases number_result hnum with ⟨m, rfl, _⟩ | ⟨x, rfl⟩
      · exact (hnot m _ rfl).elim
      · exact hP.float x
    · cases h
  · cases h

/-- One step of reading an object's members: the entry read has a text key and a value read, so
the entries with it are text-keyed with `P`. -/
theorem members_closed_step
    (hvalue : ∀ i depth v j, value room cs i depth fuel = .ok (v, j) → P v)
    (hmembers : ∀ i depth acc v j, Value.TextEntries P acc →
      members room cs i depth acc fuel = .ok (v, j) → P v)
    {i depth j : Nat} {acc : List (Value × Value)} {v : Value}
    (hacc : Value.TextEntries P acc)
    (h : members room cs i depth acc (fuel + 1) = .ok (v, j)) : P v := by
  rw [members] at h
  split at h
  · cases h
  · split at h
    · cases h
    · dsimp only at h
      split at h
      · cases h
      · split at h
        · cases h
        · rename_i key _ _ _ _ w k hw
          have hacc' := hacc.insertEntry ⟨key, rfl⟩ (hvalue _ _ _ _ hw)
          split at h
          · exact of_ok h (hP.dict hacc')
          · split at h
            · cases h
            · exact hmembers _ _ _ _ _ hacc' h

/-- One step of reading an array's elements: the element read has `P`, so the elements with it
have, in the order they were read. -/
theorem elements_closed_step
    (hvalue : ∀ i depth v j, value room cs i depth fuel = .ok (v, j) → P v)
    (helements : ∀ i depth acc v j, (∀ x ∈ acc, P x) →
      elements room cs i depth acc fuel = .ok (v, j) → P v)
    {i depth j : Nat} {acc : List Value} {v : Value} (hacc : ∀ x ∈ acc, P x)
    (h : elements room cs i depth acc (fuel + 1) = .ok (v, j)) : P v := by
  rw [elements] at h
  split at h
  · cases h
  · rename_i w k hw
    have hacc' : ∀ x ∈ w :: acc, P x := by
      intro x hx
      rcases List.mem_cons.1 hx with rfl | hx
      · exact hvalue _ _ _ _ hw
      · exact hacc x hx
    dsimp only at h
    split at h
    · exact of_ok h (hP.list fun x hx => hacc' x (List.mem_reverse.1 hx))
    · split at h
      · cases h
      · exact helements _ _ _ _ _ hacc' h

/-- **Every value the reader reads has a property closed under what it builds**, and so has
every mapping or list it completes from entries or items that have it: by induction on the fuel,
each reader's step taking the others at the fuel below. -/
theorem readers_closed (room : Nat) (cs : Array Char) (fuel : Nat) :
    (∀ i depth v j, value room cs i depth fuel = .ok (v, j) → P v) ∧
    (∀ i depth acc v j, Value.TextEntries P acc →
      members room cs i depth acc fuel = .ok (v, j) → P v) ∧
    (∀ i depth acc v j, (∀ x ∈ acc, P x) →
      elements room cs i depth acc fuel = .ok (v, j) → P v) := by
  induction fuel with
  | zero =>
    refine ⟨fun _ _ _ _ h => ?_, fun _ _ _ _ _ _ h => ?_, fun _ _ _ _ _ _ h => ?_⟩ <;>
      simp [value, members, elements] at h
  | succ fuel ih =>
    obtain ⟨hvalue, hmembers, helements⟩ := ih
    exact ⟨fun _ _ _ _ h => value_closed_step hP hmembers helements h,
      fun _ _ _ _ _ hacc h => members_closed_step hP hvalue hmembers hacc h,
      fun _ _ _ _ _ hacc h => elements_closed_step hP hvalue helements hacc h⟩

/-- A JSON text is read only into a value with a property closed under what the reader
builds. -/
theorem read_closed {text : String} {v : Value} (h : read room text = .ok v) : P v := by
  unfold read at h
  dsimp only at h
  split at h
  · cases h
  · split at h
    · cases h
    · rename_i w j hw
      split at h
      · cases h
      · cases h
        exact (readers_closed hP room _ _).1 _ _ _ _ hw

end Readers

/-- Writability is closed under what the reader builds: a text key is writable, and the reader
keeps integers within the digit limit. -/
theorem readClosed_writable : ReadClosed (·.writable = true) where
  str _ := rfl
  null := rfl
  bool _ := rfl
  float _ := rfl
  int h := h
  list h := Value.writableItems_iff.2 h
  dict h := Value.writableEntries_iff.2 fun p hp => by
    obtain ⟨⟨k, hk⟩, hv⟩ := h p hp
    exact ⟨by rw [hk]; rfl, hv⟩

/-- **A JSON text is read only into a writable document**: the reader refuses an integer of
more digits than the writer writes. -/
theorem read_writable {room : Nat} {text : String} {v : Value} (h : read room text = .ok v) :
    v.writable = true :=
  read_closed readClosed_writable h

end Json
end EngineFit
