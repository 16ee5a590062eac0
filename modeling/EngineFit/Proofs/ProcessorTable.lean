import EngineFit.Hardware.CpuTable

/-!
# Reading the kernel's CPU table

`cpusOfTable` reads a CPU table line by line, with a block being read and the blocks done. This
module says what it computes without the walk (`cpusOfTable_reads_distinct_processors`):

* the blocks are the maximal runs of lines that are not blank (`CpuTable.runs`), each holding
  the field of every line that has a colon, the latest first (`CpuTable.runBlock`), so that a key
  written twice has its last value;
* the CPUs are those of the blocks with a `processor` key, built for the machine's architecture,
  with equal CPUs kept once in the order first met: the standard library's `eraseDupsBy`;
* the table is refused exactly when no block has a `processor` key;
* no two CPUs read are alike, and a copy of a block inserted anywhere after the block changes
  nothing.

The walk is the state machine `CpuTable.blocksOf`; `CpuTable.blocksOf_eq` reads it as a split of
the lines at blank lines (`List.splitOnP`), and `CpuTable.get?_foldl_addField` says that a block
built field by field answers as the fields latest first. The keeping of first CPUs is
`distinctCpus`: `distinctCpus_eq_eraseDupsBy` names it, `pairwise_distinctCpus` says the CPUs
kept are unlike, and `distinctCpus_insert_seen` that a CPU met again changes nothing. Both
rest on the CPUs a table describes each agreeing with themselves on every field
(`CpuTable.sameAs_cpuOf_self`), which the comparison of manufacturers does not give for every
document value.
-/

namespace EngineFit

namespace CpuTable

/-! ### Blocks as runs of lines -/

/-- A line holding nothing but blanks. -/
def isBlankLine (line : String) : Bool := line.toList.all Text.isBlank

/-- The maximal runs of lines that are not blank, in order. -/
def runs (lines : List String) : List (List String) :=
  (lines.splitOnP isBlankLine).filter (!·.isEmpty)

/-- The block a run of lines writes: the field of each line that has one, the latest first. -/
def runBlock (run : List String) : Block := (run.filterMap field?).reverse

/-- The blocks of a table: those of its runs of lines, in order. -/
def tableBlocks (text : String) : List Block := (runs (Text.lines text)).map runBlock

/-- The CPUs of the processor blocks among `bs`, in order, equal ones not yet merged. -/
def processorCpus (architecture : String) (bs : List Block) : List Cpu :=
  (bs.filter fun b => (b.get? "processor").isSome).map (cpuOf architecture)

/-- One line read into a block. -/
def addField (b : Block) (line : String) : Block :=
  match field? line with
  | some (k, v) => b.set k v
  | none => b

theorem Block.get?_set (b : Block) (k k' v : String) :
    (b.set k v).get? k' = if k = k' then some v else b.get? k' := by
  by_cases hk : k = k'
  · simp [Block.set, Block.get?, hk]
  · simp [Block.set, Block.get?, hk, List.find?_filter]
    -- the entries kept are those of other keys, and `k'` is one of them
    congr 2
    funext p
    by_cases hp : p.1 = k' <;> simp [hp, Ne.symm hk]

theorem Block.get?_append (b b' : Block) (k : String) :
    (b ++ b').get? k = (b.get? k).or (b'.get? k) := by
  simp only [Block.get?, List.find?_append, Option.map_or]

@[simp] theorem Block.get?_nil (k : String) : Block.get? [] k = none := rfl

/-- **A block answers as its fields, the latest first.** Reading lines into a block answers a
key as the last of the lines that writes it, or as the block did before. -/
theorem get?_foldl_addField (run : List String) (b : Block) (k : String) :
    (run.foldl addField b).get? k = ((runBlock run).get? k).or (b.get? k) := by
  induction run generalizing b with
  | nil => simp [runBlock]
  | cons line rest ih =>
    rw [List.foldl_cons, ih]
    -- the line's own field, if it has one, comes after the later lines' fields
    cases hf : field? line with
    | none => simp [addField, hf, runBlock]
    | some kv =>
      obtain ⟨k', v⟩ := kv
      simp only [addField, runBlock, List.filterMap_cons, hf, List.reverse_cons,
        Block.get?_append, Block.get?_set, Option.or_assoc]
      congr 1
      by_cases hk : k' = k <;> simp [Block.get?, hk]

/-- **The walk reads blocks off the runs of lines.** Reading lines with blocks `done` finished
and `current` begun gives the finished blocks, then the blocks of the runs between blank lines,
the first run read on from `current`; blocks with no field are dropped. -/
theorem blocksOf_eq (lines : List String) (done : List Block) (current : Block) :
    ∀ r rs, lines.splitOnP isBlankLine = r :: rs →
      blocksOf lines done current =
        done.reverse ++ ((r.foldl addField current :: rs.map (·.foldl addField [])).filter
          (!·.isEmpty)) := by
  induction lines generalizing done current with
  | nil =>
    intro r rs h
    cases h
    by_cases hc : current.isEmpty <;> simp [blocksOf, hc]
  | cons line rest ih =>
    intro r rs h
    obtain ⟨r', rs', hrest⟩ := List.exists_cons_of_ne_nil (List.splitOnP_ne_nil isBlankLine rest)
    rw [List.splitOnP_cons_eq_if_modifyHead, hrest] at h
    by_cases hb : isBlankLine line
    · -- a blank line ends the block being read
      rw [if_pos hb] at h
      cases h
      have hb' : line.toList.all Text.isBlank = true := hb
      rw [blocksOf, if_pos hb', ih _ _ r' rs' hrest]
      by_cases hc : current.isEmpty <;> simp [hc]
    · -- any other line adds its field to the block being read
      rw [if_neg hb] at h
      cases h
      have hb' : line.toList.all Text.isBlank = false := by simpa [isBlankLine] using hb
      rw [blocksOf, if_neg (by simp [hb'])]
      cases hf : field? line with
      | none => simp [ih done current _ _ hrest, addField, hf]
      | some kv =>
        obtain ⟨k, v⟩ := kv
        simp [ih done (current.set k v) _ _ hrest, addField, hf]

/-- The blocks of a table are the blocks of its runs of lines that have a field. -/
theorem blocks_eq (text : String) :
    blocks text = (((Text.lines text).splitOnP isBlankLine).map (·.foldl addField [])).filter
      (!·.isEmpty) := by
  obtain ⟨r, rs, h⟩ :=
    List.exists_cons_of_ne_nil (List.splitOnP_ne_nil isBlankLine (Text.lines text))
  rw [blocks, blocksOf_eq _ [] [] r rs h, h]
  rfl

/-- Two blocks that answer every key alike describe one CPU. -/
theorem cpuOf_congr {b b' : Block} (h : ∀ k, b.get? k = b'.get? k) (architecture : String) :
    cpuOf architecture b = cpuOf architecture b' := by
  simp only [cpuOf, h]

/-- A block that answers `processor` has a field. -/
theorem isEmpty_of_processor {b : Block} (h : (b.get? "processor").isSome) : b.isEmpty = false := by
  cases b with
  | nil => simp [Block.get?] at h
  | cons _ _ => rfl

/-- A block read from no earlier fields answers as its run's fields, the latest first. -/
theorem get?_foldl_addField_nil (r : List String) (k : String) :
    (r.foldl addField []).get? k = (runBlock r).get? k := by
  rw [get?_foldl_addField, Block.get?_nil, Option.or_none]

/-- A run's block is a processor block that is kept exactly when the run's fields have a
`processor` key and the run has a line: a processor block has a field, and a run with no line
has no processor. -/
theorem processor_foldl_addField (r : List String) :
    (((r.foldl addField []).get? "processor").isSome && !(r.foldl addField []).isEmpty) =
      (((runBlock r).get? "processor").isSome && !r.isEmpty) := by
  rw [get?_foldl_addField_nil]
  cases r with
  | nil => rfl
  | cons line rest =>
    cases hp : ((runBlock (line :: rest)).get? "processor").isSome with
    | false => rfl
    | true =>
      have hne : ((line :: rest).foldl addField []).isEmpty = false :=
        isEmpty_of_processor (by rw [get?_foldl_addField_nil]; exact hp)
      rw [hne]
      rfl

/-- The CPUs of the processor blocks, read from the runs of lines. -/
theorem processors_eq (text architecture : String) :
    ((blocks text).filter fun b => (b.get? "processor").isSome).map (cpuOf architecture) =
      (((runs (Text.lines text)).map runBlock).filter fun b => (b.get? "processor").isSome).map
        (cpuOf architecture) := by
  rw [blocks_eq, runs, List.filter_filter, List.filter_map, List.filter_map, List.map_map,
    List.map_map, List.filter_filter]
  congr 1
  · funext r
    exact cpuOf_congr (get?_foldl_addField_nil r) architecture
  · exact List.filter_congr fun r _ => processor_foldl_addField r

/-! ### Equal CPUs kept once -/

/-- The CPUs a table describes agree with themselves on every field: the manufacturer, when
there is one, is a text. -/
theorem sameAs_cpuOf_self (architecture : String) (b : Block) :
    (cpuOf architecture b).sameAs (cpuOf architecture b) = true := by
  unfold cpuOf
  split
  · cases b.get? "vendor_id" <;> simp [Cpu.sameAs, sameOption, Value.same]
  · split <;> simp [Cpu.sameAs, sameOption]

end CpuTable

/-- One CPU met, kept unless an equal one was kept before. -/
theorem distinctCpus_cons_step (acc : List Cpu) (c : Cpu) (l : List Cpu) :
    (c :: l).foldl (fun acc c => if acc.any (·.sameAs c) then acc else acc ++ [c]) acc =
      l.foldl (fun acc c => if acc.any (·.sameAs c) then acc else acc ++ [c])
        (if acc.any (·.sameAs c) then acc else acc ++ [c]) := rfl

/-- **Keeping the first of equal CPUs is the standard library's `eraseDupsBy`**, a CPU being a
duplicate of an earlier one kept when the two agree on every field. -/
theorem distinctCpus_eq_eraseDupsBy (l : List Cpu) :
    distinctCpus l = l.eraseDupsBy fun c seen => seen.sameAs c := by
  -- the fold's kept CPUs are the library loop's, in reverse
  suffices h : ∀ acc, l.foldl (fun acc c => if acc.any (·.sameAs c) then acc else acc ++ [c]) acc =
      List.eraseDupsBy.loop (fun c seen => seen.sameAs c) l acc.reverse by
    unfold distinctCpus List.eraseDupsBy
    exact h []
  induction l with
  | nil => intro acc; simp [List.eraseDupsBy.loop]
  | cons c l ih =>
    intro acc
    rw [distinctCpus_cons_step, List.eraseDupsBy.loop, List.any_reverse]
    by_cases hc : acc.any (·.sameAs c) = true
    · rw [if_pos hc, ih, hc]
    · rw [if_neg hc, ih, Bool.eq_false_iff.2 hc]
      simp

/-- The CPUs kept only grow: a CPU that matches one kept still does after more are met. -/
theorem any_foldl_of_any {y : Cpu} (l : List Cpu) {acc : List Cpu}
    (h : acc.any (·.sameAs y) = true) :
    (l.foldl (fun acc c => if acc.any (·.sameAs c) then acc else acc ++ [c]) acc).any
      (·.sameAs y) = true := by
  induction l generalizing acc with
  | nil => exact h
  | cons c l ih =>
    rw [distinctCpus_cons_step]
    apply ih
    split
    · exact h
    · simp [h]

/-- A CPU met that agrees with itself is matched by one kept. -/
theorem any_foldl_of_mem {y : Cpu} (hy : y.sameAs y = true) {l : List Cpu} (hmem : y ∈ l)
    (acc : List Cpu) :
    (l.foldl (fun acc c => if acc.any (·.sameAs c) then acc else acc ++ [c]) acc).any
      (·.sameAs y) = true := by
  induction l generalizing acc with
  | nil => cases hmem
  | cons c l ih =>
    rw [distinctCpus_cons_step]
    rcases List.mem_cons.1 hmem with rfl | hmem
    · apply any_foldl_of_any
      split
      · assumption
      · simp [hy]
    · exact ih hmem _

/-- **A CPU met before changes nothing.** Meeting again, anywhere after it, a CPU that agrees
with itself keeps the same CPUs. -/
theorem distinctCpus_insert_seen {pre post : List Cpu} {c : Cpu} (hc : c ∈ pre)
    (hself : c.sameAs c = true) : distinctCpus (pre ++ c :: post) = distinctCpus (pre ++ post) := by
  unfold distinctCpus
  rw [List.foldl_append, List.foldl_append, distinctCpus_cons_step,
    if_pos (any_foldl_of_mem hself hc [])]

/-- The CPUs kept are pairwise unlike: each kept one matches none kept before it. -/
theorem pairwise_distinctCpus (l : List Cpu) :
    (distinctCpus l).Pairwise fun a b => a.sameAs b = false := by
  suffices h : ∀ acc : List Cpu, acc.Pairwise (fun a b => a.sameAs b = false) →
      (l.foldl (fun acc c => if acc.any (·.sameAs c) then acc else acc ++ [c]) acc).Pairwise
        fun a b => a.sameAs b = false from h [] List.Pairwise.nil
  induction l with
  | nil => exact fun _ h => h
  | cons c l ih =>
    intro acc hacc
    rw [distinctCpus_cons_step]
    apply ih
    split
    · exact hacc
    · rename_i hnew
      refine List.pairwise_append.2 ⟨hacc, List.pairwise_singleton _ _, ?_⟩
      intro a ha b hb
      rw [List.mem_singleton.1 hb]
      simpa using fun h => hnew (List.any_eq_true.2 ⟨a, ha, h⟩)

theorem distinctCpus_sublist (l : List Cpu) : (distinctCpus l).Sublist l := by
  suffices h : ∀ acc : List Cpu, (l.foldl (fun acc c => if acc.any (·.sameAs c) then acc else
      acc ++ [c]) acc).Sublist (acc ++ l) by
    unfold distinctCpus
    exact h []
  induction l with
  | nil => intro acc; simp
  | cons c l ih =>
    intro acc
    rw [distinctCpus_cons_step]
    split
    · exact (ih acc).trans (by simp)
    · simpa using ih (acc ++ [c])

/-- The CPUs kept before are kept: the fold only appends. -/
theorem prefix_foldl (l : List Cpu) (acc : List Cpu) :
    acc <+: l.foldl (fun acc c => if acc.any (·.sameAs c) then acc else acc ++ [c]) acc := by
  induction l generalizing acc with
  | nil => exact List.prefix_refl acc
  | cons c l ih =>
    rw [distinctCpus_cons_step]
    split
    · exact ih acc
    · exact (List.prefix_append acc [c]).trans (ih _)

/-- The first CPU met is always kept, so CPUs are kept exactly when some are met. -/
theorem distinctCpus_eq_nil_iff (l : List Cpu) : distinctCpus l = [] ↔ l = [] := by
  constructor
  · intro h
    cases l with
    | nil => rfl
    | cons c l =>
      have hpre := prefix_foldl l [c]
      unfold distinctCpus at h
      rw [distinctCpus_cons_step] at h
      simp only [List.any_nil, Bool.false_eq_true, ite_false, List.nil_append] at h
      rw [h] at hpre
      simp at hpre
  · rintro rfl
    rfl

/-! ### The table -/

namespace CpuTable

/-- No CPU is read from blocks exactly when none has a `processor` key. -/
theorem processorCpus_eq_nil_iff (architecture : String) (bs : List Block) :
    processorCpus architecture bs = [] ↔ ∀ b ∈ bs, b.get? "processor" = none := by
  simp [processorCpus, List.filter_eq_nil_iff]

/-- Every CPU read from blocks agrees with itself. -/
theorem sameAs_self_of_mem_processorCpus {architecture : String} {bs : List Block} {c : Cpu}
    (hc : c ∈ processorCpus architecture bs) : c.sameAs c = true := by
  obtain ⟨b, _, rfl⟩ := List.mem_map.1 hc
  exact sameAs_cpuOf_self architecture b

/-- **A block met before changes nothing.** Inserting, anywhere after a block, a copy of it
keeps the same distinct CPUs: a processor block adds a CPU already kept, any other adds none. -/
theorem processorCpus_insert_seen (architecture : String) {pre post : List Block} {b : Block}
    (hb : b ∈ pre) :
    distinctCpus (processorCpus architecture (pre ++ b :: post)) =
      distinctCpus (processorCpus architecture (pre ++ post)) := by
  unfold processorCpus
  rw [List.filter_append, List.filter_append, List.filter_cons]
  split
  · rename_i hp
    rw [List.map_append, List.map_cons, List.map_append]
    exact distinctCpus_insert_seen (List.mem_map_of_mem (List.mem_filter.2 ⟨hb, hp⟩))
      (sameAs_cpuOf_self architecture b)
  · rfl

/-- The CPUs read from blocks are pairwise unlike, by the program's comparison and so as values:
every CPU read agrees with itself. -/
theorem pairwise_distinctCpus_processorCpus (architecture : String) (bs : List Block) :
    (distinctCpus (processorCpus architecture bs)).Pairwise
      fun c d => c ≠ d ∧ c.sameAs d = false := by
  refine (pairwise_distinctCpus _).imp_of_mem ?_
  intro c d hc _ hcd
  refine ⟨?_, hcd⟩
  rintro rfl
  have hself := sameAs_self_of_mem_processorCpus ((distinctCpus_sublist _).subset hc)
  rw [hself] at hcd
  cases hcd

end CpuTable

open CpuTable in
/-- Reading a CPU table keeps the first of equal CPUs of its processor blocks, and refuses a
table with none. -/
theorem cpusOfTable_eq_distinct (text machine : String) :
    cpusOfTable text machine =
      if (distinctCpus (processorCpus (architectureOf machine) (tableBlocks text))).isEmpty then
        .error .noProcessors
      else .ok (distinctCpus (processorCpus (architectureOf machine) (tableBlocks text))) := by
  simp only [cpusOfTable, processorCpus, tableBlocks, processors_eq]
  rfl

open CpuTable in
/-- **Reading a CPU table.** A table is refused exactly when none of its blocks, the runs of lines
that are not blank, has a `processor` key; otherwise it reads as the CPUs of its processor
blocks, built for the machine's architecture, with equal CPUs kept once in the order first met
(the standard library's `eraseDupsBy`). No two CPUs read are alike, and a table whose blocks are
those of another with a copy of a block inserted anywhere after the block reads the same. -/
theorem cpusOfTable_reads_distinct_processors (text machine : String) :
    cpusOfTable text machine =
      (if ∀ b ∈ tableBlocks text, b.get? "processor" = none then .error .noProcessors
      else .ok ((processorCpus (architectureOf machine) (tableBlocks text)).eraseDupsBy
        fun c seen => seen.sameAs c)) ∧
    (∀ cs, cpusOfTable text machine = .ok cs → cs.Pairwise fun c d => c ≠ d ∧ c.sameAs d = false) ∧
    (∀ text' pre b post, tableBlocks text' = pre ++ b :: post → tableBlocks text = pre ++ post →
      b ∈ pre → cpusOfTable text' machine = cpusOfTable text machine) := by
  refine ⟨?_, ?_, ?_⟩
  · rw [cpusOfTable_eq_distinct]
    simp only [List.isEmpty_iff, distinctCpus_eq_nil_iff, processorCpus_eq_nil_iff]
    rw [distinctCpus_eq_eraseDupsBy]
  · intro cs h
    rw [cpusOfTable_eq_distinct] at h
    split at h
    · cases h
    · cases h
      exact pairwise_distinctCpus_processorCpus _ _
  · intro text' pre b post h' h hb
    rw [cpusOfTable_eq_distinct, cpusOfTable_eq_distinct, h', h, processorCpus_insert_seen _ hb]

/-- A table of one processor written twice, with a blank line between, reads as the table
written once. -/
theorem cpusOfTable_repeated_processor :
    CpuTable.tableBlocks "processor : 0\n\nprocessor : 0" =
      [[("processor", "0")]] ++ [("processor", "0")] :: [] ∧
    CpuTable.tableBlocks "processor : 0" = [[("processor", "0")]] ++ [] ∧
    cpusOfTable "processor : 0\n\nprocessor : 0" "x86_64" = cpusOfTable "processor : 0" "x86_64" :=
  have h' : CpuTable.tableBlocks "processor : 0\n\nprocessor : 0" =
      [[("processor", "0")]] ++ [("processor", "0")] :: [] := by decide +kernel
  have h : CpuTable.tableBlocks "processor : 0" = [[("processor", "0")]] ++ [] := by
    decide +kernel
  ⟨h', h, (cpusOfTable_reads_distinct_processors "processor : 0" "x86_64").2.2 _ _ _ _ h' h
    (List.mem_singleton_self _)⟩

end EngineFit
