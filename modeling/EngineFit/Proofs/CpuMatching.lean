import EngineFit.Proofs.ManifestSchema

/-!
# What the CPU matcher computes

`matchCpu` walks the CPUs of a machine once, keeping the best score and gathering issues. This
module says what it computes without the walk (`matchCpu_spec`):

* with no CPU it fails with the single issue `no cpu found on host system`, and only then;
* otherwise the requirement is matched exactly when some CPU meets it (`CpuNeed.Accepts`), and
  then scores `CpuNeed.points`. Every CPU that meets a requirement scores the same, so the best
  of several is that score, never their sum;
* the issues are, CPU by CPU in the machine's order, the messages of what each CPU lacks
  (`CpuNeed.lacks`), labelled with the CPU's index when the machine has more than one CPU;
* unless some CPU lacks a message that cannot be written: an x86-64 manufacturer that is not
  the required one is shown in plain form, and one that holds an integer too long to write in
  decimal breaks the matching down with the conversion's error.

What a CPU lacks is said without the checker's code: a CPU of another architecture lacks that
alone; otherwise it lacks the manufacturer or implementer, then the part number, then every
required flag or feature it misses, in the requirement's order and as often as listed. One
CPU's check is stated by `checkCpu_eq`, and `lacks_eq_nil_iff` says that a CPU lacks nothing
exactly when it meets the requirement.
-/

namespace EngineFit

/-! ### What a CPU lacks -/

/-- One thing a CPU lacks for a CPU requirement; the matcher reports each as one issue. -/
inductive CpuLack where
  /-- The CPU is not of the named architecture. -/
  | architecture (arch : String)
  /-- The x86-64 manufacturer is not the required one: the CPU's, if it has one. -/
  | manufacturer (found : Option Value)
  /-- The ARM64 implementer is not the required one: the CPU's, if it has one. -/
  | implementer (found : Option Int)
  /-- The ARM64 part number is not the required one: the CPU's, if it has one. -/
  | part (found : Option Int)
  /-- A required x86-64 flag is missing. -/
  | flag (name : String)
  /-- A required ARM64 feature is missing. -/
  | feature (name : String)

/-- The issue that reports a lack. -/
def CpuLack.message : CpuLack → String
  | .architecture a => "architecture not " ++ a
  | .manufacturer none => "manufacturer id mismatch: None"
  | .manufacturer (some v) => "manufacturer id mismatch: " ++ v.plain
  | .implementer i => "implementer id mismatch: " ++ idText i
  | .part p => "part number mismatch: " ++ idText p
  | .flag f => "flag " ++ f ++ " missing"
  | .feature f => "feature not found: " ++ f

/-- Whether the issue that reports a lack can be written: a manufacturer is shown in plain
form, with every integer within it in decimal. -/
def CpuLack.writable : CpuLack → Bool
  | .manufacturer (some v) => v.writable
  | _ => true

@[simp] theorem CpuLack.writable_manufacturer (v : Value) :
    (CpuLack.manufacturer (some v)).writable = v.writable := rfl

@[simp] theorem CpuLack.message_manufacturer (v : Value) :
    (CpuLack.manufacturer (some v)).message = "manufacturer id mismatch: " ++ v.plain := rfl

@[simp] theorem CpuLack.message_flag (f : String) :
    (CpuLack.flag f).message = "flag " ++ f ++ " missing" := rfl

theorem CpuLack.writable_eq_false_iff {l : CpuLack} :
    l.writable = false ↔ ∃ v, l = .manufacturer (some v) ∧ v.writable = false := by
  unfold CpuLack.writable
  split <;> simp_all

/-- Whether a CPU's manufacturer is the text `m`. -/
def Cpu.madeBy (cpu : Cpu) (m : String) : Bool :=
  match cpu.manufacturer with
  | some (.str s) => s == m
  | _ => false

/-- What an x86-64 CPU lacks: the manufacturer, then each missing flag. -/
def Amd64Need.lacks (r : Amd64Need) (cpu : Cpu) : List CpuLack :=
  (if r.manufacturer.all cpu.madeBy then [] else [.manufacturer cpu.manufacturer]) ++
    (r.flags.filter (· ∉ cpu.flags)).map .flag

/-- What an ARM64 CPU lacks: the implementer, the part number, then each missing feature. -/
def Arm64Need.lacks (r : Arm64Need) (cpu : Cpu) : List CpuLack :=
  (if r.implementer.all fun (i : Nat) => cpu.implementer == some (i : Int) then []
    else [.implementer cpu.implementer]) ++
    (if r.part.all fun (p : Nat) => cpu.part == some (p : Int) then [] else [.part cpu.part]) ++
    (r.features.filter (· ∉ cpu.features)).map .feature

/-- What a CPU lacks for a requirement, in the order the matcher reports it; a CPU of another
architecture lacks that alone. -/
def CpuNeed.lacks (need : CpuNeed) (cpu : Cpu) : List CpuLack :=
  if cpu.architecture ≠ need.architecture then [.architecture need.architecture]
  else
    match need with
    | .amd64 r => r.lacks cpu
    | .arm64 r => r.lacks cpu

/-- A CPU meets a requirement: it is of the requirement's architecture, has every id the
requirement sets, and has every flag or feature the requirement lists. -/
def CpuNeed.Accepts : CpuNeed → Cpu → Prop
  | .amd64 r, cpu => cpu.architecture = "amd64" ∧
      (∀ m ∈ r.manufacturer, cpu.manufacturer = some (.str m)) ∧ ∀ f ∈ r.flags, f ∈ cpu.flags
  | .arm64 r, cpu => cpu.architecture = "arm64" ∧
      (∀ i ∈ r.implementer, cpu.implementer = some (i : Int)) ∧
      (∀ p ∈ r.part, cpu.part = some (p : Int)) ∧ ∀ f ∈ r.features, f ∈ cpu.features

/-- The score of a CPU that meets a requirement: 10 for the CPU, 6 for a required manufacturer
or implementer, 8 for a required part number, and 1 for each required flag or feature, counted
as often as the requirement lists it. -/
def CpuNeed.points : CpuNeed → Nat
  | .amd64 r => 10 + (if r.manufacturer.isSome then 6 else 0) + r.flags.length
  | .arm64 r =>
    10 + (if r.implementer.isSome then 6 else 0) + (if r.part.isSome then 8 else 0) +
      r.features.length

/-- The label of the issues of the CPU at index `i` of a machine with `n` CPUs: its index, when
there is more than one CPU. -/
def cpuLabel (n i : Nat) : String :=
  if n > 1 then "cpu " ++ toString i ++ ": " else ""

/-! ### Lacking nothing -/

theorem Cpu.madeBy_iff {cpu : Cpu} {m : String} :
    cpu.madeBy m = true ↔ cpu.manufacturer = some (.str m) := by
  unfold Cpu.madeBy
  split <;> simp_all

theorem filter_not_mem_eq_nil_iff {xs ys : List String} :
    xs.filter (· ∉ ys) = [] ↔ ∀ x ∈ xs, x ∈ ys := by
  simp [List.filter_eq_nil_iff]

theorem Amd64Need.lacks_eq_nil_iff {r : Amd64Need} {cpu : Cpu} :
    r.lacks cpu = [] ↔
      (∀ m ∈ r.manufacturer, cpu.manufacturer = some (.str m)) ∧ ∀ f ∈ r.flags, f ∈ cpu.flags := by
  unfold Amd64Need.lacks
  rw [List.append_eq_nil_iff, List.map_eq_nil_iff, filter_not_mem_eq_nil_iff]
  cases r.manufacturer <;> simp [Cpu.madeBy_iff]

theorem Arm64Need.lacks_eq_nil_iff {r : Arm64Need} {cpu : Cpu} :
    r.lacks cpu = [] ↔
      (∀ i ∈ r.implementer, cpu.implementer = some (i : Int)) ∧
      (∀ p ∈ r.part, cpu.part = some (p : Int)) ∧ ∀ f ∈ r.features, f ∈ cpu.features := by
  unfold Arm64Need.lacks
  rw [List.append_eq_nil_iff, List.append_eq_nil_iff, List.map_eq_nil_iff,
    filter_not_mem_eq_nil_iff]
  cases r.implementer <;> cases r.part <;> simp [and_assoc]

/-- **A CPU lacks nothing exactly when it meets the requirement.** -/
theorem CpuNeed.lacks_eq_nil_iff {need : CpuNeed} {cpu : Cpu} :
    need.lacks cpu = [] ↔ need.Accepts cpu := by
  unfold CpuNeed.lacks
  cases need with
  | amd64 r =>
    by_cases ha : cpu.architecture = "amd64"
    · simp [ha, CpuNeed.architecture, CpuNeed.Accepts, Amd64Need.lacks_eq_nil_iff]
    · simp [ha, CpuNeed.architecture, CpuNeed.Accepts]
  | arm64 r =>
    by_cases ha : cpu.architecture = "arm64"
    · simp [ha, CpuNeed.architecture, CpuNeed.Accepts, Arm64Need.lacks_eq_nil_iff]
    · simp [ha, CpuNeed.architecture, CpuNeed.Accepts]

/-! ### One CPU -/

/-- The checker reports a missing name as the checker of lacks does. -/
theorem missing_messages (xs ys : List String) (mk : String → CpuLack) :
    (xs.filter (!ys.contains ·)).map (fun f => (mk f).message) =
      ((xs.filter (· ∉ ys)).map mk).map CpuLack.message := by
  simp only [List.map_map]
  congr 1
  apply List.filter_congr
  intro x _
  simp

/-- Required names that a CPU has all of are all counted. -/
theorem length_filter_contains {xs ys : List String} (h : ∀ x ∈ xs, x ∈ ys) :
    (xs.filter (ys.contains ·)).length = xs.length := by
  rw [List.filter_eq_self.2 (by simpa using h)]

theorem madeBy_eq_same {cpu : Cpu} {v : Value} (hv : cpu.manufacturer = some v) (m : String) :
    cpu.madeBy m = v.same (.str m) := by
  rw [Bool.eq_iff_iff, Cpu.madeBy_iff, same_str_iff, hv, Option.some.injEq]

/-- The manufacturer check: the vendor weight when the CPU has the required manufacturer (none
when none is required), and otherwise the issue of that lack, unless it cannot be written. -/
theorem checkManufacturer_eq (m? : Option String) (cpu : Cpu) :
    checkManufacturer m? cpu.manufacturer =
      if m?.all cpu.madeBy then .ok (if m?.isSome then 6 else 0, [])
      else if (CpuLack.manufacturer cpu.manufacturer).writable then
        .ok (0, [(CpuLack.manufacturer cpu.manufacturer).message])
      else .error (.digits .writing) := by
  cases m? with
  | none => rfl
  | some m =>
    cases hv : cpu.manufacturer with
    | none =>
      have : cpu.madeBy m = false := by simp [Cpu.madeBy, hv]
      simp only [checkManufacturer, Option.all_some, this, Bool.false_eq_true, if_false]
      rfl
    | some v =>
      simp only [checkManufacturer, Option.all_some, madeBy_eq_same hv, Value.plainChecked,
        CpuLack.writable_manufacturer, CpuLack.message_manufacturer]
      by_cases hs : v.same (.str m) = true
      · simp [hs, weights]
      · by_cases hw : v.writable = true <;> simp [hs, hw]

/-- What the x86-64 checks find missing of the manufacturer: nothing, or the one lack. -/
def Amd64Need.vendorLacks (r : Amd64Need) (cpu : Cpu) : List CpuLack :=
  if r.manufacturer.all cpu.madeBy then [] else [.manufacturer cpu.manufacturer]

theorem Amd64Need.lacks_eq (r : Amd64Need) (cpu : Cpu) :
    r.lacks cpu = r.vendorLacks cpu ++ (r.flags.filter (· ∉ cpu.flags)).map .flag := rfl

/-- Only the manufacturer's lack can fail to be written. -/
theorem Amd64Need.all_writable (r : Amd64Need) (cpu : Cpu) :
    (r.lacks cpu).all CpuLack.writable = (r.vendorLacks cpu).all CpuLack.writable := by
  simp [Amd64Need.lacks_eq, List.all_map, Function.comp_def, CpuLack.writable]

theorem Arm64Need.all_writable (r : Arm64Need) (cpu : Cpu) :
    (r.lacks cpu).all CpuLack.writable = true := by
  unfold Arm64Need.lacks
  simp only [List.all_append, List.all_map, Function.comp_def, CpuLack.writable]
  split <;> split <;> simp <;> constructor <;> rfl

/-- The x86-64 checks give the extras and the messages of what the CPU lacks, or break down
when one of those messages cannot be written. -/
theorem checkAmd64_eq (r : Amd64Need) (cpu : Cpu) :
    checkAmd64 r cpu =
      if (r.lacks cpu).all CpuLack.writable then
        .ok ((if r.vendorLacks cpu = [] ∧ r.manufacturer.isSome then 6 else 0) +
            (r.flags.filter (cpu.flags.contains ·)).length * weights.cpuFlag,
          (r.lacks cpu).map CpuLack.message)
      else .error (.digits .writing) := by
  unfold checkAmd64
  rw [checkManufacturer_eq, Amd64Need.all_writable, Amd64Need.lacks_eq, List.map_append,
    ← missing_messages]
  unfold Amd64Need.vendorLacks
  by_cases hm : r.manufacturer.all cpu.madeBy = true
  · simp [hm, Except.map]
  · by_cases hw : (CpuLack.manufacturer cpu.manufacturer).writable = true <;>
      simp [hm, hw, Except.map]

theorem checkArm64_issues (r : Arm64Need) (cpu : Cpu) :
    (checkArm64 r cpu).2 = (r.lacks cpu).map CpuLack.message := by
  unfold checkArm64 Arm64Need.lacks
  dsimp only
  rw [List.map_append, List.map_append, ← missing_messages]
  congr 2
  · cases r.implementer with
    | none => rfl
    | some i =>
      dsimp only [Option.all_some]
      by_cases h : (cpu.implementer == some (i : Int)) = true
      · simp only [h, if_true]
        rfl
      · simp only [h]
        rfl
  · cases r.part with
    | none => rfl
    | some p =>
      dsimp only [Option.all_some]
      by_cases h : (cpu.part == some (p : Int)) = true
      · simp only [h, if_true]
        rfl
      · simp only [h]
        rfl

theorem checkArm64_score {r : Arm64Need} {cpu : Cpu} (h : r.lacks cpu = []) :
    (checkArm64 r cpu).1 =
      (if r.implementer.isSome then 6 else 0) + (if r.part.isSome then 8 else 0) +
        r.features.length := by
  obtain ⟨hi, hp, hf⟩ := Arm64Need.lacks_eq_nil_iff.1 h
  unfold checkArm64
  dsimp only
  rw [length_filter_contains hf]
  cases hri : r.implementer <;> cases hrp : r.part <;> simp_all [weights]

/-- Once the architecture fits, a CPU earns the CPU weight and its extras when nothing is
missing, and 0 with its issues otherwise. -/
theorem tally_eq {lacks : List CpuLack} {extra points : Nat}
    (hx : lacks = [] → 10 + extra = points) :
    (if (lacks.map CpuLack.message).isEmpty then (weights.cpuDevice + extra, [])
      else (0, lacks.map CpuLack.message)) =
      (if lacks = [] then points else 0, lacks.map CpuLack.message) := by
  by_cases h : lacks = []
  · simp [h, ← hx h, weights]
  · simp [h]

/-- **One CPU's check**: the requirement's points when the CPU lacks nothing, and otherwise 0
with the messages of what it lacks; it breaks down when one of those messages cannot be
written. -/
theorem checkCpu_eq (need : CpuNeed) (cpu : Cpu) :
    checkCpu need cpu =
      if (need.lacks cpu).all CpuLack.writable then
        .ok (if need.lacks cpu = [] then need.points else 0, (need.lacks cpu).map CpuLack.message)
      else .error (.digits .writing) := by
  unfold checkCpu CpuNeed.lacks
  by_cases ha : cpu.architecture = need.architecture
  · rw [if_neg (show ¬(need.architecture != cpu.architecture) = true by simp [ha]),
      if_neg (show ¬cpu.architecture ≠ need.architecture from not_not.2 ha)]
    cases need with
    | amd64 r =>
      dsimp only
      rw [checkAmd64_eq]
      by_cases hw : (r.lacks cpu).all CpuLack.writable = true
      · rw [if_pos hw, if_pos hw, Except.map, tally_eq]
        intro hl
        obtain ⟨hm, hf⟩ := Amd64Need.lacks_eq_nil_iff.1 hl
        have hv : r.vendorLacks cpu = [] := by
          simp only [Amd64Need.lacks_eq, List.append_eq_nil_iff] at hl
          exact hl.1
        rw [length_filter_contains hf]
        simp [hv, CpuNeed.points, weights, Nat.add_assoc]
      · rw [if_neg hw, if_neg hw]
        rfl
    | arm64 r =>
      dsimp only
      rw [if_pos (Arm64Need.all_writable r cpu), Except.map, checkArm64_issues, tally_eq]
      intro hl
      rw [checkArm64_score hl, CpuNeed.points]
      omega
  · rw [if_pos (by simpa using Ne.symm ha), if_pos ha]
    rfl

theorem cpuScore?_eq (need : CpuNeed) (cpu : Cpu) :
    cpuScore? need cpu = if need.lacks cpu = [] then some need.points else none := by
  unfold cpuScore?
  rw [checkCpu_eq]
  by_cases hl : need.lacks cpu = []
  · simp [hl]
  · by_cases hw : (need.lacks cpu).all CpuLack.writable = true <;> simp [hl, hw]

/-- A CPU's check breaks down exactly when it lacks a manufacturer that cannot be written. -/
theorem errorOf?_checkCpu (need : CpuNeed) (cpu : Cpu) :
    errorOf? (checkCpu need cpu) =
      if (need.lacks cpu).all CpuLack.writable then none else some (.digits .writing) := by
  rw [checkCpu_eq]
  split <;> rfl

/-! ### The machine's CPUs -/

/-- When every device that passes scores `k`, the best score is `k` if some device passed. -/
theorem Outcome.BestOf.score_eq_of_forall {o : Outcome} {ns : List Nat} {k : Nat}
    (h : o.BestOf ns) (hk : ∀ n ∈ ns, n = k) : o.score = if o.matched then k else 0 := by
  rw [h.matched]
  cases ns with
  | nil => simpa using h.score_mem
  | cons n ns =>
    have hle : k ≤ o.score := hk n (by simp) ▸ h.le_score n (by simp)
    rcases h.score_mem with h0 | hmem
    · simp
      omega
    · simpa using hk _ hmem

/-- The issues of a machine with CPUs are those of each CPU, in order, under its label. -/
theorem matchCpu_issues {need : CpuNeed} {cpus : List Cpu} {o : Outcome} (h : cpus ≠ [])
    (ho : matchCpu need cpus = .ok o) :
    o.issues = cpus.zipIdx.flatMap fun (cpu, i) =>
      (need.lacks cpu).map fun l => cpuLabel cpus.length i ++ l.message := by
  rw [matchCpu_eq_foldlM h] at ho
  rw [foldlM_issues _ (fun x => (need.lacks x.1).map fun l => cpuLabel cpus.length x.2 ++ l.message)
    ?step _ ho]
  · simp
  rintro acc ⟨cpu, i⟩ o' hd
  obtain ⟨p, hc, rfl⟩ := map_eq_ok.1 hd
  rw [checkCpu_eq] at hc
  split at hc
  · cases hc
    by_cases hl : need.lacks cpu = []
    · simp [Outcome.addCpu, hl]
    · simp only [Outcome.addCpu, List.isEmpty_iff, List.map_eq_nil_iff, hl, if_false]
      congr 1
      unfold cpuLabel
      split <;> simp [Function.comp_def, String.append_assoc]
  · cases hc

/-- A list of lacks can be written unless it holds a manufacturer that cannot. -/
theorem all_writable_eq_false_iff {ls : List CpuLack} :
    ls.all CpuLack.writable = false ↔
      ∃ v, CpuLack.manufacturer (some v) ∈ ls ∧ v.writable = false := by
  rw [← Bool.not_eq_true, List.all_eq_true]
  constructor
  · intro h
    push Not at h
    obtain ⟨l, hl, hw⟩ := h
    obtain ⟨v, rfl, hv⟩ := CpuLack.writable_eq_false_iff.1 (by simpa using hw)
    exact ⟨v, hl, hv⟩
  · rintro ⟨v, hv, hw⟩ h
    have := h _ hv
    simp [CpuLack.writable, hw] at this

/-- The first of the errors named by a test that fails: the one error, when the test fails
anywhere. -/
theorem head?_filterMap_unless {β ε : Type} (p : β → Bool) (e b : ε) (l : List β) :
    (l.filterMap fun x => if p x then none else some e).head? = some b ↔
      b = e ∧ ∃ x ∈ l, p x = false := by
  induction l with
  | nil => simp
  | cons x l ih =>
    by_cases hx : p x = true
    · simp only [List.filterMap_cons, hx, if_true]
      rw [ih]
      simp [hx]
    · simp only [List.filterMap_cons, hx, Bool.false_eq_true, if_false, List.head?_cons,
        Option.some.injEq]
      exact ⟨fun h => ⟨h.symm, x, List.mem_cons_self, by simpa using hx⟩, fun h => h.1.symm⟩

theorem CpuLack.message_ne (l : CpuLack) : l.message ≠ "no cpu found on host system" := by
  intro h
  have := congrArg String.toList h
  -- `simp [CpuLack.message]` stalls on the overlapping patterns; unfolding does not
  unfold CpuLack.message at this
  rcases l with _ | (_ | _) | _ | _ | _ | _ <;> simp at this

theorem label_message_ne (n i : Nat) (l : CpuLack) :
    cpuLabel n i ++ l.message ≠ "no cpu found on host system" := by
  unfold cpuLabel
  split
  · intro h
    have := congrArg String.toList h
    simp at this
  · rw [String.empty_append]
    exact l.message_ne

/-- **What the CPU matcher computes.**  With no CPU, matching fails with the single issue
`no cpu found on host system`, and only then. It breaks down exactly when some CPU lacks a
manufacturer that cannot be written, with the conversion's error. Otherwise a requirement is
matched exactly when some CPU meets it, its score is the requirement's points when matched (so
the best of several CPUs, never their sum) and 0 otherwise, and its issues are, CPU by CPU, the
messages of what each lacks, labelled with the CPU's index on a machine of several CPUs. -/
theorem matchCpu_spec (need : CpuNeed) (cpus : List Cpu) :
    (matchCpu need cpus = .ok (.failed ["no cpu found on host system"]) ↔ cpus = []) ∧
    (∀ b, matchCpu need cpus = .error b ↔ b = Breakdown.digits .writing ∧
      ∃ cpu ∈ cpus, ∃ v, CpuLack.manufacturer (some v) ∈ need.lacks cpu ∧ v.writable = false) ∧
    (cpus ≠ [] → ∀ o, matchCpu need cpus = .ok o →
      (o.matched = true ↔ ∃ cpu ∈ cpus, need.Accepts cpu) ∧
      o.score = (if o.matched then need.points else 0) ∧
      o.issues = cpus.zipIdx.flatMap fun (cpu, i) =>
        (need.lacks cpu).map fun l => cpuLabel cpus.length i ++ l.message) := by
  -- every CPU that passes scores the requirement's points
  have hns : ∀ n ∈ cpus.filterMap (cpuScore? need), n = need.points := by
    intro n hn
    obtain ⟨cpu, -, hc⟩ := List.mem_filterMap.1 hn
    rw [cpuScore?_eq] at hc
    split at hc <;> simp_all
  have hmatched : ∀ o, matchCpu need cpus = .ok o →
      (o.matched = true ↔ ∃ cpu ∈ cpus, need.Accepts cpu) := by
    intro o ho
    rw [(matchCpu_bestOf ho).matched, Bool.not_eq_true', List.isEmpty_eq_false_iff_exists_mem]
    simp only [List.mem_filterMap, cpuScore?_eq]
    constructor
    · rintro ⟨n, cpu, hcpu, hc⟩
      refine ⟨cpu, hcpu, CpuNeed.lacks_eq_nil_iff.1 ?_⟩
      by_contra hl
      simp [hl] at hc
    · rintro ⟨cpu, hcpu, ha⟩
      exact ⟨need.points, cpu, hcpu, by simp [CpuNeed.lacks_eq_nil_iff.2 ha]⟩
  refine ⟨⟨fun h => ?_, fun h => by subst h; rfl⟩, fun b => ?_, fun h o ho =>
    ⟨hmatched o ho, (matchCpu_bestOf ho).score_eq_of_forall hns, matchCpu_issues h ho⟩⟩
  · -- a machine with CPUs never reports the missing-CPU issue: each issue names a lack
    by_contra hne
    have hi := matchCpu_issues hne h
    have hmem : "no cpu found on host system" ∈
        (Outcome.failed ["no cpu found on host system"]).issues := by
      simp [Outcome.failed]
    rw [hi, List.mem_flatMap] at hmem
    obtain ⟨⟨cpu, i⟩, -, hmem⟩ := hmem
    obtain ⟨l, -, hl⟩ := List.mem_map.1 hmem
    exact label_message_ne _ _ _ hl
  · -- the walk breaks down at the first CPU with a lack that cannot be written
    simp only [matchCpu_eq_error_iff, errorOf?_checkCpu, head?_filterMap_unless,
      all_writable_eq_false_iff]

/-- Two CPUs, one of them of another architecture: each is reported under its index. -/
example :
    (matchCpu (.arm64 { implementer := some 0x41, features := ["fp", "asimd"] })
      [{ architecture := "arm64", implementer := some 0x41, features := ["fp"] },
       { architecture := "amd64" }]).toOption =
    some { issues := ["cpu 0: feature not found: asimd", "cpu 1: architecture not arm64"] } := by
  decide +kernel

/-- An x86-64 CPU not made by the one manufacturer a requirement names lacks that alone. -/
theorem lacks_of_not_madeBy {m : String} {cpu : Cpu} (ha : cpu.architecture = "amd64")
    (h : cpu.madeBy m = false) :
    (CpuNeed.amd64 { manufacturer := some m }).lacks cpu = [.manufacturer cpu.manufacturer] := by
  simp [CpuNeed.lacks, CpuNeed.architecture, ha, Amd64Need.lacks, h]

/-- A single CPU that lacks a manufacturer that cannot be written breaks the matching down. -/
theorem matchCpu_single_breaks {need : CpuNeed} {cpu : Cpu} {v : Value}
    (hl : CpuLack.manufacturer (some v) ∈ need.lacks cpu) (hw : v.writable = false) :
    matchCpu need [cpu] = .error (.digits .writing) := by
  have hall : (need.lacks cpu).all CpuLack.writable = false :=
    all_writable_eq_false_iff.2 ⟨v, hl, hw⟩
  rw [matchCpu_eq_error_iff, List.filterMap_cons, errorOf?_checkCpu, hall]
  rfl

/-- An x86-64 CPU whose manufacturer is an integer of more than 4300 decimal digits, where
another manufacturer is required: the CPU lacks the manufacturer, but that issue cannot be
written, and matching breaks down instead of reporting it. -/
theorem matchCpu_breaks_on_long_manufacturer :
    let cpu : Cpu :=
      { architecture := "amd64", manufacturer := some (.int (Nat.pow 16 4000 - 1 : Nat)) }
    let need : CpuNeed := .amd64 { manufacturer := some "GenuineIntel" }
    need.lacks cpu = [.manufacturer cpu.manufacturer] ∧
      matchCpu need [cpu] = .error (Breakdown.digits .writing) := by
  intro cpu need
  have hlacks : need.lacks cpu = [.manufacturer cpu.manufacturer] :=
    lacks_of_not_madeBy rfl rfl
  -- the manufacturer has more than 4300 decimal digits
  have hw : Value.writable (.int (Nat.pow 16 4000 - 1 : Nat)) = false := by
    decide +kernel
  exact ⟨hlacks, matchCpu_single_breaks (by rw [hlacks]; exact List.mem_singleton_self _) hw⟩

end EngineFit
