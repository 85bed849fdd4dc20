import WirelessScan.Proofs.Cycles
import WirelessScan.Proofs.Resolution

/-!
# The schedule of a configuration

The start of a configuration is its tick 0 and every period timer that it was waiting for is the
next tick. Tick `k` runs cycle `k`, whatever became of the cycles before it, and its due buckets are
those whose period divides `k` base periods: the schedule does not drift.

Cycle numbers are counted with 64 bits. The statements about tick `k` hold as long as `k` base
periods fit into them.
-/

namespace WirelessScan

variable {ρ : Type}

/-! ## Due buckets -/

/-- The buckets that are due in tick `k`, each with its number: those whose period is a divisor of
`k` base periods. -/
def Settings.dueAt (s : Settings) (k : Nat) : List (Bucket × Nat) :=
  s.buckets.zipIdx.filter fun b => b.1.period.toNat / s.basePeriod.toNat ∣ k

namespace Settings

variable {s : Settings}

theorem isPeriodic_iff : s.isPeriodic = true ↔ s.buckets.length ≤ maxBuckets ∧ s.basePeriod ≠ 0 ∧
    ∀ b ∈ s.buckets, b.period ≠ 0 ∧ b.period % s.basePeriod = 0 := by
  simp [isPeriodic, and_assoc]

/-- Everything is due in tick 0. -/
theorem dueAt_zero (s : Settings) : s.dueAt 0 = s.buckets.zipIdx := by
  simp [dueAt]

/-- A number of base periods that fits into 64 bits is a multiple of the period of a bucket if the
number is a multiple of the quotient of the periods. -/
theorem isDue_ofNat {k : Nat} {b : Bucket} (hbase : s.basePeriod ≠ 0)
    (hdvd : b.period % s.basePeriod = 0) (hk : k * s.basePeriod.toNat < 2 ^ 64) :
    s.isDue (.ofNat k) b = decide (b.period.toNat / s.basePeriod.toNat ∣ k) := by
  have hpos : 0 < s.basePeriod.toNat :=
    Nat.pos_of_ne_zero fun h => hbase (UInt32.toNat_inj.mp h)
  have hsmall : k < 2 ^ 64 := Nat.lt_of_le_of_lt (Nat.le_mul_of_pos_right k hpos) hk
  obtain ⟨m, hm⟩ : s.basePeriod.toNat ∣ b.period.toNat := by
    have hmod := congrArg UInt32.toNat hdvd
    rw [UInt32.toNat_mod] at hmod
    exact Nat.dvd_of_mod_eq_zero hmod
  have helapsed : (UInt64.ofNat k * s.basePeriod.toUInt64).toNat = k * s.basePeriod.toNat := by
    rw [UInt64.toNat_mul, UInt64.toNat_ofNat', Nat.mod_eq_of_lt hsmall, UInt32.toNat_toUInt64,
      Nat.mod_eq_of_lt hk]
  -- With `m` base periods in the period, divisibility by the period is divisibility by `m`.
  rw [Bool.eq_iff_iff, isDue, beq_iff_eq, decide_eq_true_eq, ← UInt64.toNat_inj,
    UInt64.toNat_mod, helapsed, UInt32.toNat_toUInt64, hm, Nat.mul_div_cancel_left m hpos]
  calc k * s.basePeriod.toNat % (s.basePeriod.toNat * m) = 0
      ↔ s.basePeriod.toNat * m ∣ s.basePeriod.toNat * k := by
        rw [Nat.mul_comm k, Nat.dvd_iff_mod_eq_zero]
    _ ↔ m ∣ k := Nat.mul_dvd_mul_iff_left hpos

/-- The due buckets of cycle `k` are those of tick `k`. -/
theorem dueBuckets_ofNat {k : Nat} (hperiodic : s.isPeriodic = true)
    (hk : k * s.basePeriod.toNat < 2 ^ 64) : s.dueBuckets (.ofNat k) = s.dueAt k := by
  obtain ⟨hlength, hbase, hperiods⟩ := isPeriodic_iff.mp hperiodic
  rw [dueBuckets, dueAt, List.take_of_length_le (by simpa using hlength)]
  apply List.filter_congr
  rintro ⟨b, i⟩ hmem
  have hb : b ∈ s.buckets := List.mem_of_getElem? (List.mk_mem_zipIdx_iff_getElem?.mp hmem)
  exact isDue_ofNat hbase (hperiods b hb).2 hk

end Settings

/-! ## Checked arithmetic -/

/-- A remainder, unless the divisor is zero. -/
def remainder? {α : Type} [Mod α] [OfNat α 0] [DecidableEq α] (n d : α) : Option α :=
  if d = 0 then none else some (n % d)

/-- The mask with one bit, unless the number is too large for a shift. -/
def bit? (i : Nat) : Option UInt32 :=
  if i < 32 then some (1 <<< UInt32.ofNat i) else none

/-- The mask of some numbers, unless a shift fails. -/
def bucketMask? (numbers : List Nat) : Option UInt32 :=
  numbers.foldlM (fun mask i => (bit? i).map (mask ||| ·)) 0

namespace Settings

/-- Whether a bucket is due, unless its period is zero. -/
def isDue? (s : Settings) (n : UInt64) (b : Bucket) : Option Bool :=
  (remainder? (n * s.basePeriod.toUInt64) b.period.toUInt64).map (· == 0)

/-- The due buckets, unless some remainder fails. -/
def dueBuckets? (s : Settings) (n : UInt64) : Option (List (Bucket × Nat)) :=
  (s.buckets.zipIdx.take maxBuckets).filterM fun b => s.isDue? n b.1

/-- Whether the settings can be run periodically, unless a remainder fails. The first bucket that
cannot ends the search. -/
def isPeriodic? (s : Settings) : Option Bool :=
  if s.buckets.length ≤ maxBuckets ∧ s.basePeriod ≠ 0 then
    s.buckets.allM fun b =>
      if b.period = 0 then some false
      else (remainder? b.period s.basePeriod).map (· == 0)
  else some false

end Settings

section Checks

variable {α : Type} {l : List α}

theorem filterAuxM_some {f : α → Option Bool} {p : α → Bool} (h : ∀ a ∈ l, f a = some (p a))
    (acc : List α) : l.filterAuxM f acc = some ((l.filter p).reverse ++ acc) := by
  induction l generalizing acc with
  | nil => rfl
  | cons a rest ih =>
      have hrest := ih fun b hb => h b (List.mem_cons_of_mem a hb)
      rw [List.filterAuxM, h a List.mem_cons_self]
      cases hp : p a <;> simp [hp, hrest]

/-- A filter none of whose tests fails. -/
theorem filterM_some {f : α → Option Bool} {p : α → Bool} (h : ∀ a ∈ l, f a = some (p a)) :
    l.filterM f = some (l.filter p) := by
  rw [List.filterM, filterAuxM_some h]
  simp

theorem allM_some {f : α → Option Bool} {p : α → Bool} (h : ∀ a ∈ l, f a = some (p a)) :
    l.allM f = some (l.all p) := by
  induction l with
  | nil => rfl
  | cons a rest ih =>
      have hrest := ih fun b hb => h b (List.mem_cons_of_mem a hb)
      rw [List.allM, h a List.mem_cons_self]
      cases hp : p a <;> simp [hp, hrest]

end Checks

/-- No shift fails for numbers of buckets. -/
theorem bucketMask?_eq {numbers : List Nat} (h : ∀ n ∈ numbers, n < 32) :
    bucketMask? numbers = some (bucketMask numbers) := by
  have hfold : ∀ mask : UInt32,
      numbers.foldlM (fun mask i => (bit? i).map (mask ||| ·)) mask =
        some (numbers.foldl (fun mask i => mask ||| (1 <<< UInt32.ofNat i)) mask) := by
    induction numbers with
    | nil => exact fun _ => rfl
    | cons n rest ih =>
        intro mask
        obtain ⟨hn, hrest⟩ := List.forall_mem_cons.mp h
        rw [List.foldlM_cons, List.foldl_cons, ← ih hrest]
        simp [bit?, hn]
  exact hfold 0

namespace Settings

variable {s : Settings}

/-- No remainder fails when a configuration looks for its due buckets. -/
theorem dueBuckets?_eq (hperiodic : s.isPeriodic = true) (n : UInt64) :
    s.dueBuckets? n = some (s.dueBuckets n) := by
  apply filterM_some
  rintro ⟨b, i⟩ hmem
  have hget := List.mk_mem_zipIdx_iff_getElem?.mp (List.mem_of_mem_take hmem)
  have hperiod := ((isPeriodic_iff.mp hperiodic).2.2 b (List.mem_of_getElem? hget)).1
  have hne : b.period.toUInt64 ≠ 0 := by
    intro h
    have hzero := congrArg UInt64.toNat h
    rw [UInt32.toNat_toUInt64] at hzero
    exact hperiod (UInt32.toNat_inj.mp hzero)
  simp [isDue?, remainder?, hne, isDue]

/-- No remainder fails when settings are checked, whatever the settings. -/
theorem isPeriodic?_eq (s : Settings) : s.isPeriodic? = some s.isPeriodic := by
  unfold isPeriodic? isPeriodic
  split
  next h =>
    rw [allM_some (p := fun b => b.period != 0 && b.period % s.basePeriod == 0) fun b _ => ?_]
    · simp [h.1, h.2]
    · -- A bucket whose period is zero is rejected before its remainder is taken.
      by_cases hperiod : b.period = 0 <;> simp [remainder?, hperiod, h.2]
  next h =>
    rw [Decidable.not_and_iff_or_not] at h
    rcases h with hlength | hbase
    · simp [hlength]
    · simp [Decidable.not_not.mp hbase]

end Settings

/-! ## Ticks -/

/-- The settings of a configuration and the number of its ticks so far, the start included. -/
structure Course where
  settings : Settings
  ticks : Nat
deriving DecidableEq, Repr

/-- The course of the configuration of an id since its start. A start counts as tick 0; after it,
every expiry of the period timer that the configuration waits for counts as one tick. -/
def Run.course [Radio ρ] (id : ScanId) : Run ρ → Option Course
  | begin .. => none
  | extend run move =>
    match run.now.cycleAt move id with
    | none => run.course id
    | some p =>
      match move with
      | .background .. => some ⟨p.settings, 1⟩
      | _ => (run.course id).map fun c => { c with ticks := c.ticks + 1 }

section Ticks

variable [Radio ρ] {now next : Station ρ} {move : Move ρ} {id : ScanId} {p q : Periodic}

/-- A move that runs a cycle of a configuration. -/
theorem Turn.ran (h : Turn id now move next) (hcycle : now.cycleAt move id = some p) :
    ∃ (p' q : Periodic) (w w' : World ρ) (refusal : Option Reason),
      p'.pending = p.pending ∧ p'.cycle = p.cycle ∧ p'.settings = p.settings ∧
      Periodic.Ran now.scanner.setup id p' w (refusal, q, w') ∧
      w.admissions = now.world.admissions ∧ next.world.admissions = w'.admissions ∧
      next.config? id = some q := by
  cases h with
  | started _ _ _ hcycle' _ _ hran hconfig hadmissions =>
      obtain rfl := Option.some.inj (hcycle'.symm.trans hcycle)
      refine ⟨_, _, _, _, _, ?_, ?_, ?_, hran, World.schedule_admissions _ _ _, hadmissions,
        hconfig⟩ <;> rfl
  | ticked _ _ _ hcycle' hran hconfig hadmissions =>
      obtain rfl := Option.some.inj (hcycle'.symm.trans hcycle)
      refine ⟨_, _, _, _, _, ?_, ?_, ?_, hran, World.schedule_admissions _ _ _, hadmissions,
        hconfig⟩ <;> rfl
  | changed hnone => rw [hnone] at hcycle; cases hcycle
  | inactive hnone => rw [hnone] at hcycle; cases hcycle

/-- The admission calls of a move that runs a cycle: at most one, for the due buckets. -/
theorem Periodic.Ran.calls {setup : Setup} {w w' : World ρ} {refusal : Option Reason}
    (h : Ran setup id p w (refusal, q, w')) :
    (w'.admissions = w.admissions ∧
        ¬ (p.pending = none ∧ p.due ≠ [] ∧
          ∃ request, setup.resolve p.settings (p.due.map Prod.fst) = .ok request)) ∨
      (p.pending = none ∧ p.due ≠ []) ∧ ∃ request status,
        setup.resolve p.settings (p.due.map Prod.fst) = .ok request ∧
        w'.admissions = w.admissions ++ [(request, status)] ∧
        (status = .succeeded → ∃ c, q.pending = some c ∧
          c.buckets = bucketMask (p.due.map Prod.snd)) := by
  cases h with
  | skipped hskip =>
      refine .inl ⟨rfl, ?_⟩
      rintro ⟨hidle, hdue, _⟩
      rcases hskip with hwaits | hnothing
      · simp [hidle] at hwaits
      · exact hdue hnothing
  | unresolved _ _ hresolve =>
      refine .inl ⟨rfl, ?_⟩
      rintro ⟨_, _, request, hok⟩
      rw [hresolve] at hok
      cases hok
  | rejected hidle hdue hresolve hanswer =>
      refine .inr ⟨⟨hidle, hdue⟩, _, _, hresolve, World.asked_admissions _ _ _, ?_⟩
      intro h
      exact absurd h hanswer
  | @admitted request hidle hdue hresolve hanswer =>
      refine .inr ⟨⟨hidle, hdue⟩, request, w.answer setup.iface request, hresolve, ?_,
        fun _ => ⟨_, rfl, rfl⟩⟩
      rw [World.schedule_admissions, World.asked_admissions]

/-- The settings of a configuration and its place in the schedule. -/
structure OnCourse (now : Station ρ) (id : ScanId) (course : Option Course) : Prop where
  found : ∀ p, now.config? id = some p → ∃ ticks, course = some ⟨p.settings, ticks⟩ ∧
    p.cycle = UInt64.ofNat ticks ∧ p.settings.isPeriodic = true

variable [NoticeRadio ρ]

/-- A move that runs a cycle is one more tick, and the number of the tick is that of the cycle. -/
theorem OnCourse.tick {run : Run ρ} (h : OnCourse run.now id (run.course id))
    (hcycle : run.now.cycleAt move id = some p) :
    ∃ k, (run.extend move).course id = some ⟨p.settings, k + 1⟩ ∧ p.cycle = UInt64.ofNat k ∧
      p.settings.isPeriodic = true := by
  cases (run.now.step_perform move).turn run.sound id with
  | started hmove _ _ hcycle' hperiodic =>
      obtain rfl := Option.some.inj (hcycle'.symm.trans hcycle)
      refine ⟨0, ?_, rfl, hperiodic⟩
      rw [Run.course, hcycle, hmove]
  | ticked hmove _ hnow hcycle' =>
      obtain rfl := Option.some.inj (hcycle'.symm.trans hcycle)
      obtain ⟨ticks, hcourse, hcounter, hperiodic⟩ := h.found _ hnow
      refine ⟨ticks, ?_, hcounter, hperiodic⟩
      rw [Run.course, hcycle, hmove, hcourse]
      rfl
  | changed hnone => rw [hnone] at hcycle; cases hcycle
  | inactive hnone => rw [hnone] at hcycle; cases hcycle

omit [NoticeRadio ρ] in
/-- A move that runs no cycle changes neither the settings nor the number of the next cycle. -/
theorem Turn.schedule_eq (h : Turn id now move next) (hcycle : now.cycleAt move id = none)
    (hnext : next.config? id = some q) :
    ∃ p, now.config? id = some p ∧ q.settings = p.settings ∧ q.cycle = p.cycle := by
  cases h with
  | started _ _ _ hsome => rw [hcycle] at hsome; cases hsome
  | ticked _ _ _ hsome => rw [hcycle] at hsome; cases hsome
  | @changed p q' _ hnow hconfig hchange =>
      obtain rfl : q' = q := Option.some.inj (hconfig.symm.trans hnext)
      refine ⟨p, hnow, ?_⟩
      cases hchange with
      | ended => exact ⟨Periodic.ended_settings _ _, Periodic.ended_cycle _ _⟩
      | _ => exact ⟨rfl, rfl⟩
  | inactive _ hconfig => rw [hconfig] at hnext; cases hnext

theorem Run.onCourse (run : Run ρ) (id : ScanId) : OnCourse run.now id (run.course id) := by
  induction run with
  | begin setup radio clock =>
      constructor
      intro p hp
      cases hp
  | extend run move ih =>
      have hturn := (run.now.step_perform move).turn run.sound id
      constructor
      intro q hq
      cases hcycle : run.now.cycleAt move id with
      | some p =>
          obtain ⟨k, hcourse, hnumber, hperiodic⟩ := ih.tick hcycle
          obtain ⟨p', q', w, w', refusal, -, hcounter, hsettings, hran, -, -, hconfig⟩ :=
            hturn.ran hcycle
          obtain rfl : q' = q := Option.some.inj (hconfig.symm.trans hq)
          have hsame : q'.settings = p.settings := hran.settings.trans hsettings
          refine ⟨k + 1, ?_, ?_, ?_⟩
          · rw [hcourse, hsame]
          · rw [hran.cycle, hcounter, hnumber, UInt64.ofNat_add]
            rfl
          · rw [hsame]
            exact hperiodic
      | none =>
          obtain ⟨p, hnow, hsettings, hcounter⟩ := hturn.schedule_eq hcycle hq
          rw [course, hcycle, hsettings, hcounter]
          exact ih.found p hnow

/-- What tick `k` of a configuration does. -/
structure Tick (now next : Station ρ) (id : ScanId) (p : Periodic) (k : Nat) : Prop where
  /-- It runs cycle `k`. -/
  number : p.cycle.toNat = k
  due : p.due = p.settings.dueAt k
  start : k = 0 → p.due = p.settings.buckets.zipIdx
  /-- It calls the driver unless a cycle is pending, nothing is due, or the due buckets have no
  frequency or an unknown channel. -/
  calls : now.calls next ≠ [] ↔ p.pending = none ∧ p.settings.dueAt k ≠ [] ∧
    ∃ fs, now.scanner.setup.table.resolve ((p.settings.dueAt k).map Prod.fst) = .ok fs ∧
      fs.isEmpty = false
  once : (now.calls next).length ≤ 1
  /-- The request covers the frequencies of the due buckets and no others. -/
  request : ∀ request status, (request, status) ∈ now.calls next → ∀ f,
    f ∈ request.frequencies ↔ ∃ b i fs, (b, i) ∈ p.settings.dueAt k ∧
      now.scanner.setup.table.targetFrequencies b.target = .ok fs ∧ f ∈ fs
  /-- An admitted cycle has the bits of the due buckets. -/
  mask : ∀ request, (request, .succeeded) ∈ now.calls next →
    ∃ q c, next.config? id = some q ∧ q.pending = some c ∧
      ∀ i, c.buckets.toNat.testBit i = true ↔ ∃ b, (b, i) ∈ p.settings.dueAt k

omit [NoticeRadio ρ] in
/-- The calls of a tick, its request and its mask, for the due buckets as the scanner computes
them. -/
theorem Turn.tick {k : Nat} (h : Turn id now move next) (hcycle : now.cycleAt move id = some p)
    (hnumber : p.cycle.toNat = k) (hdue : p.due = p.settings.dueAt k) : Tick now next id p k := by
  obtain ⟨p', q, w, w', refusal, hpending, hcounter, hsettings, hran, hbefore, hafter, hconfig⟩ :=
    h.ran hcycle
  have hdue' : p'.due = p.settings.dueAt k := by
    rw [← hdue, Periodic.due, Periodic.due, hsettings, hcounter]
  have hcalls : now.calls next = w'.admissions.drop w.admissions.length := by
    rw [Station.calls, hafter, hbefore]
  have hstart : k = 0 → p.due = p.settings.buckets.zipIdx := by
    rintro rfl
    rw [hdue, Settings.dueAt_zero]
  have hoptions := hran.calls
  rw [hdue', hpending, hsettings] at hoptions
  -- Either there is no call and some condition fails, or one call and all conditions hold.
  rcases hoptions with ⟨hsame, hnot⟩ | ⟨⟨hidle, hwork⟩, request, status, hresolve, hadded, hmask⟩
  · have hnone : now.calls next = [] := by rw [hcalls, hsame, List.drop_length]
    refine ⟨hnumber, hdue, hstart, ?_, by simp [hnone], by simp [hnone], by simp [hnone]⟩
    apply iff_of_false (fun h => h hnone)
    rintro ⟨hidle, hwork, fs, hfs, hsome⟩
    exact hnot ⟨hidle, hwork, Setup.exists_resolve hfs hsome⟩
  · have hone : now.calls next = [(request, status)] := by
      rw [hcalls, hadded, List.drop_left]
    obtain ⟨hfrequencies, hsome⟩ := Setup.resolve_ok hresolve
    refine ⟨hnumber, hdue, hstart, ?_, by simp [hone], ?_, ?_⟩
    · exact iff_of_true (by simp [hone]) ⟨hidle, hwork, _, hfrequencies, hsome⟩
    · intro request' status' hmem f
      rw [hone, List.mem_singleton] at hmem
      obtain ⟨rfl, rfl⟩ := Prod.mk.inj hmem
      rw [ChannelTable.mem_resolve hfrequencies]
      constructor
      · rintro ⟨b, hb, fs, hfs, hf⟩
        obtain ⟨⟨b', i⟩, hmem', rfl⟩ := List.mem_map.mp hb
        exact ⟨b', i, fs, hmem', hfs, hf⟩
      · rintro ⟨b, i, fs, hmem', hfs, hf⟩
        exact ⟨b, List.mem_map.mpr ⟨(b, i), hmem', rfl⟩, fs, hfs, hf⟩
    · intro request' hmem
      rw [hone, List.mem_singleton] at hmem
      obtain ⟨c, hc, hbuckets⟩ := hmask (Prod.mk.inj hmem).2.symm
      refine ⟨q, c, hconfig, hc, ?_⟩
      intro i
      have hlt : ∀ n ∈ (p.settings.dueAt k).map Prod.snd, n < 32 := by
        rw [← hdue]
        exact Settings.dueBuckets_lt
      rw [hbuckets, testBit_bucketMask hlt]
      simp

/-- The schedule never drifts. A move that runs a cycle of a configuration is some tick `k` of its
course since the start, and as long as `k` base periods fit into 64 bits it is what tick `k` has to
be. No remainder by zero and no shift beyond the bits of a mask is computed on the way, nor when
settings are checked. -/
theorem Run.schedule_never_drifts (run : Run ρ) :
    (∀ (move : Move ρ) (id : ScanId) (p : Periodic), run.now.cycleAt move id = some p →
      ∃ k, (run.extend move).course id = some ⟨p.settings, k + 1⟩ ∧
        (k * p.settings.basePeriod.toNat < 2 ^ 64 →
          Tick run.now (run.extend move).now id p k) ∧
        p.settings.dueBuckets? p.cycle = some p.due ∧
        bucketMask? (p.due.map Prod.snd) = some (bucketMask (p.due.map Prod.snd))) ∧
    ∀ settings : Settings, settings.isPeriodic? = some settings.isPeriodic := by
  refine ⟨fun move id p hcycle => ?_, Settings.isPeriodic?_eq⟩
  obtain ⟨k, hcourse, hcounter, hperiodic⟩ := (run.onCourse id).tick hcycle
  refine ⟨k, hcourse, fun hk => ?_, Settings.dueBuckets?_eq hperiodic _,
    bucketMask?_eq Settings.dueBuckets_lt⟩
  have hbase : 0 < p.settings.basePeriod.toNat :=
    Nat.pos_of_ne_zero fun h =>
      (Settings.isPeriodic_iff.mp hperiodic).2.1 (UInt32.toNat_inj.mp h)
  have hsmall : k < 2 ^ 64 := Nat.lt_of_le_of_lt (Nat.le_mul_of_pos_right k hbase) hk
  have hturn := (run.now.step_perform move).turn run.sound id
  refine hturn.tick hcycle ?_ ?_
  · rw [hcounter, UInt64.toNat_ofNat']
    exact Nat.mod_eq_of_lt hsmall
  · rw [Periodic.due, hcounter]
    exact Settings.dueBuckets_ofNat hperiodic hk

end Ticks

namespace Sample

/-- A configuration whose first cycle has timed out and whose next tick is queued. -/
def beforeTick : Run Replay :=
  run [.background (some settings) (some (handler 1)), .fire 2, .dispatch, .fire 1]

theorem beforeTick_schedule : ∃ p, beforeTick.now.cycleAt .dispatch 1 = some p ∧
    Tick beforeTick.now (beforeTick.extend .dispatch).now 1 p 1 ∧
    (p.settings.dueAt 1).map Prod.snd = [0] := by
  have hruns : (beforeTick.now.cycleAt .dispatch 1).isSome = true := by decide +kernel
  have hcourse : (beforeTick.extend .dispatch).course 1 = some ⟨settings, 2⟩ := by
    decide +kernel
  obtain ⟨p, hp⟩ := Option.isSome_iff_exists.mp hruns
  obtain ⟨k, hk, htick, -⟩ := beforeTick.schedule_never_drifts.1 .dispatch 1 p hp
  obtain ⟨hsettings, hticks⟩ := Course.mk.inj (Option.some.inj (hk.symm.trans hcourse))
  obtain rfl : k = 1 := by omega
  refine ⟨p, hp, htick ?_, ?_⟩
  · rw [hsettings]
    decide
  · rw [hsettings]
    decide

end Sample

end WirelessScan
