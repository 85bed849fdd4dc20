import WirelessScan.Proofs.Stored

/-!
# When ids come round again

The id of a configuration is the next number of a counter of 32 bits. Every start that is not
refused uses up a number, also if its channels do not resolve, and after the last number the
counter begins anew. So a start answers the id of an active configuration exactly if a whole round
of numbers has been used up since that configuration began, and then the new configuration takes
the place of the old one. Before that, every activation adds one configuration and leaves the others
alone.
-/

namespace WirelessScan

/-! ## Sizes -/

namespace SortedMap

variable {κ α : Type} [LT κ] [LE κ] [DecidableLT κ] [DecidableEq κ] [Std.LawfulOrderLT κ]
  [Std.IsLinearOrder κ]

theorem length_insertEntry {k : κ} {a : α} {l : List (κ × α)}
    (hsorted : l.Pairwise fun x y => x.1 < y.1) :
    (insertEntry k a l).length = l.length + if (findEntry k l).isSome then 0 else 1 := by
  induction l with
  | nil => rfl
  | cons head rest ih =>
      obtain ⟨k', a'⟩ := head
      obtain ⟨hfirst, hrest⟩ := List.pairwise_cons.mp hsorted
      rcases Std.lt_trichotomy k k' with hlt | rfl | hgt
      · -- A key below the first one is below all.
        have hnone : findEntry k ((k', a') :: rest) = none := by
          rw [Option.eq_none_iff_forall_ne_some]
          intro a₀ hfind
          rcases List.mem_cons.mp (mem_of_findEntry hfind) with heq | hmem
          · obtain rfl := (Prod.mk.inj heq).1
            exact Std.lt_irrefl hlt
          · exact Std.lt_irrefl (Std.lt_trans hlt (hfirst _ hmem))
        simp [insertEntry, hlt, hnone]
      · simp [insertEntry, findEntry, Std.lt_irrefl]
      · have hnot : ¬ k < k' := fun h => Std.lt_irrefl (Std.lt_trans h hgt)
        have hne : k ≠ k' := fun h => Std.lt_irrefl (h ▸ hgt)
        simp only [insertEntry, findEntry, hnot, hgt, hne, if_false, if_true, List.length_cons,
          ih hrest]
        omega

/-- A new key adds an entry; a value under a key that is there replaces one. -/
theorem size_insert (m : SortedMap κ α) (k : κ) (a : α) :
    (m.insert k a).size = m.size + if (m.find? k).isSome then 0 else 1 :=
  length_insertEntry m.sorted

end SortedMap

variable {ρ : Type} [Radio ρ]

/-! ## What a start does to the ids -/

/-- The id under which a move activates a configuration. -/
def Station.activates (now : Station ρ) (move : Move ρ) : Option ScanId :=
  match move with
  | .background (some settings) _ =>
    if (now.scanner.setup.resolve settings settings.buckets).isOk then now.answersId move else none
  | _ => none

theorem Station.answersId_of_activates {now : Station ρ} {move : Move ρ} {id : ScanId}
    (h : now.activates move = some id) : now.answersId move = some id := by
  unfold activates at h
  split at h
  · split at h
    · exact h
    · cases h
  · cases h

/-- A start with settings that can be run periodically answers the next id. -/
theorem Station.answersId_background (now : Station ρ) {settings : Settings} (handler : Handler)
    (hperiodic : settings.isPeriodic = true) :
    now.answersId (.background (some settings) (some handler)) =
      some now.scanner.background.nextId := by
  have hstarted := Background.start_started now.scanner.setup now.scanner.background
    (some settings) (some handler) now.world
  simp only [answersId, Scanner.startBackground]
  generalize now.scanner.background.start now.scanner.setup (some settings) (some handler)
    now.world = r at hstarted
  cases hstarted with
  | refused hrefused => simp [hperiodic] at hrefused
  | unresolved => rfl
  | activated => rfl

/-- What a move does to the counter and to the set of active configurations. -/
inductive Station.Numbers (now : Station ρ) (move : Move ρ) (next : Station ρ) : Prop where
  | silent (hanswer : now.answersId move = none)
      (hnextId : next.scanner.background.nextId = now.scanner.background.nextId)
      (hactive : ∀ id, now.config? id = none → next.config? id = none)
  | spent (hanswer : now.answersId move = some now.scanner.background.nextId)
      (hactivates : now.activates move = none)
      (hnextId : next.scanner.background.nextId = now.scanner.background.nextId + 1)
      (hscans : next.scanner.background.scans = now.scanner.background.scans)
  | activated {p : Periodic} (hanswer : now.answersId move = some now.scanner.background.nextId)
      (hactivates : now.activates move = some now.scanner.background.nextId)
      (hnextId : next.scanner.background.nextId = now.scanner.background.nextId + 1)
      (hscans : next.scanner.background.scans =
        now.scanner.background.scans.insert now.scanner.background.nextId p)

theorem Step.numbers {now next : Station ρ} {move : Move ρ} (hstep : Step now move next) :
    now.Numbers move next := by
  -- A value under a key that is there leaves the keys as they are.
  have hreplaced {b : Background} {id other : ScanId} {p q : Periodic}
      (hfind : b.scans.find? id = some q) (hnone : b.scans.find? other = none) :
      (b.scans.insert id p).find? other = none := by
    have hne : other ≠ id := by
      rintro rfl
      rw [hfind] at hnone
      cases hnone
    rw [SortedMap.find?_insert, if_neg hne, hnone]
  cases hstep with
  | background hstarted hanswer =>
      cases hstarted with
      | refused => exact .silent hanswer rfl fun _ h => h
      | unresolved hperiodic hresolve =>
          refine .spent hanswer ?_ rfl rfl
          simp [Station.activates, hresolve, Except.isOk, Except.toBool]
      | activated hperiodic hresolve hran =>
          refine .activated hanswer ?_ rfl rfl
          simp [Station.activates, hresolve, Except.isOk, Except.toBool, hanswer]
  | stopActive =>
      refine .silent rfl rfl fun id h => ?_
      rw [Station.config?, SortedMap.find?_erase]
      split
      · rfl
      · exact h
  | finished =>
      refine .silent rfl rfl fun id h => ?_
      rw [Station.config?, Background.finish_find?, Option.map_eq_none_iff]
      exact h
  | period _ hticked =>
      cases hticked with
      | stale => exact .silent rfl rfl fun _ h => h
      | ticked hfind => exact .silent rfl rfl fun _ h => hreplaced hfind h
  | cycleTimeout _ hexpired =>
      cases hexpired with
      | stale => exact .silent rfl rfl fun _ h => h
      | own hfind => exact .silent rfl rfl fun _ h => hreplaced hfind h
  | _ => exact .silent rfl rfl fun _ h => h

/-- A configuration that is active after a move was active before, unless the move activated it. -/
theorem Station.Numbers.active {now next : Station ρ} {move : Move ρ}
    (h : now.Numbers move next) {id : ScanId} {p : Periodic} (hfind : next.config? id = some p)
    (hactivates : now.activates move ≠ some id) : ∃ q, now.config? id = some q := by
  rw [← Option.ne_none_iff_exists']
  intro hnone
  cases h with
  | silent _ _ hactive => simp [hactive id hnone] at hfind
  | spent _ _ _ hscans =>
      rw [Station.config?, hscans] at hfind
      exact absurd (hnone.symm.trans hfind) (by simp)
  | activated _ hactivated _ hscans =>
      have hne : id ≠ now.scanner.background.nextId := by
        rintro rfl
        exact hactivates hactivated
      rw [Station.config?, hscans, SortedMap.find?_insert, if_neg hne] at hfind
      exact absurd (hnone.symm.trans hfind) (by simp)

namespace Run

/-- How many ids were handed out after the one under which a configuration was activated last. -/
def since : Run ρ → ScanId → Nat
  | begin .. => fun _ => 0
  | extend run move => fun id =>
    if run.now.activates move = some id then 0
    else run.since id + (run.now.answersId move).toList.length

variable (run : Run ρ) {move : Move ρ}

/-- The counter follows the ids that were handed out, however many there are. -/
theorem nextId_eq : run.now.scanner.background.nextId = UInt32.ofNat (run.ids.length + 1) := by
  induction run with
  | begin => rfl
  | extend run move ih =>
      have hids : (run.extend move).ids = run.ids ++ (run.now.answersId move).toList := rfl
      have hsucc : UInt32.ofNat (run.ids.length + 1) + 1 = .ofNat (run.ids.length + 1 + 1) := by
        simp [UInt32.ofNat_add]
      rw [hids, List.length_append]
      cases (run.now.step_perform move).numbers with
      | silent hanswer hnextId =>
          rw [hanswer]
          exact hnextId.trans ih
      | spent hanswer _ hnextId =>
          rw [hanswer]
          exact hnextId.trans (ih ▸ hsucc)
      | activated hanswer _ hnextId =>
          rw [hanswer]
          exact hnextId.trans (ih ▸ hsucc)

variable {run} in
/-- A start that is not refused answers the id that the counter shows. -/
theorem eq_of_answersId {id : ScanId} (h : run.now.answersId move = some id) :
    id = UInt32.ofNat (run.ids.length + 1) := by
  rw [← run.nextId_eq]
  cases (run.now.step_perform move).numbers with
  | silent hanswer =>
      rw [hanswer] at h
      cases h
  | spent hanswer => exact Option.some.inj (h.symm.trans hanswer)
  | activated hanswer => exact Option.some.inj (h.symm.trans hanswer)

/-- The ids that were handed out are the numbers from 1, modulo their range. -/
theorem ids_eq : run.ids = (List.range run.ids.length).map fun k => UInt32.ofNat (k + 1) := by
  induction run with
  | begin => rfl
  | extend run move ih =>
      have hids : (run.extend move).ids = run.ids ++ (run.now.answersId move).toList := rfl
      cases hanswer : run.now.answersId move with
      | none =>
          rw [hids, hanswer, Option.toList_none, List.append_nil]
          exact ih
      | some id =>
          rw [hids, hanswer, Option.toList_some, List.length_append, List.length_singleton,
            List.range_succ, List.map_append, ← ih, eq_of_answersId hanswer]
          rfl

/-- The number of an active configuration is the count of ids when it was activated. -/
theorem number_of_active {id : ScanId} {p : Periodic} (hfind : run.now.config? id = some p) :
    ∃ n, n + run.since id = run.ids.length ∧ id = UInt32.ofNat n := by
  induction run generalizing p with
  | begin => cases hfind
  | extend run move ih =>
      have hids : (run.extend move).ids = run.ids ++ (run.now.answersId move).toList := rfl
      rw [hids, List.length_append]
      by_cases hactivates : run.now.activates move = some id
      · have hanswer := Station.answersId_of_activates hactivates
        refine ⟨run.ids.length + 1, ?_, eq_of_answersId hanswer⟩
        simp [since, hactivates, hanswer]
      · obtain ⟨q, hq⟩ := (run.now.step_perform move).numbers.active hfind hactivates
        obtain ⟨n, hn, hid⟩ := ih hq
        refine ⟨n, ?_, hid⟩
        simp only [since, if_neg hactivates]
        omega

variable {run} in
/-- An id comes round again when the count of ids since it was handed out is full. -/
theorem reuses_iff {id new : ScanId} {p : Periodic} (hfind : run.now.config? id = some p)
    (hanswer : run.now.answersId move = some new) : new = id ↔ 2 ^ 32 ∣ run.since id + 1 := by
  obtain ⟨n, hn, rfl⟩ := run.number_of_active hfind
  rw [eq_of_answersId hanswer, ← UInt32.toNat_inj, UInt32.toNat_ofNat', UInt32.toNat_ofNat', ← hn]
  omega

/-- A start that activates nothing leaves the configurations alone. -/
theorem scans_of_spent {new : ScanId} (hanswer : run.now.answersId move = some new)
    (hactivates : run.now.activates move = none) :
    (run.extend move).now.scanner.background.scans = run.now.scanner.background.scans := by
  cases (run.now.step_perform move).numbers with
  | silent hsilent => exact absurd (hsilent.symm.trans hanswer) (by simp)
  | spent _ _ _ hscans => exact hscans
  | activated _ hactivated => exact absurd (hactivated.symm.trans hactivates) (by simp)

theorem scans_of_activates {new : ScanId} (hactivates : run.now.activates move = some new) :
    ∃ p, (run.extend move).now.scanner.background.scans =
      run.now.scanner.background.scans.insert new p := by
  cases (run.now.step_perform move).numbers with
  | silent hsilent =>
      have hanswer := Station.answersId_of_activates hactivates
      exact absurd (hsilent.symm.trans hanswer) (by simp)
  | spent _ hnone => exact absurd (hnone.symm.trans hactivates) (by simp)
  | activated _ hactivated _ hscans =>
      obtain rfl := Option.some.inj (hactivated.symm.trans hactivates)
      exact ⟨_, hscans⟩

theorem count_of_activates {new : ScanId} (hactivates : run.now.activates move = some new) :
    (run.extend move).now.scanner.background.count = run.now.scanner.background.count +
      if (run.now.config? new).isSome then 0 else 1 := by
  obtain ⟨p, hscans⟩ := run.scans_of_activates hactivates
  rw [Background.count, hscans]
  exact SortedMap.size_insert _ _ _

/-- The ids of configurations are unique until they wrap. The ids are the numbers from 1, modulo
their range. A start answers the id of an active configuration exactly if the ids that were handed
out since that one began, with the new one, make up full rounds. A start that does not activate
anything leaves the configurations alone, and one that does puts the new configuration under its
id. So as long as no round is full for an active configuration, a start answers an id that is not
in use, leaves every active configuration as it is, and an activation raises their number by one. -/
theorem ids_are_unique_until_they_wrap (run : Run ρ) (move : Move ρ) :
    (run.ids = (List.range run.ids.length).map fun k => UInt32.ofNat (k + 1)) ∧
    (∀ id p new, run.now.config? id = some p → run.now.answersId move = some new →
      (new = id ↔ 2 ^ 32 ∣ run.since id + 1)) ∧
    (∀ new, run.now.answersId move = some new → run.now.activates move = none →
      (run.extend move).now.scanner.background.scans = run.now.scanner.background.scans) ∧
    (∀ new, run.now.activates move = some new →
      (∃ p, (run.extend move).now.scanner.background.scans =
        run.now.scanner.background.scans.insert new p) ∧
      (run.extend move).now.scanner.background.count = run.now.scanner.background.count +
        if (run.now.config? new).isSome then 0 else 1) ∧
    ((∀ id p, run.now.config? id = some p → ¬ 2 ^ 32 ∣ run.since id + 1) →
      ∀ new, run.now.answersId move = some new →
        run.now.config? new = none ∧
        (∀ id p, run.now.config? id = some p → (run.extend move).now.config? id = some p) ∧
        (run.extend move).now.scanner.background.count =
          run.now.scanner.background.count + (run.now.activates move).toList.length) := by
  refine ⟨run.ids_eq, fun id p new => reuses_iff, fun new => run.scans_of_spent,
    fun new h => ⟨run.scans_of_activates h, run.count_of_activates h⟩, ?_⟩
  intro hfresh new hanswer
  have hunused : run.now.config? new = none := by
    rw [Option.eq_none_iff_forall_ne_some]
    intro p hfind
    exact hfresh new p hfind ((reuses_iff hfind hanswer).mp rfl)
  refine ⟨hunused, ?_⟩
  cases hactivates : run.now.activates move with
  | none =>
      have hscans := run.scans_of_spent hanswer hactivates
      refine ⟨fun id p hfind => ?_, ?_⟩
      · rwa [Station.config?, hscans]
      · rw [Background.count, hscans]
        rfl
  | some other =>
      obtain rfl : other = new :=
        Option.some.inj ((Station.answersId_of_activates hactivates).symm.trans hanswer)
      obtain ⟨p', hscans⟩ := run.scans_of_activates hactivates
      refine ⟨fun id p hfind => ?_, ?_⟩
      · have hne : id ≠ other := by
          rintro rfl
          rw [hunused] at hfind
          cases hfind
        rw [Station.config?, hscans, SortedMap.find?_insert, if_neg hne]
        exact hfind
      · rw [run.count_of_activates hactivates, hunused]
        rfl

end Run

namespace Sample

/-- Settings with a channel that the table does not know. -/
def unknownChannel : Settings where
  basePeriod := 1000
  buckets := [{ period := 1000, flags := .afterEachScan, target := .channels [99] }]

/-- A configuration begins, and starts use up some more ids. -/
def spent : Nat → Run Replay
  | 0 => run [.background (some settings) (some (handler 1))]
  | n + 1 => (spent n).extend (.background (some unknownChannel) (some (handler 2)))

/-- Another configuration begins. -/
def again : Move Replay :=
  .background (some settings) (some (handler 3))

theorem spent_one_unique :
    (spent 1).now.answersId again = some 3 ∧ (spent 1).now.config? 3 = none ∧
      ((spent 1).extend again).now.scanner.background.count =
        (spent 1).now.scanner.background.count + 1 := by
  have hanswer : (spent 1).now.answersId again = some 3 := by decide +kernel
  have hfresh : ∀ id p, (spent 1).now.config? id = some p → ¬ 2 ^ 32 ∣ (spent 1).since id + 1 := by
    intro id p hfind
    have hmem : id ∈ (spent 1).now.scanner.background.scans.keys :=
      List.mem_map.mpr ⟨(id, p), SortedMap.mem_of_findEntry hfind, rfl⟩
    have hkeys : (spent 1).now.scanner.background.scans.keys = [1] := by decide +kernel
    rw [hkeys, List.mem_singleton] at hmem
    subst hmem
    decide +kernel
  obtain ⟨-, -, -, -, hunique⟩ := (spent 1).ids_are_unique_until_they_wrap again
  obtain ⟨hunused, -, hcount⟩ := hunique hfresh 3 hanswer
  have hactivates : (spent 1).now.activates again = some 3 := by decide +kernel
  rw [hactivates] at hcount
  exact ⟨hanswer, hunused, hcount⟩

/-- What has used up the ids has changed nothing else. -/
theorem spent_now (n : Nat) :
    (spent n).now.scanner.setup = setup ∧ (spent n).since 1 = n ∧
      (spent n).now.scanner.background.scans = (spent 0).now.scanner.background.scans := by
  induction n with
  | zero => exact ⟨rfl, by decide +kernel, rfl⟩
  | succ n ih =>
      obtain ⟨hsetup, hsince, hscans⟩ := ih
      have hanswer := (spent n).now.answersId_background (handler 2)
        (show unknownChannel.isPeriodic = true by decide)
      have hresolve : (setup.resolve unknownChannel unknownChannel.buckets).isOk = false := by
        decide +kernel
      have hactivates : (spent n).now.activates
          (.background (some unknownChannel) (some (handler 2))) = none := by
        simp only [Station.activates, hsetup, hresolve, Bool.false_eq_true, if_false]
      refine ⟨?_, ?_, ((spent n).scans_of_spent hanswer hactivates).trans hscans⟩
      · exact ((spent n).now.step_perform _).setup.trans hsetup
      · simp only [spent, Run.since, hactivates, hanswer, hsince]
        rfl

theorem spent_reuses {n : Nat} (hfull : 2 ^ 32 ∣ n + 1) :
    ¬ ((∀ new, (spent n).now.answersId again = some new → (spent n).now.config? new = none) ∨
      ((spent n).extend again).now.scanner.background.count =
        (spent n).now.scanner.background.count + 1) := by
  obtain ⟨hsetup, hsince, hscans⟩ := spent_now n
  have hanswer := (spent n).now.answersId_background (handler 3)
    (show settings.isPeriodic = true by decide)
  have hactive : ((spent n).now.config? 1).isSome = true := by
    rw [Station.config?, hscans]
    decide +kernel
  obtain ⟨p, hfind⟩ := Option.isSome_iff_exists.mp hactive
  have hreused := (Run.reuses_iff hfind hanswer).mpr (by rwa [hsince])
  rw [hreused] at hanswer
  have hresolve : (setup.resolve settings settings.buckets).isOk = true := by decide +kernel
  have hactivates : (spent n).now.activates again = some 1 := by
    simp only [again, Station.activates, hsetup, hresolve, if_true, hanswer]
  rintro (hunused | hgrows)
  · rw [hunused 1 hanswer] at hfind
    cases hfind
  · rw [(spent n).count_of_activates hactivates, hactive, if_pos rfl] at hgrows
    omega

/-- After a full round of ids, a configuration that is still active is replaced. -/
theorem spent_all_reuses :
    ¬ ((∀ new, (spent (2 ^ 32 - 1)).now.answersId again = some new →
        (spent (2 ^ 32 - 1)).now.config? new = none) ∨
      ((spent (2 ^ 32 - 1)).extend again).now.scanner.background.count =
        (spent (2 ^ 32 - 1)).now.scanner.background.count + 1) := by
  apply spent_reuses
  decide

end Sample

end WirelessScan
