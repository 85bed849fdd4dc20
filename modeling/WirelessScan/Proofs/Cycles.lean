import WirelessScan.Proofs.Custody

/-!
# The cycles of one configuration

What a move does to a single configuration: it may begin it, run its next cycle, end the cycle that
waits for the radio, deliver a deferred rejection, or stop it. `Step.turn` sorts the steps of a
station by what they do to a configuration of a given id.

The calls to a handler belong to a configuration as long as no other request has the handler
(`Station.Sole`).
-/

namespace WirelessScan

variable {ρ : Type}

/-! ## Bucket masks -/

theorem toNat_bit {n : Nat} (hn : n < 32) : ((1 : UInt32) <<< UInt32.ofNat n).toNat = 2 ^ n := by
  have hsmall : 2 ^ n < 2 ^ 32 := Nat.pow_lt_pow_right (by omega) hn
  have hmod : n % 2 ^ 32 % 32 = n := by omega
  rw [UInt32.toNat_shiftLeft, UInt32.toNat_ofNat', hmod, UInt32.toNat_one, Nat.one_shiftLeft,
    Nat.mod_eq_of_lt hsmall]

theorem testBit_foldl_mask {numbers : List Nat} (h : ∀ n ∈ numbers, n < 32) (mask : UInt32)
    (i : Nat) :
    (numbers.foldl (fun mask i => mask ||| (1 <<< UInt32.ofNat i)) mask).toNat.testBit i =
      (mask.toNat.testBit i || decide (i ∈ numbers)) := by
  induction numbers generalizing mask with
  | nil => simp
  | cons n rest ih =>
      obtain ⟨hn, hrest⟩ := List.forall_mem_cons.mp h
      rw [List.foldl_cons, ih hrest, UInt32.toNat_or, Nat.testBit_or, toNat_bit hn,
        Nat.testBit_two_pow]
      simp [Bool.or_assoc, eq_comm]

/-- The bits of a mask are the numbers it was made of. -/
theorem testBit_bucketMask {numbers : List Nat} (h : ∀ n ∈ numbers, n < 32) (i : Nat) :
    (bucketMask numbers).toNat.testBit i = decide (i ∈ numbers) := by
  rw [bucketMask, testBit_foldl_mask h]
  simp

/-- Whether a cycle covers the bucket of a number. -/
def Cycle.covers (c : Cycle) (i : Nat) : Bool :=
  c.buckets.toNat.testBit i

namespace Settings

variable {s : Settings} {n : UInt64}

theorem mem_dueBuckets {b : Bucket} {i : Nat} : (b, i) ∈ s.dueBuckets n ↔
    s.buckets[i]? = some b ∧ i < maxBuckets ∧ s.isDue n b = true := by
  rw [dueBuckets, List.mem_filter, List.mem_iff_getElem?, ← and_assoc]
  refine and_congr_left fun _ => ⟨?_, fun ⟨hb, hi⟩ => ⟨i, ?_⟩⟩
  · rintro ⟨j, hj⟩
    rw [List.getElem?_take] at hj
    split at hj
    next hlt =>
      rw [List.getElem?_zipIdx, Option.map_eq_some_iff] at hj
      obtain ⟨b', hb', heq⟩ := hj
      simp only [Prod.mk.injEq, Nat.zero_add] at heq
      obtain ⟨rfl, rfl⟩ := heq
      exact ⟨hb', hlt⟩
    next => cases hj
  · rw [List.getElem?_take, if_pos hi, List.getElem?_zipIdx, hb]
    simp

theorem dueBuckets_lt : ∀ i ∈ (s.dueBuckets n).map Prod.snd, i < 32 := by
  intro i hi
  obtain ⟨⟨b, i'⟩, hmem, rfl⟩ := List.mem_map.mp hi
  exact (mem_dueBuckets.mp hmem).2.1

theorem mem_dueNumbers {i : Nat} : i ∈ (s.dueBuckets n).map Prod.snd ↔
    ∃ b, (b, i) ∈ s.dueBuckets n := by
  simp

end Settings

/-- Whether some bucket of a cycle has its completion reported. -/
def Settings.reports (s : Settings) (c : Cycle) : Bool :=
  s.buckets.zipIdx.any fun b => c.covers b.2 && b.1.flags.isBatched

/-- A cycle was made for the buckets that are due in some cycle of its configuration. -/
def Cycle.Faithful (c : Cycle) (s : Settings) : Prop :=
  ∃ n, c.buckets = bucketMask ((s.dueBuckets n).map Prod.snd) ∧
    c.reportStatus = ((s.dueBuckets n).map Prod.fst).any (·.flags.isBatched)

/-- A cycle reports its completion if one of its buckets asks for it. -/
theorem Cycle.Faithful.reportStatus_eq {c : Cycle} {s : Settings} (h : c.Faithful s) :
    c.reportStatus = s.reports c := by
  obtain ⟨n, hbuckets, hstatus⟩ := h
  rw [hstatus, Settings.reports, Bool.eq_iff_iff, List.any_map, List.any_eq_true,
    List.any_eq_true]
  have hcovers : ∀ i, c.covers i = decide (i ∈ (s.dueBuckets n).map Prod.snd) := fun i => by
    rw [covers, hbuckets, testBit_bucketMask Settings.dueBuckets_lt]
  constructor
  · rintro ⟨⟨b, i⟩, hmem, hbatched⟩
    refine ⟨(b, i), List.mk_mem_zipIdx_iff_getElem?.mpr (Settings.mem_dueBuckets.mp hmem).1, ?_⟩
    have hi : i ∈ (s.dueBuckets n).map Prod.snd := Settings.mem_dueNumbers.mpr ⟨b, hmem⟩
    simp only [hcovers, hi, decide_true, Bool.true_and]
    exact hbatched
  · rintro ⟨⟨b, i⟩, hmem, hboth⟩
    simp only [hcovers, Bool.and_eq_true, decide_eq_true_eq] at hboth
    obtain ⟨b', hdue⟩ := Settings.mem_dueNumbers.mp hboth.1
    have hb' : s.buckets[i]? = some b' := (Settings.mem_dueBuckets.mp hdue).1
    have hb : s.buckets[i]? = some b := List.mk_mem_zipIdx_iff_getElem?.mp hmem
    obtain rfl : b' = b := Option.some.inj (hb'.symm.trans hb)
    exact ⟨(b', i), hdue, hboth.2⟩

/-! ## What an ending says to a handler -/

/-- When all cycles end, the handler of a configuration hears what ends the cycle of this
configuration, if no other configuration has the handler. -/
theorem Background.heard_finish {b : Background} {id : ScanId} {p : Periodic}
    (hfind : b.scans.find? id = some p)
    (hsole : ∀ id' p', b.scans.find? id' = some p' → p'.handler = p.handler → id' = id)
    (e : Ending) (w : World ρ) :
    (b.finish e w).2.heard p.handler = w.heard p.handler ++ p.reports e := by
  -- What was said and what is still to be said add up to the same.
  have hinvariant := SortedMap.mapAccum_induction
    (f := fun _ (q : Periodic) (w : World ρ) => q.finish e w)
    (fun (scans : SortedMap ScanId Periodic) (w' : World ρ) =>
      (∀ id' p', scans.find? id' = some p' → p'.handler = p.handler → id' = id) ∧
      ∃ q, scans.find? id = some q ∧ q.handler = p.handler ∧
        w'.heard p.handler ++ q.reports e = w.heard p.handler ++ p.reports e)
    (fun scans w' id' q hq ⟨hsole', q₀, hq₀, hq₀handler, heq⟩ => by
      refine ⟨?_, ?_⟩
      · intro id₂ p₂ hp₂ hp₂handler
        rw [SortedMap.find?_insert] at hp₂
        split at hp₂
        next h₂ =>
          obtain rfl := Option.some.inj hp₂
          exact h₂.trans (hsole' id' q hq ((q.ended_handler e).symm.trans hp₂handler))
        next => exact hsole' id₂ p₂ hp₂ hp₂handler
      · rw [Periodic.heard_finish]
        by_cases hid : id' = id
        · subst hid
          obtain rfl : q = q₀ := Option.some.inj (hq.symm.trans hq₀)
          refine ⟨q.ended e, by simp [Periodic.finish], (q.ended_handler e).trans hq₀handler, ?_⟩
          rw [if_pos hq₀handler, Periodic.reports_ended, List.append_nil, heq]
        · have hne : q.handler ≠ p.handler := fun h => hid (hsole' id' q hq h)
          refine ⟨q₀, ?_, hq₀handler, by rw [if_neg hne, List.append_nil, heq]⟩
          rw [SortedMap.find?_insert, if_neg fun h => hid h.symm, hq₀])
    b.scans w ⟨hsole, p, hfind, rfl, rfl⟩
  obtain ⟨-, q, hq, -, heq⟩ := hinvariant
  have hended := b.finish_find? e w id
  rw [hfind] at hended
  obtain rfl : q = p.ended e := Option.some.inj (hq.symm.trans hended)
  rwa [Periodic.reports_ended, List.append_nil] at heq

/-! ## What concerns a configuration -/

/-- Whether an event is the deferred rejection of the first cycle of a configuration. -/
def Event.refusesCycle (iface : String) (id : ScanId) : Event → Bool
  | cycleRejected i other _ => i = iface && other = id
  | _ => false

theorem Event.refusesCycle_notice (iface : String) (id : ScanId) (e : Event)
    (he : e.isNotice = true) : e.refusesCycle iface id = false := by
  cases e with
  | cycleRejected => cases he
  | _ => rfl

namespace Station

/-- How many deferred rejections of a configuration wait in the queue. -/
def refusals (now : Station ρ) (id : ScanId) : Nat :=
  now.world.queue.countOf (Event.refusesCycle now.iface id)

/-- The event that a move dispatches. -/
def turn? (now : Station ρ) : Move ρ → Option Event
  | .dispatch => now.world.queue.events.head?
  | _ => none

theorem turn?_eq_some {now : Station ρ} {move : Move ρ} {e : Event}
    (h : now.turn? move = some e) :
    move = .dispatch ∧ ∃ rest, now.world.queue.events = e :: rest := by
  cases move with
  | dispatch => exact ⟨rfl, List.head?_eq_some_iff.mp h⟩
  | _ => cases h

/-- The admission calls that lie between two states. -/
def calls (now next : Station ρ) : List (Request × Reason) :=
  next.world.admissions.drop now.world.admissions.length

/-- The configuration whose next cycle a move runs: the one that a call activates, or the one
whose period timer is the alarm in the expiry that is dispatched. -/
def cycleAt [Radio ρ] (now : Station ρ) (move : Move ρ) (id : ScanId) : Option Periodic :=
  match move with
  | .background (some settings) (some handler) =>
    if now.answersId move = some id ∧
        (now.scanner.setup.resolve settings settings.buckets).isOk then
      some { settings, handler, periodTimer := now.world.timers.next }
    else none
  | .dispatch =>
    match now.turn? move with
    | some (.timerFired (.period iface other) handle) =>
      if iface = now.iface ∧ other = id then (now.config? id).filter (·.periodTimer = handle)
      else none
    | _ => none
  | _ => none

/-- No request but the configuration of an id has a handler. -/
structure Sole (now : Station ρ) (id : ScanId) (handler : Handler) : Prop where
  config : ∀ id' p, now.config? id' = some p → p.handler = handler → id' = id
  slot : now.slotHolds handler = false
  rejections : now.rejections handler = 0

variable [Radio ρ] {now : Station ρ} {id : ScanId}

theorem cycleAt_idle (hqueue : now.world.queue.events = []) :
    now.cycleAt .dispatch id = none := by
  simp [cycleAt, turn?, hqueue]

/-- Only the expiry of a period timer makes a turn run a cycle. -/
theorem cycleAt_other {e : Event} {rest : List Event} (hqueue : now.world.queue.events = e :: rest)
    (he : ∀ handle, e ≠ .timerFired (.period now.iface id) handle) :
    now.cycleAt .dispatch id = none := by
  simp only [cycleAt, turn?, hqueue, List.head?_cons]
  split
  next iface other handle heq =>
    obtain rfl := Option.some.inj heq
    rw [if_neg]
    rintro ⟨rfl, rfl⟩
    exact he handle rfl
  next => rfl

theorem cycleAt_period {handle : TimerHandle} {rest : List Event}
    (hqueue : now.world.queue.events = .timerFired (.period now.iface id) handle :: rest) :
    now.cycleAt .dispatch id = (now.config? id).filter (·.periodTimer = handle) := by
  simp [cycleAt, turn?, hqueue]

theorem cycleAt_tick {handle : TimerHandle} {rest : List Event} {p : Periodic}
    (hqueue : now.world.queue.events = .timerFired (.period now.iface id) handle :: rest)
    (hnow : now.config? id = some p) (hhandle : p.periodTimer = handle) :
    now.cycleAt .dispatch id = some p := by
  rw [cycleAt_period hqueue, hnow, Option.filter_some, if_pos]
  simpa using hhandle

/-- A call runs no cycle of an id that it does not answer. -/
theorem cycleAt_background {settings : Option Settings} {handler : Option Handler}
    (hid : now.answersId (.background settings handler) ≠ some id) :
    now.cycleAt (.background settings handler) id = none := by
  cases settings with
  | none => rfl
  | some settings =>
      cases handler with
      | none => rfl
      | some handler => exact if_neg fun h => hid h.1

theorem cycleAt_of_answer {settings : Option Settings} {handler : Option Handler} {other : ScanId}
    (hanswer : now.answersId (.background settings handler) = some other) (hid : id ≠ other) :
    now.cycleAt (.background settings handler) id = none := by
  apply cycleAt_background
  rw [hanswer]
  exact fun h => hid (Option.some.inj h).symm

/-- A call that hands out an id runs the first cycle of the configuration, if its channels can be
resolved. -/
theorem cycleAt_activated {settings : Settings} {handler : Handler} {request : Request}
    (hanswer : now.answersId (.background (some settings) (some handler)) = some id)
    (hresolve : now.scanner.setup.resolve settings settings.buckets = .ok request) :
    now.cycleAt (.background (some settings) (some handler)) id =
      some { settings, handler, periodTimer := now.world.timers.next } := by
  simp [cycleAt, hanswer, hresolve, Except.isOk, Except.toBool]

theorem cycleAt_unresolved {settings : Settings} {handler : Handler} {error : ScanError}
    (hresolve : now.scanner.setup.resolve settings settings.buckets = .error error) :
    now.cycleAt (.background (some settings) (some handler)) id = none := by
  simp [cycleAt, hresolve, Except.isOk, Except.toBool]

end Station

/-- What a move that runs no cycle does to a configuration that is active before and after. -/
inductive Change (id : ScanId) (now : Station ρ) (move : Move ρ) (next : Station ρ)
    (p : Periodic) : Periodic → Prop where
  | ended {c : Cycle} {e : Ending} (hevent : now.turn? move = some (e.event now.iface))
      (hpending : p.pending = some c)
      (hheard : now.Sole id p.handler → next.world.heard p.handler =
        now.world.heard p.handler ++ e.report c)
      (hrefusals : next.refusals id = now.refusals id) :
      Change id now move next p (p.ended e)
  | expired {c : Cycle} {handle : TimerHandle}
      (hevent : now.turn? move = some (.timerFired (.cycleTimeout now.iface id) handle))
      (hpending : p.pending = some c)
      (hheard : next.world.heard p.handler =
        now.world.heard p.handler ++ [.requestFailed .timeout])
      (hrefusals : next.refusals id = now.refusals id) :
      Change id now move next p p.dropped
  /-- The deferred rejection of the first cycle is delivered. -/
  | told {reason : Reason}
      (hheard : next.world.heard p.handler =
        now.world.heard p.handler ++ [.requestFailed reason])
      (hrefusals : now.refusals id = next.refusals id + 1) :
      Change id now move next p p
  | kept
      (hheard : now.Sole id p.handler → next.world.heard p.handler = now.world.heard p.handler)
      (hrefusals : next.refusals id = now.refusals id) :
      Change id now move next p p

/-- What a move does to the configuration of an id. -/
inductive Turn [Radio ρ] (id : ScanId) (now : Station ρ) (move : Move ρ) (next : Station ρ) :
    Prop where
  | started {settings : Settings} {handler : Handler} {request : Request} {q : Periodic}
      {refusal : Option Reason} {w : World ρ}
      (hmove : move = .background (some settings) (some handler))
      (hid : id = now.scanner.background.nextId) (hanswer : now.answersId move = some id)
      (hcycle : now.cycleAt move id =
        some { settings, handler, periodTimer := now.world.timers.next })
      (hperiodic : settings.isPeriodic = true)
      (hresolve : now.scanner.setup.resolve settings settings.buckets = .ok request)
      (hran : Periodic.Ran now.scanner.setup id
        { settings, handler, periodTimer := now.world.timers.next }
        (now.world.schedule (.period now.iface id) settings.basePeriod.toUInt64).2
        (refusal, q, w))
      (hconfig : next.config? id = some q)
      (hadmissions : next.world.admissions = w.admissions)
      (hheard : ∀ listener, next.world.heard listener = now.world.heard listener)
      (hrefusals : next.refusals id = now.refusals id + refusal.toList.length)
      (hslot : ∀ listener, next.slotHolds listener = now.slotHolds listener)
      (hrejections : ∀ listener, next.rejections listener = now.rejections listener)
  | ticked {handle : TimerHandle} {rest : List Event} {p q : Periodic} {refusal : Option Reason}
      {w : World ρ} (hmove : move = .dispatch)
      (hqueue : now.world.queue.events = .timerFired (.period now.iface id) handle :: rest)
      (hnow : now.config? id = some p) (hcycle : now.cycleAt move id = some p)
      (hran : Periodic.Ran now.scanner.setup id
        { p with periodTimer := now.world.timers.next }
        ((now.world.withEvents rest).schedule (.period now.iface id)
          p.settings.basePeriod.toUInt64).2
        (refusal, q, w))
      (hconfig : next.config? id = some q)
      (hadmissions : next.world.admissions = w.admissions)
      (hheard : next.world.heard p.handler =
        now.world.heard p.handler ++ refusal.toList.map .requestFailed)
      (hrefusals : next.refusals id = now.refusals id)
  | changed {p q : Periodic} (hcycle : now.cycleAt move id = none)
      (hnow : now.config? id = some p) (hconfig : next.config? id = some q)
      (hchange : Change id now move next p q)
  /-- There is no configuration afterwards. -/
  | inactive (hcycle : now.cycleAt move id = none) (hconfig : next.config? id = none)
      (hrefusals : next.refusals id ≤ now.refusals id)

theorem Slot.Passage.heard_of_not_held {handler : Handler} {slot slot' : Slot} {w w' : World ρ}
    (h : Slot.Passage handler slot slot' w w') (hslot : slot.holds handler = false) :
    w'.heard handler = w.heard handler := by
  cases h with
  | kept _ hheard => exact hheard
  | ended _ _ hbefore _ _ => rw [hslot] at hbefore; cases hbefore

theorem Single.Started.countOf [Radio ρ] [NoticeRadio ρ] {setup : Setup} {s : Single}
    {w : World ρ} {settings : Option Settings} {handler : Option Handler}
    {r : Bool × Single × World ρ} (h : Single.Started setup s w settings handler r)
    (hsound : w.Sound) {kind : Event → Bool} (hnotice : ∀ e, e.isNotice = true → kind e = false)
    (hrejected : ∀ iface handler reason, kind (.admissionRejected iface handler reason) = false) :
    r.2.2.queue.countOf kind = w.queue.countOf kind := by
  cases h with
  | refused => rfl
  | unresolved => simp [World.post_countOf _ _ hsound.isOpen, hrejected]
  | @rejected _ _ request =>
      have hopen := (hsound.asked setup.iface request).isOpen
      simp [World.post_countOf _ _ hopen, hrejected, World.asked_countOf hsound.isOpen hnotice]
  | armed => exact World.asked_countOf hsound.isOpen hnotice _ _

section Turns

variable [Radio ρ] {now next : Station ρ} {move : Move ρ} {id : ScanId}

namespace Turn

/-- A move that leaves the configuration of an id as it was and is not heard by its handler. -/
theorem of_same (hcycle : now.cycleAt move id = none)
    (hconfig : next.config? id = now.config? id)
    (hheard : ∀ handler, now.Sole id handler →
      next.world.heard handler = now.world.heard handler)
    (hrefusals : next.refusals id = now.refusals id) : Turn id now move next := by
  cases hnow : now.config? id with
  | none => exact .inactive hcycle (hconfig.trans hnow) (Nat.le_of_eq hrefusals)
  | some p =>
      exact .changed hcycle hnow (hconfig.trans hnow) (.kept (hheard p.handler) hrefusals)

end Turn

namespace Station

omit [Radio ρ] in
/-- Taking an event out of the queue that is no deferred rejection of the configuration. -/
theorem refusals_withEvents (id : ScanId) {e : Event} {rest : List Event} {w : World ρ}
    (hqueue : now.world.queue.events = e :: rest) (he : e.refusesCycle now.iface id = false)
    (hw : (now.world.withEvents rest).Settles w) :
    w.queue.countOf (Event.refusesCycle now.iface id) = now.refusals id := by
  rw [hw.countOf, refusals, World.countOf_withEvents hqueue, he]
  rfl

omit [Radio ρ] in
theorem Sole.head_rejects {handler : Handler} {e : Event} {rest : List Event}
    (h : now.Sole id handler) (hqueue : now.world.queue.events = e :: rest) :
    e.rejects handler = false := by
  have hcount := World.countOf_withEvents hqueue (Event.rejects handler)
  have hnone := h.rejections
  rw [Station.rejections, hcount] at hnone
  cases he : e.rejects handler with
  | false => rfl
  | true => simp [he] at hnone

end Station

namespace Step

variable [NoticeRadio ρ]

theorem turn_background {settings : Option Settings} {handler : Option Handler}
    {answer : Option ScanId} {background : Background} {world : World ρ}
    (hstarted : Background.Started now.scanner.setup now.scanner.background now.world settings
      handler (answer, background, world))
    (hanswer : now.answersId (.background settings handler) = answer) (hsound : now.Sound)
    (hheard : ∀ listener, world.heard listener = now.world.heard listener) (id : ScanId) :
    Turn id now (.background settings handler) ⟨{ now.scanner with background }, world⟩ := by
  have hopen := hsound.world.isOpen
  cases hstarted with
  | refused =>
      exact .of_same (Station.cycleAt_background (by simp [hanswer])) rfl (fun _ _ => rfl) rfl
  | @unresolved settings carried error _ hresolve =>
      refine .of_same (Station.cycleAt_unresolved hresolve) rfl (fun _ _ => hheard _) ?_
      · simp [Station.refusals, World.post_countOf _ _ hopen, Event.refusesCycle, Station.iface,
          Scanner.iface]
  | @activated settings carried request refusal p w hperiodic hresolve hran =>
      have hopen' := ((hsound.world.schedule _ _).ran hran).isOpen
      have hcount : w.queue.countOf (Event.refusesCycle now.iface id) = now.refusals id :=
        hran.countOf hopen (Event.refusesCycle_notice _ _)
      -- The call concerns the id that it hands out and no other.
      by_cases hid : id = now.scanner.background.nextId
      · subst hid
        refine .started rfl rfl hanswer (Station.cycleAt_activated hanswer hresolve) hperiodic
          hresolve hran ?_ ?_ hheard ?_ (fun _ => rfl) ?_
        · simp [Station.config?]
        · cases refusal <;> rfl
        · cases refusal with
          | none => exact hcount
          | some reason =>
              have hkind : (Event.cycleRejected now.iface now.scanner.background.nextId
                  reason).refusesCycle now.iface now.scanner.background.nextId = true := by
                simp [Event.refusesCycle]
              have hpost := World.post_countOf w
                (.cycleRejected now.iface now.scanner.background.nextId reason) hopen'
                (Event.refusesCycle now.iface now.scanner.background.nextId)
              rw [hkind, hcount] at hpost
              exact hpost
        · intro listener
          have hrejections : w.queue.countOf (Event.rejects listener) =
              now.rejections listener := hran.countOf hopen Event.rejects_notice
          cases refusal with
          | none => exact hrejections
          | some reason =>
              exact (World.post_countOf w _ hopen' (Event.rejects listener)).trans hrejections
      · refine .of_same (Station.cycleAt_of_answer hanswer hid) ?_ (fun _ _ => hheard _) ?_
        · simp [Station.config?, hid]
        · cases refusal with
          | none => exact hcount
          | some reason =>
              have hkind : (Event.cycleRejected now.iface now.scanner.background.nextId
                  reason).refusesCycle now.iface id = false := by
                simpa [Event.refusesCycle] using fun h => hid h.symm
              have hpost := World.post_countOf w
                (.cycleRejected now.iface now.scanner.background.nextId reason) hopen'
                (Event.refusesCycle now.iface id)
              rw [hkind, hcount] at hpost
              exact hpost

omit [NoticeRadio ρ] in
theorem turn_finished {e : Ending} {rest : List Event} {single : Single} {world : World ρ}
    (hqueue : now.world.queue.events = e.event now.iface :: rest)
    (hfinished : Single.Finished e now.scanner.single
      (e.fetched now.iface (now.world.withEvents rest)) (single, world)) (id : ScanId) :
    Turn id now .dispatch
      ⟨{ now.scanner with single, background := (now.scanner.background.finish e world).1 },
        (now.scanner.background.finish e world).2⟩ := by
  have hcycle : now.cycleAt .dispatch id = none :=
    Station.cycleAt_other hqueue (by cases e <;> simp [Ending.event])
  have hrefusals := Station.refusals_withEvents id hqueue (by cases e <;> rfl)
    (Background.finish_settles_fetched now.scanner.background hfinished)
  have hconfig := now.scanner.background.finish_find? e world id
  cases hnow : now.config? id with
  | none => exact .inactive hcycle (hconfig.trans (congrArg _ hnow)) (Nat.le_of_eq hrefusals)
  | some p =>
      have hconfig' := hconfig.trans (congrArg (Option.map _) hnow)
      -- Neither the slot nor another configuration has the handler, so it hears of this cycle only.
      have hheard (hsole : now.Sole id p.handler) := by
        have hall := Background.heard_finish hnow hsole.config e world
        rw [hfinished.passage.heard_of_not_held hsole.slot, Ending.heard_fetched] at hall
        exact hall
      cases hpending : p.pending with
      | none =>
          rw [Option.map_some, Periodic.ended_of_idle hpending] at hconfig'
          refine .changed hcycle hnow hconfig' (.kept ?_ hrefusals)
          intro hsole
          refine (hheard hsole).trans ?_
          simp only [Periodic.reports, hpending]
          exact List.append_nil _
      | some c =>
          have hevent : now.turn? .dispatch = some (e.event now.iface) := by
            simp [Station.turn?, hqueue]
          refine .changed hcycle hnow hconfig' (.ended hevent hpending ?_ hrefusals)
          intro hsole
          refine (hheard hsole).trans ?_
          simp only [Periodic.reports, hpending]
          rfl

theorem turn_period {tagged : ScanId} {handle : TimerHandle} {rest : List Event}
    {background : Background} {world : World ρ} (hsound : now.Sound)
    (hqueue : now.world.queue.events = .timerFired (.period now.iface tagged) handle :: rest)
    (hticked : Background.Ticked now.scanner.setup now.scanner.background tagged handle
      (now.world.withEvents rest) (background, world)) (id : ScanId) :
    Turn id now .dispatch ⟨{ now.scanner with background }, world⟩ := by
  have hpopped := Station.refusals_withEvents id hqueue rfl (.refl _)
  cases hticked with
  | stale hstale =>
      refine .of_same ?_ rfl (fun _ _ => rfl) hpopped
      by_cases hid : id = tagged
      · subst hid
        rw [Station.cycleAt_period hqueue]
        simpa [Option.filter_eq_none_iff, Station.config?] using hstale
      · exact Station.cycleAt_other hqueue fun handle' heq => hid (by simp_all)
  | @ticked p q refusal w hfind hhandle hran =>
      have hcallbacks : w.callbacks = now.world.callbacks := by
        rw [hran.callbacks, World.schedule_callbacks]
        rfl
      have hcount : w.queue.countOf (Event.refusesCycle now.iface id) = now.refusals id :=
        (hran.countOf hsound.world.isOpen (Event.refusesCycle_notice _ _)).trans hpopped
      by_cases hid : id = tagged
      · subst hid
        have hnow : now.config? id = some p := hfind
        refine .ticked rfl hqueue hnow (Station.cycleAt_tick hqueue hnow hhandle) hran
          ?_ ?_ ?_ ?_
        · simp [Station.config?]
        · cases refusal with
          | none => rfl
          | some reason => exact World.notify_admissions _ _ _
        · have hown : q.handler = p.handler := hran.handler
          cases refusal with
          | none => simp [World.heard_congr hcallbacks]
          | some reason => simp [World.heard_notify, hown, World.heard_congr hcallbacks]
        · cases refusal with
          | none => exact hcount
          | some reason => exact hcount
      · refine .of_same ?_ ?_ ?_ ?_
        · exact Station.cycleAt_other hqueue fun handle' heq => hid (by simp_all)
        · simp [Station.config?, hid]
        · intro handler hsole
          have hne : q.handler ≠ handler := by
            rw [hran.handler]
            exact fun h => hid (hsole.config tagged p hfind h).symm
          cases refusal with
          | none => exact World.heard_congr hcallbacks _
          | some reason => simp [World.heard_notify, hne, World.heard_congr hcallbacks]
        · cases refusal with
          | none => exact hcount
          | some reason => exact hcount

omit [NoticeRadio ρ] in
theorem turn_cycleTimeout {tagged : ScanId} {handle : TimerHandle} {rest : List Event}
    {background : Background} {world : World ρ}
    (hqueue : now.world.queue.events =
      .timerFired (.cycleTimeout now.iface tagged) handle :: rest)
    (hexpired : Background.Expired now.scanner.background tagged handle
      (now.world.withEvents rest) (background, world)) (id : ScanId) :
    Turn id now .dispatch ⟨{ now.scanner with background }, world⟩ := by
  have hcycle : now.cycleAt .dispatch id = none := Station.cycleAt_other hqueue (by simp)
  have hrefusals := Station.refusals_withEvents id hqueue rfl hexpired.settles
  cases hexpired with
  | stale => exact .of_same hcycle rfl (fun _ _ => rfl) hrefusals
  | @own p _ hfind hpending =>
      by_cases hid : id = tagged
      · subst hid
        have hevent : now.turn? .dispatch =
            some (.timerFired (.cycleTimeout now.iface id) handle) := by
          simp [Station.turn?, hqueue]
        refine .changed hcycle hfind ?_ (.expired hevent hpending ?_ hrefusals)
        · simp [Station.config?]
        · simp only [World.heard_notify, if_true]
          rfl
      · refine .of_same hcycle ?_ ?_ hrefusals
        · simp [Station.config?, hid]
        · intro handler hsole
          have hne : p.handler ≠ handler := fun h => hid (hsole.config tagged p hfind h).symm
          exact World.heard_notify_of_ne _ _ _ hne

omit [NoticeRadio ρ] in
theorem turn_cycleRejection {rejected : ScanId} {reason : Reason} {rest : List Event}
    (hqueue : now.world.queue.events = .cycleRejected now.iface rejected reason :: rest)
    (id : ScanId) :
    Turn id now .dispatch
      { now with
        world :=
          now.scanner.background.rejectCycle rejected reason (now.world.withEvents rest) } := by
  have hcycle : now.cycleAt .dispatch id = none := Station.cycleAt_other hqueue (by simp)
  have hsettles := Background.rejectCycle_settles now.scanner.background
    (now.world.withEvents rest) rejected reason
  by_cases hid : id = rejected
  · subst hid
    have hkind : (Event.cycleRejected now.iface id reason).refusesCycle now.iface id = true := by
      simp [Event.refusesCycle]
    have hcount : now.refusals id = (now.scanner.background.rejectCycle id reason
        (now.world.withEvents rest)).queue.countOf (Event.refusesCycle now.iface id) + 1 := by
      rw [hsettles.countOf, Station.refusals, World.countOf_withEvents hqueue, hkind]
      rfl
    cases hnow : now.config? id with
    | none => exact .inactive hcycle hnow (by rw [hcount]; exact Nat.le_succ _)
    | some p =>
        have hfind : now.scanner.background.scans.find? id = some p := hnow
        have hheard : (now.scanner.background.rejectCycle id reason
            (now.world.withEvents rest)).heard p.handler =
            now.world.heard p.handler ++ [.requestFailed reason] := by
          rw [Background.heard_rejectCycle, hfind, if_pos (by simp)]
          rfl
        exact .changed hcycle hnow hnow (.told hheard hcount)
  · have hkind : (Event.cycleRejected now.iface rejected reason).refusesCycle now.iface id =
        false := by
      simpa [Event.refusesCycle] using fun h => hid h.symm
    refine .of_same hcycle rfl ?_
      (Station.refusals_withEvents id hqueue hkind hsettles)
    intro handler hsole
    exact Background.heard_rejectCycle_of_ne _ _ _ _ fun p hfind h =>
      hid (hsole.config rejected p hfind h).symm

/-- What a step does to the configuration of an id. -/
theorem turn (hstep : Step now move next) (hsound : now.Sound) (id : ScanId) :
    Turn id now move next := by
  have hnotice := Event.refusesCycle_notice now.iface id
  cases hstep with
  | single hstarted =>
      refine .of_same rfl rfl (fun _ _ => World.heard_congr ?_ _) ?_
      · exact (Step.single hstarted).callbacks_of_isCall rfl
      · exact hstarted.countOf hsound.world hnotice fun _ _ _ => rfl
  | background hstarted hanswer =>
      refine turn_background hstarted hanswer hsound (fun _ => World.heard_congr ?_ _) id
      exact (Step.background hstarted hanswer).callbacks_of_isCall rfl
  | @stopInactive other hfind => exact .of_same rfl rfl (fun _ _ => rfl) rfl
  | @stopActive other p hfind =>
      have hrefusals := (p.disarm_settles now.world).countOf (Event.refusesCycle now.iface id)
      by_cases hid : id = other
      · exact .inactive rfl (by simp [Station.config?, hid]) (Nat.le_of_eq hrefusals)
      · exact .of_same rfl (by simp [Station.config?, hid])
          (fun _ _ => Periodic.heard_disarm _ _ _) hrefusals
  | fireInactive => exact .of_same rfl rfl (fun _ _ => rfl) rfl
  | fire =>
      refine .of_same rfl rfl (fun _ _ => rfl) ?_
      simp only [Station.refusals, Queue.countOf_post hsound.world.isOpen]
      rfl
  | outside =>
      refine .of_same rfl rfl (fun _ _ => World.heard_congr ?_ _) ?_
      · rw [World.callbacks, World.happen_log]
        rfl
      · exact World.happen_countOf _ hsound.world hnotice
  | idle hqueue => exact .of_same (Station.cycleAt_idle hqueue) rfl (fun _ _ => rfl) rfl
  | finished hqueue _ hfinished => exact turn_finished hqueue hfinished id
  | unwanted hqueue =>
      exact .of_same (Station.cycleAt_other hqueue (by simp)) rfl (fun _ _ => rfl)
        (Station.refusals_withEvents id hqueue rfl (.refl _))
  | singleTimeout hqueue hexpired =>
      exact .of_same (Station.cycleAt_other hqueue (by simp)) rfl
        (fun _ hsole => hexpired.passage.heard_of_not_held hsole.slot)
        (Station.refusals_withEvents id hqueue rfl hexpired.settles)
  | period hqueue hticked => exact turn_period hsound hqueue hticked id
  | cycleTimeout hqueue hexpired => exact turn_cycleTimeout hqueue hexpired id
  | @rejection iface carried reason rest hqueue =>
      refine .of_same (Station.cycleAt_other hqueue (by simp)) rfl ?_
        (Station.refusals_withEvents id hqueue rfl (.notify _ _ _))
      intro handler hsole
      have hne : carried ≠ handler := by simpa [Event.rejects] using hsole.head_rejects hqueue
      exact World.heard_notify_of_ne _ _ _ hne
  | cycleRejection hqueue => exact turn_cycleRejection hqueue id
  | @foreign e _ hqueue hiface =>
      refine .of_same (Station.cycleAt_other hqueue ?_) rfl (fun _ _ => rfl)
        (Station.refusals_withEvents id hqueue ?_ (.refl _))
      · intro handle heq
        exact hiface (by rw [heq]; rfl)
      · cases e with
        | cycleRejected other rejected reason =>
            have hne : other ≠ now.iface := fun h => hiface (by rw [h]; rfl)
            simp [Event.refusesCycle, hne]
        | _ => rfl

end Step

end Turns

end WirelessScan
