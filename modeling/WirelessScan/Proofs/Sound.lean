import Mathlib.Algebra.Group.Nat.Defs
import WirelessScan.Proofs.Station

/-!
# What every move respects

Most operations of a scanner touch little of the world. Those that end scans only cancel alarms
and make callbacks (`World.Settles`); those that run a cycle make no callback and post nothing of
their own (`Periodic.Ran`). From this follow the three facts that hold in every run: the queue is
open, every announced event is a notice of the radio, and the slot is idle or armed.
-/

namespace WirelessScan

variable {ρ : Type}

/-! ## Ending scans -/

/-- Nothing but alarms cancelled and callbacks made. -/
structure World.Settles (w w' : World ρ) : Prop where
  queue : w'.queue = w.queue
  notices : w'.notices = w.notices
  callbacks : w.callbacks <+: w'.callbacks
  issued : w'.issued = w.issued
  scheduledFor : ∀ id, w'.scheduledFor id = w.scheduledFor id
  admissions : w'.admissions = w.admissions

namespace World.Settles

variable {w w' w'' : World ρ}

theorem refl (w : World ρ) : w.Settles w :=
  ⟨rfl, rfl, List.prefix_refl _, rfl, fun _ => rfl, rfl⟩

theorem trans (h : w.Settles w') (h' : w'.Settles w'') : w.Settles w'' :=
  ⟨h'.queue.trans h.queue, h'.notices.trans h.notices, h.callbacks.trans h'.callbacks,
    h'.issued.trans h.issued, fun id => (h'.scheduledFor id).trans (h.scheduledFor id),
    h'.admissions.trans h.admissions⟩

theorem cancel (w : World ρ) (handle : TimerHandle) : w.Settles (w.cancel handle) :=
  ⟨rfl, rfl, by simp, cancel_issued w handle, cancel_scheduledFor w handle,
    cancel_admissions w handle⟩

theorem notify (w : World ρ) (handler : Handler) (c : Callback) :
    w.Settles (w.notify handler c) :=
  ⟨rfl, rfl, by simp, notify_issued w handler c, notify_scheduledFor w handler c,
    notify_admissions w handler c⟩

theorem notifyAll (w : World ρ) (handler : Handler) (cs : List Callback) :
    w.Settles (w.notifyAll handler cs) :=
  ⟨notifyAll_queue w handler cs, notifyAll_notices w handler cs, by simp [notifyAll_callbacks],
    notifyAll_issued w handler cs, notifyAll_scheduledFor w handler cs,
    notifyAll_admissions w handler cs⟩

theorem fetch [Radio ρ] (w : World ρ) (iface : String) : w.Settles (w.fetch iface).2 :=
  ⟨rfl, rfl, by simp, fetch_issued w iface, fun id => fetch_scheduledFor w id iface,
    fetch_admissions w iface⟩

theorem countOf (h : w.Settles w') (kind : Event → Bool) :
    w'.queue.countOf kind = w.queue.countOf kind := by
  rw [h.queue]

end World.Settles

theorem Ending.fetched_settles [Radio ρ] (e : Ending) (iface : String) (w : World ρ) :
    w.Settles (e.fetched iface w) := by
  cases e with
  | results raw => exact .fetch w iface
  | failure reason => exact .refl w

namespace Single

variable {s s' : Single} {w w' : World ρ}

theorem Finished.settles {e : Ending} (h : Finished e s w (s', w')) : w.Settles w' := by
  cases h with
  | unarmed => exact .refl w
  | armed => exact (World.Settles.cancel w _).trans (.notifyAll _ _ _)

theorem Expired.settles {handle : TimerHandle} (h : Expired s handle w (s', w')) :
    w.Settles w' := by
  cases h with
  | stale => exact .refl w
  | own => exact .notify _ _ _

end Single

namespace Periodic

variable (p : Periodic) (w : World ρ)

theorem finish_settles (e : Ending) : w.Settles (p.finish e w).2 := by
  unfold finish
  cases p.pending with
  | none => exact .refl w
  | some c => exact (World.Settles.cancel w c.timeout).trans (.notifyAll _ _ _)

theorem disarm_settles : w.Settles (p.disarm w) := by
  unfold disarm
  cases p.pending with
  | none => exact .cancel w p.periodTimer
  | some c => exact (World.Settles.cancel w p.periodTimer).trans (.cancel _ c.timeout)

/-- Disarming cancels the alarms that a configuration stores, and no others. -/
theorem mem_disarm_active {a : Alarm} : a ∈ (p.disarm w).timers.active ↔
    a ∈ w.timers.active ∧ a.handle ≠ p.periodTimer ∧
      ∀ c, p.pending = some c → a.handle ≠ c.timeout := by
  unfold disarm
  cases hpending : p.pending with
  | none => simp
  | some c => simp [and_comm]

end Periodic

namespace Background

variable (b : Background) (w : World ρ)

theorem finish_settles (e : Ending) : w.Settles (b.finish e w).2 :=
  SortedMap.mapAccum_induction (fun _ w' => w.Settles w')
    (fun _ w' _ p _ h => h.trans (p.finish_settles w' e)) b.scans w (.refl w)

theorem Expired.settles {b b' : Background} {w w' : World ρ} {id : ScanId} {handle : TimerHandle}
    (h : Expired b id handle w (b', w')) : w.Settles w' := by
  cases h with
  | stale => exact .refl w
  | own => exact .notify _ _ _

/-- All that the radio ends settles, fetching the results included. -/
theorem finish_settles_fetched [Radio ρ] {e : Ending} {s s' : Single} {iface : String}
    {w w' : World ρ} (h : Single.Finished e s (e.fetched iface w) (s', w')) :
    w.Settles (b.finish e w').2 :=
  (e.fetched_settles iface w).trans (h.settles.trans (b.finish_settles w' e))

theorem rejectCycle_settles (id : ScanId) (reason : Reason) :
    w.Settles (b.rejectCycle id reason w) := by
  unfold rejectCycle
  split
  · exact .refl w
  · exact .notify _ _ _

end Background

/-! ## Running a cycle -/

namespace Periodic.Ran

variable [Radio ρ] {setup : Setup} {id : ScanId} {p p' : Periodic} {w w' : World ρ}
  {refusal : Option Reason}

theorem settings (h : Ran setup id p w (refusal, p', w')) : p'.settings = p.settings := by
  cases h <;> rfl

theorem handler (h : Ran setup id p w (refusal, p', w')) : p'.handler = p.handler := by
  cases h <;> rfl

theorem cycle (h : Ran setup id p w (refusal, p', w')) : p'.cycle = p.cycle + 1 := by
  cases h <;> rfl

theorem callbacks (h : Ran setup id p w (refusal, p', w')) : w'.callbacks = w.callbacks := by
  cases h <;> simp

theorem countOf [NoticeRadio ρ] (h : Ran setup id p w (refusal, p', w'))
    (hopen : w.queue.isOpen = true) {kind : Event → Bool}
    (hkind : ∀ e, e.isNotice = true → kind e = false) :
    w'.queue.countOf kind = w.queue.countOf kind := by
  cases h with
  | skipped => rfl
  | unresolved => rfl
  | rejected => exact World.asked_countOf hopen hkind _ _
  | admitted => exact World.asked_countOf hopen hkind _ _

end Periodic.Ran

/-! ## Open queue and announced notices -/

/-- The queue is open and the radio has announced notices only. -/
structure World.Sound (w : World ρ) : Prop where
  isOpen : w.queue.isOpen = true
  notices : ∀ n ∈ w.notices, n.event.isNotice = true

namespace World.Sound

variable {w w' : World ρ}

theorem settles (hw : w.Sound) (h : w.Settles w') : w'.Sound :=
  ⟨by rw [h.queue]; exact hw.isOpen, by rw [h.notices]; exact hw.notices⟩

theorem withEvents (hw : w.Sound) (events : List Event) : (w.withEvents events).Sound :=
  ⟨hw.isOpen, hw.notices⟩

theorem post (hw : w.Sound) (e : Event) : (w.post e).Sound :=
  ⟨(post_isOpen w e).trans hw.isOpen, hw.notices⟩

theorem schedule (hw : w.Sound) (tag : TimerTag) (millis : UInt64) :
    (w.schedule tag millis).2.Sound :=
  ⟨hw.isOpen, hw.notices⟩

theorem asked [Radio ρ] [NoticeRadio ρ] (hw : w.Sound) (iface : String) (request : Request) :
    (w.asked iface request).Sound :=
  ⟨(asked_isOpen w iface request).trans hw.isOpen, asked_notices hw.notices iface request⟩

theorem ran [Radio ρ] [NoticeRadio ρ] {setup : Setup} {id : ScanId} {p p' : Periodic}
    {refusal : Option Reason} (hw : w.Sound)
    (h : Periodic.Ran setup id p w (refusal, p', w')) : w'.Sound := by
  cases h with
  | skipped => exact hw
  | unresolved => exact hw
  | rejected => exact hw.asked _ _
  | admitted => exact (hw.asked _ _).schedule _ _

end World.Sound

/-! ## Happenings -/

namespace World

variable (w : World ρ) (happening : Happening ρ)

theorem happen_log : (w.happen happening).log = w.log := by
  cases happening with
  | arrival n => simp only [happen]; split <;> rfl
  | _ => rfl

theorem happen_timers : (w.happen happening).timers = w.timers := by
  cases happening with
  | arrival n => simp only [happen]; split <;> rfl
  | _ => rfl

variable {w}

theorem Sound.happen (hw : w.Sound) : (w.happen happening).Sound := by
  cases happening with
  | results iface => exact hw.post _
  | failure iface reason => exact hw.post _
  | arrival n =>
      simp only [World.happen]
      split
      · refine ⟨(post_isOpen w n.event).trans hw.isOpen, ?_⟩
        intro m hm
        exact hw.notices m (List.mem_of_mem_erase hm)
      · exact hw
  | radio radio => exact ⟨hw.isOpen, hw.notices⟩
  | time millis nanos => exact ⟨hw.isOpen, hw.notices⟩

/-- A happening adds no event of a kind that no notice has. -/
theorem happen_countOf (hw : w.Sound) {kind : Event → Bool}
    (hkind : ∀ e, e.isNotice = true → kind e = false) :
    (w.happen happening).queue.countOf kind = w.queue.countOf kind := by
  have hpost : ∀ e, e.isNotice = true →
      (w.queue.post e).countOf kind = w.queue.countOf kind := by
    intro e he
    rw [Queue.countOf_post hw.isOpen, hkind e he]
    rfl
  cases happening with
  | results iface => exact hpost _ rfl
  | failure iface reason => exact hpost _ rfl
  | arrival n =>
      simp only [happen]
      split
      next hn => exact hpost n.event (hw.notices n hn)
      next => rfl
  | _ => rfl

end World

/-! ## Every run -/

/-- What holds of a station at any time. -/
structure Station.Sound (now : Station ρ) : Prop where
  world : now.world.Sound
  settled : now.scanner.single.slot ≠ .requested

namespace Step

variable [Radio ρ] [NoticeRadio ρ] {now next : Station ρ} {move : Move ρ}

theorem world_sound (hstep : Step now move next) (hw : now.world.Sound) : next.world.Sound := by
  cases hstep with
  | single hstarted =>
      cases hstarted with
      | refused => exact hw
      | unresolved => exact hw.post _
      | rejected => exact (hw.asked _ _).post _
      | armed => exact (hw.asked _ _).schedule _ _
  | background hstarted =>
      cases hstarted with
      | refused => exact hw
      | unresolved => exact hw.post _
      | @activated _ _ _ refusal _ _ _ _ hran =>
          have hran' := (hw.schedule _ _).ran hran
          cases refusal with
          | none => exact hran'
          | some reason => exact hran'.post _
  | stopInactive => exact hw
  | stopActive => exact hw.settles (Periodic.disarm_settles _ _)
  | fireInactive => exact hw
  | fire => exact ⟨(World.post_isOpen now.world _).trans hw.isOpen, hw.notices⟩
  | outside => exact hw.happen _
  | idle => exact hw
  | finished _ _ hfinished =>
      exact (hw.withEvents _).settles (Background.finish_settles_fetched _ hfinished)
  | unwanted => exact hw.withEvents _
  | singleTimeout _ hexpired => exact (hw.withEvents _).settles hexpired.settles
  | period _ hticked =>
      cases hticked with
      | stale => exact hw.withEvents _
      | @ticked _ _ refusal _ _ _ hran =>
          have hran' := ((hw.withEvents _).schedule _ _).ran hran
          cases refusal with
          | none => exact hran'
          | some reason => exact hran'.settles (.notify _ _ _)
  | cycleTimeout _ hexpired => exact (hw.withEvents _).settles hexpired.settles
  | rejection => exact (hw.withEvents _).settles (.notify _ _ _)
  | cycleRejection => exact (hw.withEvents _).settles (Background.rejectCycle_settles _ _ _ _)
  | foreign => exact hw.withEvents _

omit [NoticeRadio ρ] in
theorem settled (hstep : Step now move next) (h : now.scanner.single.slot ≠ .requested) :
    next.scanner.single.slot ≠ .requested := by
  cases hstep with
  | single hstarted =>
      cases hstarted with
      | refused => exact h
      | unresolved => exact h
      | rejected => simp
      | armed => simp
  | finished _ _ hfinished =>
      cases hfinished with
      | unarmed => exact h
      | armed => simp
  | singleTimeout _ hexpired =>
      cases hexpired with
      | stale => exact h
      | own => simp
  | _ => exact h

theorem sound (hstep : Step now move next) (h : now.Sound) : next.Sound :=
  ⟨hstep.world_sound h.world, hstep.settled h.settled⟩

omit [NoticeRadio ρ] in
/-- No call makes a callback. -/
theorem callbacks_of_isCall (hstep : Step now move next) (hcall : move.isCall = true) :
    next.world.callbacks = now.world.callbacks := by
  cases hstep with
  | single hstarted => cases hstarted <;> simp
  | background hstarted =>
      cases hstarted with
      | refused => rfl
      | unresolved => rfl
      | @activated _ _ _ refusal _ _ _ _ hran =>
          have hran' := hran.callbacks.trans (World.schedule_callbacks _ _ _)
          cases refusal with
          | none => exact hran'
          | some reason => exact hran'
  | stopInactive => rfl
  | @stopActive _ p =>
      simp only [Periodic.disarm]
      cases p.pending <;> simp
  | _ => cases hcall

omit [NoticeRadio ρ] in
/-- Callbacks are only added to those that were made. -/
theorem callbacks_prefix (hstep : Step now move next) :
    now.world.callbacks <+: next.world.callbacks := by
  cases hstep with
  | single hstarted => simp [(Step.single hstarted).callbacks_of_isCall rfl]
  | background hstarted hid => simp [(Step.background hstarted hid).callbacks_of_isCall rfl]
  | stopInactive => exact List.prefix_refl _
  | stopActive => exact (Periodic.disarm_settles _ _).callbacks
  | fireInactive => exact List.prefix_refl _
  | fire => exact List.prefix_refl _
  | outside => simp [World.callbacks, World.happen_log]
  | idle => exact List.prefix_refl _
  | finished _ _ hfinished => exact (Background.finish_settles_fetched _ hfinished).callbacks
  | unwanted => exact List.prefix_refl _
  | singleTimeout _ hexpired => exact hexpired.settles.callbacks
  | period _ hticked =>
      cases hticked with
      | stale => exact List.prefix_refl _
      | @ticked _ _ refusal w _ _ hran =>
          have hran' : w.callbacks = now.world.callbacks :=
            hran.callbacks.trans (World.schedule_callbacks _ _ _)
          rw [← hran']
          cases refusal with
          | none => exact List.prefix_refl _
          | some reason => exact (World.Settles.notify _ _ _).callbacks
  | cycleTimeout _ hexpired => exact hexpired.settles.callbacks
  | rejection => exact (World.Settles.notify _ _ _).callbacks
  | @cycleRejection id reason rest =>
      exact (now.scanner.background.rejectCycle_settles (now.world.withEvents rest) id
        reason).callbacks
  | foreign => exact List.prefix_refl _

end Step

/-- Between moves the slot is idle or armed, whatever the radio puts on the queue. -/
theorem Run.settled [Radio ρ] (run : Run ρ) : run.now.scanner.single.slot ≠ .requested := by
  induction run with
  | begin setup radio clock => simp [now]
  | extend run move ih => exact (run.now.step_perform move).settled ih

theorem Run.sound [Radio ρ] [NoticeRadio ρ] (run : Run ρ) : run.now.Sound := by
  induction run with
  | begin setup radio clock =>
      refine ⟨⟨rfl, ?_⟩, ?_⟩
      · intro n hn
        simp [now] at hn
      · simp [now]
  | extend run move ih => exact (run.now.step_perform move).sound ih

/-! ## Ids -/

/-- The ids of the configurations are numbers that were handed out, and the next one is not. -/
structure Background.Numbered (b : Background) (count : Nat) : Prop where
  nextId : b.nextId = UInt32.ofNat (count + 1)
  ids : ∀ id p, b.scans.find? id = some p → id.toNat ≤ count

namespace Background.Numbered

variable {b : Background} {count : Nat}

theorem nextId_toNat (h : b.Numbered count) (hcount : count + 1 < 2 ^ 32) :
    b.nextId.toNat = count + 1 := by
  rw [h.nextId, UInt32.toNat_ofNat']
  exact Nat.mod_eq_of_lt hcount

/-- As long as the numbers do not wrap, the next id is not in use. -/
theorem nextId_unused (h : b.Numbered count) (hcount : count + 1 < 2 ^ 32) :
    b.scans.find? b.nextId = none := by
  cases hfind : b.scans.find? b.nextId with
  | none => rfl
  | some p =>
      have hle := h.ids _ p hfind
      rw [h.nextId_toNat hcount] at hle
      omega

theorem nextId_succ (h : b.Numbered count) : b.nextId + 1 = UInt32.ofNat (count + 1 + 1) := by
  rw [h.nextId]
  simp [UInt32.ofNat_add]

end Background.Numbered

theorem Step.numbered [Radio ρ] {now next : Station ρ} {move : Move ρ} {count : Nat}
    (hstep : Step now move next) (h : now.scanner.background.Numbered count)
    (hcount : count + 1 < 2 ^ 32) :
    next.scanner.background.Numbered (count + (now.answersId move).toList.length) := by
  cases hstep with
  | single => exact h
  | background hstarted hid =>
      rw [hid]
      cases hstarted with
      | refused => exact h
      | unresolved => exact ⟨h.nextId_succ, fun id p hfind => Nat.le_succ_of_le (h.ids id p hfind)⟩
      | activated =>
          refine ⟨h.nextId_succ, ?_⟩
          intro id p hfind
          simp only [SortedMap.find?_insert] at hfind
          split at hfind
          next heq => rw [heq, h.nextId_toNat hcount]; exact Nat.le_refl _
          next => exact Nat.le_succ_of_le (h.ids id p hfind)
  | stopActive =>
      refine ⟨h.nextId, ?_⟩
      intro id p hfind
      simp only [SortedMap.find?_erase] at hfind
      split at hfind
      · cases hfind
      · exact h.ids id p hfind
  | finished =>
      refine ⟨h.nextId, ?_⟩
      intro id p hfind
      simp only [Background.finish_find?, Option.map_eq_some_iff] at hfind
      obtain ⟨q, hq, -⟩ := hfind
      exact h.ids id q hq
  | period _ hticked =>
      cases hticked with
      | stale => exact h
      | ticked hfound =>
          refine ⟨h.nextId, ?_⟩
          intro id p hfind
          simp only [SortedMap.find?_insert] at hfind
          split at hfind
          next heq => exact heq ▸ h.ids _ _ hfound
          next => exact h.ids id p hfind
  | cycleTimeout _ hexpired =>
      cases hexpired with
      | stale => exact h
      | own hfound =>
          refine ⟨h.nextId, ?_⟩
          intro id p hfind
          simp only [SortedMap.find?_insert] at hfind
          split at hfind
          next heq => exact heq ▸ h.ids _ _ hfound
          next => exact h.ids id p hfind
  | _ => exact h

/-- Ids are handed out in order. -/
theorem Run.numbered [Radio ρ] (run : Run ρ) (hids : run.ids.length < 2 ^ 32 - 1) :
    run.now.scanner.background.Numbered run.ids.length := by
  induction run with
  | begin setup radio clock => exact ⟨rfl, fun id p hfind => by cases hfind⟩
  | extend run move ih =>
      simp only [ids, collect, List.length_append] at hids ih ⊢
      exact (run.now.step_perform move).numbered (ih (by omega)) (by omega)

end WirelessScan
