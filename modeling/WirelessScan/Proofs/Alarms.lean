import WirelessScan.Proofs.Sound

/-!
# No alarm leaks and none is lost

A scanner stores the handles of its alarms: the watchdog of the armed scan, the period timer of
each configuration and the watchdog of its pending cycle. Every active alarm is one of these, under
the tag that belongs to it, and every stored handle is active or has its one expiry in the queue.

An expiry may outlive the request it was meant for. The invariant therefore follows a stored
handle through the active alarms and the queued expiries together, and says nothing about a queued
expiry whose handle is not stored any more.
-/

namespace WirelessScan

variable {ρ : Type}

/-! ## Alarms and expiries -/

/-- The tag and the handle of an expiry. -/
def Event.expiry? : Event → Option (TimerTag × TimerHandle)
  | timerFired tag handle => some (tag, handle)
  | _ => none

/-- Whether an event is an expiry of a handle. -/
def Event.fires (handle : TimerHandle) (e : Event) : Bool :=
  e.expiry?.any fun alarm => alarm.2 = handle

theorem Event.expiry?_notice {e : Event} (he : e.isNotice = true) : e.expiry? = none := by
  cases e with
  | timerFired => cases he
  | _ => rfl

namespace World

/-- The active alarms, each with its tag and handle. -/
def alarms (w : World ρ) : List (TimerTag × TimerHandle) :=
  w.timers.active.map fun a => (a.tag, a.handle)

/-- The expiries that wait in the queue. -/
def expiries (w : World ρ) : List (TimerTag × TimerHandle) :=
  w.queue.events.filterMap Event.expiry?

/-- The active alarms and the queued expiries of a handle. -/
def traces (w : World ρ) (handle : TimerHandle) : List (TimerTag × TimerHandle) :=
  (w.alarms ++ w.expiries).filter fun alarm => alarm.2 = handle

theorem issued_prefix_schedule (w : World ρ) (tag : TimerTag) (millis : UInt64) :
    w.issued <+: (w.schedule tag millis).2.issued := by
  simp

/-- A handle that was handed out only once was not known before. -/
theorem next_not_issued {w : World ρ} {tag : TimerTag} {millis : UInt64}
    (hfresh : (w.schedule tag millis).2.issued.Nodup) : w.timers.next ∉ w.issued := by
  rw [schedule_issued, List.nodup_append] at hfresh
  intro hmem
  exact hfresh.2.2 _ hmem _ (List.mem_singleton.mpr rfl) rfl

/-- The same alarms, expiries and handles. -/
structure SameAlarms (w w' : World ρ) : Prop where
  alarms : w'.alarms = w.alarms
  expiries : w'.expiries = w.expiries
  issued : w'.issued = w.issued

/-- Removing the alarms of another handle removes no trace of a handle. -/
theorem filter_without {handle other : TimerHandle} (hne : handle ≠ other)
    (alarms : List (TimerTag × TimerHandle)) :
    ((alarms.filter fun alarm => alarm.2 ≠ other).filter fun alarm => alarm.2 = handle) =
      alarms.filter fun alarm => alarm.2 = handle := by
  rw [List.filter_filter]
  apply List.filter_congr
  intro alarm _
  by_cases heq : alarm.2 = handle <;> simp [heq, hne]

theorem expiries_post {e : Event} (he : e.expiry? = none) (w : World ρ) :
    (w.post e).expiries = w.expiries := by
  simp only [expiries, post, Queue.post]
  split <;> simp [he]

namespace SameAlarms

variable {w w' w'' : World ρ}

theorem trans (h : w.SameAlarms w') (h' : w'.SameAlarms w'') : w.SameAlarms w'' :=
  ⟨h'.alarms.trans h.alarms, h'.expiries.trans h.expiries, h'.issued.trans h.issued⟩

theorem notify (w : World ρ) (handler : Handler) (c : Callback) :
    w.SameAlarms (w.notify handler c) :=
  ⟨rfl, rfl, notify_issued w handler c⟩

theorem notifyAll (w : World ρ) (handler : Handler) (cs : List Callback) :
    w.SameAlarms (w.notifyAll handler cs) :=
  ⟨by simp [World.alarms], by simp [World.expiries], notifyAll_issued w handler cs⟩

theorem fetch [Radio ρ] (w : World ρ) (iface : String) : w.SameAlarms (w.fetch iface).2 :=
  ⟨rfl, rfl, fetch_issued w iface⟩

theorem fetched [Radio ρ] (e : Ending) (iface : String) (w : World ρ) :
    w.SameAlarms (e.fetched iface w) := by
  cases e with
  | results raw => exact .fetch w iface
  | failure reason => exact ⟨rfl, rfl, rfl⟩

theorem post {e : Event} (he : e.expiry? = none) (w : World ρ) : w.SameAlarms (w.post e) :=
  ⟨rfl, expiries_post he w, rfl⟩

theorem asked [Radio ρ] [NoticeRadio ρ] (hw : w.Sound) (iface : String) (request : Request) :
    w.SameAlarms (w.asked iface request) := by
  refine ⟨rfl, ?_, asked_issued w iface request⟩
  have hposted : (Radio.issue w.radio w.clock iface request).posted.filterMap Event.expiry? = [] :=
    List.filterMap_eq_nil_iff.mpr fun e he =>
      Event.expiry?_notice (NoticeRadio.posted w.radio w.clock iface request e he)
  have hopen : w.queue.isOpen = true := hw.isOpen
  simp [World.expiries, World.asked, issue, readClock, record, Queue.foldl_post hopen, hposted]

theorem happen (hw : w.Sound) (happening : Happening ρ) : w.SameAlarms (w.happen happening) := by
  have htimers := World.happen_timers w happening
  have hlog := World.happen_log w happening
  refine ⟨by rw [World.alarms, htimers]; rfl, ?_, by rw [World.issued, hlog]; rfl⟩
  cases happening with
  | results iface => exact expiries_post rfl w
  | failure iface reason => exact expiries_post rfl w
  | arrival n =>
      simp only [World.happen]
      split
      next hn => exact expiries_post (Event.expiry?_notice (hw.notices n hn)) w
      next => rfl
  | _ => rfl

end SameAlarms

/-! ## The invariant -/

/-- The stored handles account for the alarms: each active alarm is stored under its tag, and each
stored handle has left exactly one trace, an alarm or an expiry with its tag. -/
structure Keeps (w : World ρ) (stored : TimerTag → Option TimerHandle) : Prop where
  known : ∀ alarm ∈ w.alarms ++ w.expiries, alarm.2 ∈ w.issued
  owned : ∀ alarm ∈ w.alarms, stored alarm.1 = some alarm.2
  once : ∀ tag handle, stored tag = some handle → w.traces handle = [(tag, handle)]

namespace Keeps

variable {w w' : World ρ} {stored stored' : TimerTag → Option TimerHandle} {tag tag' : TimerTag}
  {handle : TimerHandle}

theorem mem_issued (h : w.Keeps stored) (hstored : stored tag = some handle) :
    handle ∈ w.issued := by
  have hmem : (tag, handle) ∈ w.traces handle := by simp [h.once _ _ hstored]
  exact h.known _ (List.mem_filter.mp hmem).1

/-- A handle is stored under one tag. -/
theorem inj (h : w.Keeps stored) (hstored : stored tag = some handle)
    (hstored' : stored tag' = some handle) : tag' = tag := by
  have heq : [(tag', handle)] = [(tag, handle)] :=
    (h.once _ _ hstored').symm.trans (h.once _ _ hstored)
  simpa using heq

/-- An expiry of a stored handle has its tag. -/
theorem tag_eq (h : w.Keeps stored) (hstored : stored tag = some handle)
    (hmem : (tag', handle) ∈ w.expiries) : tag' = tag := by
  have htrace : (tag', handle) ∈ w.traces handle := by
    simp [traces, hmem]
  rw [h.once _ _ hstored] at htrace
  simpa using htrace

theorem congr (h : w.Keeps stored) (hsame : w.SameAlarms w') : w'.Keeps stored where
  known alarm halarm := by
    rw [hsame.issued]
    rw [hsame.alarms, hsame.expiries] at halarm
    exact h.known alarm halarm
  owned alarm halarm := h.owned alarm (hsame.alarms ▸ halarm)
  once tag handle hstored := by
    rw [traces, hsame.alarms, hsame.expiries]
    exact h.once tag handle hstored

/-- A new alarm under a tag that stores no handle. -/
theorem schedule (h : w.Keeps stored) (tag : TimerTag) (hfresh : w.timers.next ∉ w.issued)
    (hnone : stored tag = none)
    (hstored : ∀ t, stored' t = if t = tag then some w.timers.next else stored t)
    (millis : UInt64) : (w.schedule tag millis).2.Keeps stored' := by
  have halarms : (w.schedule tag millis).2.alarms = w.alarms ++ [(tag, w.timers.next)] := by
    simp [alarms]
  have hexpiries : (w.schedule tag millis).2.expiries = w.expiries := rfl
  refine ⟨?_, ?_, ?_⟩
  · intro alarm halarm
    rw [schedule_issued]
    simp only [halarms, hexpiries, List.mem_append, List.mem_singleton] at halarm ⊢
    rcases halarm with (halarm | rfl) | halarm
    · exact .inl (h.known alarm (List.mem_append_left _ halarm))
    · exact .inr rfl
    · exact .inl (h.known alarm (List.mem_append_right _ halarm))
  · intro alarm halarm
    rw [halarms] at halarm
    rw [hstored]
    rcases List.mem_append.mp halarm with hold | hnew
    · have howned := h.owned alarm hold
      have hne : alarm.1 ≠ tag := fun heq => by simp [heq, hnone] at howned
      rw [if_neg hne, howned]
    · obtain rfl := List.mem_singleton.mp hnew
      rw [if_pos rfl]
  · intro t handle ht
    rw [hstored] at ht
    rw [traces, halarms, hexpiries]
    split at ht
    next heq =>
      -- Every trace has a handle that was handed out, so the new handle has left none yet.
      obtain rfl := Option.some.inj ht
      subst heq
      have hnew : ∀ alarm ∈ w.alarms ++ w.expiries, alarm.2 ≠ w.timers.next :=
        fun alarm halarm heq => hfresh (heq ▸ h.known alarm halarm)
      have hnone' : w.traces w.timers.next = [] :=
        List.filter_eq_nil_iff.mpr fun alarm halarm => by simpa using hnew alarm halarm
      simp only [traces, List.filter_append, List.append_eq_nil_iff] at hnone'
      simp [List.filter_append, hnone']
    next =>
      have hne : w.timers.next ≠ handle := fun heq => hfresh (heq ▸ h.mem_issued ht)
      have honce := h.once t handle ht
      simpa [traces, List.filter_append, hne] using honce

/-- Cancelling a stored alarm and forgetting its handle. -/
theorem cancel (h : w.Keeps stored) (hhandle : stored tag = some handle)
    (hstored : ∀ t, stored' t = if t = tag then none else stored t) :
    (w.cancel handle).Keeps stored' := by
  have halarms : (w.cancel handle).alarms = w.alarms.filter fun alarm => alarm.2 ≠ handle := by
    simp [alarms, List.filter_map, Function.comp_def]
  have hexpiries : (w.cancel handle).expiries = w.expiries := rfl
  refine ⟨?_, ?_, ?_⟩
  · intro alarm halarm
    rw [cancel_issued]
    apply h.known alarm
    simp only [halarms, hexpiries, List.mem_append, List.mem_filter] at halarm ⊢
    rcases halarm with halarm | halarm
    · exact .inl halarm.1
    · exact .inr halarm
  · intro alarm halarm
    simp only [halarms, List.mem_filter, decide_eq_true_eq] at halarm
    have howned := h.owned alarm halarm.1
    have hne : alarm.1 ≠ tag := by
      intro heq
      rw [heq, hhandle] at howned
      exact halarm.2 (Option.some.inj howned).symm
    rw [hstored, if_neg hne, howned]
  · intro t handle' ht
    rw [hstored] at ht
    split at ht
    · cases ht
    next hne =>
      -- No handle is stored twice, so what is removed is no trace of another stored handle.
      have hne' : handle' ≠ handle := fun heq => hne (h.inj hhandle (heq ▸ ht))
      have honce := h.once t handle' ht
      rw [traces, List.filter_append] at honce
      rw [traces, halarms, hexpiries, List.filter_append, filter_without hne', honce]

/-- An alarm turns into an expiry at the end of the queue. -/
theorem fire (h : w.Keeps stored) (hopen : w.queue.isOpen = true) {a : Alarm}
    (hactive : a ∈ w.timers.active)
    (hw' : w' = { w with
      timers := w.timers.cancel a.handle
      queue := w.queue.post (.timerFired a.tag a.handle) }) : w'.Keeps stored := by
  have hmem : (a.tag, a.handle) ∈ w.alarms := List.mem_map.mpr ⟨a, hactive, rfl⟩
  have halarms : w'.alarms = w.alarms.filter fun alarm => alarm.2 ≠ a.handle := by
    simp [hw', alarms, Timers.cancel, List.filter_map, Function.comp_def]
  have hexpiries : w'.expiries = w.expiries ++ [(a.tag, a.handle)] := by
    simp [hw', expiries, Queue.post, hopen, Event.expiry?]
  have hissued : w'.issued = w.issued := by rw [hw']; rfl
  refine ⟨?_, ?_, ?_⟩
  · intro alarm halarm
    rw [hissued]
    apply h.known alarm
    simp only [halarms, hexpiries, List.mem_append, List.mem_filter, List.mem_singleton]
      at halarm ⊢
    rcases halarm with halarm | halarm | rfl
    · exact .inl halarm.1
    · exact .inr halarm
    · exact .inl hmem
  · intro alarm halarm
    rw [halarms] at halarm
    exact h.owned alarm (List.mem_filter.mp halarm).1
  · intro t handle ht
    have honce := h.once t handle ht
    rw [traces, List.filter_append] at honce
    rw [traces, halarms, hexpiries, List.filter_append, List.filter_append]
    by_cases heq : handle = a.handle
    · -- The one trace of the handle is the alarm that expires.
      subst heq
      have hin : (a.tag, a.handle) ∈ w.alarms.filter fun alarm => alarm.2 = a.handle := by
        simpa using hmem
      have hlen := congrArg List.length honce
      rw [List.length_append] at hlen
      have hpos := List.length_pos_of_mem hin
      have hqueued : (w.expiries.filter fun alarm => alarm.2 = a.handle) = [] := by
        apply List.eq_nil_of_length_eq_zero
        simp only [List.length_cons, List.length_nil] at hlen
        omega
      have htag : t = a.tag := (h.inj ht (h.owned _ hmem)).symm
      simp [hqueued, htag]
    · have hne : a.handle ≠ handle := fun h => heq h.symm
      rw [filter_without heq]
      simpa [hne] using honce

/-- Taking an event out of the queue that is no expiry of a stored handle. -/
theorem popStale (h : w.Keeps stored) {e : Event} {rest : List Event}
    (hqueue : w.queue.events = e :: rest)
    (hstale : ∀ alarm, e.expiry? = some alarm → stored alarm.1 ≠ some alarm.2) :
    (w.withEvents rest).Keeps stored := by
  have hexpiries : w.expiries = e.expiry?.toList ++ (w.withEvents rest).expiries := by
    rw [expiries, hqueue, List.filterMap_cons]
    cases e.expiry? <;> rfl
  have halarms : (w.withEvents rest).alarms = w.alarms := rfl
  refine ⟨?_, h.owned, ?_⟩
  · intro alarm halarm
    apply h.known alarm
    rw [halarms, List.mem_append] at halarm
    rw [hexpiries, List.mem_append, List.mem_append]
    rcases halarm with halarm | halarm
    · exact .inl halarm
    · exact .inr (.inr halarm)
  · intro t handle ht
    have honce := h.once t handle ht
    rw [traces, hexpiries] at honce
    rw [traces, halarms]
    cases hexpiry : e.expiry? with
    | none => simpa [hexpiry] using honce
    | some alarm =>
        -- An expiry of a stored handle has its tag, and then it would not be stale.
        have hne : alarm.2 ≠ handle := by
          intro heq
          have hmem : (alarm.1, handle) ∈ w.expiries := by
            rw [hexpiries, hexpiry, ← heq]
            simp
          apply hstale alarm hexpiry
          rw [h.tag_eq ht hmem, ht, heq]
        simpa [hexpiry, List.filter_append, hne] using honce

/-- Taking the expiry of a stored handle out of the queue and forgetting the handle. -/
theorem popStored (h : w.Keeps stored) {rest : List Event}
    (hqueue : w.queue.events = .timerFired tag handle :: rest)
    (hhandle : stored tag = some handle)
    (hstored : ∀ t, stored' t = if t = tag then none else stored t) :
    (w.withEvents rest).Keeps stored' := by
  have hexpiries : w.expiries = (tag, handle) :: (w.withEvents rest).expiries := by
    rw [expiries, hqueue]
    rfl
  have halarms : (w.withEvents rest).alarms = w.alarms := rfl
  -- The one trace of the handle is the expiry, so no alarm has the handle.
  have honce := h.once tag handle hhandle
  rw [traces, List.filter_append, hexpiries] at honce
  have hlen := congrArg List.length honce
  simp only [List.filter_cons, decide_true, if_true, List.length_append, List.length_cons,
    List.length_nil] at hlen
  have hinactive : ∀ alarm ∈ w.alarms, alarm.2 ≠ handle := by
    have hnil : (w.alarms.filter fun alarm => alarm.2 = handle) = [] :=
      List.eq_nil_of_length_eq_zero (by omega)
    simpa using hnil
  refine ⟨?_, ?_, ?_⟩
  · intro alarm halarm
    apply h.known alarm
    rw [halarms, List.mem_append] at halarm
    rw [hexpiries, List.mem_append, List.mem_cons]
    rcases halarm with halarm | halarm
    · exact .inl halarm
    · exact .inr (.inr halarm)
  · intro alarm halarm
    have howned := h.owned alarm halarm
    have hne : alarm.1 ≠ tag := by
      intro heq
      rw [heq, hhandle] at howned
      exact hinactive alarm halarm (Option.some.inj howned).symm
    rw [hstored, if_neg hne, howned]
  · intro t handle' ht
    rw [hstored] at ht
    split at ht
    · cases ht
    next hne =>
      have hne' : handle ≠ handle' := fun heq => hne (h.inj hhandle (heq ▸ ht))
      have honce' := h.once t handle' ht
      rw [traces, hexpiries] at honce'
      simpa [traces, halarms, List.filter_append, List.filter_cons, hne'] using honce'

theorem forget_of_none (hnone : stored tag = none) :
    (fun t => if t = tag then none else stored t) = stored := by
  ext1 t
  split
  next ht => rw [ht, hnone]
  next => rfl

/-- Cancelling whatever alarm is stored under a tag. -/
theorem cancelStored (h : w.Keeps stored) (tag : TimerTag)
    (hstored : ∀ t, stored' t = if t = tag then none else stored t) :
    ((stored tag).elim w w.cancel).Keeps stored' := by
  cases hhandle : stored tag with
  | some handle => exact h.cancel hhandle hstored
  | none =>
      rw [funext hstored, forget_of_none hhandle]
      exact h

end Keeps

end World

/-! ## What a scanner stores -/

/-- The watchdog that a slot stores. -/
def Slot.timeout? : Slot → Option TimerHandle
  | armed scan => some scan.timeout
  | _ => none

/-- The watchdog that a configuration stores. -/
def Periodic.timeout? (p : Periodic) : Option TimerHandle :=
  p.pending.map (·.timeout)

/-- The handle that a slot and some configurations store under a tag. -/
def storedBy (iface : String) (slot : Slot) (scans : SortedMap ScanId Periodic) :
    TimerTag → Option TimerHandle
  | .singleTimeout i => if i = iface then slot.timeout? else none
  | .period i id => if i = iface then (scans.find? id).map (·.periodTimer) else none
  | .cycleTimeout i id => if i = iface then (scans.find? id).bind (·.timeout?) else none

section StoredBy

variable {iface : String} {slot slot' : Slot} {scans : SortedMap ScanId Periodic} {id : ScanId}
  {p : Periodic}

theorem storedBy_slot (t : TimerTag) : storedBy iface slot' scans t =
    if t = .singleTimeout iface then slot'.timeout? else storedBy iface slot scans t := by
  cases t with
  | singleTimeout i => by_cases hi : i = iface <;> simp [storedBy, hi]
  | _ => simp [storedBy]

theorem storedBy_insert (t : TimerTag) : storedBy iface slot (scans.insert id p) t =
    if t = .period iface id then some p.periodTimer
    else if t = .cycleTimeout iface id then p.timeout? else storedBy iface slot scans t := by
  cases t with
  | singleTimeout i => simp [storedBy]
  | period i id' => by_cases hi : i = iface <;> by_cases hid : id' = id <;> simp [storedBy, hi, hid]
  | cycleTimeout i id' =>
      by_cases hi : i = iface <;> by_cases hid : id' = id <;> simp [storedBy, hi, hid]

theorem storedBy_erase (t : TimerTag) : storedBy iface slot (scans.erase id) t =
    if t = .cycleTimeout iface id then none
    else if t = .period iface id then none else storedBy iface slot scans t := by
  cases t with
  | singleTimeout i => simp [storedBy]
  | period i id' => by_cases hi : i = iface <;> by_cases hid : id' = id <;> simp [storedBy, hi, hid]
  | cycleTimeout i id' =>
      by_cases hi : i = iface <;> by_cases hid : id' = id <;> simp [storedBy, hi, hid]

theorem storedBy_armed {scan : InFlight} :
    storedBy iface (.armed scan) scans (.singleTimeout iface) = some scan.timeout := by
  simp [storedBy, Slot.timeout?]

theorem storedBy_period : storedBy iface slot scans (.period iface id) =
    (scans.find? id).map (·.periodTimer) := by
  simp [storedBy]

theorem storedBy_cycleTimeout : storedBy iface slot scans (.cycleTimeout iface id) =
    (scans.find? id).bind (·.timeout?) := by
  simp [storedBy]

/-- Replacing a configuration by one that only forgot its pending cycle. -/
theorem storedBy_forget (p' : Periodic) (hfind : scans.find? id = some p)
    (htimer : p'.periodTimer = p.periodTimer) (hnone : p'.timeout? = none) (t : TimerTag) :
    storedBy iface slot (scans.insert id p') t =
      if t = .cycleTimeout iface id then none else storedBy iface slot scans t := by
  rw [storedBy_insert, htimer, hnone]
  split
  next ht => subst ht; simp [storedBy_period, hfind]
  next => rfl

end StoredBy

/-- The handle that a scanner stores under a tag. -/
def Scanner.stored (s : Scanner) : TimerTag → Option TimerHandle :=
  storedBy s.iface s.single.slot s.background.scans

/-- A scanner stores a handle under a tag: the watchdog of its armed scan, the period timer of an
active configuration, or the watchdog of the pending cycle of one. -/
inductive Scanner.Stores (s : Scanner) : TimerTag → TimerHandle → Prop where
  | single {scan : InFlight} (hslot : s.single.slot = .armed scan) :
      Stores s (.singleTimeout s.iface) scan.timeout
  | period {id : ScanId} {p : Periodic} (hfind : s.background.scans.find? id = some p) :
      Stores s (.period s.iface id) p.periodTimer
  | cycle {id : ScanId} {p : Periodic} {c : Cycle}
      (hfind : s.background.scans.find? id = some p) (hpending : p.pending = some c) :
      Stores s (.cycleTimeout s.iface id) c.timeout

theorem Scanner.stores_iff {s : Scanner} {tag : TimerTag} {handle : TimerHandle} :
    s.Stores tag handle ↔ s.stored tag = some handle := by
  constructor
  · intro h
    cases h with
    | single hslot => simp [stored, storedBy, hslot, Slot.timeout?]
    | period hfind => simp [stored, storedBy, hfind]
    | cycle hfind hpending => simp [stored, storedBy, hfind, Periodic.timeout?, hpending]
  · intro h
    cases tag with
    | singleTimeout i =>
        simp only [stored, storedBy] at h
        split at h
        next hi =>
          subst hi
          cases hslot : s.single.slot with
          | armed scan =>
              obtain rfl : scan.timeout = handle := by simpa [hslot, Slot.timeout?] using h
              exact .single hslot
          | _ => simp [hslot, Slot.timeout?] at h
        next => cases h
    | period i id =>
        simp only [stored, storedBy] at h
        split at h
        next hi =>
          subst hi
          obtain ⟨p, hfind, rfl⟩ := Option.map_eq_some_iff.mp h
          exact .period hfind
        next => cases h
    | cycleTimeout i id =>
        simp only [stored, storedBy] at h
        split at h
        next hi =>
          subst hi
          obtain ⟨p, hfind, htimeout⟩ := Option.bind_eq_some_iff.mp h
          obtain ⟨c, hpending, rfl⟩ := Option.map_eq_some_iff.mp htimeout
          exact .cycle hfind hpending
        next => cases h

/-! ## Operations -/

section Operations

variable {iface : String} {slot : Slot} {scans : SortedMap ScanId Periodic} {w w' : World ρ}

theorem Single.Finished.keeps {e : Ending} {s s' : Single} (hfinished : Finished e s w (s', w'))
    (h : w.Keeps (storedBy iface s.slot scans)) : w'.Keeps (storedBy iface s'.slot scans) := by
  cases hfinished with
  | unarmed => exact h
  | armed hslot =>
      rw [hslot] at h
      exact (h.cancel storedBy_armed storedBy_slot).congr (.notifyAll _ _ _)

/-- The watchdog of a cycle is cancelled as soon as the cycle is over. -/
theorem Periodic.finish_keeps {id : ScanId} {p : Periodic}
    (h : w.Keeps (storedBy iface slot scans)) (hfind : scans.find? id = some p) (e : Ending) :
    (p.finish e w).2.Keeps (storedBy iface slot (scans.insert id (p.finish e w).1)) := by
  have hcancel := h.cancelStored (.cycleTimeout iface id)
    (storedBy_forget (p.ended e) hfind (by simp) (by simp [timeout?]))
  rw [storedBy_cycleTimeout, hfind] at hcancel
  unfold finish
  cases hpending : p.pending with
  | none => simpa [timeout?, hpending] using hcancel
  | some c =>
      simp only [Option.bind_some, timeout?, hpending] at hcancel
      exact hcancel.congr (.notifyAll _ _ _)

theorem Background.finish_keeps {b : Background} (h : w.Keeps (storedBy iface slot b.scans))
    (e : Ending) : (b.finish e w).2.Keeps (storedBy iface slot (b.finish e w).1.scans) := by
  apply SortedMap.mapAccum_induction
    (fun (scans : SortedMap ScanId Periodic) (w : World ρ) =>
      w.Keeps (storedBy iface slot scans)) ?_ b.scans w h
  intro scans w id p hfind hkeeps
  exact Periodic.finish_keeps hkeeps hfind e

theorem Periodic.disarm_keeps {id : ScanId} {p : Periodic}
    (h : w.Keeps (storedBy iface slot scans)) (hfind : scans.find? id = some p) :
    (p.disarm w).Keeps (storedBy iface slot (scans.erase id)) := by
  have hperiod : storedBy iface slot scans (.period iface id) = some p.periodTimer := by
    rw [storedBy_period, hfind]
    rfl
  have hfirst : (w.cancel p.periodTimer).Keeps fun t =>
      if t = .period iface id then none else storedBy iface slot scans t :=
    h.cancel hperiod fun _ => rfl
  have hboth := hfirst.cancelStored (.cycleTimeout iface id) storedBy_erase
  have htimeout : storedBy iface slot scans (.cycleTimeout iface id) = p.timeout? := by
    rw [storedBy_cycleTimeout, hfind]
    rfl
  simp only [reduceCtorEq, if_false, htimeout] at hboth
  unfold disarm
  cases hpending : p.pending with
  | none => simpa [timeout?, hpending] using hboth
  | some c => simpa [timeout?, hpending] using hboth

/-- The period timer of a configuration is armed while none is stored. -/
theorem Periodic.keeps_schedule {id : ScanId} {p : Periodic}
    (h : w.Keeps fun t => if t = .period iface id then none else storedBy iface slot scans t)
    (hfresh : w.timers.next ∉ w.issued) (htimer : p.periodTimer = w.timers.next)
    (htimeout : (scans.find? id).bind (·.timeout?) = p.timeout?) (millis : UInt64) :
    (w.schedule (.period iface id) millis).2.Keeps
      (storedBy iface slot (scans.insert id p)) := by
  refine h.schedule _ hfresh (if_pos rfl) ?_ _
  intro t
  rw [storedBy_insert, htimer]
  split
  next => rfl
  next hperiod =>
    split
    next ht => rw [ht, storedBy_cycleTimeout, htimeout]
    next => rfl

variable [Radio ρ]

theorem Periodic.Ran.issued_prefix {setup : Setup} {id : ScanId} {p p' : Periodic}
    {refusal : Option Reason} (h : Ran setup id p w (refusal, p', w')) :
    w.issued <+: w'.issued := by
  cases h <;> simp

/-- Running a cycle stores the watchdog of an admitted one, and nothing else. -/
theorem Periodic.Ran.keeps [NoticeRadio ρ] {setup : Setup} {id : ScanId} {p p' : Periodic}
    {refusal : Option Reason} (h : Ran setup id p w (refusal, p', w')) (hsound : w.Sound)
    (hkeeps : w.Keeps (storedBy setup.iface slot (scans.insert id p)))
    (hfresh : w'.issued.Nodup) :
    w'.Keeps (storedBy setup.iface slot (scans.insert id p')) := by
  have hadvanced : storedBy setup.iface slot (scans.insert id p.advanced) =
      storedBy setup.iface slot (scans.insert id p) := by
    ext1 t
    rw [storedBy_insert, storedBy_insert]
    rfl
  cases h with
  | skipped => rwa [hadvanced]
  | unresolved => rwa [hadvanced]
  | rejected =>
      rw [hadvanced]
      exact hkeeps.congr (.asked hsound _ _)
  | @admitted request hidle =>
      have hasked := hkeeps.congr (.asked hsound setup.iface request)
      refine hasked.schedule (.cycleTimeout setup.iface id) (World.next_not_issued hfresh) ?_ ?_ _
      · simp [storedBy_insert, timeout?, hidle]
      · intro t
        rw [storedBy_insert, storedBy_insert]
        by_cases hperiod : t = .period setup.iface id
        · subst hperiod
          simp [advanced]
        · rw [if_neg hperiod, if_neg hperiod]
          split <;> rfl

end Operations

/-! ## Every step -/

namespace Step

variable [Radio ρ] {now next : Station ρ} {move : Move ρ}

/-- Handles are only ever handed out. -/
theorem issued_prefix (hstep : Step now move next) : now.world.issued <+: next.world.issued := by
  have hsettles : ∀ {rest : List Event} {w : World ρ}, (now.world.withEvents rest).Settles w →
      now.world.issued <+: w.issued := fun h => by
    rw [h.issued]
    exact List.prefix_refl _
  cases hstep with
  | single hstarted => cases hstarted <;> simp
  | background hstarted =>
      cases hstarted with
      | refused => simp
      | unresolved => simp
      | @activated _ _ _ refusal _ w' _ _ hran =>
          have hran' : now.world.issued <+: w'.issued :=
            (now.world.issued_prefix_schedule _ _).trans hran.issued_prefix
          cases refusal with
          | none => exact hran'
          | some reason => exact hran'
  | stopActive => simp [(Periodic.disarm_settles _ _).issued]
  | outside => simp [World.issued, World.happen_log]
  | finished _ _ hfinished =>
      exact hsettles (Background.finish_settles_fetched _ hfinished)
  | singleTimeout _ hexpired => exact hsettles hexpired.settles
  | period _ hticked =>
      cases hticked with
      | stale => exact List.prefix_refl _
      | @ticked _ _ refusal w' _ _ hran =>
          have hran' : now.world.issued <+: w'.issued :=
            ((now.world.withEvents _).issued_prefix_schedule _ _).trans hran.issued_prefix
          cases refusal with
          | none => exact hran'
          | some reason => simpa using hran'
  | cycleTimeout _ hexpired => exact hsettles hexpired.settles
  | rejection => exact hsettles (.notify _ _ _)
  | cycleRejection =>
      exact hsettles (Background.rejectCycle_settles _ _ _ _)
  | _ => exact List.prefix_refl _

variable [NoticeRadio ρ]

theorem keeps_background {settings : Option Settings} {handler : Option Handler}
    {id : Option ScanId} {background : Background} {world : World ρ}
    (hstarted : Background.Started now.scanner.setup now.scanner.background now.world settings
      handler (id, background, world))
    (hsound : now.world.Sound) (h : now.world.Keeps now.scanner.stored)
    (hfresh : world.issued.Nodup)
    (hunused : now.config? now.scanner.background.nextId = none) :
    world.Keeps (Scanner.stored { now.scanner with background }) := by
  cases hstarted with
  | refused => exact h
  | unresolved => exact h.congr (.post rfl _)
  | @activated settings carried _ refusal p w' _ _ hran =>
      have hfresh' : w'.issued.Nodup := by
        cases refusal with
        | none => exact hfresh
        | some reason => exact hfresh
      have hunstored : now.scanner.stored
          (.period now.scanner.iface now.scanner.background.nextId) = none :=
        storedBy_period.trans (congrArg (Option.map _) hunused)
      -- The id is not in use, so there is no period timer to forget.
      rw [← World.Keeps.forget_of_none hunstored] at h
      have hscheduled := Periodic.keeps_schedule h
        (World.next_not_issued (hran.issued_prefix.sublist.nodup hfresh'))
        (p := { settings, handler := carried, periodTimer := now.world.timers.next }) rfl
        (congrArg (Option.bind · _) hunused) settings.basePeriod.toUInt64
      have hran' := hran.keeps (hsound.schedule _ _) hscheduled hfresh'
      cases refusal with
      | none => exact hran'
      | some reason => exact hran'.congr (.post rfl _)

theorem keeps_period {id : ScanId} {handle : TimerHandle} {rest : List Event}
    {background : Background} {world : World ρ}
    (hqueue : now.world.queue.events = .timerFired (.period now.iface id) handle :: rest)
    (hticked : Background.Ticked now.scanner.setup now.scanner.background id handle
      (now.world.withEvents rest) (background, world))
    (hsound : now.world.Sound) (h : now.world.Keeps now.scanner.stored)
    (hfresh : world.issued.Nodup) :
    world.Keeps (Scanner.stored { now.scanner with background }) := by
  cases hticked with
  | stale hstale =>
      apply h.popStale hqueue
      intro alarm halarm
      obtain rfl := Option.some.inj halarm
      rw [Scanner.stored, Station.iface, storedBy_period]
      intro hstored
      obtain ⟨p, hfind, hhandle⟩ := Option.map_eq_some_iff.mp hstored
      exact hstale p hfind hhandle
  | @ticked p p' refusal w' hfind hhandle hran =>
      have hfresh' : w'.issued.Nodup := by
        cases refusal with
        | none => exact hfresh
        | some reason => simpa using hfresh
      have hstored : now.scanner.stored (.period now.iface id) = some handle := by
        rw [Scanner.stored, Station.iface, storedBy_period, hfind, ← hhandle]
        rfl
      have hpopped : (now.world.withEvents rest).Keeps fun t =>
          if t = .period now.iface id then none else now.scanner.stored t :=
        h.popStored hqueue hstored fun _ => rfl
      have hscheduled := Periodic.keeps_schedule hpopped
        (World.next_not_issued (hran.issued_prefix.sublist.nodup hfresh'))
        (p := { p with periodTimer := now.world.timers.next }) rfl
        (congrArg (Option.bind · _) hfind) p.settings.basePeriod.toUInt64
      have hran' := hran.keeps ((hsound.withEvents rest).schedule _ _) hscheduled hfresh'
      cases refusal with
      | none => exact hran'
      | some reason => exact hran'.congr (.notify _ _ _)

theorem keeps_single {settings : Option Settings} {handler : Option Handler} {accepted : Bool}
    {single : Single} {world : World ρ}
    (hstarted : Single.Started now.scanner.setup now.scanner.single now.world settings handler
      (accepted, single, world))
    (hsound : now.world.Sound) (h : now.world.Keeps now.scanner.stored)
    (hfresh : world.issued.Nodup) :
    world.Keeps (Scanner.stored { now.scanner with single }) := by
  cases hstarted with
  | refused => exact h
  | unresolved => exact h.congr (.post rfl _)
  | rejected hidle =>
      rw [Scanner.stored, hidle] at h
      exact h.congr ((World.SameAlarms.asked hsound _ _).trans (.post rfl _))
  | @armed _ _ request hidle =>
      rw [Scanner.stored, hidle] at h
      have hasked := h.congr (.asked hsound now.scanner.setup.iface request)
      exact hasked.schedule _ (World.next_not_issued hfresh) (by simp [storedBy, Slot.timeout?])
        storedBy_slot _

/-- Every step keeps the alarms accounted for, if its handles are new and the next id is not in
use. -/
theorem keeps (hstep : Step now move next) (hsound : now.world.Sound)
    (h : now.world.Keeps now.scanner.stored) (hfresh : next.world.issued.Nodup)
    (hunused : now.config? now.scanner.background.nextId = none) :
    next.world.Keeps next.scanner.stored := by
  cases hstep with
  | single hstarted => exact keeps_single hstarted hsound h hfresh
  | background hstarted => exact keeps_background hstarted hsound h hfresh hunused
  | stopInactive => exact h
  | stopActive hfind => exact Periodic.disarm_keeps h hfind
  | fireInactive => exact h
  | fire hactive => exact h.fire hsound.isOpen hactive rfl
  | outside => exact h.congr (.happen hsound _)
  | idle => exact h
  | @finished e _ _ _ hqueue _ hfinished =>
      have hpopped := h.popStale hqueue (by cases e <;> simp [Ending.event, Event.expiry?])
      exact Background.finish_keeps (hfinished.keeps (hpopped.congr (.fetched e _ _))) e
  | unwanted hqueue => exact h.popStale hqueue (fun alarm halarm => by cases halarm)
  | singleTimeout hqueue hexpired =>
      cases hexpired with
      | stale hstale =>
          apply h.popStale hqueue
          intro alarm halarm hstored
          obtain rfl := Option.some.inj halarm
          cases Scanner.stores_iff.mpr hstored with
          | single hslot => exact hstale _ hslot rfl
      | own hslot hhandle =>
          subst hhandle
          rw [Scanner.stored, hslot] at h
          exact (h.popStored hqueue storedBy_armed storedBy_slot).congr (.notify _ _ _)
  | period hqueue hticked => exact keeps_period hqueue hticked hsound h hfresh
  | cycleTimeout hqueue hexpired =>
      cases hexpired with
      | stale hstale =>
          apply h.popStale hqueue
          intro alarm halarm hstored
          obtain rfl := Option.some.inj halarm
          cases Scanner.stores_iff.mpr hstored with
          | cycle hfind hpending => exact hstale _ _ hfind hpending rfl
      | @own p c hfind hpending hhandle =>
          subst hhandle
          have hstored : now.scanner.stored (.cycleTimeout now.iface _) = some c.timeout :=
            Scanner.stores_iff.mp (.cycle hfind hpending)
          exact (h.popStored hqueue hstored (storedBy_forget p.dropped hfind rfl rfl)).congr
            (.notify _ _ _)
  | rejection hqueue =>
      exact (h.popStale hqueue (fun alarm halarm => by cases halarm)).congr (.notify _ _ _)
  | cycleRejection hqueue =>
      have hpopped := h.popStale hqueue (fun alarm halarm => by cases halarm)
      simp only [Background.rejectCycle]
      split
      · exact hpopped
      · exact hpopped.congr (.notify _ _ _)
  | @foreign e _ hqueue hiface =>
      apply h.popStale hqueue
      intro alarm halarm hstored
      cases e with
      | timerFired tag handle =>
          obtain rfl := Option.some.inj halarm
          apply hiface
          cases Scanner.stores_iff.mpr hstored <;> rfl
      | _ => cases halarm

end Step

/-! ## Every run -/

/-- An alarm is still to come: it is active and has not expired, or its one expiry is queued. -/
inductive World.Awaits (w : World ρ) (tag : TimerTag) (handle : TimerHandle) : Prop where
  | active (hactive : ∃ a ∈ w.timers.active, a.tag = tag ∧ a.handle = handle)
      (hqueued : w.queue.countOf (Event.fires handle) = 0)
  | expired (hactive : ∀ a ∈ w.timers.active, a.handle ≠ handle)
      (hqueued : w.queue.countOf (Event.fires handle) = 1)
      (hmem : .timerFired tag handle ∈ w.queue.events)

theorem World.countOf_fires (w : World ρ) (handle : TimerHandle) :
    w.queue.countOf (Event.fires handle) =
      (w.expiries.filter fun alarm => alarm.2 = handle).length := by
  rw [Queue.countOf, expiries, ← List.countP_eq_length_filter, List.countP_filterMap]
  apply List.countP_congr
  intro e _
  cases e <;> simp [Event.fires, Event.expiry?]

theorem World.Keeps.awaits {w : World ρ} {stored : TimerTag → Option TimerHandle}
    {tag : TimerTag} {handle : TimerHandle} (h : w.Keeps stored)
    (hstored : stored tag = some handle) : w.Awaits tag handle := by
  have honce := h.once tag handle hstored
  rw [traces, List.filter_append, List.append_eq_singleton_iff] at honce
  rcases honce with ⟨hinactive, hexpired⟩ | ⟨hactive, hunexpired⟩
  · refine .expired ?_ (by rw [countOf_fires, hexpired]; rfl) ?_
    · intro a ha
      have hmem : (a.tag, a.handle) ∈ w.alarms := List.mem_map.mpr ⟨a, ha, rfl⟩
      simpa using List.filter_eq_nil_iff.mp hinactive _ hmem
    · have hmem : (tag, handle) ∈ w.expiries := by
        have hin : (tag, handle) ∈ w.expiries.filter fun alarm => alarm.2 = handle := by
          simp [hexpired]
        exact (List.mem_filter.mp hin).1
      obtain ⟨e, he, hexpiry⟩ := List.mem_filterMap.mp hmem
      cases e with
      | timerFired tag' handle' =>
          obtain ⟨rfl, rfl⟩ : tag' = tag ∧ handle' = handle := by
            simpa [Event.expiry?] using hexpiry
          exact he
      | _ => cases hexpiry
  · refine .active ?_ (by rw [countOf_fires, hunexpired]; rfl)
    have hmem : (tag, handle) ∈ w.alarms := by
      have hin : (tag, handle) ∈ w.alarms.filter fun alarm => alarm.2 = handle := by
        simp [hactive]
      exact (List.mem_filter.mp hin).1
    obtain ⟨a, ha, heq⟩ := List.mem_map.mp hmem
    exact ⟨a, ha, congrArg Prod.fst heq, congrArg Prod.snd heq⟩

namespace Run

variable [Radio ρ] [NoticeRadio ρ]

theorem keeps (run : Run ρ) (hfresh : run.now.world.issued.Nodup)
    (hids : run.ids.length < 2 ^ 32 - 1) : run.now.world.Keeps run.now.scanner.stored := by
  induction run with
  | begin setup radio clock =>
      refine ⟨fun _ h => (List.not_mem_nil h).elim, fun _ h => (List.not_mem_nil h).elim, ?_⟩
      intro tag handle hstored
      cases Scanner.stores_iff.mpr hstored with
      | single hslot => cases hslot
      | period hfind => cases hfind
      | cycle hfind => cases hfind
  | extend run move ih =>
      have hids' : run.ids.length < 2 ^ 32 - 1 := by
        have hle : run.ids.length ≤ (run.extend move).ids.length := by
          simp [ids, collect]
        omega
      have hstep := run.now.step_perform move
      exact hstep.keeps run.sound.world
        (ih (hstep.issued_prefix.sublist.nodup hfresh) hids') hfresh
        ((run.numbered hids').nextId_unused (by omega))

/-- No alarm leaks and none is lost, whatever the order of calls, expiries, notices and turns, as
long as the handles are new and the ids of configurations do not wrap. Every active alarm is stored
under its tag, every stored handle is active or has its one expiry in the queue. Without requests
there is no alarm; every waiting request has a watchdog to come and every configuration a tick. -/
theorem no_alarm_leaks_or_is_lost (run : Run ρ) (hfresh : run.now.world.issued.Nodup)
    (hids : run.ids.length < 2 ^ 32 - 1) :
    (∀ a ∈ run.now.world.timers.active, run.now.scanner.Stores a.tag a.handle) ∧
    (∀ tag handle, run.now.scanner.Stores tag handle → run.now.world.Awaits tag handle) ∧
    (run.now.scanner.single.slot = .idle → (∀ id, run.now.config? id = none) →
      run.now.world.timers.active = []) ∧
    (∀ scan, run.now.scanner.single.slot = .armed scan →
      run.now.world.Awaits (.singleTimeout run.now.iface) scan.timeout) ∧
    (∀ id p, run.now.config? id = some p →
      run.now.world.Awaits (.period run.now.iface id) p.periodTimer ∧
        ∀ c, p.pending = some c →
          run.now.world.Awaits (.cycleTimeout run.now.iface id) c.timeout) := by
  have hkeeps := run.keeps hfresh hids
  have howned : ∀ a ∈ run.now.world.timers.active, run.now.scanner.Stores a.tag a.handle :=
    fun a ha => Scanner.stores_iff.mpr (hkeeps.owned _ (List.mem_map.mpr ⟨a, ha, rfl⟩))
  have hawaits : ∀ tag handle, run.now.scanner.Stores tag handle →
      run.now.world.Awaits tag handle :=
    fun tag handle hstores => hkeeps.awaits (Scanner.stores_iff.mp hstores)
  refine ⟨howned, hawaits, ?_, fun scan hslot => hawaits _ _ (.single hslot),
    fun id p hfind => ⟨hawaits _ _ (.period hfind), fun c hpending =>
      hawaits _ _ (.cycle hfind hpending)⟩⟩
  intro hidle hnone
  apply List.eq_nil_iff_forall_not_mem.mpr
  intro a ha
  obtain ⟨handle, tag, due⟩ := a
  cases howned _ ha with
  | single hslot => rw [hidle] at hslot; cases hslot
  | period hfind => exact absurd ((hnone _).symm.trans hfind) (by simp)
  | cycle hfind => exact absurd ((hnone _).symm.trans hfind) (by simp)

end Run

namespace Sample

/-- A single scan and a configuration that wait for the radio; the tick of the configuration has
expired and is queued. -/
def waiting : Run Replay :=
  run
    [.single (some settings) (some (handler 1)), .background (some settings) (some (handler 2)),
      .fire 2]

theorem waiting_alarms :
    (waiting.now.world.timers.active.map fun a => a.handle) = [1, 3] ∧
      (∀ a ∈ waiting.now.world.timers.active, waiting.now.scanner.Stores a.tag a.handle) ∧
      ∀ tag handle, waiting.now.scanner.Stores tag handle →
        waiting.now.world.Awaits tag handle := by
  have hfresh : waiting.now.world.issued.Nodup := by decide +kernel
  have hids : waiting.ids.length < 2 ^ 32 - 1 := by decide +kernel
  obtain ⟨howned, hawaits, -⟩ := waiting.no_alarm_leaks_or_is_lost hfresh hids
  exact ⟨by decide +kernel, howned, hawaits⟩

end Sample

end WirelessScan
