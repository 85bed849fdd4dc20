import WirelessScan.Proofs.Alarms

/-!
# The fate of an alarm

A timer service on its own is asked to schedule and to cancel alarms, and its alarms expire. These
steps come in any order, while time passes and somebody takes events from the queue. Of a run it is
marked down which handle was handed out for which tag, which handles were cancelled, and which ones
came to their expiry.

Each alarm waits until the first mark that ends it. If that is its expiry, one event is posted for
it, and if it is a cancellation, none. Whatever is marked for the handle later changes nothing
(`Fate.after`), and a handle never stands for two alarms, as long as the numbers last.

The active alarms are one list here. A service that keeps a task and an entry of a map for each of
them comes to the same, which has a module of its own.
-/

namespace WirelessScan.Timers

variable {ρ : Type}

/-! ## Runs of a timer service -/

/-- What can happen to a timer service. -/
inductive Act where
  | schedule (tag : TimerTag) (millis : UInt64)
  | cancel (handle : TimerHandle)
  /-- The time of an alarm is over. Nothing happens if the handle has no active alarm. -/
  | expire (handle : TimerHandle)
  /-- Time passes, and the clock reads whatever it reads. -/
  | time (millis : Nat) (nanos : UInt64)
  /-- The first event is taken from the queue. -/
  | take

/-- Whether an alarm is scheduled. -/
def Act.isSchedule : Act → Bool
  | schedule .. => true
  | _ => false

/-- What is marked down of a run. -/
inductive Mark where
  /-- A handle was handed out for a tag. -/
  | scheduled (handle : TimerHandle) (tag : TimerTag)
  | cancelled (handle : TimerHandle)
  | expired (handle : TimerHandle)
deriving DecidableEq, Repr

namespace Mark

/-- The handle that a mark is about. -/
def handle : Mark → TimerHandle
  | scheduled h _ => h
  | cancelled h => h
  | expired h => h

/-- The handle that a mark says was handed out. -/
def scheduled? : Mark → Option TimerHandle
  | scheduled handle _ => some handle
  | _ => none

/-- Whether a mark ends the alarm of a handle. -/
def ends (handle : TimerHandle) : Mark → Bool
  | scheduled .. => false
  | cancelled h => h = handle
  | expired h => h = handle

end Mark

/-- A timer service in use: its surroundings, the events that were taken from the queue, and the
marks, all in order. -/
structure Service (ρ : Type) where
  world : World ρ
  taken : List Event := []
  marks : List Mark := []

namespace Service

/-- A new timer service with an open queue. -/
def fresh (radio : ρ) : Service ρ where
  world := { radio }

/-- The service after an act. -/
def act (s : Service ρ) : Act → Service ρ
  | .schedule tag millis =>
      { s with
        world := (s.world.schedule tag millis).2
        marks := s.marks ++ [.scheduled (s.world.schedule tag millis).1 tag] }
  | .cancel handle =>
      { s with world := s.world.cancel handle, marks := s.marks ++ [.cancelled handle] }
  | .expire handle =>
      { s with world := s.world.expire handle, marks := s.marks ++ [.expired handle] }
  | .time millis nanos => { s with world := s.world.happen (.time millis nanos) }
  | .take =>
      match s.world.queue.pop? with
      | none => s
      | some (e, queue) => { s with world := { s.world with queue }, taken := s.taken ++ [e] }

/-- The handles that were handed out, in order. -/
def handles (s : Service ρ) : List TimerHandle :=
  s.marks.filterMap Mark.scheduled?

/-- All events that were ever posted, in order. -/
def posted (s : Service ρ) : List Event :=
  s.taken ++ s.world.queue.events

/-- The expiries that were posted for a handle. -/
def expiriesOf (s : Service ρ) (handle : TimerHandle) : List Event :=
  s.posted.filter (Event.fires handle)

/-- A handle was handed out for a tag, and some marks followed. -/
def Scheduled (s : Service ρ) (tag : TimerTag) (handle : TimerHandle) (since : List Mark) : Prop :=
  ∃ before, s.marks = before ++ .scheduled handle tag :: since

/-- An alarm was scheduled and has neither been cancelled nor expired since. -/
def IsWaiting (s : Service ρ) (tag : TimerTag) (handle : TimerHandle) : Prop :=
  ∃ since, s.Scheduled tag handle since ∧ ∀ m ∈ since, m.ends handle = false

end Service

/-! ## Fates -/

/-- What has become of a handle. -/
inductive Fate where
  /-- It was not handed out yet. -/
  | unknown
  | waiting (tag : TimerTag)
  | cancelled
  | expired (tag : TimerTag)
deriving DecidableEq

namespace Fate

/-- What becomes of a handle by a mark. Only a handle that is still free can be handed out, and
only an alarm that waits can be ended. -/
def after (handle : TimerHandle) : Fate → Mark → Fate
  | unknown, .scheduled h tag => if h = handle then waiting tag else unknown
  | waiting tag, .cancelled h => if h = handle then cancelled else waiting tag
  | waiting tag, .expired h => if h = handle then expired tag else waiting tag
  | fate, _ => fate

/-- The active alarms that a handle of this fate has. -/
def alarms (handle : TimerHandle) : Fate → List (TimerTag × TimerHandle)
  | waiting tag => [(tag, handle)]
  | _ => []

/-- The expiries that were posted for a handle of this fate. -/
def expiries (handle : TimerHandle) : Fate → List Event
  | expired tag => [.timerFired tag handle]
  | _ => []

/-- A mark for another handle makes no difference. -/
theorem after_of_ne {handle : TimerHandle} {m : Mark} (hne : m.handle ≠ handle) (fate : Fate) :
    fate.after handle m = fate := by
  cases m <;> cases fate <;> simp_all [after, Mark.handle]

/-- A handle that no mark hands out stays unknown. -/
theorem foldl_unknown {handle : TimerHandle} {marks : List Mark}
    (hnot : handle ∉ marks.filterMap Mark.scheduled?) :
    marks.foldl (after handle) unknown = unknown := by
  induction marks with
  | nil => rfl
  | cons m rest ih =>
      cases m with
      | scheduled h tag =>
          simp only [List.filterMap_cons, Mark.scheduled?, List.mem_cons, not_or] at hnot
          rw [List.foldl_cons, after, if_neg (Ne.symm hnot.1)]
          exact ih hnot.2
      | cancelled h => exact ih hnot
      | expired h => exact ih hnot

theorem foldl_cancelled (handle : TimerHandle) (marks : List Mark) :
    marks.foldl (after handle) cancelled = cancelled := by
  induction marks with
  | nil => rfl
  | cons m rest ih => exact ih

theorem foldl_expired (handle : TimerHandle) (tag : TimerTag) (marks : List Mark) :
    marks.foldl (after handle) (expired tag) = expired tag := by
  induction marks with
  | nil => rfl
  | cons m rest ih => exact ih

/-- The first mark that ends an alarm decides what becomes of it. -/
theorem foldl_waiting (handle : TimerHandle) (tag : TimerTag) (marks : List Mark) :
    marks.foldl (after handle) (waiting tag) =
      match marks.find? (·.ends handle) with
      | none => waiting tag
      | some (.expired _) => expired tag
      | some _ => cancelled := by
  induction marks with
  | nil => rfl
  | cons m rest ih =>
      cases m with
      | scheduled h t => exact ih
      | cancelled h =>
          by_cases heq : h = handle
          · simp [after, Mark.ends, heq, foldl_cancelled]
          · simp [after, Mark.ends, heq, ih]
      | expired h =>
          by_cases heq : h = handle
          · simp [after, Mark.ends, heq, foldl_expired]
          · simp [after, Mark.ends, heq, ih]

end Fate

namespace Service

/-- What has become of a handle. -/
def fate (s : Service ρ) (handle : TimerHandle) : Fate :=
  s.marks.foldl (Fate.after handle) .unknown

theorem fate_of_not_mem {s : Service ρ} {handle : TimerHandle} (hnot : handle ∉ s.handles) :
    s.fate handle = .unknown :=
  Fate.foldl_unknown hnot

theorem exists_scheduled {s : Service ρ} {handle : TimerHandle} (hmem : handle ∈ s.handles) :
    ∃ tag since, s.Scheduled tag handle since := by
  obtain ⟨m, hm, hscheduled⟩ := List.mem_filterMap.mp hmem
  cases m with
  | scheduled h tag =>
      obtain rfl := Option.some.inj hscheduled
      obtain ⟨before, since, hmarks⟩ := List.append_of_mem hm
      exact ⟨tag, since, before, hmarks⟩
  | cancelled => cases hscheduled
  | expired => cases hscheduled

/-- The marks since an alarm was scheduled tell its fate, if no handle was handed out twice. -/
theorem Scheduled.fate_eq {s : Service ρ} {tag : TimerTag} {handle : TimerHandle}
    {since : List Mark} (h : s.Scheduled tag handle since) (hnodup : s.handles.Nodup) :
    s.fate handle =
      match since.find? (·.ends handle) with
      | none => .waiting tag
      | some (.expired _) => .expired tag
      | some _ => .cancelled := by
  obtain ⟨before, hmarks⟩ := h
  have hnot : handle ∉ before.filterMap Mark.scheduled? := by
    simp only [handles, hmarks, List.filterMap_append, List.filterMap_cons, Mark.scheduled?,
      List.nodup_append] at hnodup
    intro hmem
    exact hnodup.2.2 handle hmem handle List.mem_cons_self rfl
  rw [fate, hmarks, List.foldl_append, Fate.foldl_unknown hnot, List.foldl_cons, Fate.after,
    if_pos rfl]
  exact Fate.foldl_waiting handle tag since

theorem isWaiting_iff {s : Service ρ} (hnodup : s.handles.Nodup) {tag : TimerTag}
    {handle : TimerHandle} : s.IsWaiting tag handle ↔ s.fate handle = .waiting tag := by
  constructor
  · rintro ⟨since, hscheduled, hends⟩
    rw [hscheduled.fate_eq hnodup, List.find?_eq_none.mpr fun m hm => by simp [hends m hm]]
  · intro hfate
    have hmem : handle ∈ s.handles := by
      apply Decidable.byContradiction
      intro hnot
      simp [fate_of_not_mem hnot] at hfate
    obtain ⟨tag', since, hscheduled⟩ := exists_scheduled hmem
    rw [hscheduled.fate_eq hnodup] at hfate
    split at hfate
    next hnone =>
      cases hfate
      refine ⟨since, hscheduled, fun m hm => ?_⟩
      simpa using List.find?_eq_none.mp hnone m hm
    · cases hfate
    · cases hfate

/-! ## The invariant -/

/-- Handles are handed out by number, and of each handle the service has the alarms and has posted
the expiries that belong to its fate. -/
structure Accurate (s : Service ρ) : Prop where
  isOpen : s.world.queue.isOpen = true
  next : s.world.timers.next.toNat = s.handles.length + 1
  below : ∀ handle ∈ s.handles, handle.toNat < s.world.timers.next.toNat
  nodup : s.handles.Nodup
  alarms : ∀ handle, (s.world.alarms.filter fun alarm => alarm.2 = handle) =
    (s.fate handle).alarms handle
  expiries : ∀ handle, s.expiriesOf handle = (s.fate handle).expiries handle
  fired : ∀ e ∈ s.posted, ∃ tag handle, e = .timerFired tag handle

theorem accurate_fresh (radio : ρ) : (fresh radio).Accurate :=
  ⟨rfl, rfl, fun _ h => (List.not_mem_nil h).elim, List.nodup_nil, fun _ => rfl, fun _ => rfl,
    fun _ h => (List.not_mem_nil h).elim⟩

namespace Accurate

variable {s s' : Service ρ}

/-- What an accurate service is said to have may come about in another way. -/
theorem congr (h : s.Accurate) (hopen : s'.world.queue.isOpen = s.world.queue.isOpen)
    (hnext : s'.world.timers.next = s.world.timers.next) (hhandles : s'.handles = s.handles)
    (halarms : s'.world.alarms = s.world.alarms) (hposted : s'.posted = s.posted)
    (hfate : ∀ handle, s'.fate handle = s.fate handle) : s'.Accurate where
  isOpen := hopen.trans h.isOpen
  next := by rw [hnext, hhandles, h.next]
  below := by
    rw [hnext, hhandles]
    exact h.below
  nodup := hhandles ▸ h.nodup
  alarms handle := by rw [halarms, hfate, h.alarms]
  expiries handle := by
    rw [expiriesOf, hposted, hfate]
    exact h.expiries handle
  fired := hposted ▸ h.fired

/-- The number that comes next is free. -/
theorem next_not_mem (h : s.Accurate) : s.world.timers.next ∉ s.handles :=
  fun hmem => Nat.lt_irrefl _ (h.below _ hmem)

theorem schedule (h : s.Accurate) (tag : TimerTag) (millis : UInt64)
    (hfew : s.handles.length + 1 < 2 ^ 64 - 1) : (s.act (.schedule tag millis)).Accurate := by
  have hhandles : (s.act (.schedule tag millis)).handles = s.handles ++ [s.world.timers.next] := by
    simp [act, handles, World.schedule, Timers.schedule, Mark.scheduled?]
  have hnext : (s.act (.schedule tag millis)).world.timers.next.toNat =
      s.world.timers.next.toNat + 1 := by
    have hsmall : s.world.timers.next.toNat + 1 < 2 ^ 64 := by
      rw [h.next]
      omega
    show (s.world.timers.next + 1).toNat = _
    rw [UInt64.toNat_add, UInt64.toNat_one]
    exact Nat.mod_eq_of_lt hsmall
  have halarms : (s.act (.schedule tag millis)).world.alarms =
      s.world.alarms ++ [(tag, s.world.timers.next)] := by
    simp [act, World.alarms]
  have hfate (handle : TimerHandle) : (s.act (.schedule tag millis)).fate handle =
      (s.fate handle).after handle (.scheduled s.world.timers.next tag) := by
    simp [act, fate, World.schedule, Timers.schedule]
  refine ⟨h.isOpen, ?_, ?_, ?_, ?_, ?_, h.fired⟩
  · rw [hnext, hhandles, h.next, List.length_append, List.length_singleton]
  · intro handle hmem
    rw [hnext]
    rw [hhandles] at hmem
    rcases List.mem_append.mp hmem with hold | hnew
    · exact Nat.lt_succ_of_lt (h.below handle hold)
    · rw [List.mem_singleton.mp hnew]
      exact Nat.lt_succ_self _
  · rw [hhandles, List.nodup_append]
    refine ⟨h.nodup, by simp, fun handle hmem other hother heq => h.next_not_mem ?_⟩
    rw [← List.mem_singleton.mp hother, ← heq]
    exact hmem
  · intro handle
    rw [halarms, List.filter_append, h.alarms, hfate]
    by_cases hsame : s.world.timers.next = handle
    · have hunknown : s.fate handle = .unknown := fate_of_not_mem (hsame ▸ h.next_not_mem)
      simp [hsame, hunknown, Fate.after, Fate.alarms]
    · simp [hsame, Fate.after_of_ne (m := .scheduled _ tag) hsame]
  · intro handle
    rw [hfate]
    refine (h.expiries handle).trans ?_
    by_cases hsame : s.world.timers.next = handle
    · have hunknown : s.fate handle = .unknown := fate_of_not_mem (hsame ▸ h.next_not_mem)
      simp [hsame, hunknown, Fate.after, Fate.expiries]
    · rw [Fate.after_of_ne (m := .scheduled _ tag) hsame]

theorem cancel (h : s.Accurate) (handle : TimerHandle) : (s.act (.cancel handle)).Accurate := by
  have hhandles : (s.act (.cancel handle)).handles = s.handles := by
    simp [act, handles, Mark.scheduled?]
  have halarms : (s.act (.cancel handle)).world.alarms =
      s.world.alarms.filter fun alarm => alarm.2 ≠ handle := by
    simp [act, World.alarms, List.filter_map, Function.comp_def]
  have hfate (other : TimerHandle) : (s.act (.cancel handle)).fate other =
      (s.fate other).after other (.cancelled handle) := by
    simp [act, fate]
  refine ⟨h.isOpen, ?_, ?_, ?_, ?_, ?_, h.fired⟩
  · exact hhandles ▸ h.next
  · exact hhandles ▸ h.below
  · exact hhandles ▸ h.nodup
  · intro other
    rw [halarms, hfate]
    by_cases hsame : handle = other
    · subst hsame
      cases s.fate handle <;> simp [List.filter_filter, Fate.after, Fate.alarms]
    · rw [World.filter_without (Ne.symm hsame), h.alarms,
        Fate.after_of_ne (m := .cancelled handle) hsame]
  · intro other
    rw [hfate]
    refine (h.expiries other).trans ?_
    cases s.fate other with
    | waiting tag =>
        simp only [Fate.after]
        split <;> rfl
    | _ => rfl

/-- A handle has an active alarm exactly if it waits, and then under its tag. -/
theorem mem_alarms_iff (h : s.Accurate) {tag : TimerTag} {handle : TimerHandle} :
    (tag, handle) ∈ s.world.alarms ↔ s.fate handle = .waiting tag := by
  have hmem : (tag, handle) ∈ s.world.alarms ↔
      (tag, handle) ∈ s.world.alarms.filter fun alarm => alarm.2 = handle := by
    simp
  rw [hmem, h.alarms]
  cases s.fate handle <;> simp [Fate.alarms, eq_comm]

/-- An expiry without an active alarm is marked, and nothing else happens. -/
theorem expire_of_none (h : s.Accurate) {handle : TimerHandle}
    (hnone : s.world.timers.find? handle = none) : (s.act (.expire handle)).Accurate := by
  have hact : s.act (.expire handle) = { s with marks := s.marks ++ [.expired handle] } := by
    simp [act, World.expire, Timers.expire?, hnone]
  have hfate (other : TimerHandle) :
      (s.fate other).after other (.expired handle) = s.fate other := by
    by_cases hsame : handle = other
    · subst hsame
      cases hwas : s.fate handle with
      | waiting tag =>
          obtain ⟨a, ha, heq⟩ := List.mem_map.mp (h.mem_alarms_iff.mpr hwas)
          have hnot := List.find?_eq_none.mp hnone a ha
          simp [(Prod.mk.inj heq).2] at hnot
      | _ => rfl
    · exact Fate.after_of_ne (m := .expired handle) hsame _
  rw [hact]
  refine h.congr rfl rfl ?_ rfl rfl fun other => ?_
  · simp [handles, Mark.scheduled?]
  · refine Eq.trans ?_ (hfate other)
    simp [fate]

/-- An active alarm expires: it is active no more, and its one expiry is posted. -/
theorem expire_of_some (h : s.Accurate) {handle : TimerHandle} {a : Alarm}
    (hsome : s.world.timers.find? handle = some a) : (s.act (.expire handle)).Accurate := by
  have hhandle : a.handle = handle := by simpa using List.find?_some hsome
  have hwas : s.fate handle = .waiting a.tag := by
    refine h.mem_alarms_iff.mp (List.mem_map.mpr ⟨a, List.mem_of_find?_eq_some hsome, ?_⟩)
    rw [hhandle]
  have hworld : s.world.expire handle = { s.world with
      timers := s.world.timers.cancel handle
      queue := s.world.queue.post (.timerFired a.tag handle) } := by
    simp [World.expire, Timers.expire?, hsome, hhandle]
  have hqueue : (s.act (.expire handle)).world.queue =
      s.world.queue.post (.timerFired a.tag handle) := congrArg World.queue hworld
  have htimers : (s.act (.expire handle)).world.timers = s.world.timers.cancel handle :=
    congrArg World.timers hworld
  have hhandles : (s.act (.expire handle)).handles = s.handles := by
    simp [act, handles, Mark.scheduled?]
  have halarms : (s.act (.expire handle)).world.alarms =
      s.world.alarms.filter fun alarm => alarm.2 ≠ handle := by
    simp [World.alarms, htimers, Timers.cancel, List.filter_map, Function.comp_def]
  have hposted : (s.act (.expire handle)).posted = s.posted ++ [.timerFired a.tag handle] := by
    rw [posted, posted, hqueue, Queue.post, if_pos h.isOpen, List.append_assoc]
    rfl
  have hfate (other : TimerHandle) : (s.act (.expire handle)).fate other =
      if handle = other then .expired a.tag else s.fate other := by
    have hafter : (s.act (.expire handle)).fate other =
        (s.fate other).after other (.expired handle) := by
      simp [act, fate]
    rw [hafter]
    split
    next hsame =>
      simp [← hsame, hwas, Fate.after]
    next hne => exact Fate.after_of_ne (m := .expired handle) hne _
  refine ⟨?_, ?_, ?_, ?_, ?_, ?_, ?_⟩
  · rw [hqueue, Queue.post, if_pos h.isOpen]
    exact h.isOpen
  · rw [htimers, hhandles]
    exact h.next
  · rw [htimers, hhandles]
    exact h.below
  · exact hhandles ▸ h.nodup
  · intro other
    rw [halarms, hfate]
    split
    next hsame => simp [hsame, List.filter_filter, Fate.alarms]
    next hne => rw [World.filter_without (Ne.symm hne), h.alarms]
  · intro other
    have hbefore := h.expiries other
    rw [expiriesOf] at hbefore
    rw [expiriesOf, hposted, List.filter_append, hbefore, hfate]
    split
    next hsame => simp [← hsame, hwas, Fate.expiries, Event.fires, Event.expiry?]
    next hne => simp [Event.fires, Event.expiry?, hne]
  · intro e he
    rw [hposted] at he
    rcases List.mem_append.mp he with hold | hnew
    · exact h.fired e hold
    · exact ⟨a.tag, handle, List.mem_singleton.mp hnew⟩

theorem expire (h : s.Accurate) (handle : TimerHandle) : (s.act (.expire handle)).Accurate := by
  cases hfind : s.world.timers.find? handle with
  | none => exact h.expire_of_none hfind
  | some a => exact h.expire_of_some hfind

/-- Taking an event moves it from the queue to those that were taken. -/
theorem take (h : s.Accurate) : (s.act .take).Accurate := by
  cases hevents : s.world.queue.events with
  | nil =>
      have hact : s.act .take = s := by simp [act, Queue.pop?, hevents]
      rw [hact]
      exact h
  | cons e rest =>
      have hact : s.act .take =
          { s with world := s.world.withEvents rest, taken := s.taken ++ [e] } := by
        simp [act, Queue.pop?, hevents, World.withEvents]
      rw [hact]
      refine h.congr rfl rfl rfl rfl ?_ fun _ => rfl
      rw [posted, posted, hevents, List.append_assoc]
      rfl

end Accurate

theorem length_handles_act (s : Service ρ) (x : Act) :
    (s.act x).handles.length = s.handles.length + if x.isSchedule then 1 else 0 := by
  cases x with
  | take =>
      simp only [act]
      cases s.world.queue.pop? <;> rfl
  | _ => simp [act, handles, Mark.scheduled?, Act.isSchedule]

theorem Accurate.act {s : Service ρ} (h : s.Accurate) (x : Act)
    (hfew : (s.act x).handles.length < 2 ^ 64 - 1) : (s.act x).Accurate := by
  rw [length_handles_act] at hfew
  cases x with
  | schedule tag millis => exact h.schedule tag millis (by simpa [Act.isSchedule] using hfew)
  | cancel handle => exact h.cancel handle
  | expire handle => exact h.expire handle
  | time millis nanos => exact h.congr rfl rfl rfl rfl rfl fun _ => rfl
  | take => exact h.take

/-- An accurate service stays so, as long as the numbers last. -/
theorem Accurate.foldl {s : Service ρ} (h : s.Accurate) {acts : List Act}
    (hfew : s.handles.length + acts.countP Act.isSchedule < 2 ^ 64 - 1) :
    (acts.foldl Service.act s).Accurate := by
  induction acts generalizing s with
  | nil => exact h
  | cons x rest ih =>
      have hlength := length_handles_act s x
      rw [List.countP_cons] at hfew
      exact ih (h.act x (by omega)) (by omega)

/-! ## What an accurate service shows -/

namespace Accurate

variable {s : Service ρ} {tag : TimerTag} {handle : TimerHandle}

/-- No handle has two active alarms. -/
theorem nodup_active (h : s.Accurate) : (s.world.alarms.map Prod.snd).Nodup := by
  rw [List.nodup_iff_count]
  intro handle
  have hcount : (s.world.alarms.map Prod.snd).count handle =
      ((s.fate handle).alarms handle).length := by
    rw [← h.alarms, List.count, List.countP_map, List.countP_eq_length_filter]
    rfl
  rw [hcount]
  cases s.fate handle <;> simp [Fate.alarms]

/-- The number of active alarms is the number of handles that wait. -/
theorem pending_eq (h : s.Accurate) {waiting : List TimerHandle} (hnodup : waiting.Nodup)
    (hwaiting : ∀ handle, handle ∈ waiting ↔ ∃ tag, s.IsWaiting tag handle) :
    s.world.timers.pending = waiting.length := by
  have hmem (handle : TimerHandle) :
      handle ∈ s.world.alarms.map Prod.snd ↔ handle ∈ waiting := by
    rw [hwaiting, List.mem_map]
    constructor
    · rintro ⟨⟨tag, _⟩, halarm, rfl⟩
      exact ⟨tag, (isWaiting_iff h.nodup).mpr (h.mem_alarms_iff.mp halarm)⟩
    · rintro ⟨tag, hiswaiting⟩
      exact ⟨(tag, handle), h.mem_alarms_iff.mpr ((isWaiting_iff h.nodup).mp hiswaiting), rfl⟩
  calc s.world.timers.pending = (s.world.alarms.map Prod.snd).length := by
        simp [Timers.pending, World.alarms]
    _ = waiting.length := ((List.perm_ext_iff_of_nodup h.nodup_active hnodup).mpr hmem).length_eq

/-- The first mark that ends an alarm decides whether an expiry was posted for it. -/
theorem expiriesOf_eq (h : s.Accurate) {since : List Mark}
    (hscheduled : s.Scheduled tag handle since) : s.expiriesOf handle =
      if since.find? (·.ends handle) = some (.expired handle) then [.timerFired tag handle]
      else [] := by
  rw [h.expiries, hscheduled.fate_eq h.nodup]
  cases hfind : since.find? (·.ends handle) with
  | none => rfl
  | some m =>
      cases m with
      | scheduled other t => rfl
      | cancelled other => rfl
      | expired other =>
          have hother : other = handle := by simpa [Mark.ends] using List.find?_some hfind
          simp [hother, Fate.expiries]

/-- Whatever was posted is an expiry of an alarm that was scheduled, with its tag. -/
theorem scheduled_of_posted (h : s.Accurate) {e : Event} (he : e ∈ s.posted) :
    ∃ tag handle since, e = .timerFired tag handle ∧ s.Scheduled tag handle since := by
  obtain ⟨tag, handle, rfl⟩ := h.fired e he
  have hmem : Event.timerFired tag handle ∈ s.expiriesOf handle :=
    List.mem_filter.mpr ⟨he, by simp [Event.fires, Event.expiry?]⟩
  have hknown : handle ∈ s.handles := by
    apply Decidable.byContradiction
    intro hnot
    rw [h.expiries, fate_of_not_mem hnot] at hmem
    cases hmem
  obtain ⟨tag', since, hscheduled⟩ := exists_scheduled hknown
  rw [h.expiriesOf_eq hscheduled] at hmem
  split at hmem
  · obtain ⟨rfl, -⟩ := Event.timerFired.inj (List.mem_singleton.mp hmem)
    exact ⟨tag, handle, since, rfl, hscheduled⟩
  · cases hmem

/-- Cancelling a handle that does not wait is recorded, and nothing else happens. -/
theorem cancel_of_not_waiting (h : s.Accurate) (hnot : ∀ tag, ¬ s.IsWaiting tag handle) :
    s.world.cancel handle = s.world.record (.cancel handle) := by
  have hkeeps : s.world.timers.cancel handle = s.world.timers := by
    rw [Timers.cancel, List.filter_eq_self.mpr]
    intro a ha
    refine decide_eq_true fun hsame => hnot a.tag ?_
    rw [isWaiting_iff h.nodup, ← h.mem_alarms_iff]
    exact List.mem_map.mpr ⟨a, ha, by rw [hsame]⟩
  rw [World.cancel, World.record, hkeeps]

end Accurate

end Service

/-! ## Every run -/

/-- An alarm stays what it was when the alarm of another handle is cancelled. -/
theorem find?_cancel_of_ne (t : Timers) {handle other : TimerHandle} (hne : other ≠ handle) :
    (t.cancel handle).find? other = t.find? other := by
  rw [find?, cancel, List.find?_filter]
  refine congrArg (fun p => t.active.find? p) (funext fun a => ?_)
  by_cases hsame : a.handle = other <;> simp [hsame, hne]

open Service in
/-- A timer service neither loses nor repeats an alarm, nor does it bring one back, whichever alarms
are scheduled, are cancelled and expire in whatever order. Handles never repeat. The active alarms
are exactly those that were scheduled and have neither expired nor been cancelled since, and so many
are pending. For an alarm that expires before it is cancelled one event is posted, with its tag and
handle, and none for any other. To cancel a handle without an active alarm changes nothing but that
the call is recorded, and no cancellation touches another alarm. -/
theorem every_alarm_has_one_fate (radio : ρ) (acts : List Act)
    (hfew : acts.countP Act.isSchedule < 2 ^ 64 - 1) :
    let s := acts.foldl Service.act (.fresh radio)
    s.handles.Nodup ∧
    (∀ tag handle, (tag, handle) ∈ s.world.alarms ↔ s.IsWaiting tag handle) ∧
    (∀ waiting : List TimerHandle, waiting.Nodup →
      (∀ handle, handle ∈ waiting ↔ ∃ tag, s.IsWaiting tag handle) →
      s.world.timers.pending = waiting.length) ∧
    (∀ handle, (s.expiriesOf handle).length ≤ 1) ∧
    (∀ e ∈ s.posted, ∃ tag handle since,
      e = .timerFired tag handle ∧ s.Scheduled tag handle since) ∧
    (∀ tag handle since, s.Scheduled tag handle since →
      s.expiriesOf handle =
        if since.find? (·.ends handle) = some (.expired handle) then [.timerFired tag handle]
        else []) ∧
    (∀ handle, (∀ tag, ¬ s.IsWaiting tag handle) →
      s.world.cancel handle = s.world.record (.cancel handle)) ∧
    (∀ handle other, other ≠ handle →
      (s.world.cancel handle).timers.find? other = s.world.timers.find? other) := by
  intro s
  have h : s.Accurate := (accurate_fresh radio).foldl (by simpa [fresh, handles] using hfew)
  refine ⟨h.nodup, ?_, ?_, ?_, ?_, ?_, ?_, ?_⟩
  · intro tag handle
    rw [h.mem_alarms_iff, isWaiting_iff h.nodup]
  · intro waiting hnodup hwaiting
    exact h.pending_eq hnodup hwaiting
  · intro handle
    rw [h.expiries]
    cases s.fate handle <;> simp [Fate.expiries]
  · intro e he
    exact h.scheduled_of_posted he
  · intro tag handle since hscheduled
    exact h.expiriesOf_eq hscheduled
  · intro handle hnot
    exact h.cancel_of_not_waiting hnot
  · intro handle other hne
    exact find?_cancel_of_ne s.world.timers hne

end WirelessScan.Timers

namespace WirelessScan.Sample

open Timers (Act Service)

/-- Three alarms: the first is cancelled before its time is over, the second one after, and the
third one waits. The event of the second is taken from the queue. -/
def alarms : List Act :=
  [.schedule (.singleTimeout "wlan0") 100, .schedule (.period "wlan0" 1) 100, .cancel 1,
    .expire 1, .expire 2, .take, .cancel 2, .expire 2, .schedule (.singleTimeout "wlan0") 100]

theorem alarms_fates :
    alarms.countP Act.isSchedule < 2 ^ 64 - 1 ∧
      (alarms.foldl Service.act (.fresh ())).handles.Nodup ∧
      (alarms.foldl Service.act (.fresh ())).handles = [1, 2, 3] ∧
      (alarms.foldl Service.act (.fresh ())).IsWaiting (.singleTimeout "wlan0") 3 ∧
      (alarms.foldl Service.act (.fresh ())).expiriesOf 1 = [] ∧
      (alarms.foldl Service.act (.fresh ())).expiriesOf 2 = [.timerFired (.period "wlan0" 1) 2] := by
  have hfew : alarms.countP Act.isSchedule < 2 ^ 64 - 1 := by decide
  obtain ⟨hnodup, hwaiting, -, -, -, hexpiries, -, -⟩ :=
    Timers.every_alarm_has_one_fate () alarms hfew
  refine ⟨hfew, hnodup, by decide, ?_, ?_, ?_⟩
  · exact (hwaiting (.singleTimeout "wlan0") 3).mp (by decide)
  · exact hexpiries (.singleTimeout "wlan0") 1 _ ⟨[], rfl⟩
  · exact hexpiries (.period "wlan0" 1) 2 _
      ⟨[.scheduled 1 (.singleTimeout "wlan0")], rfl⟩

end WirelessScan.Sample
