import Mathlib.Data.List.Nodup
import WirelessScan.Proofs.AlarmFates
import WirelessScan.Proofs.Traversal

/-!
# Alarms as tasks

A timer service can be made of two parts. Each alarm has a task that sleeps until the alarm is due
and then reports its expiry, and a map has the task of each handle whose alarm is pending, so that
it can be aborted. The parts are changed by different steps: a task takes itself out of the map, and
a cancellation takes the task out of the map and aborts it.

The map has exactly the tasks that sleep (`Agrees`). So the two parts say the same as one list of
active alarms, and every run of tasks is a run of the timer service on alarms (`InStep`).
-/

namespace WirelessScan

/-! ## Tasks -/

/-- What has become of a task. -/
inductive TaskState where
  | sleeping
  | aborted
  | finished
deriving DecidableEq, Repr

/-- A task for an alarm. -/
structure AlarmTask where
  id : Nat
  alarm : Alarm
  state : TaskState := .sleeping

namespace AlarmTask

/-- Whether a task still sleeps. -/
def sleeps (task : AlarmTask) : Bool :=
  task.state = .sleeping

/-- The task, if it has that number, in another state. -/
def settle (id : Nat) (state : TaskState) (task : AlarmTask) : AlarmTask :=
  if task.id = id then { task with state } else task

end AlarmTask

/-- A timer service of two parts: the tasks of the pending alarms by handle, and all tasks in the
order in which they were spawned, with the expiries that they sent. -/
structure TaskTimers where
  next : TimerHandle := 1
  pending : SortedMap TimerHandle Nat := ∅
  tasks : List AlarmTask := []
  sent : List Event := []

namespace TaskTimers

/-- Spawns a task and puts it under its handle. -/
def schedule (t : TaskTimers) (tag : TimerTag) (due : Nat) : TaskTimers :=
  { t with
    next := t.next + 1
    pending := t.pending.insert t.next t.tasks.length
    tasks := t.tasks ++ [{ id := t.tasks.length, alarm := ⟨t.next, tag, due⟩ }] }

/-- Takes a handle out of the map, and a task out of its sleep. -/
def release (t : TaskTimers) (handle : TimerHandle) (id : Nat) (state : TaskState) : TaskTimers :=
  { t with pending := t.pending.erase handle, tasks := t.tasks.map (AlarmTask.settle id state) }

/-- Takes the task of a handle out of the map and aborts it. -/
def cancel (t : TaskTimers) (handle : TimerHandle) : TaskTimers :=
  match t.pending.find? handle with
  | none => t
  | some id => t.release handle id .aborted

/-- The sleep of a task is over: it takes itself out of the map and sends its expiry. A task that
was aborted or has finished does not run. -/
def wake (t : TaskTimers) (id : Nat) : TaskTimers :=
  match t.tasks.find? fun task => task.sleeps && task.id = id with
  | none => t
  | some task =>
      { t.release task.alarm.handle id .finished with
        sent := t.sent ++ [.timerFired task.alarm.tag task.alarm.handle] }

/-- What can happen to the service. -/
inductive Act where
  | schedule (tag : TimerTag) (due : Nat)
  | cancel (handle : TimerHandle)
  | wake (id : Nat)

/-- Whether an alarm is scheduled. -/
def Act.isSchedule : Act → Bool
  | schedule .. => true
  | _ => false

/-- The service after an act. -/
def act (t : TaskTimers) : Act → TaskTimers
  | .schedule tag due => t.schedule tag due
  | .cancel handle => t.cancel handle
  | .wake id => t.wake id

/-- The alarms of the tasks that sleep. -/
def timers (t : TaskTimers) : Timers where
  next := t.next
  active := (t.tasks.filter AlarmTask.sleeps).map AlarmTask.alarm

/-! ## The map and the tasks agree -/

/-- Tasks and handles are numbered alike, and the map has the tasks that sleep, each under the
handle of its alarm. -/
structure Agrees (t : TaskTimers) : Prop where
  next : t.next.toNat = t.tasks.length + 1
  ids : t.tasks.map AlarmTask.id = List.range t.tasks.length
  handles : ∀ task ∈ t.tasks, task.alarm.handle.toNat = task.id + 1
  pending : ∀ handle id, t.pending.find? handle = some id ↔
    ∃ task ∈ t.tasks, task.sleeps = true ∧ task.id = id ∧ task.alarm.handle = handle

theorem agrees_empty : Agrees {} where
  next := rfl
  ids := rfl
  handles _ h := (List.not_mem_nil h).elim
  pending handle id := by
    have hnone : (∅ : SortedMap TimerHandle Nat).find? handle = none := rfl
    simp [hnone]

variable {t : TaskTimers} {task other : AlarmTask} {state : TaskState}

theorem settle_id (id : Nat) (state : TaskState) (task : AlarmTask) :
    (task.settle id state).id = task.id := by
  unfold AlarmTask.settle
  split <;> rfl

theorem settle_alarm (id : Nat) (state : TaskState) (task : AlarmTask) :
    (task.settle id state).alarm = task.alarm := by
  unfold AlarmTask.settle
  split <;> rfl

theorem settle_sleeps {id : Nat} (hstate : state ≠ .sleeping) (task : AlarmTask) :
    (task.settle id state).sleeps = (task.sleeps && decide (task.id ≠ id)) := by
  by_cases hid : task.id = id <;> simp [AlarmTask.settle, AlarmTask.sleeps, hid, hstate]

namespace Agrees

theorem handle_eq_iff (h : t.Agrees) (htask : task ∈ t.tasks) (hother : other ∈ t.tasks) :
    task.alarm.handle = other.alarm.handle ↔ task.id = other.id := by
  rw [← UInt64.toNat_inj, h.handles task htask, h.handles other hother]
  omega

theorem nodup_ids (h : t.Agrees) : (t.tasks.map AlarmTask.id).Nodup :=
  h.ids ▸ List.nodup_range

/-- No two tasks share a number. -/
theorem eq_of_id_eq (h : t.Agrees) (htask : task ∈ t.tasks) (hother : other ∈ t.tasks)
    (hid : task.id = other.id) : task = other :=
  List.inj_on_of_nodup_map h.nodup_ids htask hother hid

theorem id_lt (h : t.Agrees) (htask : task ∈ t.tasks) : task.id < t.tasks.length := by
  have hmem : task.id ∈ t.tasks.map AlarmTask.id := List.mem_map_of_mem htask
  rwa [h.ids, List.mem_range] at hmem

/-- A new task has a handle of its own, as long as the numbers last. -/
theorem schedule (h : t.Agrees) (hfew : t.tasks.length + 1 < 2 ^ 64 - 1) (tag : TimerTag)
    (due : Nat) : (t.schedule tag due).Agrees where
  next := by
    have hnext := h.next
    simp only [TaskTimers.schedule, List.length_append, List.length_singleton]
    rw [UInt64.toNat_add, UInt64.toNat_one, Nat.mod_eq_of_lt (by omega), hnext]
  ids := by
    simp only [TaskTimers.schedule, List.map_append, h.ids, List.length_append,
      List.length_singleton, List.range_succ]
    rfl
  handles task htask := by
    rcases List.mem_append.mp htask with hold | hnew
    · exact h.handles task hold
    · rw [List.mem_singleton.mp hnew]
      exact h.next
  pending handle id := by
    simp only [TaskTimers.schedule, SortedMap.find?_insert, List.mem_append, List.mem_singleton]
    split
    next hhandle =>
      constructor
      · intro hid
        exact ⟨_, .inr rfl, rfl, Option.some.inj hid, hhandle.symm⟩
      · rintro ⟨task, hold | rfl, -, rfl, rfl⟩
        · -- The handle of an old task is smaller.
          have hlt := h.id_lt hold
          have hsame := congrArg UInt64.toNat hhandle
          rw [h.handles task hold, h.next] at hsame
          omega
        · rfl
    next hhandle =>
      rw [h.pending]
      constructor
      · rintro ⟨task, hold, hfound⟩
        exact ⟨task, .inl hold, hfound⟩
      · rintro ⟨task, hold | rfl, hfound⟩
        · exact ⟨task, hold, hfound⟩
        · exact absurd hfound.2.2.symm hhandle

/-- A task is taken out of the map when it is taken out of its sleep. -/
theorem release (h : t.Agrees) (htask : task ∈ t.tasks) (hstate : state ≠ .sleeping) :
    (t.release task.alarm.handle task.id state).Agrees where
  next := by simp [TaskTimers.release, h.next]
  ids := by
    simp only [TaskTimers.release, List.map_map, List.length_map, Function.comp_def, settle_id,
      h.ids]
  handles other hother := by
    obtain ⟨before, hbefore, rfl⟩ := List.mem_map.mp hother
    rw [settle_alarm, settle_id]
    exact h.handles before hbefore
  pending handle id := by
    simp only [TaskTimers.release, SortedMap.find?_erase, List.mem_map]
    constructor
    · intro hfound
      split at hfound
      · cases hfound
      next hne =>
        obtain ⟨other, hother, hsleeps, hid, hhandle⟩ := (h.pending handle id).mp hfound
        have hkept : other.id ≠ task.id := by
          intro hsame
          exact hne (hhandle.symm.trans ((h.handle_eq_iff hother htask).mpr hsame))
        refine ⟨_, ⟨other, hother, rfl⟩, ?_, ?_, ?_⟩
        · simp [settle_sleeps hstate, hsleeps, hkept]
        · rw [settle_id, hid]
        · rw [settle_alarm, hhandle]
    · rintro ⟨_, ⟨other, hother, rfl⟩, hsleeps, hid, hhandle⟩
      rw [settle_sleeps hstate, Bool.and_eq_true, decide_eq_true_iff] at hsleeps
      rw [settle_id] at hid
      rw [settle_alarm] at hhandle
      have hne : handle ≠ task.alarm.handle := by
        intro hsame
        exact hsleeps.2 ((h.handle_eq_iff hother htask).mp (hhandle.trans hsame))
      rw [if_neg hne]
      exact (h.pending handle id).mpr ⟨other, hother, hsleeps.1, hid, hhandle⟩

/-- The map counts the active alarms. -/
theorem size_pending (h : t.Agrees) : t.pending.size = t.timers.pending := by
  let entries := (t.tasks.filter AlarmTask.sleeps).map fun task => (task.alarm.handle, task.id)
  have hpending : t.pending.entries.Nodup := by
    refine t.pending.sorted.imp ?_
    rintro e _ hlt rfl
    exact Std.lt_irrefl hlt
  have hentries : entries.Nodup := by
    apply List.Nodup.of_map Prod.snd
    rw [List.map_map]
    exact h.nodup_ids.sublist (List.filter_sublist.map AlarmTask.id)
  have hmem : ∀ e, e ∈ t.pending.entries ↔ e ∈ entries := by
    rintro ⟨handle, id⟩
    rw [← SortedMap.find?_eq_some_iff, h.pending]
    simp only [entries, List.mem_map, List.mem_filter, Prod.mk.injEq]
    constructor
    · rintro ⟨task, htask, hsleeps, hid, hhandle⟩
      exact ⟨task, ⟨htask, hsleeps⟩, hhandle, hid⟩
    · rintro ⟨task, ⟨htask, hsleeps⟩, hhandle, hid⟩
      exact ⟨task, htask, hsleeps, hid, hhandle⟩
  have hlength := ((List.perm_ext_iff_of_nodup hpending hentries).mpr hmem).length_eq
  rw [SortedMap.size, hlength, Timers.pending, timers, List.length_map, List.length_map]

end Agrees

/-! ## Each step is one on the active alarms -/

theorem timers_schedule (t : TaskTimers) (tag : TimerTag) (due : Nat) :
    (t.schedule tag due).timers = (t.timers.schedule tag due).2 := by
  simp [timers, schedule, Timers.schedule, AlarmTask.sleeps]

theorem handles_release (t : TaskTimers) (handle : TimerHandle) (id : Nat) (state : TaskState) :
    (t.release handle id state).tasks.map (·.alarm.handle) = t.tasks.map (·.alarm.handle) := by
  simp [release, Function.comp_def, settle_alarm]

theorem handles_cancel (t : TaskTimers) (handle : TimerHandle) :
    (t.cancel handle).tasks.map (·.alarm.handle) = t.tasks.map (·.alarm.handle) := by
  unfold cancel
  split
  · rfl
  · exact handles_release ..

theorem sent_cancel (t : TaskTimers) (handle : TimerHandle) : (t.cancel handle).sent = t.sent := by
  unfold cancel
  split <;> rfl

namespace Agrees

/-- When a task is taken out of its sleep, its alarm alone is not active any more. -/
theorem timers_release (h : t.Agrees) (htask : task ∈ t.tasks) (hstate : state ≠ .sleeping) :
    (t.release task.alarm.handle task.id state).timers = t.timers.cancel task.alarm.handle := by
  simp only [timers, TaskTimers.release, Timers.cancel, List.filter_map, List.map_map,
    Function.comp_def, settle_alarm, settle_sleeps hstate, List.filter_filter]
  have hkept : ∀ other ∈ t.tasks, (other.sleeps && decide (other.id ≠ task.id)) =
      (decide (other.alarm.handle ≠ task.alarm.handle) && other.sleeps) := by
    intro other hother
    rw [Bool.and_comm, decide_eq_decide.mpr (h.handle_eq_iff hother htask).not.symm]
  rw [List.filter_congr hkept]

/-- A handle has an active alarm if a task sleeps for it. -/
theorem timers_find? (h : t.Agrees) (htask : task ∈ t.tasks) (hsleeps : task.sleeps = true) :
    t.timers.find? task.alarm.handle = some task.alarm := by
  have hactive : task.alarm ∈ t.timers.active :=
    List.mem_map_of_mem (List.mem_filter.mpr ⟨htask, hsleeps⟩)
  obtain ⟨a, ha⟩ : ∃ a, t.timers.find? task.alarm.handle = some a := by
    rw [← Option.isSome_iff_exists, Timers.find?, List.find?_isSome]
    exact ⟨task.alarm, hactive, decide_eq_true rfl⟩
  have hfound := List.find?_some ha
  have hhandle : a.handle = task.alarm.handle := of_decide_eq_true hfound
  obtain ⟨other, hother, rfl⟩ := List.mem_map.mp (List.mem_of_find?_eq_some ha)
  have hmem := List.mem_of_mem_filter hother
  rw [ha, h.eq_of_id_eq hmem htask ((h.handle_eq_iff hmem htask).mp hhandle)]

theorem cancel (h : t.Agrees) (handle : TimerHandle) :
    (t.cancel handle).Agrees ∧ (t.cancel handle).timers = t.timers.cancel handle := by
  unfold TaskTimers.cancel
  cases hfind : t.pending.find? handle with
  | none =>
      have hkeeps : t.timers.active.filter (·.handle ≠ handle) = t.timers.active := by
        rw [List.filter_eq_self]
        intro a ha
        refine decide_eq_true fun hsame => ?_
        obtain ⟨task, htask, rfl⟩ := List.mem_map.mp ha
        obtain ⟨htask, hsleeps⟩ := List.mem_filter.mp htask
        have hfound := (h.pending handle task.id).mpr ⟨task, htask, hsleeps, rfl, hsame⟩
        rw [hfind] at hfound
        cases hfound
      refine ⟨h, ?_⟩
      rw [Timers.cancel, hkeeps]
  | some id =>
      obtain ⟨task, htask, -, rfl, rfl⟩ := (h.pending handle id).mp hfind
      exact ⟨h.release htask (by decide), h.timers_release htask (by decide)⟩

/-- To wake a task that sleeps is to let its alarm expire; to wake another one does nothing. -/
theorem wake (h : t.Agrees) (id : Nat) : t.wake id = t ∨
    ∃ a, t.timers.expire? a.handle = some (a, (t.wake id).timers) ∧
      (t.wake id).sent = t.sent ++ [.timerFired a.tag a.handle] ∧ (t.wake id).Agrees ∧
      (t.wake id).tasks.map (·.alarm.handle) = t.tasks.map (·.alarm.handle) := by
  unfold TaskTimers.wake
  cases hfind : t.tasks.find? fun task => task.sleeps && task.id = id with
  | none => exact .inl rfl
  | some task =>
      have htask := List.mem_of_find?_eq_some hfind
      have hfound := List.find?_some hfind
      simp only [Bool.and_eq_true, decide_eq_true_eq] at hfound
      obtain ⟨hsleeps, rfl⟩ := hfound
      have hfinished : TaskState.finished ≠ .sleeping := by decide
      obtain ⟨hnext, hids, hhandles, hpending⟩ := h.release htask hfinished
      refine .inr ⟨task.alarm, ?_, rfl, ⟨hnext, hids, hhandles, hpending⟩,
        handles_release t task.alarm.handle task.id .finished⟩
      rw [Timers.expire?, h.timers_find? htask hsleeps, Option.map_some,
        ← h.timers_release htask hfinished]
      rfl

end Agrees

/-! ## Every run -/

open Timers (Service)

variable {ρ : Type} {s : Service ρ}

/-- The tasks and a timer service on alarms: the map agrees with the tasks, the alarms of the tasks
that sleep are active, the same handles were handed out and the same expiries were posted. -/
structure InStep (t : TaskTimers) (s : Service ρ) : Prop where
  agrees : t.Agrees
  isOpen : s.world.queue.isOpen = true
  timers : s.world.timers = t.timers
  handles : s.handles = t.tasks.map (·.alarm.handle)
  posted : s.posted = t.sent

namespace InStep

/-- A task that is to wake at some time is an alarm that is scheduled at that time. -/
theorem schedule (h : t.InStep s) (hfew : t.tasks.length + 1 < 2 ^ 64 - 1) (tag : TimerTag)
    (due : Nat) :
    (t.schedule tag due).InStep ((s.act (.time due 0)).act (.schedule tag 0)) where
  agrees := h.agrees.schedule hfew tag due
  isOpen := h.isOpen
  timers := by
    rw [timers_schedule, ← h.timers]
    rfl
  handles := by
    have hhandles : ((s.act (.time due 0)).act (.schedule tag 0)).handles =
        s.handles ++ [s.world.timers.next] := by
      simp [Service.act, Service.handles, World.schedule, Timers.schedule, World.happen,
        Timers.Mark.scheduled?]
    rw [hhandles, h.handles, h.timers]
    simp [TaskTimers.schedule, TaskTimers.timers]
  posted := h.posted

theorem cancel (h : t.InStep s) (handle : TimerHandle) :
    (t.cancel handle).InStep (s.act (.cancel handle)) where
  agrees := (h.agrees.cancel handle).1
  isOpen := h.isOpen
  timers := by
    rw [(h.agrees.cancel handle).2, ← h.timers]
    rfl
  handles := by
    have hhandles : (s.act (.cancel handle)).handles = s.handles := by
      simp [Service.act, Service.handles, Timers.Mark.scheduled?]
    rw [hhandles, h.handles, handles_cancel]
  posted := by
    rw [sent_cancel]
    exact h.posted

/-- A task that wakes is an alarm that expires, or no step at all. -/
theorem wake (h : t.InStep s) (id : Nat) :
    t.wake id = t ∨ ∃ handle, (t.wake id).InStep (s.act (.expire handle)) := by
  rcases h.agrees.wake id with hsame | ⟨a, hexpire, hsent, hagrees, halarms⟩
  · exact .inl hsame
  have hworld : s.world.expire a.handle =
      { s.world with
        timers := (t.wake id).timers
        queue := s.world.queue.post (.timerFired a.tag a.handle) } := by
    rw [World.expire, h.timers, hexpire]
  have hqueue : (s.act (.expire a.handle)).world.queue =
      s.world.queue.post (.timerFired a.tag a.handle) := congrArg World.queue hworld
  have hhandles : (s.act (.expire a.handle)).handles = s.handles := by
    simp [Service.act, Service.handles, Timers.Mark.scheduled?]
  have hposted : (s.act (.expire a.handle)).posted =
      s.posted ++ [.timerFired a.tag a.handle] := by
    rw [Service.posted, Service.posted, hqueue, Queue.post, if_pos h.isOpen, List.append_assoc]
    rfl
  refine .inr ⟨a.handle, hagrees, ?_, congrArg World.timers hworld, ?_, ?_⟩
  · rw [hqueue, Queue.post, if_pos h.isOpen]
    exact h.isOpen
  · rw [hhandles, h.handles, halarms]
  · rw [hposted, h.posted, hsent]

end InStep

theorem length_tasks_act (t : TaskTimers) (x : Act) :
    (t.act x).tasks.length = t.tasks.length + if x.isSchedule then 1 else 0 := by
  cases x with
  | schedule tag due => simp [act, schedule, Act.isSchedule]
  | cancel handle =>
      have hlength := congrArg List.length (t.handles_cancel handle)
      simpa [act, Act.isSchedule] using hlength
  | wake id =>
      simp only [act, wake]
      split <;> simp [release, Act.isSchedule]

/-- An act of the tasks is some acts of the timer service. -/
theorem InStep.act (h : t.InStep s) (x : Act) (hfew : (t.act x).tasks.length < 2 ^ 64 - 1) :
    ∃ acts : List Timers.Act, acts.countP Timers.Act.isSchedule = (if x.isSchedule then 1 else 0) ∧
      (t.act x).InStep (acts.foldl Service.act s) := by
  rw [length_tasks_act] at hfew
  cases x with
  | schedule tag due =>
      have hroom : t.tasks.length + 1 < 2 ^ 64 - 1 := by simpa [Act.isSchedule] using hfew
      exact ⟨[.time due 0, .schedule tag 0], rfl, h.schedule hroom tag due⟩
  | cancel handle => exact ⟨[.cancel handle], rfl, h.cancel handle⟩
  | wake id =>
      rcases h.wake id with hsame | ⟨handle, hexpired⟩
      · refine ⟨[], rfl, ?_⟩
        show (t.wake id).InStep s
        rw [hsame]
        exact h
      · exact ⟨[.expire handle], rfl, hexpired⟩

theorem InStep.foldl (h : t.InStep s) {acts : List Act}
    (hfew : t.tasks.length + acts.countP Act.isSchedule < 2 ^ 64 - 1) :
    ∃ others : List Timers.Act,
      others.countP Timers.Act.isSchedule = acts.countP Act.isSchedule ∧
      (acts.foldl TaskTimers.act t).InStep (others.foldl Service.act s) := by
  induction acts generalizing t s with
  | nil => exact ⟨[], rfl, h⟩
  | cons x rest ih =>
      have hlength := length_tasks_act t x
      rw [List.countP_cons] at hfew
      obtain ⟨first, hfirst, hstep⟩ := h.act x (by omega)
      obtain ⟨others, hothers, hrun⟩ := ih hstep (by omega)
      refine ⟨first ++ others, ?_, ?_⟩
      · rw [List.countP_append, hfirst, hothers, List.countP_cons, Nat.add_comm]
      · rw [List.foldl_append]
        exact hrun

/-- Whatever happens to the tasks, the map has exactly those that sleep, so it counts the active
alarms; and the service is a timer service on alarms to which as many alarms were scheduled. So no
handle posts two expiries. -/
theorem tasks_are_timers (radio : ρ) (acts : List Act)
    (hfew : acts.countP Act.isSchedule < 2 ^ 64 - 1) :
    let t := acts.foldl TaskTimers.act {}
    t.pending.size = t.timers.pending ∧
    (∀ handle, (t.sent.filter (Event.fires handle)).length ≤ 1) ∧
    ∃ others : List Timers.Act,
      others.countP Timers.Act.isSchedule = acts.countP Act.isSchedule ∧
      t.InStep (others.foldl Service.act (.fresh radio)) := by
  intro t
  have hfresh : InStep {} (Service.fresh radio) := ⟨agrees_empty, rfl, rfl, rfl, rfl⟩
  obtain ⟨others, hothers, hrun⟩ := hfresh.foldl (by simpa using hfew)
  refine ⟨hrun.agrees.size_pending, fun handle => ?_, others, hothers, hrun⟩
  have haccurate : (others.foldl Service.act (.fresh radio)).Accurate := by
    refine (Service.accurate_fresh radio).foldl ?_
    simpa [Service.fresh, Service.handles, hothers] using hfew
  have hexpiries := haccurate.expiries handle
  rw [Service.expiriesOf, hrun.posted] at hexpiries
  rw [hexpiries]
  cases Service.fate _ handle <;> simp [Timers.Fate.expiries]

end TaskTimers

end WirelessScan
