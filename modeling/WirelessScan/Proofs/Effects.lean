import WirelessScan.Replay
import WirelessScan.Scanner.Single

/-!
# Effects on the world

What the operations of a scanner leave behind in the world can be read off a few views: the
callbacks that were made, the handles that the timers handed out, all of them or those for one
configuration, the admission calls, and how many queued events are of some kind. Each primitive
operation of the world has one lemma for each view that it could change.

A radio is free in everything but one respect: the events it puts on the queue are its own
notices. Expiries come from the timers and rejections from the scanner.
-/

namespace WirelessScan

/-- Whether an event is a notice of the radio. -/
def Event.isNotice : Event → Bool
  | resultsAvailable _ => true
  | scanFailed .. => true
  | _ => false

/-- A radio that puts nothing but its notices on the queue, neither inside an admission call nor
later. -/
class NoticeRadio (ρ : Type) [Radio ρ] : Prop where
  posted : ∀ (radio : ρ) (clock : UInt64) (iface : String) (request : Request),
    ∀ e ∈ (Radio.issue radio clock iface request).posted, e.isNotice = true
  later : ∀ (radio : ρ) (clock : UInt64) (iface : String) (request : Request),
    ∀ p ∈ (Radio.issue radio clock iface request).later, p.2.isNotice = true

theorem Replay.outcomeEvent?_isNotice {o : Replay.Options} {iface : String} {e : Event}
    (h : Replay.outcomeEvent? o iface = some e) : e.isNotice = true := by
  unfold Replay.outcomeEvent? at h
  split at h
  · obtain rfl := Option.some.inj h
    rfl
  · obtain rfl := Option.some.inj h
    rfl
  · cases h
  · cases h

instance : NoticeRadio Replay where
  posted radio clock iface request e he := by
    simp only [Radio.issue, Replay.issue] at he
    split at he <;> simp at he
  later radio clock iface request p hp := by
    simp only [Radio.issue, Replay.issue] at hp
    split at hp
    · simp at hp
    · simp only [Option.mem_toList, Option.map_eq_some_iff] at hp
      obtain ⟨e, he, rfl⟩ := hp
      exact Replay.outcomeEvent?_isNotice he

/-! ## Views of a log -/

/-- The configuration that an alarm belongs to. The watchdog of the single scan belongs to none. -/
def TimerTag.config? : TimerTag → Option ScanId
  | singleTimeout _ => none
  | period _ id => some id
  | cycleTimeout _ id => some id

namespace Entry

/-- The callback that an entry records. -/
def callback? : Entry → Option (Handler × Callback)
  | callback handler c => some (handler, c)
  | _ => none

/-- The handle that an entry records as handed out. -/
def scheduled? : Entry → Option TimerHandle
  | schedule _ handle _ => some handle
  | _ => none

/-- The handle that an entry records as handed out for a configuration. -/
def scheduledFor? (id : ScanId) : Entry → Option TimerHandle
  | schedule tag handle _ => if tag.config? = some id then some handle else none
  | _ => none

/-- The admission call that an entry records, with its answer. -/
def admission? : Entry → Option (Request × Reason)
  | admission _ request status => some (request, status)
  | _ => none

end Entry

namespace Queue

/-- The events of a kind that wait in the queue. -/
def countOf (q : Queue) (kind : Event → Bool) : Nat :=
  q.events.countP kind

theorem foldl_post {q : Queue} (hopen : q.isOpen = true) (es : List Event) :
    es.foldl Queue.post q = { q with events := q.events ++ es } := by
  induction es generalizing q with
  | nil => simp
  | cons e rest ih =>
      have hpost : q.post e = { q with events := q.events ++ [e] } := if_pos hopen
      have htail := ih (q := { q with events := q.events ++ [e] }) hopen
      rw [List.foldl_cons, hpost, htail]
      simp

theorem foldl_post_isOpen (q : Queue) (es : List Event) :
    (es.foldl Queue.post q).isOpen = q.isOpen := by
  induction es generalizing q with
  | nil => rfl
  | cons e rest ih =>
      rw [List.foldl_cons, ih]
      unfold Queue.post
      split <;> rfl

theorem countOf_post {q : Queue} (hopen : q.isOpen = true) (kind : Event → Bool) (e : Event) :
    (q.post e).countOf kind = q.countOf kind + if kind e then 1 else 0 := by
  simp [countOf, post, hopen, List.countP_append, List.countP_singleton]

theorem countOf_foldl_post {q : Queue} (hopen : q.isOpen = true) {kind : Event → Bool}
    {es : List Event} (hkind : ∀ e ∈ es, kind e = false) :
    (es.foldl Queue.post q).countOf kind = q.countOf kind := by
  have hnone : es.countP kind = 0 := List.countP_eq_zero.mpr fun e he => by simp [hkind e he]
  rw [foldl_post hopen]
  simp [countOf, List.countP_append, hnone]

end Queue

namespace World

variable {ρ : Type}

/-- The callbacks made so far, in order. -/
def callbacks (w : World ρ) : List (Handler × Callback) :=
  w.log.filterMap Entry.callback?

/-- What a handler has heard so far, in order. -/
def heard (w : World ρ) (handler : Handler) : List Callback :=
  (w.callbacks.filter fun c => c.1 = handler).map Prod.snd

/-- The handles that the timers have handed out so far, in order. -/
def issued (w : World ρ) : List TimerHandle :=
  w.log.filterMap Entry.scheduled?

/-- The handles of the alarms that were scheduled so far for a configuration, in order. -/
def scheduledFor (w : World ρ) (id : ScanId) : List TimerHandle :=
  w.log.filterMap (Entry.scheduledFor? id)

/-- The admission calls made so far, in order, each with its answer. -/
def admissions (w : World ρ) : List (Request × Reason) :=
  w.log.filterMap Entry.admission?

/-- The world with other events waiting in its queue. -/
def withEvents (w : World ρ) (events : List Event) : World ρ :=
  { w with queue := { w.queue with events } }

/-! ## Admission -/

section Admission

variable [Radio ρ]

/-- The radio's answer to an admission call. -/
def answer (w : World ρ) (iface : String) (request : Request) : Reason :=
  (Radio.issue w.radio w.clock iface request).status

/-- The world after the clock was read and the radio was asked to admit a request. -/
def asked (w : World ρ) (iface : String) (request : Request) : World ρ :=
  (w.readClock.2.issue iface request).2

theorem asked_log (w : World ρ) (iface : String) (request : Request) :
    (w.asked iface request).log =
      w.log ++ [.clockRead w.clock, .admission iface request (w.answer iface request)] := by
  simp [asked, issue, readClock, record, answer]

@[simp] theorem asked_callbacks (w : World ρ) (iface : String) (request : Request) :
    (w.asked iface request).callbacks = w.callbacks := by
  simp [callbacks, asked_log, Entry.callback?]

@[simp] theorem asked_issued (w : World ρ) (iface : String) (request : Request) :
    (w.asked iface request).issued = w.issued := by
  simp [issued, asked_log, Entry.scheduled?]

@[simp] theorem asked_scheduledFor (w : World ρ) (iface : String) (request : Request)
    (id : ScanId) : (w.asked iface request).scheduledFor id = w.scheduledFor id := by
  simp [scheduledFor, asked_log, Entry.scheduledFor?]

@[simp] theorem asked_admissions (w : World ρ) (iface : String) (request : Request) :
    (w.asked iface request).admissions = w.admissions ++ [(request, w.answer iface request)] := by
  simp [admissions, asked_log, List.filterMap_cons, Entry.admission?]

@[simp] theorem asked_isOpen (w : World ρ) (iface : String) (request : Request) :
    (w.asked iface request).queue.isOpen = w.queue.isOpen :=
  Queue.foldl_post_isOpen _ _

theorem asked_events {w : World ρ} (hopen : w.queue.isOpen = true) (iface : String)
    (request : Request) : (w.asked iface request).queue.events =
      w.queue.events ++ (Radio.issue w.radio w.clock iface request).posted := by
  simp only [asked, issue, readClock, record, Queue.foldl_post hopen]

/-- An admission call adds no event of a kind that no notice has. -/
theorem asked_countOf [NoticeRadio ρ] {w : World ρ} (hopen : w.queue.isOpen = true)
    {kind : Event → Bool} (hkind : ∀ e, e.isNotice = true → kind e = false) (iface : String)
    (request : Request) : (w.asked iface request).queue.countOf kind = w.queue.countOf kind :=
  Queue.countOf_foldl_post hopen fun e he =>
    hkind e (NoticeRadio.posted w.radio w.clock iface request e he)

theorem asked_notices [NoticeRadio ρ] {w : World ρ}
    (h : ∀ n ∈ w.notices, n.event.isNotice = true) (iface : String) (request : Request) :
    ∀ n ∈ (w.asked iface request).notices, n.event.isNotice = true := by
  intro n hn
  simp only [asked, issue, readClock, record, List.mem_append, List.mem_map] at hn
  rcases hn with hn | ⟨p, hp, rfl⟩
  · exact h n hn
  · exact NoticeRadio.later w.radio w.clock iface request p hp

end Admission

/-! ## Timers, callbacks and posts -/

section Primitives

variable (w : World ρ) (tag : TimerTag) (millis : UInt64) (handle : TimerHandle)
  (handler : Handler) (callback : Callback) (e : Event) (id : ScanId)

@[simp] theorem schedule_active : (w.schedule tag millis).2.timers.active =
    w.timers.active ++ [⟨w.timers.next, tag, w.elapsed + millis.toNat⟩] := rfl

theorem mem_schedule_active {a : Alarm} : a ∈ (w.schedule tag millis).2.timers.active ↔
    a ∈ w.timers.active ∨ a = ⟨w.timers.next, tag, w.elapsed + millis.toNat⟩ := by
  rw [schedule_active, List.mem_append, List.mem_singleton]

@[simp] theorem schedule_queue : (w.schedule tag millis).2.queue = w.queue := rfl

@[simp] theorem schedule_callbacks : (w.schedule tag millis).2.callbacks = w.callbacks := by
  simp [callbacks, schedule, Entry.callback?]

@[simp] theorem schedule_issued :
    (w.schedule tag millis).2.issued = w.issued ++ [w.timers.next] := by
  simp [issued, schedule, Timers.schedule, Entry.scheduled?]

/-- An alarm is scheduled for the configuration of its tag, and for no other. -/
theorem schedule_scheduledFor (h : tag.config? ≠ some id) :
    (w.schedule tag millis).2.scheduledFor id = w.scheduledFor id := by
  simp [scheduledFor, schedule, Entry.scheduledFor?, h]

@[simp] theorem schedule_admissions : (w.schedule tag millis).2.admissions = w.admissions := by
  simp [admissions, schedule, Entry.admission?]

@[simp] theorem cancel_active : (w.cancel handle).timers.active =
    w.timers.active.filter fun a => a.handle ≠ handle := rfl

@[simp] theorem cancel_callbacks : (w.cancel handle).callbacks = w.callbacks := by
  simp [callbacks, cancel, Entry.callback?]

@[simp] theorem cancel_issued : (w.cancel handle).issued = w.issued := by
  simp [issued, cancel, Entry.scheduled?]

@[simp] theorem cancel_scheduledFor : (w.cancel handle).scheduledFor id = w.scheduledFor id := by
  simp [scheduledFor, cancel, Entry.scheduledFor?]

@[simp] theorem cancel_admissions : (w.cancel handle).admissions = w.admissions := by
  simp [admissions, cancel, Entry.admission?]

@[simp] theorem notify_queue : (w.notify handler callback).queue = w.queue := rfl

@[simp] theorem notify_callbacks :
    (w.notify handler callback).callbacks = w.callbacks ++ [(handler, callback)] := by
  simp [callbacks, notify, record, Entry.callback?]

@[simp] theorem notify_issued : (w.notify handler callback).issued = w.issued := by
  simp [issued, notify, record, Entry.scheduled?]

@[simp] theorem notify_scheduledFor :
    (w.notify handler callback).scheduledFor id = w.scheduledFor id := by
  simp [scheduledFor, notify, record, Entry.scheduledFor?]

@[simp] theorem notify_admissions : (w.notify handler callback).admissions = w.admissions := by
  simp [admissions, notify, record, Entry.admission?]

@[simp] theorem post_callbacks : (w.post e).callbacks = w.callbacks := rfl

@[simp] theorem post_issued : (w.post e).issued = w.issued := rfl

@[simp] theorem post_scheduledFor : (w.post e).scheduledFor id = w.scheduledFor id := rfl

@[simp] theorem post_isOpen : (w.post e).queue.isOpen = w.queue.isOpen :=
  Queue.foldl_post_isOpen w.queue [e]

theorem post_events (hopen : w.queue.isOpen = true) :
    (w.post e).queue.events = w.queue.events ++ [e] := by
  simp [post, Queue.post, hopen]

theorem post_countOf (hopen : w.queue.isOpen = true) (kind : Event → Bool) :
    (w.post e).queue.countOf kind = w.queue.countOf kind + if kind e then 1 else 0 :=
  Queue.countOf_post hopen kind e

@[simp] theorem fetch_callbacks [Radio ρ] (iface : String) :
    (w.fetch iface).2.callbacks = w.callbacks := by
  simp [callbacks, fetch, record, Entry.callback?]

@[simp] theorem fetch_issued [Radio ρ] (iface : String) :
    (w.fetch iface).2.issued = w.issued := by
  simp [issued, fetch, record, Entry.scheduled?]

@[simp] theorem fetch_scheduledFor [Radio ρ] (iface : String) :
    (w.fetch iface).2.scheduledFor id = w.scheduledFor id := by
  simp [scheduledFor, fetch, record, Entry.scheduledFor?]

@[simp] theorem fetch_admissions [Radio ρ] (iface : String) :
    (w.fetch iface).2.admissions = w.admissions := by
  simp [admissions, fetch, record, Entry.admission?]

/-- A callback adds to what its handler has heard, and to nothing else. -/
theorem heard_notify (listener : Handler) : (w.notify handler callback).heard listener =
    w.heard listener ++ if handler = listener then [callback] else [] := by
  by_cases h : handler = listener <;> simp [heard, h]

theorem heard_notify_of_ne {listener : Handler} (h : handler ≠ listener) :
    (w.notify handler callback).heard listener = w.heard listener := by
  rw [heard_notify, if_neg h, List.append_nil]

theorem heard_congr {w w' : World ρ} (h : w'.callbacks = w.callbacks) (listener : Handler) :
    w'.heard listener = w.heard listener := by
  rw [heard, heard, h]

@[simp] theorem heard_cancel (listener : Handler) :
    (w.cancel handle).heard listener = w.heard listener :=
  heard_congr (cancel_callbacks w handle) listener

@[simp] theorem heard_fetch [Radio ρ] (iface : String) (listener : Handler) :
    (w.fetch iface).2.heard listener = w.heard listener :=
  heard_congr (fetch_callbacks w iface) listener

/-- Taking the first event out of the queue. -/
theorem countOf_withEvents {w : World ρ} {e : Event} {rest : List Event}
    (hqueue : w.queue.events = e :: rest) (kind : Event → Bool) :
    w.queue.countOf kind =
      (w.withEvents rest).queue.countOf kind + if kind e then 1 else 0 := by
  simp [Queue.countOf, withEvents, hqueue, List.countP_cons]

end Primitives

end World

end WirelessScan
