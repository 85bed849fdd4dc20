import WirelessScan.Proofs.Cycles

/-!
# What a station owes

A scan that is accepted but fails before it is active owes its handler one report: a rejection that
carries the handler waits in the queue. A move owes a new one exactly if it is a start of this kind
(`Station.fails`), it settles one exactly if it dispatches one, and the queue keeps the order.

Until then no request of the scanner has the handler, so nothing else can be said to it.
-/

namespace WirelessScan

variable {ρ : Type}

/-- A failure that a handler has to hear of. -/
structure Failure where
  handler : Handler
  reason : Reason
deriving DecidableEq, Repr

/-- What the handler of a failure hears. -/
def Failure.callback (f : Failure) : Callback :=
  .requestFailed f.reason

/-- The failure that a rejection carries. -/
def Event.rejection? : Event → Option Failure
  | admissionRejected _ handler reason => some { handler, reason }
  | _ => none

theorem Event.rejection?_notice {e : Event} (he : e.isNotice = true) : e.rejection? = none := by
  cases e with
  | admissionRejected => cases he
  | _ => rfl

/-- What a handler hears of some failures: of its own ones, each with its reason. -/
def reportsTo (handler : Handler) (failures : List Failure) : List Callback :=
  (failures.filter fun f => f.handler = handler).map Failure.callback

theorem reportsTo_append (handler : Handler) (failures more : List Failure) :
    reportsTo handler (failures ++ more) =
      reportsTo handler failures ++ reportsTo handler more := by
  simp [reportsTo]

theorem reportsTo_of_not_mem {handler : Handler} {failures : List Failure}
    (h : handler ∉ failures.map Failure.handler) : reportsTo handler failures = [] := by
  simp only [reportsTo, List.map_eq_nil_iff, List.filter_eq_nil_iff, decide_eq_true_eq]
  rintro f hf rfl
  exact h (List.mem_map_of_mem hf)

theorem reportsTo_of_count_le {f : Failure} {failures : List Failure} (hf : f ∈ failures)
    (hcount : (failures.map Failure.handler).count f.handler ≤ 1) :
    reportsTo f.handler failures = [f.callback] := by
  obtain ⟨before, after, rfl⟩ := List.append_of_mem hf
  simp only [List.map_append, List.map_cons, List.count_append, List.count_cons_self] at hcount
  have hbefore := reportsTo_of_not_mem (List.count_eq_zero.mp
    (show (before.map Failure.handler).count f.handler = 0 by omega))
  have hafter := reportsTo_of_not_mem (List.count_eq_zero.mp
    (show (after.map Failure.handler).count f.handler = 0 by omega))
  have hself : reportsTo f.handler [f] = [f.callback] := by simp [reportsTo]
  rw [← List.singleton_append, reportsTo_append, reportsTo_append, hbefore, hself, hafter]
  rfl

/-- The failures that wait in the queue, in order. -/
def World.owed (w : World ρ) : List Failure :=
  w.queue.events.filterMap Event.rejection?

/-- What is owed is what the first event owes and what the others do. -/
theorem World.owed_eq (w : World ρ) : w.owed =
    (w.queue.events.head?.bind Event.rejection?).toList ++
      w.queue.events.tail.filterMap Event.rejection? := by
  unfold owed
  cases w.queue.events with
  | nil => rfl
  | cons e rest => cases he : e.rejection? <;> simp [he]

/-- Dispatching a rejection reports one failure. -/
theorem World.heard_report (w : World ρ) (rest : List Event) (f : Failure) (handler : Handler) :
    ((w.withEvents rest).notify f.handler f.callback).heard handler =
      w.heard handler ++ reportsTo handler [f] := by
  rw [heard_notify]
  by_cases hown : f.handler = handler <;>
    simp [reportsTo, hown, heard, callbacks, withEvents]

/-- No request of a scanner has a handler. -/
structure Scanner.Lacks (s : Scanner) (handler : Handler) : Prop where
  spares : s.background.scans.Spares handler
  slot : s.single.slot.holds handler = false

/-- A scanner that was just built has no request. -/
theorem Scanner.Lacks.built (setup : Setup) (handler : Handler) :
    Scanner.Lacks { setup } handler where
  spares := by
    intro id p hfind
    cases hfind
  slot := rfl

namespace Station

/-- The events that stay in the queue during a move. -/
def remaining (now : Station ρ) : Move ρ → List Event
  | .dispatch => now.world.queue.events.tail
  | _ => now.world.queue.events

/-- The failure that a move reports. -/
def tells (now : Station ρ) (move : Move ρ) : Option Failure :=
  (now.turn? move).bind Event.rejection?

variable [Radio ρ]

/-- The failure of a scan that a move starts and that is over before it is active: its channels
cannot be resolved, or the radio refuses a single scan. -/
def fails (now : Station ρ) : Move ρ → Option Failure
  | .single (some settings) (some handler) =>
    if (now.scanner.startSingle (some settings) (some handler) now.world).1 then
      match now.scanner.setup.resolve settings settings.buckets with
      | .error error => some { handler, reason := error.reason }
      | .ok request =>
        let answer := now.world.answer now.iface request
        if answer = .succeeded then none else some { handler, reason := answer }
    else none
  | .background (some settings) (some handler) =>
    if (now.scanner.startBackground (some settings) (some handler) now.world).1.isSome then
      match now.scanner.setup.resolve settings settings.buckets with
      | .error error => some { handler, reason := error.reason }
      | .ok _ => none
    else none
  | _ => none

variable {now : Station ρ} {move : Move ρ} {handler : Handler} {f : Failure}

theorem fails_handler (h : now.fails move = some f) : move.handler? = some f.handler := by
  unfold fails at h
  split at h
  · split at h
    · split at h
      · rw [← Option.some.inj h]
        rfl
      · dsimp only at h
        split at h
        · cases h
        · rw [← Option.some.inj h]
          rfl
    · cases h
  · split at h
    · split at h
      · rw [← Option.some.inj h]
        rfl
      · cases h
    · cases h
  · cases h

end Station

/-! ## The queue -/

/-- Some events are appended to a queue, and these owe some failures. -/
def Owes (failure : Option Failure) (before after : List Event) : Prop :=
  ∃ posted, after = before ++ posted ∧ posted.filterMap Event.rejection? = failure.toList

namespace Owes

variable {before after : List Event} {failure : Option Failure}

theorem refl (events : List Event) : Owes none events events :=
  ⟨[], (List.append_nil _).symm, rfl⟩

theorem of_eq (h : after = before) : Owes none before after :=
  h ▸ refl before

theorem notices {posted : List Event} (h : ∀ e ∈ posted, e.isNotice = true) :
    Owes none before (before ++ posted) :=
  ⟨posted, rfl, List.filterMap_eq_nil_iff.mpr fun e he => Event.rejection?_notice (h e he)⟩

theorem snoc (h : Owes none before after) (e : Event) :
    Owes e.rejection? before (after ++ [e]) := by
  rcases h with ⟨posted, rfl, hposted⟩
  refine ⟨posted ++ [e], by simp, ?_⟩
  rw [List.filterMap_append, hposted]
  cases h : e.rejection? <;> simp [h]

/-- If what was owed is divided into what is told now and what the remaining events owe, what is
told and what is owed afterwards is what was owed and what is owed anew. -/
theorem balance {told : List Failure} {w w' : World ρ} (h : Owes failure before w'.queue.events)
    (howed : w.owed = told ++ before.filterMap Event.rejection?) :
    told ++ w'.owed = w.owed ++ failure.toList := by
  rcases h with ⟨posted, hevents, hposted⟩
  rw [World.owed, hevents, List.filterMap_append, hposted, howed, List.append_assoc]

end Owes

namespace World

variable [Radio ρ] [NoticeRadio ρ] {w w' : World ρ}

theorem owes_asked (hopen : w.queue.isOpen = true) (iface : String) (request : Request) :
    Owes none w.queue.events (w.asked iface request).queue.events := by
  rw [asked_events hopen]
  exact .notices (NoticeRadio.posted w.radio w.clock iface request)

omit [Radio ρ] [NoticeRadio ρ] in
theorem owes_post {events : List Event} (hopen : w.queue.isOpen = true)
    (h : Owes none events w.queue.events) (e : Event) :
    Owes e.rejection? events (w.post e).queue.events := by
  rw [post_events _ _ hopen]
  exact h.snoc e

omit [Radio ρ] [NoticeRadio ρ] in
theorem owes_happen (hw : w.Sound) (happening : Happening ρ) :
    Owes none w.queue.events (w.happen happening).queue.events := by
  have hrefl := Owes.refl w.queue.events
  cases happening with
  | results iface => exact owes_post hw.isOpen hrefl _
  | failure iface reason => exact owes_post hw.isOpen hrefl _
  | arrival n =>
      simp only [happen]
      split
      next hn =>
        have hpost := owes_post hw.isOpen hrefl n.event
        rw [Event.rejection?_notice (hw.notices n hn)] at hpost
        exact hpost
      next => exact hrefl
  | radio radio => exact hrefl
  | time millis nanos => exact hrefl

theorem owes_ran {setup : Setup} {id : ScanId} {p p' : Periodic} {refusal : Option Reason}
    {tag : TimerTag} {millis : UInt64} (hopen : w.queue.isOpen = true)
    (hran : Periodic.Ran setup id p (w.schedule tag millis).2 (refusal, p', w')) :
    Owes none w.queue.events w'.queue.events := by
  cases hran with
  | skipped => exact .refl _
  | unresolved => exact .refl _
  | rejected => exact owes_asked (w := (w.schedule tag millis).2) hopen _ _
  | admitted => exact owes_asked (w := (w.schedule tag millis).2) hopen _ _

end World

namespace Station

variable [Radio ρ] [NoticeRadio ρ] {now : Station ρ}

theorem owes_single (hsound : now.Sound) (settings : Option Settings)
    (handler : Option Handler) :
    Owes (now.fails (.single settings handler)) now.world.queue.events
      (now.perform (.single settings handler)).world.queue.events := by
  have hopen := hsound.world.isOpen
  have hstarted := Single.start_started now.scanner.setup now.scanner.single settings handler
    now.world
  simp only [perform, Scanner.startSingle]
  generalize hr : now.scanner.single.start now.scanner.setup settings handler now.world = r
    at hstarted ⊢
  cases hstarted with
  | refused =>
      have hnone : now.fails (.single settings handler) = none := by
        cases settings <;> cases handler <;> simp [fails, Scanner.startSingle, hr]
      rw [hnone]
      exact .refl _
  | @unresolved settings handler error _ hresolve =>
      have hfails : now.fails (.single (some settings) (some handler)) =
          some { handler, reason := error.reason } := by
        simp [fails, Scanner.startSingle, hr, hresolve]
      rw [hfails]
      exact World.owes_post hopen (.refl _) _
  | @rejected settings handler request _ hresolve hanswer =>
      have hfails : now.fails (.single (some settings) (some handler)) =
          some { handler, reason := now.world.answer now.scanner.setup.iface request } := by
        simp only [fails, Scanner.startSingle, hr, hresolve, if_true]
        exact if_neg hanswer
      rw [hfails]
      exact World.owes_post ((World.asked_isOpen _ _ _).trans hopen)
        (World.owes_asked hopen _ _) _
  | @armed settings handler request _ hresolve hanswer =>
      have hnone : now.fails (.single (some settings) (some handler)) = none := by
        simp only [fails, Scanner.startSingle, hr, hresolve, if_true]
        exact if_pos hanswer
      rw [hnone]
      exact World.owes_asked hopen _ _

theorem owes_background (hsound : now.Sound) (settings : Option Settings)
    (handler : Option Handler) :
    Owes (now.fails (.background settings handler)) now.world.queue.events
      (now.perform (.background settings handler)).world.queue.events := by
  have hopen := hsound.world.isOpen
  have hstarted := Background.start_started now.scanner.setup now.scanner.background settings
    handler now.world
  simp only [perform, Scanner.startBackground]
  generalize hr : now.scanner.background.start now.scanner.setup settings handler now.world = r
    at hstarted ⊢
  cases hstarted with
  | refused =>
      have hnone : now.fails (.background settings handler) = none := by
        cases settings <;> cases handler <;> simp [fails, Scanner.startBackground, hr]
      rw [hnone]
      exact .refl _
  | @unresolved settings handler error _ hresolve =>
      have hfails : now.fails (.background (some settings) (some handler)) =
          some { handler, reason := error.reason } := by
        simp [fails, Scanner.startBackground, hr, hresolve]
      rw [hfails]
      exact World.owes_post hopen (.refl _) _
  | @activated settings handler request refusal p w _ hresolve hran =>
      have hnone : now.fails (.background (some settings) (some handler)) = none := by
        simp [fails, Scanner.startBackground, hr, hresolve]
      have hran' := World.owes_ran hopen hran
      rw [hnone]
      cases refusal with
      | none => exact hran'
      | some reason =>
          exact World.owes_post ((hsound.world.schedule _ _).ran hran).isOpen hran' _

end Station

/-- A turn of the dispatch loop takes its event out of the queue and owes nothing. -/
theorem Step.owes_dispatch [Radio ρ] [NoticeRadio ρ] {now next : Station ρ}
    (hstep : Step now .dispatch next) (hsound : now.Sound) :
    Owes none now.world.queue.events.tail next.world.queue.events := by
  have htail {e : Event} {rest : List Event} {w : World ρ}
      (hqueue : now.world.queue.events = e :: rest)
      (hw : (now.world.withEvents rest).Settles w) :
      Owes none now.world.queue.events.tail w.queue.events := by
    rw [hqueue, hw.queue]
    exact .refl _
  cases hstep with
  | idle hqueue => exact .of_eq (by rw [hqueue]; rfl)
  | finished hqueue _ hfinished =>
      exact htail hqueue (Background.finish_settles_fetched _ hfinished)
  | unwanted hqueue => exact htail hqueue (.refl _)
  | singleTimeout hqueue hexpired => exact htail hqueue hexpired.settles
  | @period _ _ rest _ _ hqueue hticked =>
      cases hticked with
      | stale => exact htail hqueue (.refl _)
      | @ticked _ _ refusal w _ _ hran =>
          have hran' := World.owes_ran (w := now.world.withEvents rest) hsound.world.isOpen hran
          rw [hqueue]
          cases refusal with
          | none => exact hran'
          | some reason => exact hran'
  | cycleTimeout hqueue hexpired => exact htail hqueue hexpired.settles
  | rejection hqueue => exact htail hqueue (.notify _ _ _)
  | cycleRejection hqueue => exact htail hqueue (Background.rejectCycle_settles _ _ _ _)
  | foreign hqueue => exact htail hqueue (.refl _)

namespace Station

variable [Radio ρ] [NoticeRadio ρ] {now : Station ρ} {move : Move ρ} {handler : Handler}

theorem owes_perform (hsound : now.Sound) (move : Move ρ) :
    Owes (now.fails move) (now.remaining move) (now.perform move).world.queue.events := by
  cases move with
  | single settings handler => exact owes_single hsound settings handler
  | background settings handler => exact owes_background hsound settings handler
  | stop id =>
      have hstep := now.step_perform (.stop id)
      generalize now.perform (.stop id) = next at hstep ⊢
      cases hstep with
      | stopInactive => exact .refl _
      | stopActive =>
          exact .of_eq (congrArg Queue.events (Periodic.disarm_settles _ _).queue)
  | fire handle =>
      have hstep := now.step_perform (.fire handle)
      generalize now.perform (.fire handle) = next at hstep ⊢
      cases hstep with
      | fireInactive => exact .refl _
      | fire => exact World.owes_post hsound.world.isOpen (.refl _) _
  | dispatch => exact now.step_serve.owes_dispatch hsound
  | outside happening => exact World.owes_happen hsound.world happening

/-! ## The handler -/

omit [Radio ρ] [NoticeRadio ρ] in
/-- The rejections of a handler are the failures that are owed to it. -/
theorem rejections_eq (now : Station ρ) (handler : Handler) :
    now.rejections handler = now.world.owed.countP (fun f => f.handler = handler) := by
  have hrejects : ∀ e : Event,
      e.rejects handler = e.rejection?.any fun f => f.handler = handler := by
    intro e
    cases e <;> rfl
  unfold rejections Queue.countOf World.owed
  induction now.world.queue.events with
  | nil => rfl
  | cons e rest ih =>
      rw [List.countP_cons, ih, hrejects]
      cases he : e.rejection? <;> simp [he, List.countP_cons]

omit [NoticeRadio ρ] in
/-- A rejection reaches its handler and nothing else changes, whatever interface it names. -/
theorem serve_rejection {iface : String} {reason : Reason} {rest : List Event}
    (hqueue : now.world.queue.events = .admissionRejected iface handler reason :: rest) :
    now.serve = { now with
      world := (now.world.withEvents rest).notify handler (.requestFailed reason) } := by
  by_cases hiface : iface = now.iface
  · subst hiface
    have hhandle : now.scanner.handle (.admissionRejected now.iface handler reason)
        (now.world.withEvents rest) = _ := Scanner.handle_admissionRejected handler reason
    rw [serve_own hqueue rfl, hhandle]
  · rw [serve_foreign hqueue fun h => hiface (Option.some.inj h)]

omit [Radio ρ] [NoticeRadio ρ] in
theorem tells_eq_some {f : Failure} (h : now.tells move = some f) : move = .dispatch ∧
    ∃ iface rest, now.world.queue.events =
      .admissionRejected iface f.handler f.reason :: rest := by
  obtain ⟨e, hturn, he⟩ := Option.bind_eq_some_iff.mp h
  obtain ⟨rfl, rest, hqueue⟩ := turn?_eq_some hturn
  cases e with
  | admissionRejected iface _ _ =>
      obtain rfl := Option.some.inj he
      exact ⟨rfl, iface, rest, hqueue⟩
  | _ => cases he

omit [NoticeRadio ρ] in
/-- A scan that fails before it is active leaves its handler without a request. -/
theorem lacks_failed {f : Failure} (hfails : now.fails move = some f)
    (h : now.scanner.Lacks handler) : (now.perform move).scanner.Lacks handler := by
  cases move with
  | single settings other =>
      have hstarted := Single.start_started now.scanner.setup now.scanner.single settings other
        now.world
      simp only [perform, Scanner.startSingle]
      generalize hr : now.scanner.single.start now.scanner.setup settings other now.world = r
        at hstarted ⊢
      cases hstarted with
      | refused => exact h
      | unresolved => exact h
      | rejected => exact ⟨h.spares, rfl⟩
      | @armed _ _ request _ hresolve hanswer =>
          have hanswer' : now.world.answer now.iface request = .succeeded := hanswer
          simp [fails, Scanner.startSingle, hr, hresolve, hanswer'] at hfails
  | background settings other =>
      have hstarted := Background.start_started now.scanner.setup now.scanner.background settings
        other now.world
      simp only [perform, Scanner.startBackground]
      generalize hr : now.scanner.background.start now.scanner.setup settings other now.world = r
        at hstarted ⊢
      cases hstarted with
      | refused => exact h
      | unresolved => exact ⟨h.spares, h.slot⟩
      | activated _ hresolve => simp [fails, Scanner.startBackground, hr, hresolve] at hfails
  | _ => cases hfails

/-- What a move reports was owed first, and what newly fails is owed last. -/
theorem owed_perform (hsound : now.Sound) (move : Move ρ) :
    (now.tells move).toList ++ (now.perform move).world.owed =
      now.world.owed ++ (now.fails move).toList := by
  apply (owes_perform hsound move).balance
  cases move with
  | dispatch => exact now.world.owed_eq
  | _ => rfl

/-- What a scanner says to a handler that no request of it has: the failures that it reports. -/
theorem lacks_perform (hsound : now.Sound) (h : now.scanner.Lacks handler)
    (hmove : move.handler? ≠ some handler ∨ ∃ f, now.fails move = some f ∧ f.handler = handler) :
    (now.perform move).scanner.Lacks handler ∧ (now.perform move).world.heard handler =
      now.world.heard handler ++ reportsTo handler (now.tells move).toList := by
  have hstep := now.step_perform move
  cases htells : now.tells move with
  | some f =>
      obtain ⟨rfl, iface, rest, hqueue⟩ := tells_eq_some htells
      have hserve : now.perform .dispatch = _ := serve_rejection hqueue
      rw [hserve]
      exact ⟨h, now.world.heard_report rest f handler⟩
  | none =>
      have hnone : reportsTo handler (none : Option Failure).toList = [] := rfl
      rw [hnone, List.append_nil]
      rcases hmove with hmove | ⟨f, hfails, -⟩
      · obtain ⟨hspares, hpassage⟩ := hstep.passage hsound h.spares hmove
        have howed := owed_perform hsound move
        cases hpassage with
        | kept hslot hheard _ => exact ⟨⟨hspares, hslot.trans h.slot⟩, hheard⟩
        | ended _ _ hbefore =>
            have hslot : now.slotHolds handler = false := h.slot
            rw [hslot] at hbefore
            cases hbefore
        | told _ _ _ hqueued =>
            -- Nothing is reported by this move, so no rejection can have left the queue.
            rw [htells, Option.toList_none, List.nil_append] at howed
            rw [rejections_eq, rejections_eq, howed, List.countP_append] at hqueued
            omega
      · refine ⟨lacks_failed hfails h, World.heard_congr ?_ _⟩
        apply hstep.callbacks_of_isCall
        cases move with
        | single => rfl
        | background => rfl
        | _ => cases hfails

end Station

end WirelessScan
