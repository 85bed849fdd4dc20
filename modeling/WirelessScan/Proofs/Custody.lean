import WirelessScan.Proofs.Sound

/-!
# One outcome for each single scan

The handler of a single scan that was accepted is in exactly one of three places: the armed slot
holds it, a queued rejection carries it, or it has heard its last callback. No move puts it into a
second place and none loses it: `Step.passage` says what a single move can do to a handler, and
the sum over the three places is what every passage leaves as it was.
-/

namespace WirelessScan

variable {ρ : Type}

/-! ## The places of a handler -/

/-- Whether an event is a rejection that carries a handler. -/
def Event.rejects (handler : Handler) : Event → Bool
  | admissionRejected _ carried _ => carried = handler
  | _ => false

theorem Event.rejects_notice {handler : Handler} (e : Event) (he : e.isNotice = true) :
    e.rejects handler = false := by
  cases e with
  | admissionRejected => cases he
  | _ => rfl

/-- No configuration has the handler. -/
def SortedMap.Spares (scans : SortedMap ScanId Periodic) (handler : Handler) : Prop :=
  ∀ id p, scans.find? id = some p → p.handler ≠ handler

namespace Station

/-- No configuration of the scanner has the handler. -/
def Spares (now : Station ρ) (handler : Handler) : Prop :=
  now.scanner.background.scans.Spares handler

/-- How many callbacks that end a scan a handler has heard. -/
def outcomes (now : Station ρ) (handler : Handler) : Nat :=
  (now.world.heard handler).countP Callback.isTerminal

/-- How many queued rejections carry a handler. -/
def rejections (now : Station ρ) (handler : Handler) : Nat :=
  now.world.queue.countOf (Event.rejects handler)

/-- The outcomes that a handler has had or will have. -/
def balance (now : Station ρ) (handler : Handler) : Nat :=
  now.outcomes handler + (if now.slotHolds handler then 1 else 0) + now.rejections handler

/-- The handler is in no place and has heard nothing. -/
structure Absent (now : Station ρ) (handler : Handler) : Prop where
  spares : now.Spares handler
  balance : now.balance handler = 0
  heard : now.world.heard handler = []

end Station

theorem Station.Absent.rejections {now : Station ρ} {handler : Handler}
    (h : now.Absent handler) : now.rejections handler = 0 := by
  have hbalance := h.balance
  unfold Station.balance at hbalance
  omega

theorem Station.Absent.slot {now : Station ρ} {handler : Handler} (h : now.Absent handler) :
    now.slotHolds handler = false := by
  have hbalance := h.balance
  cases hslot : now.slotHolds handler with
  | false => rfl
  | true => simp [Station.balance, hslot] at hbalance

namespace SortedMap.Spares

variable {scans : SortedMap ScanId Periodic} {handler : Handler}

theorem insert (h : scans.Spares handler) (id : ScanId) {p : Periodic}
    (hp : p.handler ≠ handler) : Spares (scans.insert id p) handler := by
  intro id' p' hfind
  rw [find?_insert] at hfind
  split at hfind
  · obtain rfl := Option.some.inj hfind
    exact hp
  · exact h id' p' hfind

theorem erase (h : scans.Spares handler) (id : ScanId) : Spares (scans.erase id) handler := by
  intro id' p' hfind
  rw [find?_erase] at hfind
  split at hfind
  · cases hfind
  · exact h id' p' hfind

end SortedMap.Spares

/-! ## Periodic scans leave other handlers alone -/

theorem Periodic.heard_disarm (p : Periodic) (handler : Handler) (w : World ρ) :
    (p.disarm w).heard handler = w.heard handler := by
  unfold disarm
  cases p.pending <;> simp

namespace Background

variable {b : Background} {handler : Handler}

theorem finish_spares (h : b.scans.Spares handler) (e : Ending) (w : World ρ) :
    (b.finish e w).1.scans.Spares handler ∧
      (b.finish e w).2.heard handler = w.heard handler := by
  apply SortedMap.mapAccum_induction
    (fun (scans : SortedMap ScanId Periodic) (w' : World ρ) =>
      scans.Spares handler ∧ w'.heard handler = w.heard handler)
  · intro scans w' id p hfind ⟨hspares, hheard⟩
    have hp : p.handler ≠ handler := hspares id p hfind
    refine ⟨hspares.insert id ((p.ended_handler e).symm ▸ hp), ?_⟩
    rw [Periodic.heard_finish, if_neg hp, List.append_nil, hheard]
  · exact ⟨h, rfl⟩

theorem Expired.spares {b' : Background} {id : ScanId} {handle : TimerHandle} {w w' : World ρ}
    (hexpired : Expired b id handle w (b', w')) (h : b.scans.Spares handler) :
    b'.scans.Spares handler ∧ w'.heard handler = w.heard handler := by
  cases hexpired with
  | stale => exact ⟨h, rfl⟩
  | @own p _ hfind =>
      have hp : p.handler ≠ handler := h id p hfind
      exact ⟨h.insert id hp, by simp [World.heard_notify, hp]⟩

end Background

/-! ## What a move does to a handler -/

/-- What ending single scans does to a handler: nothing, or its scan ends. -/
inductive Slot.Passage (handler : Handler) (slot slot' : Slot) (w w' : World ρ) : Prop where
  | kept (hslot : slot'.holds handler = slot.holds handler)
      (hheard : w'.heard handler = w.heard handler)
  | ended {records : List Callback} {last : Callback}
      (hrecords : ∀ c ∈ records, c.isTerminal = false) (hlast : last.isTerminal = true)
      (hbefore : slot.holds handler = true) (hafter : slot'.holds handler = false)
      (hheard : w'.heard handler = w.heard handler ++ (records ++ [last]))

namespace Single

variable {s s' : Single} {handler : Handler} {w w' : World ρ}

/-- A scan that leaves the armed slot with some callbacks, the last of which ends it. -/
theorem passage_of_armed {scan : InFlight} (records : List Callback) {last : Callback}
    (hrecords : ∀ c ∈ records, c.isTerminal = false) (hlast : last.isTerminal = true)
    (hheard : w'.heard handler =
      w.heard handler ++ if scan.handler = handler then records ++ [last] else []) :
    Slot.Passage handler (.armed scan) .idle w w' := by
  by_cases hown : scan.handler = handler
  · rw [if_pos hown] at hheard
    exact .ended hrecords hlast (by simp [Slot.holds, hown]) rfl hheard
  · rw [if_neg hown, List.append_nil] at hheard
    exact .kept (by simp [Slot.holds, hown]) hheard

theorem Finished.passage {e : Ending} (h : Finished e s w (s', w')) :
    Slot.Passage handler s.slot s'.slot w w' := by
  cases h with
  | unarmed => exact .kept rfl rfl
  | armed hslot =>
      rw [hslot]
      apply passage_of_armed _ (fun c hc => e.records_isTerminal hc) e.last_isTerminal
      rw [World.heard_notifyAll, World.heard_cancel]

theorem Expired.passage {handle : TimerHandle} (h : Expired s handle w (s', w')) :
    Slot.Passage handler s.slot s'.slot w w' := by
  cases h with
  | stale => exact .kept rfl rfl
  | own hslot =>
      rw [hslot]
      apply passage_of_armed [] (by simp)
        (rfl : (Callback.requestFailed .timeout).isTerminal = true)
      rw [World.heard_notify, List.nil_append]

end Single

/-- What a move does to a handler that no configuration has and that the move does not hand over. -/
inductive Passage (handler : Handler) (now next : Station ρ) : Prop where
  | kept (hslot : next.slotHolds handler = now.slotHolds handler)
      (hheard : next.world.heard handler = now.world.heard handler)
      (hqueued : next.rejections handler = now.rejections handler)
  /-- The armed scan ends with a last callback. -/
  | ended {records : List Callback} {last : Callback}
      (hrecords : ∀ c ∈ records, c.isTerminal = false) (hlast : last.isTerminal = true)
      (hbefore : now.slotHolds handler = true) (hafter : next.slotHolds handler = false)
      (hheard : next.world.heard handler = now.world.heard handler ++ (records ++ [last]))
      (hqueued : next.rejections handler = now.rejections handler)
  /-- A rejection is taken out of the queue and heard. -/
  | told {last : Callback} (hlast : last.isTerminal = true)
      (hslot : next.slotHolds handler = now.slotHolds handler)
      (hheard : next.world.heard handler = now.world.heard handler ++ [last])
      (hqueued : now.rejections handler = next.rejections handler + 1)

theorem Slot.Passage.station {handler : Handler} {now next : Station ρ} {w w' : World ρ}
    (h : Slot.Passage handler now.scanner.single.slot next.scanner.single.slot w w')
    (hnow : w.heard handler = now.world.heard handler)
    (hnext : next.world.heard handler = w'.heard handler)
    (hqueued : next.rejections handler = now.rejections handler) :
    WirelessScan.Passage handler now next := by
  cases h with
  | kept hslot hheard => exact .kept hslot (hnext.trans (hheard.trans hnow)) hqueued
  | ended hrecords hlast hbefore hafter hheard =>
      exact .ended hrecords hlast hbefore hafter (by rw [hnext, hheard, hnow]) hqueued

namespace Station

variable {now : Station ρ} {handler : Handler}

/-- Taking an event out of the queue that is no rejection of the handler. -/
theorem rejections_withEvents {e : Event} {rest : List Event} {w : World ρ}
    (hqueue : now.world.queue.events = e :: rest) (he : e.rejects handler = false)
    (hw : (now.world.withEvents rest).Settles w) :
    w.queue.countOf (Event.rejects handler) = now.rejections handler := by
  rw [hw.countOf, rejections, World.countOf_withEvents hqueue, he]
  rfl

end Station

namespace Step

variable [Radio ρ] [NoticeRadio ρ] {now next : Station ρ} {move : Move ρ} {handler : Handler}

theorem passage_single {settings : Option Settings} {other : Option Handler} {accepted : Bool}
    {single : Single} {world : World ρ} (hsound : now.Sound)
    (hstarted : Single.Started now.scanner.setup now.scanner.single now.world settings other
      (accepted, single, world)) (hother : other ≠ some handler) :
    Passage handler now ⟨{ now.scanner with single }, world⟩ := by
  have hrejects : ∀ {i : String} {carried : Handler} {reason : Reason},
      some carried ≠ some handler →
      (Event.admissionRejected i carried reason).rejects handler = false := by
    intro i carried reason hne
    simpa [Event.rejects] using hne
  have hopen := hsound.world.isOpen
  cases hstarted with
  | refused => exact .kept rfl rfl rfl
  | unresolved =>
      refine .kept rfl (World.heard_congr (World.post_callbacks _ _) _) ?_
      simp [Station.rejections, World.post_countOf _ _ hopen, hrejects hother]
  | @rejected _ carried request hidle =>
      refine .kept (by simp [Station.slotHolds, hidle]) (World.heard_congr (by simp) _) ?_
      have hasked := (hsound.world.asked now.scanner.setup.iface request).isOpen
      simp [Station.rejections, World.post_countOf _ _ hasked, hrejects hother,
        World.asked_countOf hopen Event.rejects_notice]
  | @armed _ carried _ hidle =>
      have hne : carried ≠ handler := fun h => hother (congrArg some h)
      refine .kept ?_ (World.heard_congr (by simp) _) ?_
      · simp [Station.slotHolds, Slot.holds, hidle, hne]
      · simp [Station.rejections, World.asked_countOf hopen Event.rejects_notice]

theorem passage_background {settings : Option Settings} {other : Option Handler}
    {id : Option ScanId} {background : Background} {world : World ρ} (hsound : now.Sound)
    (hspares : now.Spares handler)
    (hstarted : Background.Started now.scanner.setup now.scanner.background now.world settings
      other (id, background, world)) (hother : other ≠ some handler) :
    background.scans.Spares handler ∧
      Passage handler now ⟨{ now.scanner with background }, world⟩ := by
  have hopen := hsound.world.isOpen
  cases hstarted with
  | refused => exact ⟨hspares, .kept rfl rfl rfl⟩
  | @unresolved _ carried =>
      have hne : carried ≠ handler := fun h => hother (congrArg some h)
      refine ⟨hspares, .kept rfl (World.heard_congr (World.post_callbacks _ _) _) ?_⟩
      simp [Station.rejections, World.post_countOf _ _ hopen, Event.rejects, hne]
  | @activated _ carried _ refusal p w' _ _ hran =>
      have hne : p.handler ≠ handler := by
        rw [hran.handler]
        exact fun h => hother (congrArg some h)
      have hcallbacks : w'.callbacks = now.world.callbacks := by simp [hran.callbacks]
      have hcount : w'.queue.countOf (Event.rejects handler) = now.rejections handler :=
        hran.countOf hopen Event.rejects_notice
      refine ⟨hspares.insert _ hne, ?_⟩
      cases refusal with
      | none => exact .kept rfl (World.heard_congr hcallbacks _) hcount
      | some reason =>
          refine .kept rfl (World.heard_congr hcallbacks _) ?_
          have hopen' := ((hsound.world.schedule _ _).ran hran).isOpen
          simp only [Station.rejections, Option.elim, World.post_countOf _ _ hopen', hcount]
          rfl

omit [Radio ρ] [NoticeRadio ρ] in
/-- A turn of the dispatch loop that ends scans: first the single one, then cycles. -/
theorem passage_of_settles {single : Single} {background : Background} {e : Event}
    {rest : List Event} {w w' w'' : World ρ}
    (hqueue : now.world.queue.events = e :: rest) (he : e.rejects handler = false)
    (hsingle : Slot.Passage handler now.scanner.single.slot single.slot w w')
    (hbefore : w.heard handler = now.world.heard handler)
    (hbackground : w''.heard handler = w'.heard handler)
    (hsettles : (now.world.withEvents rest).Settles w'') :
    Passage handler now ⟨{ now.scanner with single, background }, w''⟩ :=
  Slot.Passage.station hsingle hbefore hbackground
    (Station.rejections_withEvents hqueue he hsettles)

theorem passage_period {id : ScanId} {handle : TimerHandle} {rest : List Event}
    {background : Background} {world : World ρ} (hsound : now.Sound)
    (hspares : now.Spares handler)
    (hqueue : now.world.queue.events = .timerFired (.period now.iface id) handle :: rest)
    (hticked : Background.Ticked now.scanner.setup now.scanner.background id handle
      (now.world.withEvents rest) (background, world)) :
    background.scans.Spares handler ∧
      Passage handler now ⟨{ now.scanner with background }, world⟩ := by
  have hcount : (now.world.withEvents rest).queue.countOf (Event.rejects handler) =
      now.rejections handler := Station.rejections_withEvents hqueue rfl (.refl _)
  cases hticked with
  | stale => exact ⟨hspares, .kept rfl rfl hcount⟩
  | @ticked p p' refusal w' hfind _ hran =>
      have hne : p'.handler ≠ handler := by
        rw [hran.handler]
        exact hspares id p hfind
      have hcallbacks : w'.callbacks = now.world.callbacks := by
        rw [hran.callbacks, World.schedule_callbacks]
        rfl
      have hcount' : w'.queue.countOf (Event.rejects handler) = now.rejections handler :=
        (hran.countOf hsound.world.isOpen Event.rejects_notice).trans hcount
      refine ⟨hspares.insert _ hne, ?_⟩
      cases refusal with
      | none => exact .kept rfl (World.heard_congr hcallbacks _) hcount'
      | some reason =>
          refine .kept rfl ?_ hcount'
          simp [World.heard_notify, hne, World.heard_congr hcallbacks]

/-- The passage of a handler that no configuration has through any move that does not hand it
over. -/
theorem passage (hstep : Step now move next) (hsound : now.Sound) (hspares : now.Spares handler)
    (hmove : move.handler? ≠ some handler) :
    next.Spares handler ∧ Passage handler now next := by
  cases hstep with
  | single hstarted => exact ⟨hspares, passage_single hsound hstarted hmove⟩
  | background hstarted => exact passage_background hsound hspares hstarted hmove
  | stopInactive => exact ⟨hspares, .kept rfl rfl rfl⟩
  | stopActive =>
      exact ⟨hspares.erase _, .kept rfl (Periodic.heard_disarm _ _ _)
        ((Periodic.disarm_settles _ _).countOf _)⟩
  | fireInactive => exact ⟨hspares, .kept rfl rfl rfl⟩
  | fire =>
      refine ⟨hspares, .kept rfl rfl ?_⟩
      simp only [Station.rejections, Queue.countOf_post hsound.world.isOpen]
      rfl
  | outside =>
      refine ⟨hspares, .kept rfl (World.heard_congr ?_ _) ?_⟩
      · rw [World.callbacks, World.happen_log]
        rfl
      · exact World.happen_countOf _ hsound.world Event.rejects_notice
  | idle => exact ⟨hspares, .kept rfl rfl rfl⟩
  | @finished e _ _ w hqueue _ hfinished =>
      obtain ⟨hspares', hheard⟩ := Background.finish_spares hspares e w
      exact ⟨hspares', passage_of_settles hqueue (by cases e <;> rfl) hfinished.passage
        (e.heard_fetched _ _ handler) hheard
        (Background.finish_settles_fetched _ hfinished)⟩
  | unwanted hqueue =>
      exact ⟨hspares, .kept rfl rfl (Station.rejections_withEvents hqueue rfl (.refl _))⟩
  | singleTimeout hqueue hexpired =>
      exact ⟨hspares, passage_of_settles hqueue rfl hexpired.passage rfl rfl hexpired.settles⟩
  | period hqueue hticked => exact passage_period hsound hspares hqueue hticked
  | cycleTimeout hqueue hexpired =>
      obtain ⟨hspares', hheard⟩ := hexpired.spares hspares
      exact ⟨hspares', .kept rfl hheard
        (Station.rejections_withEvents hqueue rfl hexpired.settles)⟩
  | @rejection iface carried reason rest hqueue =>
      refine ⟨hspares, ?_⟩
      have hcount := World.countOf_withEvents hqueue (Event.rejects handler)
      by_cases hown : carried = handler
      · refine .told (rfl : (Callback.requestFailed reason).isTerminal = true) rfl ?_ ?_
        · simp only [World.heard_notify, hown, if_true]
          rfl
        · simpa [Event.rejects, hown, Station.rejections] using hcount
      · refine .kept rfl ?_ ?_
        · exact World.heard_notify_of_ne _ _ _ hown
        · simpa [Event.rejects, hown, Station.rejections] using hcount.symm
  | cycleRejection hqueue =>
      exact ⟨hspares, .kept rfl (Background.heard_rejectCycle_of_ne _ _ _ _ (hspares _))
        (Station.rejections_withEvents hqueue rfl (Background.rejectCycle_settles _ _ _ _))⟩
  | @foreign e _ hqueue _ hother =>
      have he : e.rejects handler = false := by
        cases e with
        | admissionRejected iface carried reason => exact absurd rfl (hother iface carried reason)
        | _ => rfl
      exact ⟨hspares, .kept rfl rfl (Station.rejections_withEvents hqueue he (.refl _))⟩

end Step

/-! ## What every passage keeps -/

/-- Nothing follows a callback that ends a scan. -/
def EndsOnce (heard : List Callback) : Prop :=
  ∀ before last after, heard = before ++ last :: after → last.isTerminal = true → after = []

theorem endsOnce_append {heard : List Callback} (h : ∀ c ∈ heard, c.isTerminal = false)
    (last : Callback) : EndsOnce (heard ++ [last]) := by
  intro before c after heq hc
  rcases List.eq_nil_or_concat after with rfl | ⟨init, x, rfl⟩
  · rfl
  · have hsplit : heard ++ [last] = (before ++ c :: init) ++ [x] := by simpa using heq
    have hheard : heard = before ++ c :: init := (List.append_inj' hsplit rfl).1
    have hmem : c ∈ heard := by simp [hheard]
    rw [h c hmem] at hc
    cases hc

namespace Station

variable {now next : Station ρ} {handler : Handler}

theorem heard_not_terminal (h : now.outcomes handler = 0) :
    ∀ c ∈ now.world.heard handler, c.isTerminal = false := by
  intro c hc
  simpa using List.countP_eq_zero.mp h c hc

end Station

namespace Passage

variable {now next : Station ρ} {handler : Handler}

theorem balance (h : Passage handler now next) : next.balance handler = now.balance handler := by
  cases h with
  | kept hslot hheard hqueued =>
      simp only [Station.balance, Station.outcomes, hslot, hheard, hqueued]
  | @ended records last hrecords hlast hbefore hafter hheard hqueued =>
      have hnone : records.countP Callback.isTerminal = 0 :=
        List.countP_eq_zero.mpr fun c hc => by simp [hrecords c hc]
      simp [Station.balance, Station.outcomes, hbefore, hafter, hheard, hqueued, hnone, hlast]
  | told hlast hslot hheard hqueued =>
      simp only [Station.balance, Station.outcomes, hslot, hheard, hqueued, List.countP_append,
        List.countP_singleton, hlast, if_true]
      omega

/-- A handler with one outcome hears nothing after it. -/
theorem endsOnce (h : Passage handler now next) (hbalance : now.balance handler = 1)
    (honce : EndsOnce (now.world.heard handler)) : EndsOnce (next.world.heard handler) := by
  cases h with
  | kept _ hheard _ => rwa [hheard]
  | ended hrecords _ hbefore _ hheard _ =>
      have hnone : now.outcomes handler = 0 := by
        simp only [Station.balance, hbefore, if_true] at hbalance
        omega
      rw [hheard, ← List.append_assoc]
      refine endsOnce_append ?_ _
      intro c hc
      -- The balance is one and the slot accounts for it, so nothing heard so far is terminal.
      rcases List.mem_append.mp hc with hc | hc
      · exact Station.heard_not_terminal hnone c hc
      · exact hrecords c hc
  | told _ _ hheard hqueued =>
      have hnone : now.outcomes handler = 0 := by
        simp only [Station.balance, hqueued] at hbalance
        omega
      rw [hheard]
      exact endsOnce_append (Station.heard_not_terminal hnone) _

/-- A handler in no place hears nothing. -/
theorem absent (h : Passage handler now next) (hspares : next.Spares handler)
    (habsent : now.Absent handler) : next.Absent handler := by
  refine ⟨hspares, h.balance.trans habsent.balance, ?_⟩
  have hbalance := habsent.balance
  cases h with
  | kept _ hheard _ => exact hheard.trans habsent.heard
  | ended _ _ hbefore _ _ _ => simp [Station.balance, hbefore] at hbalance
  | told _ _ _ hqueued =>
      simp only [Station.balance, hqueued] at hbalance
      omega

end Passage

/-! ## Handing over a handler -/

section Calls

variable [Radio ρ] {now next : Station ρ} {move : Move ρ} {handler : Handler}

/-- Starting a single scan for a handler in no place puts it into one place, or into none if the
scan is refused. -/
theorem Station.Absent.single_started [NoticeRadio ρ] {settings : Option Settings}
    {r : Bool × Single × World ρ} (habsent : now.Absent handler) (hsound : now.Sound)
    (hstarted : Single.Started now.scanner.setup now.scanner.single now.world settings
      (some handler) r) :
    r.2.2.heard handler = [] ∧
      Station.balance ⟨{ now.scanner with single := r.2.1 }, r.2.2⟩ handler =
        if r.1 then 1 else 0 := by
  have hopen := hsound.world.isOpen
  have hheard := habsent.heard
  have hnone := habsent.rejections
  cases hstarted with
  | refused => exact ⟨hheard, habsent.balance⟩
  | @unresolved _ _ error hidle =>
      have hheard' : (now.world.post (.admissionRejected now.scanner.setup.iface handler
          error.reason)).heard handler = [] :=
        (World.heard_congr (World.post_callbacks _ _) _).trans hheard
      refine ⟨hheard', ?_⟩
      simp only [Station.rejections] at hnone
      simp [Station.balance, Station.outcomes, Station.slotHolds, Station.rejections, hidle,
        Slot.holds, hheard', World.post_countOf _ _ hopen, hnone, Event.rejects]
  | @rejected _ _ request hidle =>
      have hopen' := (hsound.world.asked now.scanner.setup.iface request).isOpen
      have hheard' : ((now.world.asked now.scanner.setup.iface request).post
          (.admissionRejected now.scanner.setup.iface handler
            (now.world.answer now.scanner.setup.iface request))).heard handler = [] :=
        (World.heard_congr (by simp) _).trans hheard
      refine ⟨hheard', ?_⟩
      simp only [Station.rejections] at hnone
      simp [Station.balance, Station.outcomes, Station.slotHolds, Station.rejections, Slot.holds,
        hheard', World.post_countOf _ _ hopen', World.asked_countOf hopen Event.rejects_notice,
        hnone, Event.rejects]
  | @armed _ _ request hidle =>
      have hheard' : ((now.world.asked now.scanner.setup.iface request).schedule
          (.singleTimeout now.scanner.setup.iface) now.scanner.setup.timeout).2.heard handler =
          [] :=
        (World.heard_congr (by simp) _).trans hheard
      refine ⟨hheard', ?_⟩
      simp only [Station.rejections] at hnone
      simp [Station.balance, Station.outcomes, Station.slotHolds, Station.rejections, Slot.holds,
        hheard', World.asked_countOf hopen Event.rejects_notice, hnone]

theorem Station.accepts_handler (h : now.accepts move = some handler) :
    move.handler? = some handler := by
  cases move with
  | single settings other =>
      simp only [accepts] at h
      split at h
      · exact h
      · cases h
  | _ => cases h

theorem Station.refuses_handler (h : now.refuses move = some handler) :
    move.handler? = some handler := by
  cases move with
  | single settings other =>
      simp only [refuses] at h
      split at h
      · cases h
      · exact h
  | background settings other =>
      simp only [refuses] at h
      split at h
      · cases h
      · exact h
  | _ => cases h

/-- An accepted handler is in one place from the start. -/
theorem Station.Absent.accepted [NoticeRadio ρ] (habsent : now.Absent handler)
    (hsound : now.Sound) (haccepts : now.accepts move = some handler) :
    (now.perform move).Spares handler ∧ (now.perform move).balance handler = 1 ∧
      (now.perform move).world.heard handler = [] := by
  cases move with
  | single settings other =>
      obtain rfl : other = some handler := accepts_handler haccepts
      have hstarted := Single.start_started now.scanner.setup now.scanner.single settings
        (some handler) now.world
      obtain ⟨hheard, hbalance⟩ := habsent.single_started hsound hstarted
      have htrue : (now.scanner.startSingle settings (some handler) now.world).1 = true := by
        rw [accepts] at haccepts
        split at haccepts
        next h => exact h
        next => cases haccepts
      exact ⟨habsent.spares, hbalance.trans (if_pos htrue), hheard⟩
  | _ => cases haccepts

/-- A refused handler is in no place. -/
theorem Station.Absent.refused [NoticeRadio ρ] (habsent : now.Absent handler)
    (hsound : now.Sound) (hrefuses : now.refuses move = some handler) :
    (now.perform move).Absent handler := by
  cases move with
  | single settings other =>
      obtain rfl : other = some handler := refuses_handler hrefuses
      have hstarted := Single.start_started now.scanner.setup now.scanner.single settings
        (some handler) now.world
      obtain ⟨hheard, hbalance⟩ := habsent.single_started hsound hstarted
      have hfalse : (now.scanner.startSingle settings (some handler) now.world).1 ≠ true := by
        intro htrue
        simp [refuses, htrue] at hrefuses
      exact ⟨habsent.spares, hbalance.trans (if_neg hfalse), hheard⟩
  | background settings other =>
      obtain rfl : other = some handler := refuses_handler hrefuses
      have hnone : (now.scanner.startBackground settings (some handler) now.world).1.isSome ≠
          true := by
        intro hsome
        simp [refuses, hsome] at hrefuses
      have hstarted := Background.start_started now.scanner.setup now.scanner.background settings
        (some handler) now.world
      simp only [perform, Scanner.startBackground] at hnone ⊢
      generalize now.scanner.background.start now.scanner.setup settings (some handler) now.world
        = r at hnone hstarted ⊢
      cases hstarted with
      | refused => exact habsent
      | unresolved => exact absurd rfl hnone
      | activated => exact absurd rfl hnone
  | _ => cases hrefuses

end Calls

/-! ## Every run -/

namespace Run

variable [Radio ρ]

/-- What one observer sees is part of what another sees. -/
theorem collect_subset {α : Type} {f g : Station ρ → Move ρ → Option α}
    (h : ∀ now move a, f now move = some a → g now move = some a) (run : Run ρ) :
    run.collect f ⊆ run.collect g := by
  induction run with
  | begin => exact List.Subset.refl _
  | extend run move ih =>
      intro a ha
      simp only [collect, List.mem_append, Option.mem_toList] at ha ⊢
      rcases ha with ha | ha
      · exact .inl (ih ha)
      · exact .inr (h _ _ _ ha)

theorem accepted_subset (run : Run ρ) : run.accepted ⊆ run.handlers :=
  run.collect_subset fun _ _ _ => Station.accepts_handler

theorem refused_subset (run : Run ρ) : run.refused ⊆ run.handlers :=
  run.collect_subset fun _ _ _ => Station.refuses_handler

section Once

variable {run : Run ρ} {move : Move ρ} {handler : Handler}

/-- A handler that the last move handed over for the first time was not known before. -/
theorem not_mem_of_given (hgiven : move.handler? = some handler)
    (hcount : (run.extend move).handlers.count handler = 1) : handler ∉ run.handlers := by
  simpa [handlers_extend, hgiven, List.count_append, List.count_eq_zero] using hcount

/-- A handler that was known before was not handed over again. -/
theorem count_of_mem (hmem : handler ∈ run.handlers)
    (hcount : (run.extend move).handlers.count handler = 1) :
    run.handlers.count handler = 1 ∧ move.handler? ≠ some handler := by
  have hpos := List.count_pos_iff.mpr hmem
  rw [handlers_extend, List.count_append] at hcount
  refine ⟨by omega, fun hgiven => ?_⟩
  simp [hgiven] at hcount
  omega

end Once

/-- Where a handler is at the end of a run, if no second call has handed it over. -/
structure Custody (run : Run ρ) (handler : Handler) : Prop where
  unused : handler ∉ run.handlers → run.now.Absent handler
  accepted : run.handlers.count handler = 1 → handler ∈ run.accepted →
    run.now.Spares handler ∧ run.now.balance handler = 1 ∧
      EndsOnce (run.now.world.heard handler)
  refused : run.handlers.count handler = 1 → handler ∈ run.refused → run.now.Absent handler

variable [NoticeRadio ρ]

/-- The handler is handed over: nobody had it before, if this is the first time. -/
theorem Custody.handOver {run : Run ρ} {move : Move ρ} {handler : Handler}
    (h : run.Custody handler) (hmove : move.handler? = some handler) :
    (run.extend move).Custody handler := by
  have hsound := run.sound
  have hmem : handler ∈ (run.extend move).handlers := by
    simp [handlers_extend, hmove]
  refine ⟨fun hnot => absurd hmem hnot, ?_, ?_⟩
  · intro hcount haccepted
    have hunused := not_mem_of_given hmove hcount
    have habsent := h.unused hunused
    rcases List.mem_append.mp haccepted with hold | hnew
    · exact absurd (run.accepted_subset hold) hunused
    · obtain ⟨hspares, hbalance, hheard⟩ := habsent.accepted hsound (Option.mem_toList.mp hnew)
      refine ⟨hspares, hbalance, ?_⟩
      rw [now, hheard]
      intro before last after heq
      simp at heq
  · intro hcount hrefused
    have hunused := not_mem_of_given hmove hcount
    have habsent := h.unused hunused
    rcases List.mem_append.mp hrefused with hold | hnew
    · exact absurd (run.refused_subset hold) hunused
    · exact habsent.refused hsound (Option.mem_toList.mp hnew)

/-- The handler only passes through the move. -/
theorem Custody.passOn {run : Run ρ} {move : Move ρ} {handler : Handler}
    (h : run.Custody handler) (hmove : move.handler? ≠ some handler) :
    (run.extend move).Custody handler := by
  have hsound := run.sound
  have hstep := run.now.step_perform move
  have hhandlers : (run.extend move).handlers.count handler = run.handlers.count handler := by
    simpa [handlers_extend, List.count_append, List.count_eq_zero] using hmove
  refine ⟨?_, ?_, ?_⟩
  · intro hnot
    have habsent := h.unused fun hold => hnot (List.mem_append_left _ hold)
    obtain ⟨hspares, hpassage⟩ := hstep.passage hsound habsent.spares hmove
    exact hpassage.absent hspares habsent
  · intro hcount haccepted
    rw [hhandlers] at hcount
    -- A move accepts only the handler that it hands over, so this one was accepted before.
    have hold : handler ∈ run.accepted := by
      rcases List.mem_append.mp haccepted with hold | hnew
      · exact hold
      · exact absurd (Station.accepts_handler (Option.mem_toList.mp hnew)) hmove
    obtain ⟨hspares, hbalance, honce⟩ := h.accepted hcount hold
    obtain ⟨hspares', hpassage⟩ := hstep.passage hsound hspares hmove
    exact ⟨hspares', hpassage.balance.trans hbalance, hpassage.endsOnce hbalance honce⟩
  · intro hcount hrefused
    rw [hhandlers] at hcount
    have hold : handler ∈ run.refused := by
      rcases List.mem_append.mp hrefused with hold | hnew
      · exact hold
      · exact absurd (Station.refuses_handler (Option.mem_toList.mp hnew)) hmove
    have habsent := h.refused hcount hold
    obtain ⟨hspares, hpassage⟩ := hstep.passage hsound habsent.spares hmove
    exact hpassage.absent hspares habsent

theorem custody (run : Run ρ) (handler : Handler) : run.Custody handler := by
  induction run with
  | begin setup radio clock =>
      refine ⟨fun _ => ⟨?_, rfl, rfl⟩, ?_, ?_⟩
      · intro id p hfind
        cases hfind
      · intro _ h
        cases h
      · intro _ h
        cases h
  | extend run move ih =>
      by_cases hmove : move.handler? = some handler
      · exact ih.handOver hmove
      · exact ih.passOn hmove

/-- Every accepted single scan has exactly one outcome: its handler has heard it, or the armed
slot holds the handler, or a queued rejection carries it, and nothing follows the outcome. A
refused handler hears nothing, no call makes a callback, and between moves the slot is idle or
armed. A handler is meant to be handed over once. -/
theorem single_scan_has_one_outcome (run : Run ρ) :
    (∀ handler ∈ run.accepted, run.handlers.count handler = 1 →
      run.now.outcomes handler + (if run.now.slotHolds handler then 1 else 0) +
          run.now.rejections handler = 1 ∧
        EndsOnce (run.now.world.heard handler)) ∧
    (∀ handler ∈ run.refused, run.handlers.count handler = 1 →
      run.now.world.heard handler = []) ∧
    (∀ move : Move ρ, move.isCall = true →
      (run.now.perform move).world.callbacks = run.now.world.callbacks) ∧
    (run.now.scanner.single.phase = .idle ∨ run.now.scanner.single.phase = .armed) := by
  refine ⟨?_, ?_, ?_, ?_⟩
  · intro handler haccepted hfresh
    obtain ⟨-, hbalance, honce⟩ := (run.custody handler).accepted hfresh haccepted
    exact ⟨hbalance, honce⟩
  · intro handler hrefused hfresh
    exact ((run.custody handler).refused hfresh hrefused).heard
  · intro move hcall
    exact (run.now.step_perform move).callbacks_of_isCall hcall
  · have hsettled := run.sound.settled
    unfold Single.phase
    cases hslot : run.now.scanner.single.slot with
    | requested => exact absurd hslot hsettled
    | idle => exact .inl rfl
    | armed scan => exact .inr rfl

end Run

namespace Sample

/-- One scan that times out, one that is refused meanwhile, and one whose rejection is queued. -/
def threeScans : Run Replay :=
  run
    [.single (some settings) (some (handler 1)), .single (some settings) (some (handler 2)),
      .fire 1, .dispatch, .outside (.radio (radio .reject)),
      .single (some settings) (some (handler 3))]

theorem threeScans_outcomes :
    (∀ scan ∈ [handler 1, handler 3],
      threeScans.now.outcomes scan + (if threeScans.now.slotHolds scan then 1 else 0) +
          threeScans.now.rejections scan = 1 ∧
        EndsOnce (threeScans.now.world.heard scan)) ∧
      threeScans.now.world.heard (handler 2) = [] := by
  have haccepted : ∀ scan ∈ [handler 1, handler 3],
      scan ∈ threeScans.accepted ∧ threeScans.handlers.count scan = 1 := by decide +kernel
  have hrefused : handler 2 ∈ threeScans.refused ∧ threeScans.handlers.count (handler 2) = 1 := by
    decide +kernel
  obtain ⟨houtcome, hsilent, -, -⟩ := threeScans.single_scan_has_one_outcome
  refine ⟨?_, hsilent _ hrefused.1 hrefused.2⟩
  intro scan hscan
  exact houtcome scan (haccepted scan hscan).1 (haccepted scan hscan).2

end Sample

end WirelessScan
