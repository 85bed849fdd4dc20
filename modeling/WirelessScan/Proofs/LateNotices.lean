import WirelessScan.Proofs.Waiting

/-!
# Notices that come late

A notice of the radio names an interface and no scan. It is discarded if nothing waits when it is
dispatched, and ends everything that waits otherwise, also a request that was admitted after the
scan of the notice had ended. What can be said of the origin of a notice is a matter of counting:
a replay radio announces at most one for each scan it admits, so as many are outstanding or
delivered as scans were admitted, or less. After a moment without an outstanding notice, the
notices that are delivered are those of scans admitted since.
-/

namespace WirelessScan

variable {ρ : Type}

/-! ## A notice of the interface -/

/-- The same scanner, alarms and callbacks. -/
structure Station.Untouched (now next : Station ρ) : Prop where
  single : next.scanner.single = now.scanner.single
  config : ∀ id, next.config? id = now.config? id
  timers : next.world.timers = now.world.timers
  callbacks : next.world.callbacks = now.world.callbacks

section Notices

variable [Radio ρ] {now next : Station ρ}

theorem Step.untouched_of_free {e : Ending} {rest : List Event} {single : Single}
    {world : World ρ}
    (hfinished : Single.Finished e now.scanner.single
      (e.fetched now.iface (now.world.withEvents rest)) (single, world))
    (hfree : ∀ place, now.waiting? place = none) :
    now.Untouched
      ⟨{ now.scanner with single, background := (now.scanner.background.finish e world).1 },
        (now.scanner.background.finish e world).2⟩ := by
  have hidle : ∀ id p, now.config? id = some p → p.pending = none := by
    intro id p hfind
    have hcycle := hfree (.cycle id)
    rw [Station.waiting?_cycle hfind] at hcycle
    exact Periodic.waiting?_eq_none.mp hcycle
  cases hfinished with
  | armed hslot =>
      have hsingle := hfree .single
      simp [Station.waiting?, Slot.waiting?, hslot] at hsingle
  | unarmed =>
      rw [Background.finish_of_idle e hidle]
      cases e with
      | results raw => exact ⟨rfl, fun _ => rfl, rfl, World.fetch_callbacks _ _⟩
      | failure reason => exact ⟨rfl, fun _ => rfl, rfl, rfl⟩

/-- A notice of the interface ends all that waits, and nothing else. -/
theorem Step.notice {e : Event} (hstep : Step now .dispatch next)
    (hturn : now.turn? .dispatch = some e) (hnotice : e.isNotice = true)
    (hiface : e.iface? = some now.iface) :
    (∀ place, next.waiting? place = none) ∧
      ((∀ place, now.waiting? place = none) → now.Untouched next) := by
  have hother {e' : Event} {rest : List Event} (hqueue : now.world.queue.events = e' :: rest) :
      e' = e := by
    simpa [Station.turn?, hqueue] using hturn
  cases hstep with
  | idle hqueue => simp [Station.turn?, hqueue] at hturn
  | finished _ _ hfinished =>
      exact ⟨Station.waiting?_finished hfinished, Step.untouched_of_free hfinished⟩
  | unwanted _ hidle =>
      exact ⟨Station.waiting?_of_not_isWaiting hidle, fun _ => ⟨rfl, fun _ => rfl, rfl, rfl⟩⟩
  | foreign hqueue hforeign => exact (hforeign (hother hqueue ▸ hiface)).elim
  | singleTimeout hqueue => cases hother hqueue; cases hnotice
  | period hqueue => cases hother hqueue; cases hnotice
  | cycleTimeout hqueue => cases hother hqueue; cases hnotice
  | rejection hqueue => cases hother hqueue; cases hnotice
  | cycleRejection hqueue => cases hother hqueue; cases hnotice

end Notices

/-! ## Notices and admitted scans -/

namespace Replay

variable (r : Replay) (clock : UInt64) (iface : String)

theorem issue_posted : (r.issue clock iface).posted = [] := by
  unfold issue
  split <;> rfl

/-- A scan that is admitted announces one notice at most, and a refused one none. -/
theorem length_issue_later : (r.issue clock iface).later.length ≤
    if (r.issue clock iface).status = .succeeded then 1 else 0 := by
  unfold issue
  split
  · exact Nat.zero_le _
  · rw [if_pos rfl, Option.length_toList]
    split <;> omega

end Replay

namespace World

/-- The number of scans that the radio admitted. -/
def scans (w : World ρ) : Nat :=
  w.admissions.countP fun a => a.2 = .succeeded

/-- The number of notices that are announced or queued. -/
def outstanding (w : World ρ) : Nat :=
  w.notices.length + w.queue.countOf Event.isNotice

/-- The number of scans that were admitted and have no notice outstanding. -/
def answered (w : World ρ) : Int :=
  w.scans - w.outstanding

theorem Settles.answered {w w' : World ρ} (h : w.Settles w') : w'.answered = w.answered := by
  rw [World.answered, World.answered, scans, scans, outstanding, outstanding, h.admissions,
    h.notices, h.queue]

@[simp] theorem answered_schedule (w : World ρ) (tag : TimerTag) (millis : UInt64) :
    (w.schedule tag millis).2.answered = w.answered := by
  rw [answered, answered, scans, scans, schedule_admissions]
  rfl

theorem answered_post {w : World ρ} (hopen : w.queue.isOpen = true) {e : Event}
    (he : e.isNotice = false) : (w.post e).answered = w.answered := by
  have hcount := Queue.countOf_post hopen Event.isNotice e
  rw [he] at hcount
  simp only [answered, scans, outstanding, post]
  rw [hcount]
  rfl

theorem answered_withEvents {w : World ρ} {e : Event} {rest : List Event}
    (hqueue : w.queue.events = e :: rest) :
    (w.withEvents rest).answered = w.answered + if e.isNotice then 1 else 0 := by
  have hcount := countOf_withEvents hqueue Event.isNotice
  have hscans : (w.withEvents rest).scans = w.scans := rfl
  have hnotices : (w.withEvents rest).notices = w.notices := rfl
  rw [answered, answered, outstanding, outstanding, hscans, hnotices, hcount]
  split <;> omega

/-- An admitted scan has one notice at most. -/
theorem answered_le_asked (w : World Replay) (iface : String) (request : Request) :
    w.answered ≤ (w.asked iface request).answered := by
  have hscans : (w.asked iface request).scans =
      w.scans + if w.answer iface request = .succeeded then 1 else 0 := by
    simp [scans, List.countP_append, List.countP_singleton]
  have hnotices : (w.asked iface request).notices.length = w.notices.length +
      (Radio.issue w.radio w.clock iface request).later.length := by
    simp [asked, issue, readClock, record]
  have hqueue : (w.asked iface request).queue = w.queue :=
    congrArg (List.foldl Queue.post w.queue) (w.radio.issue_posted w.clock iface)
  have hlater : (Radio.issue w.radio w.clock iface request).later.length ≤
      if w.answer iface request = .succeeded then 1 else 0 :=
    w.radio.length_issue_later w.clock iface
  rw [answered, answered, outstanding, outstanding, hscans, hnotices, hqueue]
  omega

end World

/-- Running a cycle asks the radio at most once. -/
theorem Periodic.Ran.answered_le {setup : Setup} {id : ScanId} {p p' : Periodic}
    {w w' : World Replay} {refusal : Option Reason} (h : Ran setup id p w (refusal, p', w')) :
    w.answered ≤ w'.answered := by
  cases h with
  | skipped => exact Int.le_refl _
  | unresolved => exact Int.le_refl _
  | rejected => exact w.answered_le_asked _ _
  | admitted =>
      rw [World.answered_schedule]
      exact w.answered_le_asked _ _

/-- Whether a notice only appears as the radio announced it. -/
def Move.isAnnounced : Move ρ → Bool
  | outside (.results _) => false
  | outside (.failure ..) => false
  | _ => true

namespace Station

/-- The number of notices that a move dispatches. -/
def delivers (now : Station ρ) (move : Move ρ) : Nat :=
  if (now.turn? move).any Event.isNotice then 1 else 0

theorem delivers_dispatch {now : Station ρ} {e : Event} {rest : List Event}
    (hqueue : now.world.queue.events = e :: rest) :
    now.delivers .dispatch = if e.isNotice then 1 else 0 := by
  simp [delivers, turn?, hqueue]

theorem answered_other {now : Station Replay} {move : Move Replay} {w : World Replay}
    (hturn : now.turn? move = none) (hw : now.world.answered ≤ w.answered) :
    now.world.answered + now.delivers move ≤ w.answered := by
  simpa [delivers, hturn] using hw

theorem answered_dispatch {now : Station Replay} {e : Event} {rest : List Event}
    {w : World Replay} (hqueue : now.world.queue.events = e :: rest)
    (hw : (now.world.withEvents rest).answered ≤ w.answered) :
    now.world.answered + now.delivers .dispatch ≤ w.answered := by
  rw [World.answered_withEvents hqueue] at hw
  rw [delivers_dispatch hqueue]
  split at hw <;> simp_all

end Station

section Counting

variable {now next : Station Replay} {move : Move Replay}

theorem World.happen_answered {w : World Replay} (hw : w.Sound) {happening : Happening Replay}
    (hannounced : (Move.outside happening).isAnnounced = true) :
    w.answered ≤ (w.happen happening).answered := by
  cases happening with
  | results iface => cases hannounced
  | failure iface reason => cases hannounced
  | arrival n =>
      simp only [World.happen]
      split
      next hn =>
        have hnotice := hw.notices n hn
        have hcount := Queue.countOf_post hw.isOpen Event.isNotice n.event
        have hlength := List.length_erase_of_mem hn
        have hpos := List.length_pos_of_mem hn
        rw [hnotice, if_pos rfl] at hcount
        simp only [World.answered, World.scans, World.outstanding, hcount, hlength]
        simp only [World.admissions]
        omega
      next => exact Int.le_refl _
  | radio radio => exact Int.le_refl _
  | time millis nanos => exact Int.le_refl _

/-- A move dispatches no more notices than it takes from those outstanding. -/
theorem Step.answered (hstep : Step now move next) (hsound : now.Sound)
    (hannounced : move.isAnnounced = true) :
    now.world.answered + now.delivers move ≤ next.world.answered := by
  have hopen := hsound.world.isOpen
  cases hstep with
  | single hstarted =>
      refine Station.answered_other rfl ?_
      cases hstarted with
      | refused => exact Int.le_refl _
      | unresolved => exact Int.le_of_eq (World.answered_post hopen rfl).symm
      | @rejected _ _ request =>
          have hasked := (hsound.world.asked now.scanner.setup.iface request).isOpen
          rw [World.answered_post hasked rfl]
          exact now.world.answered_le_asked _ _
      | armed =>
          rw [World.answered_schedule]
          exact now.world.answered_le_asked _ _
  | background hstarted =>
      refine Station.answered_other rfl ?_
      cases hstarted with
      | refused => exact Int.le_refl _
      | unresolved => exact Int.le_of_eq (World.answered_post hopen rfl).symm
      | @activated _ _ _ refusal _ w _ _ hran =>
          -- The alarm of the next cycle is scheduled first, then the cycle runs.
          have hran' := hran.answered_le
          rw [World.answered_schedule] at hran'
          cases refusal with
          | none => exact hran'
          | some reason =>
              have hopen' := ((hsound.world.schedule _ _).ran hran).isOpen
              rw [Option.elim_some, World.answered_post hopen' rfl]
              exact hran'
  | stopInactive => exact Station.answered_other rfl (Int.le_refl _)
  | stopActive =>
      exact Station.answered_other rfl
        (Int.le_of_eq (Periodic.disarm_settles _ _).answered.symm)
  | fireInactive => exact Station.answered_other rfl (Int.le_refl _)
  | @fire a =>
      refine Station.answered_other rfl (Int.le_of_eq ?_)
      exact (World.answered_post (e := .timerFired a.tag a.handle) hopen rfl).symm
  | outside => exact Station.answered_other rfl (World.happen_answered hsound.world hannounced)
  | idle hqueue =>
      exact Station.answered_other (by simp [Station.turn?, hqueue]) (Int.le_refl _)
  | finished hqueue _ hfinished =>
      exact Station.answered_dispatch hqueue
        (Int.le_of_eq (Background.finish_settles_fetched _ hfinished).answered.symm)
  | unwanted hqueue => exact Station.answered_dispatch hqueue (Int.le_refl _)
  | singleTimeout hqueue hexpired =>
      exact Station.answered_dispatch hqueue (Int.le_of_eq hexpired.settles.answered.symm)
  | @period _ _ rest _ _ hqueue hticked =>
      refine Station.answered_dispatch hqueue ?_
      cases hticked with
      | stale => exact Int.le_refl _
      | @ticked _ _ refusal _ _ _ hran =>
          have hran' := hran.answered_le
          rw [World.answered_schedule] at hran'
          cases refusal with
          | none => exact hran'
          | some reason =>
              rw [Option.elim_some, (World.Settles.notify _ _ _).answered]
              exact hran'
  | cycleTimeout hqueue hexpired =>
      exact Station.answered_dispatch hqueue (Int.le_of_eq hexpired.settles.answered.symm)
  | rejection hqueue =>
      exact Station.answered_dispatch hqueue
        (Int.le_of_eq (World.Settles.notify _ _ _).answered.symm)
  | cycleRejection hqueue =>
      exact Station.answered_dispatch hqueue
        (Int.le_of_eq (Background.rejectCycle_settles _ _ _ _).answered.symm)
  | foreign hqueue => exact Station.answered_dispatch hqueue (Int.le_refl _)

namespace Run

/-- The number of notices that were dispatched. -/
def delivered (run : Run ρ) [Radio ρ] : Nat :=
  run.total Station.delivers

/-- Over some moves, the notices that are dispatched are covered by scans that were answered. -/
theorem answered_after (run : Run Replay) (moves : List (Move Replay))
    (hannounced : ∀ move ∈ moves, move.isAnnounced = true) :
    run.now.world.answered + (moves.foldl extend run).delivered ≤
      (moves.foldl extend run).now.world.answered + run.delivered := by
  induction moves generalizing run with
  | nil => exact Int.le_refl _
  | cons move rest ih =>
      obtain ⟨hmove, hrest⟩ := List.forall_mem_cons.mp hannounced
      have hstep := (run.now.step_perform move).answered run.sound hmove
      have htail := ih (run.extend move) hrest
      have hdelivered : (run.extend move).delivered = run.delivered + run.now.delivers move := rfl
      rw [hdelivered] at htail
      rw [List.foldl_cons]
      simp only [now] at htail
      omega

/-- A notice of the interface ends every request that waits when it is dispatched, whatever scan
it was announced for, and it is discarded if no request waits. After a moment when no notice is
outstanding, though, no more notices are dispatched than scans are admitted. -/
theorem notices_end_what_waits (run : Run Replay) :
    (∀ e, run.now.turn? .dispatch = some e → e.isNotice = true →
      e.iface? = some run.now.iface →
        (∀ place, (run.extend .dispatch).now.waiting? place = none) ∧
        ((∀ place, run.now.waiting? place = none) →
          run.now.Untouched (run.extend .dispatch).now)) ∧
    ∀ moves : List (Move Replay), run.now.world.outstanding = 0 →
      (∀ move ∈ moves, move.isAnnounced = true) →
        (moves.foldl extend run).delivered + run.now.world.scans ≤
          run.delivered + (moves.foldl extend run).now.world.scans := by
  refine ⟨fun e hturn hnotice hiface => ?_, fun moves hquiet hannounced => ?_⟩
  · exact (run.now.step_perform .dispatch).notice hturn hnotice hiface
  · have hafter := run.answered_after moves hannounced
    simp only [World.answered, hquiet] at hafter
    omega

end Run

end Counting

namespace Sample

/-- A scanner with a watchdog that is faster than its radio. -/
def hasty : Run Replay :=
  .begin { setup with timeout := 100 } (radio .results) 0

/-- A single scan times out, and another one starts. The notice of the first scan arrives while
the notice of the second is still to come. -/
def overlap : List (Move Replay) :=
  [.single (some settings) (some (handler 1)), .outside (.time 100 100000000), .fire 1, .dispatch,
    .outside (.time 250 250000000), .single (some settings) (some (handler 2)),
    .outside (.time 300 300000000), .outside (.arrival ⟨300, 1, .resultsAvailable "wlan0"⟩)]

def lateNotice : Run Replay :=
  overlap.foldl .extend hasty

theorem lateNotice_ends_all :
    lateNotice.now.turn? .dispatch = some (.resultsAvailable "wlan0") ∧
      (∀ place, (lateNotice.extend .dispatch).now.waiting? place = none) ∧
      lateNotice.delivered + hasty.now.world.scans ≤
        hasty.delivered + lateNotice.now.world.scans := by
  have hturn : lateNotice.now.turn? .dispatch = some (.resultsAvailable "wlan0") := by
    decide +kernel
  have hiface : Event.iface? (.resultsAvailable "wlan0") = some lateNotice.now.iface := by
    decide +kernel
  refine ⟨hturn, (lateNotice.notices_end_what_waits.1 _ hturn rfl hiface).1, ?_⟩
  exact hasty.notices_end_what_waits.2 overlap rfl (by decide)

/-- The notice of the scan that has timed out completes the next scan. -/
theorem lateNotice_completes_next_scan :
    ¬ (lateNotice.now.world.heard (handler 1) = [.requestFailed .timeout] →
      lateNotice.now.world.notices = [⟨550, 2, .resultsAvailable "wlan0"⟩] →
      (lateNotice.extend .dispatch).now.slotHolds (handler 2) =
        lateNotice.now.slotHolds (handler 2)) := by
  have hended : lateNotice.now.world.heard (handler 1) = [.requestFailed .timeout] := by
    decide +kernel
  have hnotices : lateNotice.now.world.notices = [⟨550, 2, .resultsAvailable "wlan0"⟩] := by
    decide +kernel
  intro hheld
  have hsame := hheld hended hnotices
  have hbefore : lateNotice.now.slotHolds (handler 2) = true := by decide +kernel
  have hafter : (lateNotice.extend .dispatch).now.slotHolds (handler 2) = false := by
    decide +kernel
  rw [hbefore, hafter] at hsame
  cases hsame

end Sample

end WirelessScan
