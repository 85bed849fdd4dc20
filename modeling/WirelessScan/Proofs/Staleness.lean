import WirelessScan.Proofs.Cycles
import WirelessScan.Proofs.Settlement
import WirelessScan.Proofs.Stored

/-!
# Late and repeated events

An expiry is late if what its timer belonged to is gone: the scan or the cycle has ended, the period
timer was armed anew, the configuration was stopped, or the expiry was dispatched before. A late
expiry does nothing, however much later it is dispatched and whatever was started in the meantime.
Dispatching a notice or an expiry a second time does nothing either.

Both rest on the handles. What is gone is not stored, and a handle that was handed out and is not
stored is never stored again.
-/

namespace WirelessScan

variable {ρ : Type}

/-! ## What a handle is stored for -/

namespace Scanner.Stores

variable {s : Scanner} {iface : String} {id : ScanId} {handle : TimerHandle}

theorem iface_eq {tag : TimerTag} (h : s.Stores tag handle) : tag.iface = s.iface := by
  cases h <;> rfl

theorem singleTimeout_inv (h : s.Stores (.singleTimeout iface) handle) :
    ∃ scan, s.single.slot = .armed scan ∧ scan.timeout = handle := by
  cases h with
  | single hslot => exact ⟨_, hslot, rfl⟩

theorem period_inv (h : s.Stores (.period iface id) handle) :
    ∃ p, s.background.scans.find? id = some p ∧ p.periodTimer = handle := by
  cases h with
  | period hfind => exact ⟨_, hfind, rfl⟩

theorem cycleTimeout_inv (h : s.Stores (.cycleTimeout iface id) handle) :
    ∃ p c, s.background.scans.find? id = some p ∧ p.pending = some c ∧ c.timeout = handle := by
  cases h with
  | cycle hfind hpending => exact ⟨_, _, hfind, hpending, rfl⟩

end Scanner.Stores

/-! ## Dispatched expiries -/

namespace Scanner

variable [Radio ρ] {s : Scanner} {w : World ρ} {tag : TimerTag} {handle : TimerHandle}

/-- Whatever the interface, an expiry whose handle is not stored does nothing. -/
theorem handle_late (h : s.stored tag ≠ some handle) :
    s.handle (.timerFired tag handle) w = (s, w) := by
  by_cases hiface : tag.iface = s.iface
  · exact handle_unstored hiface h
  · exact handle_foreign rfl hiface

/-- After its expiry was dispatched, a handle is not stored under its tag. -/
theorem not_stored_handled (hissued : handle ∈ w.issued)
    (hfresh : (s.handle (.timerFired tag handle) w).2.issued.Nodup) :
    (s.handle (.timerFired tag handle) w).1.stored tag ≠ some handle := by
  by_cases hiface : tag.iface = s.iface
  case neg =>
    rw [handle_foreign rfl hiface]
    exact fun hstored => hiface (stores_iff.mpr hstored).iface_eq
  intro hstored
  have hstores := stores_iff.mpr hstored
  rw [handle_timerFired hiface] at hstores hfresh
  cases tag with
  | singleTimeout i =>
      have hexpired := Single.expire_expired s.single handle w
      simp only [handleTimer] at hstores
      generalize s.single.expire handle w = r at hexpired hstores
      rcases hstores.singleTimeout_inv with ⟨scan, hslot, htimeout⟩
      cases hexpired with
      | stale hstale => exact hstale scan hslot htimeout
      | own => cases hslot
  | period i id =>
      have hticked := Background.tick_ticked s.setup s.background id handle w
      simp only [handleTimer] at hstores hfresh
      generalize s.background.tick s.setup id handle w = r at hticked hstores hfresh
      rcases hstores.period_inv with ⟨p, hfind, htimer⟩
      cases hticked with
      | stale hstale => exact hstale p hfind htimer
      | @ticked _ p' refusal w' _ _ hran =>
          -- The period timer was armed anew, and no handle is handed out twice.
          have hissued' : w'.issued.Nodup := by
            cases refusal with
            | none => exact hfresh
            | some reason => simpa using hfresh
          obtain rfl : p' = p := by simpa using hfind
          rw [hran.periodTimer] at htimer
          change w.timers.next = handle at htimer
          apply World.next_not_issued (hran.issued_prefix.sublist.nodup hissued')
          rw [htimer]
          exact hissued
  | cycleTimeout i id =>
      have hexpired := Background.expire_expired s.background id handle w
      simp only [handleTimer] at hstores
      generalize s.background.expire id handle w = r at hexpired hstores
      rcases hstores.cycleTimeout_inv with ⟨p, c, hfind, hpending, htimeout⟩
      cases hexpired with
      | stale hstale => exact hstale p c hfind hpending htimeout
      | own =>
          obtain rfl : Periodic.dropped _ = p := by simpa using hfind
          cases hpending

end Scanner

namespace Station

variable [Radio ρ] {now : Station ρ}

theorem not_stored_dispatched {move : Move ρ} {tag : TimerTag} {handle : TimerHandle}
    (hturn : now.turn? move = some (.timerFired tag handle))
    (hissued : handle ∈ now.world.issued) (hfresh : (now.perform move).world.issued.Nodup) :
    (now.perform move).scanner.stored tag ≠ some handle := by
  rcases turn?_eq_some hturn with ⟨rfl, rest, hqueue⟩
  by_cases hiface : tag.iface = now.iface
  · have hserve : now.perform .dispatch = _ := serve_own hqueue (congrArg some hiface)
    rw [hserve] at hfresh ⊢
    exact Scanner.not_stored_handled hissued hfresh
  · have hserve : now.perform .dispatch = _ :=
      serve_foreign hqueue fun h => hiface (Option.some.inj h)
    rw [hserve]
    exact fun hstored => hiface (Scanner.stores_iff.mpr hstored).iface_eq

/-- A move makes the expiries of a handle late: what the timer of the handle belonged to is gone
afterwards, or the move dispatches an expiry. -/
inductive Retires (now : Station ρ) (move : Move ρ) : TimerTag → TimerHandle → Prop where
  /-- The single scan ends. -/
  | single {scan : InFlight} (hslot : now.scanner.single.slot = .armed scan)
      (hended : (now.perform move).scanner.single.slot ≠ .armed scan) :
      Retires now move (.singleTimeout now.iface) scan.timeout
  /-- A cycle ends, or its configuration is stopped. -/
  | cycle {id : ScanId} {p : Periodic} {c : Cycle} (hfind : now.config? id = some p)
      (hpending : p.pending = some c)
      (hended : ∀ q, (now.perform move).config? id = some q → q.pending ≠ some c) :
      Retires now move (.cycleTimeout now.iface id) c.timeout
  /-- The period timer of a configuration is armed anew, or the configuration is stopped. -/
  | period {id : ScanId} {p : Periodic} (hfind : now.config? id = some p)
      (hrearmed : ∀ q, (now.perform move).config? id = some q →
        q.periodTimer ≠ p.periodTimer) :
      Retires now move (.period now.iface id) p.periodTimer
  | dispatched {tag : TimerTag} {handle : TimerHandle}
      (hturn : now.turn? move = some (.timerFired tag handle))
      (hissued : handle ∈ now.world.issued) : Retires now move tag handle

end Station

/-! ## Every run -/

namespace Run

variable [Radio ρ] (run : Run ρ)

theorem issued_of_retires {move : Move ρ} {tag : TimerTag} {handle : TimerHandle}
    (h : run.now.Retires move tag handle) : handle ∈ run.now.world.issued := by
  cases h with
  | single hslot => exact run.stored_issued (Scanner.stores_iff.mp (.single hslot))
  | cycle hfind hpending => exact run.stored_issued (Scanner.stores_iff.mp (.cycle hfind hpending))
  | period hfind => exact run.stored_issued (Scanner.stores_iff.mp (.period hfind))
  | dispatched _ hissued => exact hissued

/-- What is gone after a move is not stored. -/
theorem unstored_of_retires {move : Move ρ} {tag : TimerTag} {handle : TimerHandle}
    (h : run.now.Retires move tag handle)
    (hfresh : (run.extend move).now.world.issued.Nodup) :
    (run.extend move).now.scanner.stored tag ≠ some handle := by
  have hissued := run.issued_of_retires h
  have hstep := run.now.step_perform move
  intro hstored
  have hstores := Scanner.stores_iff.mpr hstored
  cases h with
  | single hslot hended =>
      rcases hstores.singleTimeout_inv with ⟨scan, harmed, htimeout⟩
      rcases hstep.slot_origin harmed with hkept | hnew
      · obtain rfl := Slot.armed.inj (hslot.symm.trans hkept)
        exact hended harmed
      · exact hnew.not_issued hfresh (htimeout ▸ hissued)
  | @cycle id p c hfind hpending hended =>
      rcases hstores.cycleTimeout_inv with ⟨q, d, hq, hd, htimeout⟩
      rcases (hstep.config_origin hq).pending d hd with ⟨p', hp', hkept⟩ | hnew
      · obtain rfl := Option.some.inj (hfind.symm.trans hp')
        obtain rfl := Option.some.inj (hpending.symm.trans hkept)
        exact hended q hq hd
      · exact hnew.not_issued hfresh (htimeout ▸ hissued)
  | period hfind hrearmed =>
      rcases hstores.period_inv with ⟨q, hq, htimer⟩
      exact hrearmed q hq htimer
  | dispatched hturn => exact Station.not_stored_dispatched hturn hissued hfresh hstored

/-- A notice ends all requests that wait, so another one finds none. -/
theorem notice_repeated (e : Ending) (iface : String) (w : World ρ) :
    let once := run.now.scanner.handle (e.event iface) w
    once.1.handle (e.event iface) once.2 = once := by
  intro once
  have hevent : (e.event iface).iface? = some iface := by
    cases e <;> rfl
  by_cases hiface : iface = run.now.scanner.iface
  case neg =>
    have hnothing : once = (run.now.scanner, w) := Scanner.handle_foreign hevent hiface
    rw [hnothing]
    exact Scanner.handle_foreign hevent hiface
  subst hiface
  have hsettles : ∃ e', Settlement run.now.scanner e' w once := by
    cases e with
    | results =>
        -- The notice carries no results; the scanner fetches what the radio holds.
        refine ⟨.results (Radio.detections w.radio run.now.scanner.iface), ?_⟩
        exact Scanner.handle_settles (e := .results _) run.settled fun raw h =>
          (Ending.results.inj h).symm
    | failure reason => exact ⟨.failure reason, Scanner.handle_settles run.settled (by simp)⟩
  rcases hsettles with ⟨e', hsettles⟩
  have hsetup : once.1.iface = run.now.scanner.iface :=
    congrArg Setup.iface (Scanner.handle_setup _)
  rw [← hsetup]
  apply Scanner.handle_unwanted
  · simp [hsettles.idle]
  · intro handler watchdog hwaits
    cases hwaits with
    | single hslot => simp [hsettles.idle] at hslot
    | cycle hfind hpending => simp [hsettles.pending _ _ hfind] at hpending

/-- An expiry forgets its handle, so another one is late. -/
theorem expiry_repeated (tag : TimerTag) (handle : TimerHandle) {w : World ρ}
    (hissued : w.issued = run.now.world.issued) :
    let once := run.now.scanner.handle (.timerFired tag handle) w
    once.2.issued.Nodup → once.1.handle (.timerFired tag handle) once.2 = once := by
  intro once hfresh
  by_cases hstored : run.now.scanner.stored tag = some handle
  · exact Scanner.handle_late
      (Scanner.not_stored_handled (hissued ▸ run.stored_issued hstored) hfresh)
  · have hnothing : once = (run.now.scanner, w) := Scanner.handle_late hstored
    rw [hnothing]
    exact Scanner.handle_late hstored

/-- Late and repeated events do nothing, as long as the handles are new. An expiry of a handle that
a move retires leaves the scanner and the whole world as they are, at any later time and in any
world. A notice or an expiry that is dispatched twice in a row does what it does once. -/
theorem late_and_repeated_events_do_nothing :
    (∀ move tag handle, run.now.Retires move tag handle → ∀ moves : List (Move ρ),
      (moves.foldl extend (run.extend move)).now.world.issued.Nodup → ∀ w : World ρ,
        (moves.foldl extend (run.extend move)).now.scanner.handle (.timerFired tag handle) w =
          ((moves.foldl extend (run.extend move)).now.scanner, w)) ∧
    ∀ (e : Event) (events : List Event), e.isNotice = true ∨ e.expiry?.isSome = true →
      let once := run.now.scanner.handle e (run.now.world.withEvents events)
      once.2.issued.Nodup → once.1.handle e once.2 = once := by
  refine ⟨?_, ?_⟩
  · intro move tag handle hretires moves hfresh w
    have hstep := run.now.step_perform move
    have hgrown := (run.extend move).issued_prefix_after moves
    apply Scanner.handle_late
    apply (run.extend move).unstored_after moves ?_ ?_ hfresh
    · exact hstep.issued_prefix.subset (run.issued_of_retires hretires)
    · exact run.unstored_of_retires hretires (hgrown.sublist.nodup hfresh)
  · intro e events hkind once hfresh
    cases e with
    | resultsAvailable iface => exact run.notice_repeated (.results []) iface _
    | scanFailed iface reason => exact run.notice_repeated (.failure reason) iface _
    | timerFired tag handle => exact run.expiry_repeated tag handle rfl hfresh
    | _ => simp [Event.isNotice, Event.expiry?] at hkind

end Run

namespace Sample

/-- A single scan and a configuration wait, and the notice that ends both is queued. -/
def noticed : Run Replay :=
  run
    [.single (some settings) (some (handler 1)), .background (some settings) (some (handler 2)),
      .outside (.results "wlan0")]

/-- After the first scan another one starts. The watchdog of the first does not touch it, and a tick
that is dispatched twice runs one cycle. -/
theorem noticed_outlived :
    let later := (noticed.extend .dispatch).extend (.single (some settings) (some (handler 3)))
    later.now.slotHolds (handler 3) = true ∧
    (∀ w : World Replay, later.now.scanner.handle (.timerFired (.singleTimeout "wlan0") 1) w =
      (later.now.scanner, w)) ∧
    let once := noticed.now.scanner.handle (.timerFired (.period "wlan0" 1) 2)
      (noticed.now.world.withEvents [])
    once.2.issued = noticed.now.world.issued ++ [4] ∧
      once.1.handle (.timerFired (.period "wlan0" 1) 2) once.2 = once := by
  obtain ⟨hlate, hrepeated⟩ := noticed.late_and_repeated_events_do_nothing
  have hretires : noticed.now.Retires .dispatch (.singleTimeout "wlan0") 1 := by
    have hiface : noticed.now.iface = "wlan0" := by decide +kernel
    have hidle : (noticed.now.perform .dispatch).scanner.single.slot = .idle := by
      decide +kernel
    have htimeout : noticed.now.scanner.single.slot.timeout? = some 1 := by decide +kernel
    cases hslot : noticed.now.scanner.single.slot with
    | armed scan =>
        rw [hslot] at htimeout
        rw [← hiface, ← Option.some.inj htimeout]
        exact .single hslot (by simp [hidle])
    | _ => simp [hslot, Slot.timeout?] at htimeout
  refine ⟨by decide +kernel, ?_, by decide +kernel, ?_⟩
  · exact hlate .dispatch _ _ hretires [.single (some settings) (some (handler 3))]
      (by decide +kernel)
  · exact hrepeated _ _ (.inr rfl) (by decide +kernel)

end Sample

end WirelessScan
