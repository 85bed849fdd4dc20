import WirelessScan.Proofs.Announcement
import WirelessScan.Proofs.Draining
import WirelessScan.Proofs.Schedule

/-!
# The first cycle of a configuration

In the first cycle of a configuration every bucket is due, so the cycle asks the radio for what a
single scan with the same settings asks for. The two starts go on in lockstep: neither makes a call,
the radio refuses both, or it admits both (`Station.Lockstep`). What differs is the event that
carries a refusal, the mask of the results, and who has completion reported.
-/

namespace WirelessScan

variable {ρ : Type}

/-! ## Everything is due -/

namespace Periodic

/-- A configuration whose next cycle was admitted. -/
def awaiting (p : Periodic) (request : Request) (start : UInt64) (timeout : TimerHandle) :
    Periodic :=
  { p.advanced with pending := some (p.nextCycle request start timeout) }

section First

variable {p : Periodic} (hcycle : p.cycle = 0) (hperiodic : p.settings.isPeriodic = true)
  (request : Request) (start : UInt64) (timeout : TimerHandle)

include hcycle hperiodic

theorem due_first : p.due = p.settings.buckets.zipIdx := by
  rw [due, hcycle, ← p.settings.dueAt_zero]
  exact Settings.dueBuckets_ofNat hperiodic (by simp)

theorem buckets_first : p.due.map Prod.fst = p.settings.buckets := by
  rw [due_first hcycle hperiodic, List.zipIdx_map_fst]

/-- The mask of the first cycle has a bit for every bucket. -/
theorem testBit_first (i : Nat) : (p.nextCycle request start timeout).buckets.toNat.testBit i =
    decide (i < p.settings.buckets.length) := by
  have hbits : (p.nextCycle request start timeout).buckets.toNat.testBit i =
      decide (i ∈ p.due.map Prod.snd) := testBit_bucketMask Settings.dueBuckets_lt i
  rw [hbits, due_first hcycle hperiodic, List.zipIdx_map_snd]
  simp

/-- The first cycle reports every record if a single scan does. -/
theorem fullResults_first : (p.nextCycle request start timeout).fullResults =
    p.settings.wantsFullResults :=
  congrArg (fun buckets => (ReportFlags.ofBuckets buckets).contains .fullScanResult)
    (buckets_first hcycle hperiodic)

/-- The first cycle reports completion if some bucket has it reported. -/
theorem reportStatus_first : (p.nextCycle request start timeout).reportStatus = true ↔
    ∃ b ∈ p.settings.buckets, b.flags.contains .noBatch = false := by
  have hbuckets : (p.nextCycle request start timeout).reportStatus =
      p.settings.buckets.any (·.flags.isBatched) :=
    congrArg (List.any · _) (buckets_first hcycle hperiodic)
  rw [hbuckets, List.any_eq_true]
  simp [ReportFlags.isBatched]

end First

end Periodic

/-- A cycle with nothing pending and resolved buckets asks the radio, and waits if the radio admits
it. -/
theorem Periodic.Ran.of_resolved [Radio ρ] {setup : Setup} {id : ScanId} {p p' : Periodic}
    {w w' : World ρ} {refusal : Option Reason} {request : Request}
    (h : Ran setup id p w (refusal, p', w')) (hidle : p.pending = none)
    (hresolve : setup.resolve p.settings (p.due.map Prod.fst) = .ok request) :
    (w.answer setup.iface request ≠ .succeeded ∧ refusal = some (w.answer setup.iface request) ∧
      p' = p.advanced ∧ w' = w.asked setup.iface request) ∨
    (w.answer setup.iface request = .succeeded ∧ refusal = none ∧
      p' = p.awaiting request w.clock w.timers.next ∧
      w'.contact = w.contact.asked setup.iface request) := by
  cases h with
  | skipped hskip =>
      obtain hdue : p.due = [] := by simpa [hidle] using hskip
      rw [hdue] at hresolve
      exact (Setup.resolve_nil hresolve).elim
  | unresolved _ _ herror => simp [hresolve] at herror
  | rejected _ _ hresolve' hanswer =>
      obtain rfl := Except.ok.inj (hresolve.symm.trans hresolve')
      exact .inl ⟨hanswer, rfl, rfl, rfl⟩
  | admitted _ _ hresolve' hanswer =>
      obtain rfl := Except.ok.inj (hresolve.symm.trans hresolve')
      exact .inr ⟨hanswer, rfl, rfl, by simp⟩

/-! ## Two starts in lockstep -/

namespace Station

variable [Radio ρ]

/-- The admission call for all buckets of some settings: none if these cannot be resolved. -/
def callFor (now : Station ρ) (settings : Settings) : List (String × Request × Reason) :=
  match now.scanner.setup.resolve settings settings.buckets with
  | .error _ => []
  | .ok request => [(now.iface, request, now.world.answer now.iface request)]

/-- What comes of this call: the request that the radio admits, or the reason why there is none. -/
def verdict (now : Station ρ) (settings : Settings) : Except Reason Request :=
  match now.scanner.setup.resolve settings settings.buckets with
  | .error error => .error error.reason
  | .ok request =>
    if now.world.answer now.iface request = .succeeded then .ok request
    else .error (now.world.answer now.iface request)

/-- A configuration before its first cycle. -/
def first (now : Station ρ) (settings : Settings) (handler : Handler) : Periodic where
  settings
  handler
  periodTimer := now.world.timers.next

/-- The world in which the first cycle of a configuration runs. -/
def scheduled (now : Station ρ) (settings : Settings) : World ρ :=
  (now.world.schedule (.period now.iface now.scanner.background.nextId)
    settings.basePeriod.toUInt64).2

/-- The station after the start of a single scan that was admitted. -/
def arming (now : Station ρ) (scan : InFlight) (world : World ρ) : Station ρ where
  scanner := { now.scanner with single := { now.scanner.single with slot := .armed scan } }
  world

/-- The station after the start of a configuration that is active. -/
def activating (now : Station ρ) (p : Periodic) (world : World ρ) : Station ρ where
  scanner :=
    { now.scanner with
      background :=
        { nextId := now.scanner.background.nextId + 1
          scans := now.scanner.background.scans.insert now.scanner.background.nextId p } }
  world

/-- No request has a handler, and no rejection of one is queued. -/
structure Unengaged (now : Station ρ) (handler : Handler) : Prop where
  spares : now.Spares handler
  slot : now.slotHolds handler = false
  rejections : now.rejections handler = 0

/-- How the start of a single scan and that of a configuration go with the same settings, in an
idle slot and with buckets that can be run periodically. -/
inductive Lockstep (now : Station ρ) (settings : Settings) (h₁ h₂ : Handler) :
    Station ρ → Station ρ → Prop where
  | unresolved {error : ScanError}
      (hresolve : now.scanner.setup.resolve settings settings.buckets = .error error) :
      Lockstep now settings h₁ h₂
        { now with world := now.world.post (.admissionRejected now.iface h₁ error.reason) }
        { scanner :=
            { now.scanner with
              background :=
                { now.scanner.background with nextId := now.scanner.background.nextId + 1 } }
          world := now.world.post (.admissionRejected now.iface h₂ error.reason) }
  | rejected {request : Request} {reason : Reason}
      (hresolve : now.scanner.setup.resolve settings settings.buckets = .ok request)
      (hreason : now.world.answer now.iface request = reason) (hanswer : reason ≠ .succeeded) :
      Lockstep now settings h₁ h₂
        { now with
          world := (now.world.asked now.iface request).post
            (.admissionRejected now.iface h₁ reason) }
        (now.activating (now.first settings h₂).advanced
          (((now.scheduled settings).asked now.iface request).post
            (.cycleRejected now.iface now.scanner.background.nextId reason)))
  | admitted {request : Request} {scan : InFlight} {timeout : TimerHandle} {w₁ w₂ : World ρ}
      (hresolve : now.scanner.setup.resolve settings settings.buckets = .ok request)
      (hanswer : now.world.answer now.iface request = .succeeded)
      (hscan : scan =
        { handler := h₁, request, fullResults := settings.wantsFullResults
          start := now.world.clock, timeout := scan.timeout })
      (hw₁ : w₁.contact = now.world.contact.asked now.iface request)
      (hw₂ : w₂.contact = now.world.contact.asked now.iface request) :
      Lockstep now settings h₁ h₂
        (now.arming scan w₁)
        (now.activating ((now.first settings h₂).awaiting request now.world.clock timeout) w₂)

variable {now : Station ρ} {settings : Settings} {h₁ h₂ : Handler} {id : ScanId}

omit [Radio ρ] in
theorem Absent.unengaged {handler : Handler} (h : now.Absent handler) : now.Unengaged handler :=
  ⟨h.spares, h.slot, h.rejections⟩

/-- A start that is not refused has settings that can be run periodically, and takes the next
id. -/
theorem answered (hanswer : now.answersId (.background (some settings) (some h₂)) = some id) :
    settings.isPeriodic = true ∧ id = now.scanner.background.nextId := by
  obtain ⟨answer, background, w', hstarted, heq⟩ :=
    Scanner.startBackground_started now.scanner now.world (some settings) (some h₂)
  rw [answersId, heq] at hanswer
  cases hstarted with
  | refused => cases hanswer
  | unresolved hperiodic => exact ⟨hperiodic, (Option.some.inj hanswer).symm⟩
  | activated hperiodic => exact ⟨hperiodic, (Option.some.inj hanswer).symm⟩

/-- The start of a configuration whose buckets can be resolved runs its first cycle. -/
theorem activating_of_resolved (handler : Handler) (hperiodic : settings.isPeriodic = true)
    {request : Request}
    (hresolve : now.scanner.setup.resolve settings settings.buckets = .ok request) :
    ∃ refusal p w,
      Periodic.Ran now.scanner.setup now.scanner.background.nextId
        (now.first settings handler) (now.scheduled settings) (refusal, p, w) ∧
      now.perform (.background (some settings) (some handler)) =
        now.activating p (refusal.elim w fun reason =>
          w.post (.cycleRejected now.iface now.scanner.background.nextId reason)) := by
  obtain ⟨answer, background, w', hstarted, heq⟩ :=
    Scanner.startBackground_started now.scanner now.world (some settings) (some handler)
  have hperform : now.perform (.background (some settings) (some handler)) =
      ⟨{ now.scanner with background }, w'⟩ := by
    simp only [perform, heq]
  rw [hperform]
  cases hstarted with
  | refused hrefused => simp [hperiodic] at hrefused
  | unresolved _ herror => simp [hresolve] at herror
  | activated _ _ hran => exact ⟨_, _, _, hran, rfl⟩

theorem lockstep_of_resolved (hidle : now.scanner.single.slot = .idle)
    (hperiodic : settings.isPeriodic = true) {request : Request}
    (hresolve : now.scanner.setup.resolve settings settings.buckets = .ok request) :
    now.Lockstep settings h₁ h₂ (now.perform (.single (some settings) (some h₁)))
      (now.perform (.background (some settings) (some h₂))) := by
  obtain ⟨accepted, single, w₁, hstarted, heq⟩ :=
    Scanner.startSingle_started now.scanner now.world (some settings) (some h₁)
  have hperform : now.perform (.single (some settings) (some h₁)) =
      ⟨{ now.scanner with single }, w₁⟩ := by
    simp only [perform, heq]
  obtain ⟨refusal, p, w, hran, hbackground⟩ := activating_of_resolved h₂ hperiodic hresolve
  have hdue : now.scanner.setup.resolve settings ((now.first settings h₂).due.map Prod.fst) =
      .ok request :=
    (congrArg _ (Periodic.buckets_first rfl hperiodic)).trans hresolve
  -- The alarm of the period changes nothing that the radio sees.
  have hcontact : (now.scheduled settings).contact = now.world.contact :=
    World.contact_schedule _ _ _
  have hanswer := World.answer_congr hcontact now.iface request
  rw [hperform, hbackground]
  cases hstarted with
  | refused hrefused => simp [hidle] at hrefused
  | unresolved _ herror => simp [hresolve] at herror
  | rejected _ hresolve' hrefused =>
      obtain rfl := Except.ok.inj (hresolve.symm.trans hresolve')
      rcases hran.of_resolved rfl hdue with ⟨-, rfl, rfl, rfl⟩ | ⟨hadmitted, -⟩
      · rw [← hidle]
        exact .rejected hresolve hanswer.symm hrefused
      · exact absurd (hanswer.symm.trans hadmitted) hrefused
  | armed _ hresolve' hadmitted =>
      obtain rfl := Except.ok.inj (hresolve.symm.trans hresolve')
      rcases hran.of_resolved rfl hdue with ⟨hrefused, -⟩ | ⟨-, rfl, rfl, hw⟩
      · exact absurd (hanswer.trans hadmitted) hrefused
      · exact .admitted hresolve hadmitted rfl (by simp [iface, Scanner.iface]) (hcontact ▸ hw)

theorem lockstep (hidle : now.scanner.single.slot = .idle)
    (hperiodic : settings.isPeriodic = true) :
    now.Lockstep settings h₁ h₂ (now.perform (.single (some settings) (some h₁)))
      (now.perform (.background (some settings) (some h₂))) := by
  cases hresolve : now.scanner.setup.resolve settings settings.buckets with
  | ok request => exact lockstep_of_resolved hidle hperiodic hresolve
  | error error =>
      have hfit : ¬ settings.Unfit := by simp [Settings.unfit_iff, hperiodic]
      simp only [perform, Scanner.startSingle_unresolved hidle hresolve,
        Scanner.startBackground_unresolved hfit hresolve]
      exact .unresolved hresolve

namespace Lockstep

variable {once again : Station ρ} {reason : Reason}

/-- The radio and the clock are left alike. -/
theorem contact (h : now.Lockstep settings h₁ h₂ once again) :
    again.world.contact = once.world.contact := by
  cases h with
  | unresolved => rfl
  | rejected => simp [activating, scheduled]
  | admitted _ _ _ hw₁ hw₂ => exact hw₂.trans hw₁.symm

theorem calls (h : now.Lockstep settings h₁ h₂ once again) :
    once.world.calls = now.world.calls ++ now.callFor settings := by
  have hasked {w : World ρ} {request : Request}
      (hw : w.contact = now.world.contact.asked now.iface request) :
      w.calls =
        now.world.calls ++ [(now.iface, request, now.world.answer now.iface request)] := by
    rw [World.calls_eq, World.calls_eq, hw, Contact.asked, List.filterMap_append]
    rfl
  cases h with
  | unresolved hresolve =>
      simp only [callFor, hresolve, List.append_nil]
      rfl
  | rejected hresolve =>
      simp only [callFor, hresolve]
      exact hasked (World.contact_asked _ _ _)
  | admitted hresolve _ _ hw₁ =>
      simp only [callFor, hresolve]
      exact hasked hw₁

/-- Neither start gives a configuration to the handler of the single scan. -/
theorem spares (h : now.Lockstep settings h₁ h₂ once again) (hfree : now.Unengaged h₁) :
    once.Spares h₁ := by
  cases h <;> exact hfree.spares

/-- Only the configuration that is started has the handler of the start. -/
theorem sole (h : now.Lockstep settings h₁ h₂ once again) (hfree : now.Unengaged h₂) {other : ScanId}
    {p : Periodic} (hp : again.config? other = some p) (hown : p.handler = h₂) :
    other = now.scanner.background.nextId := by
  have hinserted {q : Periodic} {w : World ρ} (hp : (now.activating q w).config? other = some p) :
      other = now.scanner.background.nextId := by
    simp only [config?, activating, SortedMap.find?_insert] at hp
    split at hp
    next hid => exact hid
    next => exact absurd hown (hfree.spares other p hp)
  cases h with
  | unresolved => exact absurd hown (hfree.spares other p hp)
  | rejected => exact hinserted hp
  | admitted => exact hinserted hp

end Lockstep

omit [Radio ρ] in
/-- The one event that is posted for a handler is all that is queued for it. -/
theorem ahead_of_posted {next : Station ρ} {handler : Handler} {w : World ρ} {e : Event}
    {c : Callback}
    (hnotices : Appends (·.isNotice = true) now.world.queue.events w.queue.events)
    (hopen : w.queue.isOpen = true) (hnext : next.world = w.post e)
    (he : next.tidings? handler e = some c) (hiface : next.iface = now.iface)
    (hrejections : now.rejections handler = 0)
    (hrefusals : ∀ id p, next.config? id = some p → p.handler = handler → now.refusals id = 0) :
    next.ahead handler = [c] := by
  obtain ⟨posted, hevents, hposted⟩ := hnotices
  have hold : now.world.queue.events.filterMap (next.tidings? handler) = [] := by
    refine List.filterMap_eq_nil_iff.mpr fun e he => ?_
    cases e with
    | admissionRejected iface carried reason =>
        have hnone := List.countP_eq_zero.mp hrejections _ he
        exact if_neg fun hown => hnone (decide_eq_true hown)
    | cycleRejected iface id reason =>
        refine if_neg ?_
        rintro ⟨rfl, hany⟩
        obtain ⟨p, hp, hown⟩ := (Option.any_eq_true _ _).mp hany
        have hnone := List.countP_eq_zero.mp (hrefusals id p hp (of_decide_eq_true hown)) _ he
        exact hnone (by simp [Event.refusesCycle, hiface])
    | _ => rfl
  have hnew : posted.filterMap (next.tidings? handler) = [] :=
    List.filterMap_eq_nil_iff.mpr fun e he => tidings?_notice (hposted e he)
  rw [ahead, hnext, World.post_events _ _ hopen, hevents, List.filterMap_append,
    List.filterMap_append, hold, hnew]
  simp [he]

namespace Lockstep

variable [NoticeRadio ρ] {once again : Station ρ} {reason : Reason}

/-- A single scan that comes to nothing is over for the scanner, and its handler will hear why. -/
theorem single_failed (h : now.Lockstep settings h₁ h₂ once again) (hsound : now.Sound)
    (hfree : now.Unengaged h₁) (hverdict : now.verdict settings = .error reason) :
    once.Rests h₁ ∧ once.ahead h₁ = [.requestFailed reason] := by
  have hopen := hsound.world.isOpen
  have hspares := h.spares hfree
  have hrefusals : ∀ id p, once.config? id = some p → p.handler = h₁ → now.refusals id = 0 :=
    fun id p hp hown => absurd hown (hspares id p hp)
  have hconfigs : ∀ id p, once.config? id = some p → p.handler = h₁ → p.pending = none :=
    fun id p hp hown => absurd hown (hspares id p hp)
  cases h with
  | unresolved hresolve =>
      simp only [verdict, hresolve, Except.error.injEq] at hverdict
      refine ⟨⟨hfree.slot, hconfigs⟩, ?_⟩
      exact ahead_of_posted (.refl _) hopen rfl (by simp [tidings?, hverdict]) rfl
        hfree.rejections hrefusals
  | rejected hresolve hreason hanswer =>
      simp only [verdict, hresolve, hreason, if_neg hanswer, Except.error.injEq] at hverdict
      refine ⟨⟨hfree.slot, hconfigs⟩, ?_⟩
      exact ahead_of_posted (World.appends_asked hopen _ _)
        ((World.asked_isOpen _ _ _).trans hopen) rfl (by simp [tidings?, hverdict]) rfl
        hfree.rejections hrefusals
  | admitted hresolve hanswer => simp [verdict, hresolve, hanswer] at hverdict

/-- A configuration that does not become active or whose first cycle is refused waits for nothing,
and its handler will hear why. -/
theorem first_failed (h : now.Lockstep settings h₁ h₂ once again) (hsound : now.Sound)
    (hfree : now.Unengaged h₂) (hrefusals : now.refusals now.scanner.background.nextId = 0)
    (hverdict : now.verdict settings = .error reason) :
    again.Rests h₂ ∧ again.ahead h₂ = [.requestFailed reason] := by
  have hopen := hsound.world.isOpen
  have hrefusals' : ∀ id p, again.config? id = some p → p.handler = h₂ → now.refusals id = 0 :=
    fun id p hp hown => h.sole hfree hp hown ▸ hrefusals
  cases h with
  | unresolved hresolve =>
      simp only [verdict, hresolve, Except.error.injEq] at hverdict
      refine ⟨⟨hfree.slot, fun id p hp hown => absurd hown (hfree.spares id p hp)⟩, ?_⟩
      exact ahead_of_posted (.refl _) hopen rfl (by simp [tidings?, hverdict]) rfl
        hfree.rejections hrefusals'
  | rejected hresolve hreason hanswer =>
      simp only [verdict, hresolve, hreason, if_neg hanswer, Except.error.injEq] at hverdict
      refine ⟨⟨hfree.slot, ?_⟩, ?_⟩
      · intro id p hp hown
        simp only [config?, activating, SortedMap.find?_insert] at hp
        split at hp
        · obtain rfl := Option.some.inj hp
          rfl
        · exact absurd hown (hfree.spares id p hp)
      · refine ahead_of_posted (World.appends_asked (w := now.scheduled settings) hopen _ _)
          ((World.asked_isOpen _ _ _).trans hopen) rfl ?_ rfl hfree.rejections hrefusals'
        have hown : (now.first settings h₂).advanced.handler = h₂ := rfl
        simp [tidings?, config?, activating, iface, Scanner.iface, hown, hverdict]
  | admitted hresolve hanswer => simp [verdict, hresolve, hanswer] at hverdict

end Lockstep

end Station

/-! ## Two completions -/

namespace Scanner

variable [Radio ρ] {s : Scanner}

/-- An armed scan whose handler has no configuration completes. -/
theorem completes_single {scan : InFlight} (hslot : s.single.slot = .armed scan)
    (hspares : s.background.scans.Spares scan.handler) {w : World ρ} {raw : List Detection}
    (hraw : Radio.detections w.radio s.iface = raw) :
    (s.handle (.resultsAvailable s.iface) w).1.single.latest = scan.results raw ∧
      (s.handle (.resultsAvailable s.iface) w).2.heard scan.handler =
        w.heard scan.handler ++
          ((scan.results raw).reports scan.fullResults ++ [.statusAvailable]) := by
  have hwaiting : s.isWaiting = true := by simp [isWaiting, Single.inFlight, hslot]
  obtain ⟨single, world, hfinished, heq⟩ :=
    handle_ending (s := s) (e := .results raw) (w := w) fun _ h =>
      ⟨(Ending.results.inj h).symm.trans hraw.symm, hwaiting⟩
  have heq' : s.handle (.resultsAvailable s.iface) w = _ := heq
  rw [heq', Background.heard_finish_of_other _ _ fun id p c hfind _ => hspares id p hfind]
  cases hfinished with
  | unarmed hunarmed => exact absurd hslot (hunarmed scan)
  | armed hslot' =>
      obtain rfl := Slot.armed.inj (hslot.symm.trans hslot')
      refine ⟨rfl, ?_⟩
      rw [World.heard_notifyAll, if_pos rfl, World.heard_cancel, Ending.heard_fetched]
      rfl

/-- A cycle completes whose configuration is the only request of its handler. -/
theorem completes_cycle {id : ScanId} {p : Periodic} {c : Cycle}
    (hfind : s.background.scans.find? id = some p) (hpending : p.pending = some c)
    (hsole : ∀ id' p', s.background.scans.find? id' = some p' → p'.handler = p.handler → id' = id)
    (hslot : s.single.slot.holds p.handler = false) {w : World ρ} {raw : List Detection}
    (hraw : Radio.detections w.radio s.iface = raw) :
    (s.handle (.resultsAvailable s.iface) w).1.background.latest? id = some (c.results raw) ∧
      (s.handle (.resultsAvailable s.iface) w).2.heard p.handler =
        w.heard p.handler ++ c.completion raw := by
  have hwaiting : s.isWaiting = true := by
    rw [isWaiting, hasPending_iff.mpr ⟨id, p, c, hfind, hpending⟩, Bool.or_true]
  obtain ⟨single, world, hfinished, heq⟩ :=
    handle_ending (s := s) (e := .results raw) (w := w) fun _ h =>
      ⟨(Ending.results.inj h).symm.trans hraw.symm, hwaiting⟩
  have heq' : s.handle (.resultsAvailable s.iface) w = _ := heq
  rw [heq', Background.heard_finish hfind hsole, hfinished.passage.heard_of_not_held hslot,
    Ending.heard_fetched]
  refine ⟨?_, ?_⟩
  · simp [Background.latest?, Background.finish_find?, hfind, Periodic.ended, Periodic.completed,
      hpending]
  · simp [Periodic.reports, hpending, Ending.report]

end Scanner

/-! ## Every run -/

/-- A handler hears of a failure exactly once: whatever moves leave it alone, it has heard this and
nothing else in addition when the queue is empty, and turns alone empty the queue in this way. -/
structure Run.HearsOnce [Radio ρ] (run : Run ρ) (handler : Handler) (reason : Reason) : Prop where
  heard : ∀ moves, run.LeavesAlone handler moves →
    (moves.foldl .extend run).now.world.queue.events = [] →
    (moves.foldl .extend run).now.world.heard handler =
      run.now.world.heard handler ++ [.requestFailed reason]
  drained : ∃ n, run.LeavesAlone handler (List.replicate n .dispatch) ∧
    ((List.replicate n .dispatch).foldl .extend run).now.world.queue.events = []

/-- A single scan and the first cycle of a configuration complete with the same records. -/
structure CompletesAlike (settings : Settings) (h₁ h₂ : Handler) (id : ScanId)
    (records : List Detection) (mask : UInt32) (w₁ w₂ : World ρ) (r₁ r₂ : Scanner × World ρ) :
    Prop where
  /-- The mask of the cycle has a bit for every bucket. -/
  covered : ∀ i, mask.toNat.testBit i = decide (i < settings.buckets.length)
  latest₁ : r₁.1.single.latest = { buckets := 0, detections := records }
  latest₂ : r₂.1.background.latest? id = some { buckets := mask, detections := records }
  heard₁ : r₁.2.heard h₁ = w₁.heard h₁ ++
    (if settings.wantsFullResults then records.map (.fullResult · 0) else []) ++
    [.statusAvailable]
  heard₂ : r₂.2.heard h₂ = w₂.heard h₂ ++
    (if settings.wantsFullResults then records.map (.fullResult · mask) else []) ++
    (if ∃ b ∈ settings.buckets, b.flags.contains .noBatch = false then [.statusAvailable] else [])

/-- How a single scan and a configuration compare that are started with the same settings at the
end of a run. -/
structure Run.Matches [Radio ρ] (run once again : Run ρ) (settings : Settings) (h₁ h₂ : Handler)
    (id : ScanId) : Prop where
  /-- Both starts make the same admission call, or none, and leave the radio and the clock alike. -/
  calls₁ : once.now.world.calls = run.now.world.calls ++ run.now.callFor settings
  calls₂ : again.now.world.calls = run.now.world.calls ++ run.now.callFor settings
  contact : again.now.world.contact = once.now.world.contact
  silent₁ : once.now.world.heard h₁ = run.now.world.heard h₁
  silent₂ : again.now.world.heard h₂ = run.now.world.heard h₂
  failed : ∀ reason, run.now.verdict settings = .error reason →
    once.HearsOnce h₁ reason ∧ again.HearsOnce h₂ reason
  /-- The worlds in which the results arrive may differ in everything but what the radio holds. -/
  admitted : ∀ request, run.now.verdict settings = .ok request →
    ∀ (w₁ w₂ : World ρ) (raw : List Detection), Radio.detections w₁.radio run.now.iface = raw →
      Radio.detections w₂.radio run.now.iface = raw →
      ∃ mask, CompletesAlike settings h₁ h₂ id
        (ResultSet.reconcile raw run.now.world.clock (some request.frequencies) 0).detections mask
        w₁ w₂ (once.now.scanner.handle (.resultsAvailable run.now.iface) w₁)
        (again.now.scanner.handle (.resultsAvailable run.now.iface) w₂)

section Runs

variable [Radio ρ]

theorem Station.Lockstep.completesAlike {now once again : Station ρ} {settings : Settings}
    {h₁ h₂ : Handler} {request : Request} (h : now.Lockstep settings h₁ h₂ once again)
    (hperiodic : settings.isPeriodic = true) (hfree₁ : now.Unengaged h₁) (hfree₂ : now.Unengaged h₂)
    (hverdict : now.verdict settings = .ok request) {w₁ w₂ : World ρ} {raw : List Detection}
    (hraw₁ : Radio.detections w₁.radio now.iface = raw)
    (hraw₂ : Radio.detections w₂.radio now.iface = raw) :
    ∃ mask, CompletesAlike settings h₁ h₂ now.scanner.background.nextId
      (ResultSet.reconcile raw now.world.clock (some request.frequencies) 0).detections mask w₁ w₂
      (once.scanner.handle (.resultsAvailable now.iface) w₁)
      (again.scanner.handle (.resultsAvailable now.iface) w₂) := by
  have hsole : ∀ id p, again.config? id = some p → p.handler = h₂ →
      id = now.scanner.background.nextId := fun id p => h.sole hfree₂
  cases h with
  | unresolved hresolve => simp [verdict, hresolve] at hverdict
  | rejected hresolve hreason hanswer => simp [verdict, hresolve, hreason, hanswer] at hverdict
  | @admitted asked scan timeout world₁ world₂ hresolve hanswer hscan =>
      obtain rfl : asked = request := by simpa [verdict, hresolve, hanswer] using hverdict
      have hown : scan.handler = h₁ := congrArg InFlight.handler hscan
      obtain ⟨hlatest₁, hheard₁⟩ := Scanner.completes_single
        (s := (now.arming scan world₁).scanner) rfl (hown ▸ hfree₁.spares) hraw₁
      have hfind : (now.activating ((now.first settings h₂).awaiting asked now.world.clock
          timeout) world₂).scanner.background.scans.find? now.scanner.background.nextId =
            some ((now.first settings h₂).awaiting asked now.world.clock timeout) :=
        (SortedMap.find?_insert _ _ _ _).trans (if_pos rfl)
      obtain ⟨hlatest₂, hheard₂⟩ :=
        Scanner.completes_cycle hfind rfl hsole hfree₂.slot hraw₂
      refine ⟨_, Periodic.testBit_first (p := now.first settings h₂) rfl hperiodic _ _ _,
        hlatest₁.trans ?_, hlatest₂, ?_, ?_⟩
      · rw [hscan]
        rfl
      · rw [← hown, List.append_assoc]
        refine hheard₁.trans (congrArg _ ?_)
        rw [hscan]
        rfl
      · have hstatus := Periodic.reportStatus_first (p := now.first settings h₂) rfl hperiodic
          asked now.world.clock timeout
        rw [List.append_assoc]
        refine hheard₂.trans (congrArg _ ?_)
        rw [Cycle.completion, Periodic.fullResults_first rfl hperiodic]
        simp only [hstatus]
        rfl

end Runs

namespace Run

variable [Radio ρ] [NoticeRadio ρ]

/-- A handler at rest for which one failure is queued hears of it once. -/
theorem hearsOnce (run : Run ρ) {handler : Handler} {reason : Reason}
    (hrests : run.now.Rests handler) (huntimed : run.now.Untimed handler)
    (hahead : run.now.ahead handler = [.requestFailed reason]) : run.HearsOnce handler reason where
  heard moves hmoves hempty := by
    have hsame := run.rests_after moves hrests hmoves
    have hdone : (moves.foldl extend run).now.ahead handler = [] := by
      rw [Station.ahead, hempty]
      rfl
    rwa [hdone, List.append_nil, hahead] at hsame
  drained := by
    obtain ⟨n, hdrained⟩ := run.exists_drained
    exact ⟨n, run.leavesAlone_turns n hrests huntimed, hdrained⟩

/-- No tick of a configuration that was just started is queued: its id is new. -/
theorem untimed_started (run : Run ρ) {settings : Settings} {handler : Handler}
    (hids : run.ids.length < 2 ^ 32 - 1)
    (hsole : ∀ id p,
      (run.extend (.background (some settings) (some handler))).now.config? id = some p →
        p.handler = handler → id = run.now.scanner.background.nextId) :
    (run.extend (.background (some settings) (some handler))).now.Untimed handler := by
  intro id p hp hown hmem
  obtain ⟨posted, hevents, hposted⟩ :=
    (run.now.step_perform (.background (some settings) (some handler))).appends run.sound
  rw [now, hevents, List.mem_append] at hmem
  rcases hmem with hold | hnew
  · have hle := (run.alarm_ids hids).2 _ _ hold id rfl
    rw [hsole id p hp hown, (run.numbered hids).nextId_toNat (by omega)] at hle
    omega
  · cases hposted _ hnew with
    | notice he => cases he

/-- The first cycle of a configuration is a single scan. In every state that a run can reach with an
idle slot, for all settings with which the start of a configuration is not refused, both starts make
the same admission call or none, and say nothing themselves. If the buckets cannot be resolved or
the radio refuses, both handlers hear of it once, for the same reason, when the queue is empty,
unless the configuration ticks or is stopped before. If the radio admits both, its next results
complete them with the same records, which the first cycle reports under the mask of all buckets; it
reports completion if some bucket has it reported.

Neither handler has another request under way, and the ids do not wrap. -/
theorem first_cycle_is_single_scan (run : Run ρ) {settings : Settings} {h₁ h₂ : Handler}
    {id : ScanId} (hidle : run.now.scanner.single.slot = .idle)
    (hanswer : run.now.answersId (.background (some settings) (some h₂)) = some id)
    (hfree₁ : run.now.Unengaged h₁) (hfree₂ : run.now.Unengaged h₂)
    (hids : run.ids.length < 2 ^ 32 - 1) :
    run.Matches (run.extend (.single (some settings) (some h₁)))
      (run.extend (.background (some settings) (some h₂))) settings h₁ h₂ id := by
  obtain ⟨hperiodic, rfl⟩ := Station.answered hanswer
  have hlockstep : run.now.Lockstep settings h₁ h₂ _ _ := Station.lockstep hidle hperiodic
  have hsilent (move : Move ρ) (hmove : move.isCall = true) (handler : Handler) :
      (run.extend move).now.world.heard handler = run.now.world.heard handler :=
    World.heard_congr ((run.now.step_perform move).callbacks_of_isCall hmove) handler
  refine ⟨hlockstep.calls, ?_, hlockstep.contact, hsilent _ rfl h₁, hsilent _ rfl h₂, ?_, ?_⟩
  · refine Eq.trans ?_ hlockstep.calls
    rw [World.calls_eq, World.calls_eq]
    exact congrArg (fun c => c.askings.filterMap Entry.call?) hlockstep.contact
  · intro reason hverdict
    have hrefusals := ((run.books hids run.now.scanner.background.nextId).unused (by
      rw [(run.numbered hids).nextId_toNat (by omega)]
      omega)).1
    obtain ⟨hrests₁, hahead₁⟩ := hlockstep.single_failed run.sound hfree₁ hverdict
    obtain ⟨hrests₂, hahead₂⟩ := hlockstep.first_failed run.sound hfree₂ hrefusals hverdict
    refine ⟨hearsOnce _ hrests₁ ?_ hahead₁, hearsOnce _ hrests₂ ?_ hahead₂⟩
    · exact fun id p hp hown => absurd hown (hlockstep.spares hfree₁ id p hp)
    · exact run.untimed_started hids fun id p => hlockstep.sole hfree₂
  · intro request hverdict w₁ w₂ raw hraw₁ hraw₂
    exact hlockstep.completesAlike hperiodic hfree₁ hfree₂ hverdict hraw₁ hraw₂

end Run

namespace Sample

/-- A scanner with two networks around, before anything was started. -/
def attended : Run Replay := .begin setup neighbourhood 1000

/-- Both scans are admitted and find the one network that was not left over from before, each under
its mask. -/
theorem attended_first_cycle :
    let once := (attended.extend (.single (some talkative) (some (handler 1)))).now
    let again := (attended.extend (.background (some talkative) (some (handler 1)))).now
    once.world.calls = again.world.calls ∧ once.world.calls.length = 1 ∧
    ∃ d mask, d.ssid = "near" ∧ (∀ i, mask.toNat.testBit i = decide (i < 2)) ∧
      (once.scanner.handle (.resultsAvailable "wlan0") once.world).2.heard (handler 1) =
        [.fullResult d 0, .statusAvailable] ∧
      (again.scanner.handle (.resultsAvailable "wlan0") again.world).2.heard (handler 1) =
        [.fullResult d mask, .statusAvailable] := by
  intro once again
  have hfree := ((attended.custody (handler 1)).unused (by decide +kernel)).unengaged
  have hmatches : attended.Matches _ _ talkative (handler 1) (handler 1) 1 :=
    attended.first_cycle_is_single_scan (by decide +kernel) (by decide +kernel) hfree hfree
      (by decide +kernel)
  have hraw : Radio.detections again.world.radio "wlan0" =
      Radio.detections once.world.radio "wlan0" := by decide +kernel
  obtain ⟨mask, hcompletes⟩ := hmatches.admitted
    { scanType := .lowLatency, frequencies := .ofList [2412, 2437], hidden := []
      neighborReports := false, vendorElements := none } (by rfl) once.world again.world _ rfl hraw
  have hrecords : (ResultSet.reconcile (Radio.detections once.world.radio attended.now.iface)
      attended.now.world.clock (some (.ofList [2412, 2437])) 0).detections =
        [Replay.detect 1000 neighbourhood.networks[0]] := by decide +kernel
  have hfull : talkative.wantsFullResults = true := by decide
  have hheard₁ := hcompletes.heard₁
  have hheard₂ := hcompletes.heard₂
  rw [hrecords, hfull, hmatches.silent₁] at hheard₁
  rw [hrecords, hfull, hmatches.silent₂] at hheard₂
  exact ⟨hmatches.calls₁.trans hmatches.calls₂.symm, by decide +kernel, _, mask, rfl,
    hcompletes.covered, hheard₁, hheard₂⟩

/-- A busy radio refuses both, and the handler hears of it in a later turn. -/
example :
    let heard (move : Move Replay) :=
      ((busy.extend move).extend .dispatch).now.world.heard (handler 1)
    heard (.single (some settings) (some (handler 1))) = [.requestFailed .busy] ∧
      heard (.background (some settings) (some (handler 1))) = [.requestFailed .busy] := by
  decide +kernel

end Sample

end WirelessScan
