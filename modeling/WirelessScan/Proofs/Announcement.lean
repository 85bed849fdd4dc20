import WirelessScan.Proofs.Faithfulness
import WirelessScan.Proofs.Settlement
import WirelessScan.Proofs.Snapshots

/-!
# What a completion announces

A handler hears of a completion what the buckets of its scan ask for: every record if one of them
wants the full results, and that results are available, for a cycle only if one of them wants
completion reported. Which buckets count was settled when the request was admitted, so the scan
carries two flags since then (`Run.party_serves`).

The results are stored between the records and the last call. To see this order, completion is
looked at with any way of making the calls, which is told at each call what the scan shows as its
latest results.
-/

namespace WirelessScan

variable {ρ : Type}

/-! ## Flags -/

/-- Whether a bit of the flags is set. -/
def ReportFlags.has (flags : ReportFlags) (i : Nat) : Bool :=
  flags.bits.toNat.testBit i

namespace ReportFlags

theorem contains_bit {flags : ReportFlags} {i : Nat} {bit : UInt32} (hbit : bit.toNat = 2 ^ i) :
    flags.contains ⟨bit⟩ = flags.has i := by
  rw [contains, has, Bool.eq_iff_iff, beq_iff_eq, ← UInt32.toNat_inj, UInt32.toNat_and, hbit]
  constructor
  · intro heq
    have hself := congrArg (Nat.testBit · i) heq
    simpa [Nat.testBit_and, Nat.testBit_two_pow] using hself
  · intro hset
    refine Nat.eq_of_testBit_eq fun j => ?_
    rw [Nat.testBit_and, Nat.testBit_two_pow]
    by_cases h : i = j
    · rw [← h, hset, Bool.true_and]
    · simp [h]

theorem isBatched_eq (flags : ReportFlags) : flags.isBatched = !flags.has 2 :=
  congrArg not (contains_bit (i := 2) rfl)

theorem has_foldl_union (buckets : List Bucket) (flags : ReportFlags) (i : Nat) :
    (buckets.foldl (fun flags b => flags.union b.flags) flags).has i =
      (flags.has i || buckets.any (·.flags.has i)) := by
  induction buckets generalizing flags with
  | nil => simp
  | cons b rest ih =>
      rw [List.foldl_cons, ih, List.any_cons, ← Bool.or_assoc]
      refine congrArg (· || rest.any _) ?_
      rw [has, union, UInt32.toNat_or, Nat.testBit_or]
      rfl

/-- The union of the flags of some buckets has the bits of each. -/
theorem has_ofBuckets (buckets : List Bucket) (i : Nat) :
    (ofBuckets buckets).has i = buckets.any (·.flags.has i) := by
  rw [ofBuckets, has_foldl_union]
  simp [has, afterBufferFull]

end ReportFlags

/-! ## Announcements -/

/-- A call to be made, and the latest results that the scan shows when it is made. -/
structure Announcement where
  callback : Callback
  shown : ResultSet
deriving DecidableEq, Repr

namespace Errand

/-- Some bucket asks for every record: it has bit 1. -/
def wantsRecords (errand : Errand) : Bool :=
  errand.buckets.any (·.flags.has 1)

/-- Some bucket has completion reported: it lacks bit 2. -/
def wantsStatus (errand : Errand) : Bool :=
  errand.buckets.any fun b => !b.flags.has 2

/-- What is to be said of the completion of an errand: each record of the new results while the old
ones are shown, then that results are available while the new ones are. A single scan always says
the latter. -/
def announcements (errand : Errand) (place : Place) (old new : ResultSet) : List Announcement :=
  (if errand.wantsRecords then
    new.detections.map fun d => ⟨.fullResult d new.buckets, old⟩ else []) ++
  (if place = .single ∨ errand.wantsStatus then [⟨.statusAvailable, new⟩] else [])

/-- The mask that the results of an errand carry. -/
def maskAt (errand : Errand) : Place → UInt32
  | .single => 0
  | .cycle _ => errand.mask

end Errand

/-! ## Parties -/

/-- Whoever waits for results at a place. -/
structure Party where
  handler : Handler
  watchdog : TimerHandle
  waiting : Waiting
  /-- The results that the place shows so far. -/
  shown : ResultSet
  /-- Whether every record is reported. -/
  full : Bool
  /-- Whether completion is reported. -/
  status : Bool

/-- What completes a request at a place: its watchdog is cancelled, and its handler is called. -/
inductive Act where
  | cancel (watchdog : TimerHandle)
  | call (handler : Handler) (announcement : Announcement)
deriving DecidableEq, Repr

/-- The callbacks of some acts to a handler. -/
def Act.heard (listener : Handler) : Act → List Callback
  | cancel _ => []
  | call handler a => if handler = listener then [a.callback] else []

namespace Party

/-- What is said of a completion. -/
def announcements (party : Party) (raw : List Detection) : List Announcement :=
  ((party.waiting.results raw).reports party.full).map (⟨·, party.shown⟩) ++
    if party.status then [⟨.statusAvailable, party.waiting.results raw⟩] else []

/-- All that completes the request of a party. -/
def acts (party : Party) (announcements : List Announcement) : List Act :=
  .cancel party.watchdog :: announcements.map (.call party.handler)

/-- A party reports what the buckets of an errand ask for. -/
structure Serves (party : Party) (place : Place) (errand : Errand) : Prop where
  full : party.full = errand.wantsRecords
  status : party.status = true ↔ place = .single ∨ errand.wantsStatus = true
  mask : party.waiting.buckets = errand.maskAt place

theorem Serves.announcements {party : Party} {place : Place} {errand : Errand}
    (h : party.Serves place errand) (raw : List Detection) : party.announcements raw =
      errand.announcements place party.shown (party.waiting.results raw) := by
  rw [Party.announcements, Errand.announcements, ResultSet.reports, h.full]
  congr 1
  · cases errand.wantsRecords <;> simp
  · simp only [h.status]

end Party

def InFlight.party (scan : InFlight) (shown : ResultSet) : Party where
  handler := scan.handler
  watchdog := scan.timeout
  waiting := scan.waiting
  shown
  full := scan.fullResults
  status := true

/-- The party in the slot of the single scan. -/
def Single.party? (s : Single) : Option Party :=
  match s.slot with
  | .armed scan => some (scan.party s.latest)
  | _ => none

def Cycle.party (c : Cycle) (p : Periodic) : Party where
  handler := p.handler
  watchdog := c.timeout
  waiting := c.waiting
  shown := p.latest
  full := c.fullResults
  status := c.reportStatus

/-- The party at a configuration. -/
def Periodic.party? (p : Periodic) : Option Party :=
  p.pending.map (·.party p)

namespace Scanner

/-- The party at a place. -/
def party? (s : Scanner) : Place → Option Party
  | .single => s.single.party?
  | .cycle id => (s.background.scans.find? id).bind Periodic.party?

/-- The places in the order in which they are completed. -/
def places (s : Scanner) : List Place :=
  .single :: s.background.scans.keys.map .cycle

end Scanner

/-! ## Completion with any calls -/

namespace World

/-- Acts in a world in which calls are made in some way. -/
def act (call : Caller ρ) (w : World ρ) : Act → World ρ
  | .cancel watchdog => w.cancel watchdog
  | .call handler a => call handler a.callback a.shown w

/-- Acts several times. -/
def enact (call : Caller ρ) (w : World ρ) (acts : List Act) : World ρ :=
  acts.foldl (act call) w

theorem enact_append (call : Caller ρ) (w : World ρ) (acts more : List Act) :
    w.enact call (acts ++ more) = (w.enact call acts).enact call more :=
  List.foldl_append

/-- What a handler hears of acts if calls are recorded. -/
theorem heard_enact (w : World ρ) (acts : List Act) (listener : Handler) :
    (w.enact call acts).heard listener = w.heard listener ++ acts.flatMap (Act.heard listener) := by
  induction acts generalizing w with
  | nil => exact (List.append_nil _).symm
  | cons a rest ih =>
      refine (ih _).trans ?_
      rw [List.flatMap_cons, ← List.append_assoc]
      congr 1
      cases a with
      | cancel watchdog => simp [act, Act.heard]
      | call handler a =>
          exact w.heard_notify handler a.callback listener

end World

section Completion

variable (call : World.Caller ρ) (raw : List Detection) (w : World ρ)

theorem ResultSet.reportRecords_eq (r shown : ResultSet) (full : Bool) (handler : Handler) :
    (if full then Single.reportRecords (call handler · shown) r w else w) =
      w.enact call ((r.reports full).map fun c => .call handler ⟨c, shown⟩) := by
  cases full with
  | false => rfl
  | true =>
      simp only [if_true, Single.reportRecords, reports, World.enact, List.foldl_map]
      rfl

/-- The acts of a completion in their order: the watchdog, the records, the last call. -/
theorem World.enact_party (party : Party) :
    w.enact call (party.acts (party.announcements raw)) =
      let r := party.waiting.results raw
      let w := if party.full then Single.reportRecords (call party.handler · party.shown) r
        (w.cancel party.watchdog) else w.cancel party.watchdog
      if party.status then call party.handler .statusAvailable r w else w := by
  have hcons : w.enact call (party.acts (party.announcements raw)) =
      (w.cancel party.watchdog).enact call ((party.announcements raw).map (.call party.handler)) :=
    rfl
  rw [hcons, Party.announcements, List.map_append, World.enact_append, List.map_map]
  dsimp only
  rw [ResultSet.reportRecords_eq]
  cases party.status <;> rfl

theorem Single.completeBy_eq (s : Single) : s.completeBy call raw w =
    (s.ended (.results raw),
      w.enact call (s.party?.elim [] fun party => party.acts (party.announcements raw))) := by
  cases hslot : s.slot with
  | armed scan =>
      simp only [completeBy, hslot, party?, Option.elim_some, World.enact_party, ended]
      rfl
  | _ =>
      simp only [completeBy, hslot, party?, ended]
      rfl

theorem Periodic.completeBy_eq (p : Periodic) : p.completeBy call raw w =
    (p.ended (.results raw),
      w.enact call (p.party?.elim [] fun party => party.acts (party.announcements raw))) := by
  cases hpending : p.pending with
  | none =>
      simp only [completeBy, hpending, party?, ended_of_idle hpending]
      rfl
  | some c =>
      simp only [completeBy, hpending, party?, Option.map_some, Option.elim_some,
        World.enact_party, ended, completed]
      rfl

theorem Background.completeBy_world (b : Background) : (b.completeBy call raw w).2 =
    w.enact call (b.scans.keys.flatMap fun id =>
      ((b.scans.find? id).bind Periodic.party?).elim [] fun party =>
        party.acts (party.announcements raw)) := by
  have hsteps := SortedMap.mapAccum_foldl (g := World.act call)
    (f := fun _ (p : Periodic) (w : World ρ) => p.completeBy call raw w)
    (fun _ p w => congrArg Prod.snd (p.completeBy_eq call raw w)) b.scans w
  rw [← SortedMap.flatMap_keys] at hsteps
  refine hsteps.trans (congrArg (w.enact call) ?_)
  refine congrArg List.flatten (List.map_congr_left fun id _ => ?_)
  cases b.scans.find? id <;> rfl

theorem Background.completeBy_find? (b : Background) (id : ScanId) :
    (b.completeBy call raw w).1.scans.find? id =
      (b.scans.find? id).map fun p => p.ended (.results raw) :=
  SortedMap.find?_mapAccum (g := fun _ (p : Periodic) => p.ended (.results raw))
    (fun _ p w => congrArg Prod.fst (p.completeBy_eq call raw w)) b.scans w id

namespace Scanner

variable [Radio ρ] {s : Scanner}

theorem waits_of_party {place : Place} {party : Party} (h : s.party? place = some party) :
    s.Waits party.handler party.watchdog := by
  cases place with
  | single =>
      cases hslot : s.single.slot with
      | armed scan =>
          simp only [party?, Single.party?, hslot, Option.some.injEq] at h
          exact h ▸ .single hslot
      | _ => simp [party?, Single.party?, hslot] at h
  | cycle id =>
      obtain ⟨p, hfind, hp⟩ := Option.bind_eq_some_iff.mp h
      obtain ⟨c, hpending, rfl⟩ := Option.map_eq_some_iff.mp hp
      exact .cycle hfind hpending

/-- Results are fetched, and then all parties are served in the order of their places. -/
theorem handleResultsBy_world (hwaiting : s.isWaiting = true) : (s.handleResultsBy call w).2 =
    (w.fetch s.iface).2.enact call (s.places.flatMap fun place =>
      (s.party? place).elim [] fun party =>
        party.acts (party.announcements (Radio.detections w.radio s.iface))) := by
  rw [handleResultsBy, if_pos hwaiting, places, List.flatMap_cons, List.flatMap_map,
    World.enact_append]
  dsimp only
  rw [Background.completeBy_world, Single.completeBy_eq]
  rfl

/-- After the completion the place of a party shows the new results. -/
theorem latest?_handleResultsBy (hwaiting : s.isWaiting = true) {place : Place} {party : Party}
    (h : s.party? place = some party) :
    Station.latest? ⟨(s.handleResultsBy call w).1, (s.handleResultsBy call w).2⟩ place =
      some (party.waiting.results (Radio.detections w.radio s.iface)) := by
  rw [handleResultsBy, if_pos hwaiting]
  dsimp only
  cases place with
  | single =>
      cases hslot : s.single.slot with
      | armed scan =>
          simp only [party?, Single.party?, hslot, Option.some.injEq] at h
          rw [Station.latest?, Single.completeBy_eq, ← h, Single.ended, hslot]
          rfl
      | _ => simp [party?, Single.party?, hslot] at h
  | cycle id =>
      obtain ⟨p, hfind, hp⟩ := Option.bind_eq_some_iff.mp h
      obtain ⟨c, hpending, rfl⟩ := Option.map_eq_some_iff.mp hp
      rw [Station.latest?, Background.latest?, Background.completeBy_find?, hfind]
      simp only [Option.map_some, Periodic.ended, Periodic.completed, hpending]
      rfl

end Scanner

end Completion

/-! ## Where parties come from -/

theorem Errand.admitted_of_ok [Radio ρ] {errand : Errand} {setup : Setup} {w : World ρ}
    {request : Request} (hresolve : setup.resolve errand.settings errand.buckets = .ok request)
    (hanswer : w.answer setup.iface request = .succeeded) : errand.admitted setup w =
      some { start := w.clock, request, buckets := errand.mask } := by
  simp [admitted, hresolve, hanswer]

/-- A cycle that waits after the next one was to run is this one, or it waited before. -/
theorem Periodic.Ran.party [Radio ρ] {setup : Setup} {id : ScanId} {p q : Periodic}
    {w w' : World ρ} {refusal : Option Reason} (h : Ran setup id p w (refusal, q, w'))
    {party : Party} (hparty : q.party? = some party) :
    (p.pending ≠ none ∧ p.party? = some party) ∨
      ∃ errand x, p.errand? = some errand ∧ errand.admitted setup w = some x ∧
        party.Serves (.cycle id) errand := by
  cases h with
  | skipped =>
      obtain ⟨c, hpending, rfl⟩ := Option.map_eq_some_iff.mp hparty
      have hwaits : p.pending = some c := hpending
      exact .inl ⟨by simp [hwaits], by rw [party?, hwaits]; rfl⟩
  | unresolved hidle => simp [party?, advanced, hidle] at hparty
  | rejected hidle => simp [party?, advanced, hidle] at hparty
  | admitted hidle _ hresolve hanswer =>
      obtain rfl := Option.some.inj hparty
      refine .inr ⟨_, _, errand?_of_idle hidle, Errand.admitted_of_ok hresolve hanswer, ?_⟩
      refine ⟨?_, ?_, rfl⟩
      · exact (ReportFlags.contains_bit (i := 1) rfl).trans (ReportFlags.has_ofBuckets _ 1)
      · simp only [Cycle.party, nextCycle, ReportFlags.isBatched_eq, Errand.wantsStatus, reduceCtorEq,
          false_or]

namespace Station

variable [Radio ρ] {now : Station ρ} {move : Move ρ}

/-- No request is admitted at a taken slot. -/
theorem admits_taken (hslot : now.scanner.single.slot ≠ .idle) :
    now.admits move .single = none := by
  cases move with
  | single settings handler => exact admits_refused (.inr (.inr hslot))
  | _ => rfl

/-- No request is admitted for a configuration that waits, unless it is replaced. -/
theorem admits_pending {id : ScanId} {p : Periodic} (hnow : now.config? id = some p)
    (hpending : p.pending ≠ none)
    (hcall : move.isCall = true → now.cycleAt move id = none) :
    now.admits move (.cycle id) = none := by
  cases hcycle : now.cycleAt move id with
  | none => exact admits_cycle_of_none hcycle
  | some q =>
      rcases cycleAt_eq_some hcycle with ⟨_, _, _, rfl, -⟩ | ⟨-, hfind⟩
      · rw [hcall rfl] at hcycle
        cases hcycle
      · obtain rfl := Option.some.inj (hnow.symm.trans hfind)
        simp [admits_cycle hcycle rfl, Periodic.errand?, hpending]

end Station

/-- A party that waits at a place after a move waited there before, or it is the one whose request
the move lets wait. -/
inductive Party.Comes [Radio ρ] (now : Station ρ) (move : Move ρ) (place : Place) (party : Party) :
    Prop where
  | waited (hadmits : now.admits move place = none)
      (hbefore : now.scanner.party? place = some party)
  | admitted {errand : Errand} {x : Waiting} (herrand : now.errand? move place = some errand)
      (hadmits : now.admits move place = some x) (hserves : party.Serves place errand)

theorem Party.Comes.of_cycle [Radio ρ] {now : Station ρ} {move : Move ρ} {id : ScanId}
    {p : Periodic} {w : World ρ} {errand : Errand} {x : Waiting} {party : Party}
    (hcycle : now.cycleAt move id = some p) (hw : w.contact = now.world.contact)
    (herrand : p.errand? = some errand) (hadmitted : errand.admitted now.scanner.setup w = some x)
    (hserves : party.Serves (.cycle id) errand) : party.Comes now move (.cycle id) := by
  refine .admitted (x := x) ?_ ?_ hserves
  · rw [Station.errand?, hcycle]
    exact herrand
  · rw [Station.admits_cycle hcycle hw, herrand]
    exact hadmitted

namespace Step

variable [Radio ρ] {now next : Station ρ} {move : Move ρ} {party : Party}

theorem comes_single (hstep : Step now move next)
    (hparty : next.scanner.party? .single = some party) : party.Comes now move .single := by
  have harmed : ∃ scan, next.scanner.single.slot = .armed scan := by
    cases hslot : next.scanner.single.slot with
    | armed scan => exact ⟨scan, rfl⟩
    | _ => simp [Scanner.party?, Single.party?, hslot] at hparty
  obtain ⟨scan, hslot⟩ := harmed
  -- A slot that was armed before has no room for another request.
  have hkept (hsame : next.scanner.single = now.scanner.single) :
      party.Comes now move .single := by
    rw [hsame] at hslot
    rw [Scanner.party?, hsame] at hparty
    exact .waited (Station.admits_taken (by simp [hslot])) hparty
  cases hstep with
  | single hstarted =>
      cases hstarted with
      | refused => exact hkept rfl
      | unresolved => exact hkept rfl
      | rejected => cases hslot
      | armed hidle hresolve hanswer =>
          obtain rfl := Option.some.inj hparty
          refine .admitted (if_pos hidle)
            ((Station.admits_single hidle).trans (Errand.admitted_of_ok hresolve hanswer)) ?_
          refine ⟨?_, ?_, rfl⟩
          · exact (ReportFlags.contains_bit (i := 1) rfl).trans (ReportFlags.has_ofBuckets _ 1)
          · exact ⟨fun _ => .inl rfl, fun _ => rfl⟩
  | finished _ _ hfinished =>
      cases hfinished with
      | unarmed => exact hkept rfl
      | armed => cases hslot
  | singleTimeout _ hexpired =>
      cases hexpired with
      | stale => exact hkept rfl
      | own => cases hslot
  | _ => exact hkept rfl

theorem comes_cycle (hstep : Step now move next) {id : ScanId}
    (hparty : next.scanner.party? (.cycle id) = some party) : party.Comes now move (.cycle id) := by
  obtain ⟨q, hconfig, hq⟩ := Option.bind_eq_some_iff.mp hparty
  cases hstep.origin hconfig with
  | begun hmove hcycle hran =>
      rcases hran.party hq with ⟨hpending, -⟩ | ⟨errand, x, herrand, hadmitted, hserves⟩
      · exact absurd rfl hpending
      · exact .of_cycle hcycle (World.contact_schedule _ _ _) herrand hadmitted hserves
  | @ticked rest p _ _ _ hmove hnow hcycle hran =>
      rcases hran.party hq with ⟨hpending, hbefore⟩ | ⟨errand, x, herrand, hadmitted, hserves⟩
      · refine .waited (Station.admits_pending hnow hpending (by simp [hmove, Move.isCall])) ?_
        exact Option.bind_eq_some_iff.mpr ⟨p, hnow, hbefore⟩
      · have hcontact := (now.world.withEvents rest).contact_schedule (.period now.iface id)
          p.settings.basePeriod.toUInt64
        exact .of_cycle hcycle hcontact herrand hadmitted hserves
  | ended => simp [Periodic.party?] at hq
  | kept hcall hnow =>
      have hpending : q.pending ≠ none := by
        intro hnone
        simp [Periodic.party?, hnone] at hq
      exact .waited (Station.admits_pending hnow hpending hcall)
        (Option.bind_eq_some_iff.mpr ⟨q, hnow, hq⟩)

theorem comes (hstep : Step now move next) {place : Place}
    (hparty : next.scanner.party? place = some party) : party.Comes now move place := by
  cases place with
  | single => exact hstep.comes_single hparty
  | cycle id => exact hstep.comes_cycle hparty

end Step

/-! ## Every run -/

namespace Run

variable [Radio ρ]

/-- The errand of the request that was admitted last for a place. -/
def errand? (place : Place) : Run ρ → Option Errand
  | begin .. => none
  | extend run move =>
    if (run.now.admits move place).isSome then run.now.errand? move place else run.errand? place

/-- Whoever waits reports what the buckets of the errand ask for that was admitted last. -/
theorem party_serves (run : Run ρ) {place : Place} {party : Party}
    (hparty : run.now.scanner.party? place = some party) :
    ∃ errand, run.errand? place = some errand ∧ party.Serves place errand := by
  induction run with
  | begin setup radio clock => cases place <;> cases hparty
  | extend run move ih =>
      cases (run.now.step_perform move).comes hparty with
      | waited hadmits hbefore =>
          obtain ⟨errand, herrand, hserves⟩ := ih hbefore
          exact ⟨errand, by simp [errand?, hadmits, herrand], hserves⟩
      | admitted herrand hadmits hserves =>
          refine ⟨_, ?_, hserves⟩
          simp only [errand?, hadmits, Option.isSome_some, if_true, herrand]

/-- What is to be done at a place when the radio has results: nothing unless a party waits there,
or else its watchdog is cancelled and it is told what its errand asks for. -/
def duties (run : Run ρ) (raw : List Detection) (place : Place) : List Act :=
  match run.now.scanner.party? place, run.errand? place with
  | some party, some errand =>
    party.acts (errand.announcements place party.shown (party.waiting.results raw))
  | _, _ => []

theorem duties_eq (run : Run ρ) (raw : List Detection) : run.duties raw = fun place =>
    (run.now.scanner.party? place).elim [] fun party => party.acts (party.announcements raw) := by
  funext place
  cases hparty : run.now.scanner.party? place with
  | none => simp [duties, hparty]
  | some party =>
      obtain ⟨errand, herrand, hserves⟩ := run.party_serves hparty
      simp only [duties, hparty, herrand, Option.elim_some, hserves.announcements]

/-- The duties of all places in the order in which they are served. -/
def completion (run : Run ρ) (raw : List Detection) : List Act :=
  run.now.scanner.places.flatMap (run.duties raw)

/-- A completion announces exactly what it stores, after storing it. In every state that a run can
reach, for whoever waits and whatever the radio holds, and however the calls are made: results are
fetched, and the places are served in their order, each by its duties. The place of the party shows
the new results afterwards, whose mask is that of the errand.

Handling the notice is one of these completions, and a handler hears of it the calls that the
duties have for it. -/
theorem completion_announces_what_it_stored (run : Run ρ) (w : World ρ) {raw : List Detection}
    (hraw : Radio.detections w.radio run.now.iface = raw) {place : Place} {party : Party}
    (hparty : run.now.scanner.party? place = some party) :
    (∀ call : World.Caller ρ,
      (run.now.scanner.handleResultsBy call w).2 =
        (w.fetch run.now.iface).2.enact call (run.completion raw) ∧
      Station.latest? ⟨(run.now.scanner.handleResultsBy call w).1,
        (run.now.scanner.handleResultsBy call w).2⟩ place = some (party.waiting.results raw)) ∧
    (∃ errand, run.errand? place = some errand ∧
      run.duties raw place = party.acts
        (errand.announcements place party.shown (party.waiting.results raw)) ∧
      (party.waiting.results raw).buckets = errand.maskAt place) ∧
    run.now.scanner.handle (.resultsAvailable run.now.iface) w =
      run.now.scanner.handleResultsBy World.call w ∧
    ∀ listener, (run.now.scanner.handle (.resultsAvailable run.now.iface) w).2.heard listener =
      w.heard listener ++ (run.completion raw).flatMap (Act.heard listener) := by
  subst hraw
  have hwaiting : run.now.scanner.isWaiting = true :=
    (Scanner.isWaiting_iff run.settled).mpr ⟨_, _, Scanner.waits_of_party hparty⟩
  have hworld : ∀ call : World.Caller ρ, (run.now.scanner.handleResultsBy call w).2 =
      (w.fetch run.now.iface).2.enact call
        (run.completion (Radio.detections w.radio run.now.iface)) := by
    intro call
    rw [completion, duties_eq]
    exact Scanner.handleResultsBy_world call w hwaiting
  have hhandle : run.now.scanner.handle (.resultsAvailable run.now.iface) w =
      run.now.scanner.handleResultsBy World.call w := by
    simp [Scanner.handle, Event.iface?, Station.iface, Scanner.handleResults]
  refine ⟨fun call => ⟨hworld call, Scanner.latest?_handleResultsBy call w hwaiting hparty⟩, ?_,
    hhandle, fun listener => ?_⟩
  · obtain ⟨errand, herrand, hserves⟩ := run.party_serves hparty
    exact ⟨errand, herrand, by simp only [duties, hparty, herrand], hserves.mask⟩
  · rw [hhandle, hworld, World.heard_enact, World.heard_fetch]

end Run

namespace Sample

/-- Settings of which one bucket wants every record and the other one no report at all. -/
def talkative : Settings where
  basePeriod := 1000
  buckets :=
    [{ period := 1000, flags := .fullScanResult, target := .channels [1] },
      { period := 2000, flags := .noBatch, target := .channels [6] }]

/-- The first cycle of a configuration and a single scan wait for the same results. -/
def attentive : Run Replay :=
  [.background (some talkative) (some (handler 1)),
    .single (some talkative) (some (handler 2))].foldl .extend (.begin setup neighbourhood 1000)

/-- Both handlers hear of the one network that was found, one of them under the mask of the cycle,
and then that it can be fetched. -/
theorem attentive_announces :
    let heard := (attentive.now.scanner.handle (.resultsAvailable "wlan0")
      attentive.now.world).2.heard
    (heard (handler 1) = [.fullResult (Replay.detect 1000 neighbourhood.networks[0]) 3,
      .statusAvailable]) ∧
    (heard (handler 2) = [.fullResult (Replay.detect 1000 neighbourhood.networks[0]) 0,
      .statusAvailable]) := by
  obtain ⟨party, hparty⟩ : ∃ party, attentive.now.scanner.party? (.cycle 1) = some party :=
    Option.isSome_iff_exists.mp (by decide +kernel)
  obtain ⟨-, -, -, hheard⟩ :=
    attentive.completion_announces_what_it_stored attentive.now.world rfl hparty
  exact ⟨(hheard (handler 1)).trans (by decide +kernel),
    (hheard (handler 2)).trans (by decide +kernel)⟩

end Sample

end WirelessScan
