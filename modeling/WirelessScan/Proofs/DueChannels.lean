import WirelessScan.Proofs.FirstCycle

/-!
# Cycles without channels

The start of a configuration resolves all of its buckets together, while each cycle resolves those
that are due. No channel of a due bucket can be unknown then. Still a cycle can be left without any
frequency: every one of its due buckets is dry, and the frequencies came from the other buckets.
Such a cycle fails without a call to the radio. It is never the first one, in which everything is
due.

That is the one way in which resolution can fail a cycle of an active configuration, so whatever
failure a handler hears of comes from the radio, from a watchdog or from a dry cycle.
-/

namespace WirelessScan

variable {ρ : Type}

/-! ## Dry buckets -/

/-- A target without any frequency: an empty list of channels, or a band whose blocks are empty in
the table. -/
def ChannelTable.IsDry (table : ChannelTable) : Target → Prop
  | .band band => ∀ b ∈ band.subBands, table.block b = []
  | .channels channels => channels = []

theorem ChannelTable.isDry_iff (table : ChannelTable) (target : Target) :
    table.IsDry target ↔ table.targetFrequencies target = .ok [] := by
  cases target with
  | band band => simp [IsDry, targetFrequencies]
  | channels channels =>
      cases channels with
      | nil => simp [IsDry, targetFrequencies, pure, Except.pure]
      | cons c rest =>
          simp only [IsDry, targetFrequencies, List.mapM_cons, reduceCtorEq, false_iff]
          cases table.frequency c with
          | error e => simp [bind, Except.bind]
          | ok f => cases rest.mapM table.frequency <;> simp [bind, Except.bind, pure, Except.pure]

namespace Setup

/-- A cycle has something due, but all of it is dry. -/
def RunsDry (setup : Setup) (p : Periodic) : Prop :=
  p.due ≠ [] ∧ ∀ b ∈ p.due.map Prod.fst, setup.table.IsDry b.target

/-- Some of the buckets that resolve together resolve as well, unless all of them are dry. -/
theorem resolve_subset {setup : Setup} {settings : Settings} {buckets due : List Bucket}
    {request : Request} (hwhole : setup.resolve settings buckets = .ok request)
    (hsub : due ⊆ buckets) :
    ((∀ b ∈ due, setup.table.IsDry b.target) ∧ setup.resolve settings due = .error .noChannels) ∨
      (¬ ∀ b ∈ due, setup.table.IsDry b.target) ∧
        ∃ request, setup.resolve settings due = .ok request ∧
          request.frequencies.isEmpty = false := by
  simp only [ChannelTable.isDry_iff]
  by_cases hdry : ∀ b ∈ due, setup.table.targetFrequencies b.target = .ok []
  · exact .inl ⟨hdry, resolve_eq_error_iff.mpr (.inr ⟨hdry, rfl⟩)⟩
  · refine .inr ⟨hdry, ?_⟩
    cases hresolve : setup.resolve settings due with
    | ok request => exact ⟨request, rfl, (resolve_ok hresolve).2⟩
    | error error =>
        rcases resolve_eq_error_iff.mp hresolve with ⟨c, hc, -⟩ | ⟨hnone, -⟩
        · -- A channel that is unknown here is unknown among all the buckets.
          obtain ⟨b, hb, hcb⟩ := List.mem_flatMap.mp (List.mem_of_head? hc)
          obtain ⟨fs, hfs⟩ := ChannelTable.known_of_resolve (resolve_ok hwhole).1 b (hsub hb)
          have hfault := setup.table.fault?_targetFrequencies b.target
          rw [hfs, eq_comm, fault?, Option.map_eq_none_iff, List.head?_eq_none_iff] at hfault
          rw [hfault] at hcb
          cases hcb
        · exact absurd hnone hdry

end Setup

theorem Periodic.due_subset (p : Periodic) : p.due.map Prod.fst ⊆ p.settings.buckets := by
  intro b hb
  obtain ⟨⟨b, i⟩, hmem, rfl⟩ := List.mem_map.mp hb
  have hmem' := List.mem_of_mem_take (List.mem_filter.mp hmem).1
  exact List.mem_of_getElem? (List.mk_mem_zipIdx_iff_getElem?.mp hmem')

/-! ## Cycles of active configurations -/

section Cycles

variable [Radio ρ] [NoticeRadio ρ] {run : Run ρ} {move : Move ρ} {id : ScanId} {p q : Periodic}

namespace Run

/-- The buckets of an active configuration resolve together. -/
theorem whole (run : Run ρ) {id : ScanId} {p : Periodic} (hactive : run.now.config? id = some p) :
    ∃ request, run.now.scanner.setup.resolve p.settings p.settings.buckets = .ok request := by
  induction run generalizing p with
  | begin => cases hactive
  | extend run move ih =>
      have hstep := run.now.step_perform move
      have hturn := hstep.turn run.sound id
      rw [now, hstep.setup]
      cases hcycle : run.now.cycleAt move id with
      | none =>
          obtain ⟨p', hnow, hsettings, -⟩ := hturn.schedule_eq hcycle hactive
          rw [hsettings]
          exact ih hnow
      | some p' =>
          obtain ⟨p₁, q, w, w', refusal, -, -, hsettings, hran, -, -, hconfig⟩ := hturn.ran hcycle
          obtain rfl : q = p := Option.some.inj (hconfig.symm.trans hactive)
          rw [hran.settings, hsettings]
          rcases Station.cycleAt_eq_some hcycle with
            ⟨settings, handler, request, -, -, hresolve, rfl⟩ | ⟨-, hnow⟩
          · exact ⟨request, hresolve⟩
          · exact ih hnow

/-- The same of a configuration whose cycle is run, which may be its first one. -/
theorem whole_of_cycleAt (hcycle : run.now.cycleAt move id = some p) :
    ∃ request, run.now.scanner.setup.resolve p.settings p.settings.buckets = .ok request := by
  rcases Station.cycleAt_eq_some hcycle with
    ⟨settings, handler, request, -, -, hresolve, rfl⟩ | ⟨-, hnow⟩
  · exact ⟨request, hresolve⟩
  · exact run.whole hnow

/-- In cycle 0 everything is due, so it is not dry. -/
theorem not_runsDry_first (hcycle : run.now.cycleAt move id = some p) (hfirst : p.cycle = 0) :
    ¬ run.now.scanner.setup.RunsDry p := by
  obtain ⟨-, -, -, hperiodic⟩ := (run.onCourse id).tick hcycle
  obtain ⟨request, hwhole⟩ := run.whole_of_cycleAt hcycle
  rintro ⟨-, hdry⟩
  rw [Periodic.buckets_first hfirst hperiodic] at hdry
  rcases Setup.resolve_subset hwhole (List.Subset.refl _) with ⟨-, hnone⟩ | ⟨hwet, -⟩
  · rw [hwhole] at hnone
    cases hnone
  · exact hwet hdry

/-- A cycle that has something due resolves, unless it is dry. -/
theorem cycle_resolves (hcycle : run.now.cycleAt move id = some p) (hdue : p.due ≠ []) :
    (run.now.scanner.setup.RunsDry p ∧
      run.now.scanner.setup.resolve p.settings (p.due.map Prod.fst) = .error .noChannels) ∨
    (¬ run.now.scanner.setup.RunsDry p ∧ ∃ request,
      run.now.scanner.setup.resolve p.settings (p.due.map Prod.fst) = .ok request ∧
        request.frequencies.isEmpty = false) := by
  obtain ⟨request, hwhole⟩ := run.whole_of_cycleAt hcycle
  rcases Setup.resolve_subset hwhole p.due_subset with ⟨hdry, hnone⟩ | ⟨hwet, hsome⟩
  · exact .inl ⟨⟨hdue, hdry⟩, hnone⟩
  · exact .inr ⟨fun h => hwet h.2, hsome⟩

end Run

end Cycles

/-! ## The causes of failures -/

namespace Run

variable [Radio ρ]

/-- Some move of the run was of a kind. -/
def Happened (kind : Run ρ → Move ρ → Prop) : Run ρ → Prop
  | begin .. => False
  | extend run move => run.Happened kind ∨ kind run move

/-- The reasons for which the radio refused calls that were made while an id was handed out. -/
def firstRefusals (id : ScanId) : Run ρ → List Reason
  | begin .. => []
  | extend run move =>
    run.firstRefusals id ++
      if run.now.answersId move = some id then
        ((run.now.calls (run.now.perform move)).map Prod.snd).filter (· ≠ .succeeded)
      else []

/-- Why the handler of the configuration under an id hears of a failure in a move. -/
inductive Fails (run : Run ρ) (move : Move ρ) (id : ScanId) (handler : Handler) :
    Reason → Prop where
  /-- The radio gives up the cycle that waits. -/
  | failure {p : Periodic} {c : Cycle} {reason : Reason} (hnow : run.now.config? id = some p)
      (hhandler : p.handler = handler) (hpending : p.pending = some c)
      (hturn : run.now.turn? move = some (.scanFailed run.now.iface reason)) :
      Fails run move id handler reason
  /-- The watchdog of the cycle that waits expires. -/
  | timeout {p : Periodic} {c : Cycle} {handle : TimerHandle} (hnow : run.now.config? id = some p)
      (hhandler : p.handler = handler) (hpending : p.pending = some c)
      (hturn : run.now.turn? move =
        some (.timerFired (.cycleTimeout run.now.iface id) handle)) :
      Fails run move id handler .timeout
  /-- The radio refuses the cycle that is run. -/
  | refusal {p : Periodic} {request : Request} {reason : Reason}
      (hcycle : run.now.cycleAt move id = some p) (hhandler : p.handler = handler)
      (hcall : (request, reason) ∈ run.now.calls (run.extend move).now)
      (hrefused : reason ≠ .succeeded) : Fails run move id handler reason
  /-- The refusal of a first cycle is delivered. -/
  | deferred {reason : Reason}
      (hturn : run.now.turn? move = some (.cycleRejected run.now.iface id reason))
      (hrefused : reason ∈ run.firstRefusals id) : Fails run move id handler reason
  /-- The cycle that is run is dry. -/
  | dry {p : Periodic} (hcycle : run.now.cycleAt move id = some p)
      (hhandler : p.handler = handler) (hpending : p.pending = none)
      (hdry : run.now.scanner.setup.RunsDry p) : Fails run move id handler .unspecified

end Run

section Causes

variable [Radio ρ] [NoticeRadio ρ] {now next : Station ρ} {run : Run ρ} {move : Move ρ}
  {id : ScanId} {p q : Periodic}

omit [NoticeRadio ρ] in
/-- What a run of a cycle answers: its buckets do not resolve, or the radio refuses. -/
theorem Periodic.Ran.refusal_cause {setup : Setup} {w w' : World ρ} {reason : Reason}
    (h : Ran setup id p w (some reason, q, w')) :
    p.pending = none ∧ p.due ≠ [] ∧
      ((∃ error, setup.resolve p.settings (p.due.map Prod.fst) = .error error ∧
          reason = error.reason ∧ w' = w) ∨
        ∃ request, reason ≠ .succeeded ∧ w'.admissions = w.admissions ++ [(request, reason)]) := by
  cases h with
  | unresolved hidle hdue hresolve => exact ⟨hidle, hdue, .inl ⟨_, hresolve, rfl, rfl⟩⟩
  | rejected hidle hdue _ hanswer =>
      exact ⟨hidle, hdue, .inr ⟨_, hanswer, World.asked_admissions _ _ _⟩⟩

/-- Without a turn that delivers one, the deferred rejections of a configuration stay queued. -/
theorem Step.refusals_le (hstep : Step now move next) (hsound : now.Sound)
    (hturn : ∀ reason, now.turn? move ≠ some (.cycleRejected now.iface id reason)) :
    now.refusals id ≤ next.refusals id := by
  obtain ⟨posted, hevents, -⟩ := hstep.appends hsound
  have hiface : next.iface = now.iface := congrArg Setup.iface hstep.setup
  have hremaining : (now.remaining move).countP (Event.refusesCycle now.iface id) =
      now.refusals id := by
    cases move with
    | dispatch =>
        simp only [Station.remaining, Station.refusals, Queue.countOf]
        cases hqueue : now.world.queue.events with
        | nil => rfl
        | cons e rest =>
            have hother : e.refusesCycle now.iface id = false := by
              cases e with
              | cycleRejected iface other reason =>
                  simp only [Event.refusesCycle, Bool.and_eq_false_imp, decide_eq_true_eq,
                    decide_eq_false_iff_not]
                  rintro rfl rfl
                  exact hturn reason (congrArg List.head? hqueue)
              | _ => rfl
            rw [List.countP_cons, hother]
            rfl
    | _ => rfl
  rw [← hremaining, Station.refusals, Queue.countOf, hevents, hiface, List.countP_append]
  exact Nat.le_add_right _ _

theorem Run.refused_of_started {settings : Option Settings} {handler : Option Handler}
    {answer : Option ScanId} {background : Background} {world : World ρ}
    (hstarted : Background.Started run.now.scanner.setup run.now.scanner.background run.now.world
      settings handler (answer, background, world))
    (hanswer : run.now.answersId (.background settings handler) = answer) (hsound : run.now.Sound)
    {iface : String} {reason : Reason}
    (hqueued : .cycleRejected iface id reason ∈ world.queue.events)
    (hnew : .cycleRejected iface id reason ∉ run.now.world.queue.events) :
    run.now.answersId (.background settings handler) = some id ∧ reason ≠ .succeeded ∧
      ∃ request, (request, reason) ∈
        run.now.calls ⟨{ run.now.scanner with background }, world⟩ := by
  have hopen := hsound.world.isOpen
  cases hstarted with
  | refused => exact absurd hqueued hnew
  | unresolved =>
      rw [World.post_events _ _ hopen] at hqueued
      rcases List.mem_append.mp hqueued with hold | hpost
      · exact absurd hold hnew
      · cases List.mem_singleton.mp hpost
  | @activated _ _ request refusal p w hperiodic hresolve hran =>
      obtain ⟨posted, hevents, hposted⟩ := hran.appends hopen
      have hradio : .cycleRejected iface id reason ∉ w.queue.events := by
        rw [hevents, List.mem_append]
        rintro (hold | hnotice)
        · exact hnew hold
        · cases hposted _ hnotice
      cases refusal with
      | none => exact absurd hqueued hradio
      | some refusal =>
          rw [Option.elim_some,
            World.post_events _ _ ((hsound.world.schedule _ _).ran hran).isOpen] at hqueued
          rcases List.mem_append.mp hqueued with hold | hpost
          · exact absurd hold hradio
          · obtain ⟨-, rfl, rfl⟩ := Event.cycleRejected.inj (List.mem_singleton.mp hpost)
            obtain ⟨-, -, ⟨error, herror, -⟩ | ⟨request, hrefused, hadmissions⟩⟩ :=
              hran.refusal_cause
            · -- Everything is due in the first cycle, and it resolves.
              rw [Periodic.buckets_first rfl hperiodic, hresolve] at herror
              cases herror
            · refine ⟨hanswer, hrefused, request, ?_⟩
              have hcalls : World.admissions (w.post (.cycleRejected run.now.scanner.setup.iface
                  run.now.scanner.background.nextId reason)) =
                  run.now.world.admissions ++ [(request, reason)] :=
                hadmissions.trans (congrArg (· ++ _) (World.schedule_admissions _ _ _))
              simp [Station.calls, hcalls]

/-- A deferred rejection of a cycle carries the reason of the radio. -/
theorem Run.refused_of_queued (run : Run ρ) {iface : String} {id : ScanId} {reason : Reason}
    (hqueued : .cycleRejected iface id reason ∈ run.now.world.queue.events) :
    reason ∈ run.firstRefusals id := by
  induction run with
  | begin => cases hqueued
  | extend run move ih =>
      have hstep := run.now.step_perform move
      have hsound := run.sound
      cases move with
      | background settings handler =>
          rw [firstRefusals]
          rw [now] at hqueued
          generalize run.now.perform (.background settings handler) = next at hstep hqueued
          cases hstep with
          | background hstarted hanswer =>
              by_cases hbefore : .cycleRejected iface id reason ∈ run.now.world.queue.events
              · exact List.mem_append_left _ (ih hbefore)
              · obtain ⟨hid, hrefused, request, hcall⟩ :=
                  refused_of_started hstarted hanswer hsound hqueued hbefore
                rw [if_pos hid]
                refine List.mem_append_right _ (List.mem_filter.mpr ⟨?_, by simpa using hrefused⟩)
                exact List.mem_map.mpr ⟨_, hcall, rfl⟩
      | _ =>
          obtain ⟨posted, hevents, hposted⟩ := hstep.appends hsound
          rw [now, hevents, List.mem_append] at hqueued
          rcases hqueued with hremaining | hnew
          · exact List.mem_append_left _ (ih (run.now.remaining_subset _ hremaining))
          · cases hposted _ hnew with
            | notice he => cases he

omit [NoticeRadio ρ] in
/-- Completion is not a failure. -/
theorem Cycle.not_failed_of_completion (c : Cycle) (raw : List Detection) {reason : Reason} :
    .requestFailed reason ∉ c.completion raw := by
  intro hmem
  have hnone := List.countP_eq_zero.mp (c.countP_completion_failure raw) _ hmem
  exact hnone rfl

/-- A cycle that fails at once is dry, or the radio refuses it. -/
theorem Run.fails_of_ran {reason : Reason} {w w' : World ρ} {tag : TimerTag} {millis : UInt64}
    {timer : TimerHandle} (hcycle : run.now.cycleAt move id = some p)
    (hran : Periodic.Ran run.now.scanner.setup id { p with periodTimer := timer }
      (w.schedule tag millis).2 (some reason, q, w'))
    (hbefore : w.admissions = run.now.world.admissions)
    (hafter : (run.now.perform move).world.admissions = w'.admissions) :
    run.Fails move id p.handler reason := by
  obtain ⟨hidle, hdue, ⟨error, herror, rfl, -⟩ | ⟨request, hrefused, hadmissions⟩⟩ :=
    hran.refusal_cause
  · rcases run.cycle_resolves hcycle hdue with ⟨hdry, hnone⟩ | ⟨-, request, hsome, -⟩
    · obtain rfl := Except.error.inj (hnone.symm.trans herror)
      exact .dry hcycle rfl hidle hdry
    · exact absurd (hsome.symm.trans herror) (by simp)
  · have hcalls : run.now.calls (run.extend move).now = [(request, reason)] := by
      rw [Station.calls, now, hafter, hadmissions, World.schedule_admissions, hbefore,
        List.drop_left]
    exact .refusal hcycle rfl (hcalls ▸ List.mem_singleton.mpr rfl) hrefused

omit [NoticeRadio ρ] in
/-- The turn that delivers the rejection of a first cycle tells the handler its reason. -/
theorem Run.heard_of_told {told : Reason} (hnow : run.now.config? id = some p)
    (hturn : run.now.turn? move = some (.cycleRejected run.now.iface id told)) :
    (run.extend move).now.world.heard p.handler =
        run.now.world.heard p.handler ++ [.requestFailed told] ∧
      .cycleRejected run.now.iface id told ∈ run.now.world.queue.events := by
  obtain ⟨rfl, rest, hqueue⟩ := Station.turn?_eq_some hturn
  have hserve := Station.serve_own hqueue rfl
  have hworld : (run.extend .dispatch).now.world =
      run.now.scanner.background.rejectCycle id told (run.now.world.withEvents rest) :=
    (congrArg Station.world hserve).trans
      (congrArg Prod.snd (Scanner.handle_cycleRejected id told))
  have hfind : run.now.scanner.background.scans.find? id = some p := hnow
  refine ⟨?_, hqueue ▸ List.mem_cons_self⟩
  rw [hworld, Background.heard_rejectCycle, hfind, if_pos (by simp)]
  rfl

/-- A failure that the handler of an active configuration newly hears of has one of the causes. -/
theorem Run.fails_of_heard (hnow : run.now.config? id = some p)
    (hsole : run.now.Sole id p.handler) (hnext : (run.extend move).now.config? id = some q)
    {reason : Reason}
    (hheard : .requestFailed reason ∈ (run.extend move).now.world.heard p.handler) :
    .requestFailed reason ∈ run.now.world.heard p.handler ∨
      run.Fails move id p.handler reason := by
  by_cases htold : ∃ told, run.now.turn? move = some (.cycleRejected run.now.iface id told)
  · obtain ⟨told, hturn⟩ := htold
    obtain ⟨htells, hqueued⟩ := heard_of_told hnow hturn
    rw [htells, List.mem_append] at hheard
    refine hheard.imp_right fun hnew => ?_
    obtain rfl := Callback.requestFailed.inj (List.mem_singleton.mp hnew)
    exact .deferred hturn (run.refused_of_queued hqueued)
  · cases (run.now.step_perform move).turn run.sound id with
    | started _ _ _ _ _ _ _ _ _ hsilent => exact .inl (hsilent p.handler ▸ hheard)
    | @ticked _ _ p' q' refusal _ _ _ hnow' hcycle hran _ hadmissions hsaid =>
        obtain rfl : p' = p := Option.some.inj (hnow'.symm.trans hnow)
        rw [now] at hheard
        rw [hsaid, List.mem_append] at hheard
        refine hheard.imp_right fun hnew => ?_
        cases refusal with
        | none => cases hnew
        | some answer =>
            obtain rfl := Callback.requestFailed.inj (List.mem_singleton.mp hnew)
            exact fails_of_ran hcycle hran rfl hadmissions
    | @changed p' q' _ hnow' _ hchange =>
        obtain rfl : p' = p := Option.some.inj (hnow'.symm.trans hnow)
        rw [now] at hheard
        cases hchange with
        | @ended c e hevent hpending hsaid =>
            rw [hsaid hsole, List.mem_append] at hheard
            refine hheard.imp_right fun hnew => ?_
            cases e with
            | results raw => exact absurd hnew (Cycle.not_failed_of_completion c raw)
            | failure given =>
                obtain rfl := Callback.requestFailed.inj (List.mem_singleton.mp hnew)
                exact .failure hnow rfl hpending hevent
        | expired hevent hpending hsaid =>
            rw [hsaid, List.mem_append] at hheard
            refine hheard.imp_right fun hnew => ?_
            obtain rfl := Callback.requestFailed.inj (List.mem_singleton.mp hnew)
            exact .timeout hnow rfl hpending hevent
        | told _ hrefusals =>
            have hle := ((run.now.step_perform move).refusals_le run.sound
              fun told hturn => htold ⟨told, hturn⟩ : run.now.refusals id ≤ _)
            omega
        | kept hsilent => exact .inl (hsilent hsole ▸ hheard)
    | inactive _ hconfig => exact absurd (hconfig.symm.trans hnext) (by simp)

theorem Run.failure_has_cause (run : Run ρ) {id : ScanId} {p : Periodic}
    (hactive : run.now.config? id = some p) (hcount : run.handlers.count p.handler = 1)
    {reason : Reason} (hheard : .requestFailed reason ∈ run.now.world.heard p.handler) :
    run.Happened fun earlier move => earlier.Fails move id p.handler reason := by
  induction run generalizing p with
  | begin => cases hactive
  | extend run move ih =>
      have hstep := run.now.step_perform move
      rcases (hstep.turn run.sound id).handler_of hactive with
        ⟨p', hnow, hown⟩ | ⟨-, hgiven, -⟩
      · rw [← hown] at hheard hcount ⊢
        obtain ⟨hmem, hsole⟩ := run.sole hnow
        have honce := (count_of_mem hmem hcount).1
        rcases fails_of_heard hnow (hsole honce) hactive hheard with hold | hnew
        · exact .inl (ih hnow honce hold)
        · exact .inr hnew
      · -- Nobody has called a handler that is only just handed over.
        have hcall : move.isCall = true := by
          cases move with
          | single => rfl
          | background => rfl
          | _ => cases hgiven
        have hsame : (run.extend move).now.world.heard p.handler = run.now.world.heard p.handler :=
          World.heard_congr (hstep.callbacks_of_isCall hcall) _
        have habsent := (run.custody p.handler).unused (not_mem_of_given hgiven hcount)
        rw [hsame, habsent.heard] at hheard
        cases hheard

/-- What a dry cycle does: nothing, if a cycle still waits, and otherwise its failure is reported
without a call to the radio. -/
theorem Run.dry_cycle (hcycle : run.now.cycleAt move id = some p)
    (hdry : run.now.scanner.setup.RunsDry p) :
    move = .dispatch ∧ p.cycle ≠ 0 ∧
      (p.pending = none → run.now.calls (run.extend move).now = [] ∧
        (run.extend move).now.world.heard p.handler =
          run.now.world.heard p.handler ++ [.requestFailed .unspecified]) := by
  have hlater : p.cycle ≠ 0 := fun hfirst => run.not_runsDry_first hcycle hfirst hdry
  cases (run.now.step_perform move).turn run.sound id with
  | started _ _ _ hcycle' =>
      obtain rfl := Option.some.inj (hcycle'.symm.trans hcycle)
      exact absurd rfl hlater
  | @ticked _ _ p' _ _ _ hmove _ _ hcycle' hran _ hadmissions hheard =>
      obtain rfl : p' = p := Option.some.inj (hcycle'.symm.trans hcycle)
      refine ⟨hmove, hlater, fun hidle => ?_⟩
      rcases run.cycle_resolves hcycle hdry.1 with ⟨-, hnone⟩ | ⟨hwet, -⟩
      · cases hran with
        | skipped hskip =>
            rcases hskip with hwaits | hnothing
            · simp [hidle] at hwaits
            · exact absurd hnothing hdry.1
        | unresolved _ _ herror =>
            obtain rfl := Except.error.inj (hnone.symm.trans herror)
            refine ⟨?_, hheard⟩
            rw [Station.calls, now, hadmissions, World.schedule_admissions]
            exact List.drop_length
        | rejected _ _ hsome => exact absurd (hnone.symm.trans hsome) (by simp)
        | admitted _ _ hsome => exact absurd (hnone.symm.trans hsome) (by simp)
      · exact absurd hdry hwet
  | changed hnone => exact absurd (hnone.symm.trans hcycle) (by simp)
  | inactive hnone => exact absurd (hnone.symm.trans hcycle) (by simp)

/-- The start of a configuration guarantees that its cycles resolve, but for those that are dry.
Whenever a cycle of a configuration has something due, its buckets resolve to some frequency, or all
of them are dry and there are no channels to scan. A dry cycle is a later one than the first; it
makes no call to the radio, and its failure is reported as unspecified. So a handler that was handed
over once hears of a failure only if the radio refused a cycle, at once or in the first cycle, if
the radio gave up, if a watchdog expired, or if a cycle was dry. -/
theorem Run.only_dry_cycles_fail_to_resolve (run : Run ρ) :
    (∀ move id p, run.now.cycleAt move id = some p → p.due ≠ [] →
      (run.now.scanner.setup.RunsDry p ∧
        run.now.scanner.setup.resolve p.settings (p.due.map Prod.fst) = .error .noChannels) ∨
      (¬ run.now.scanner.setup.RunsDry p ∧ ∃ request,
        run.now.scanner.setup.resolve p.settings (p.due.map Prod.fst) = .ok request ∧
          request.frequencies.isEmpty = false)) ∧
    (∀ move id p, run.now.cycleAt move id = some p → run.now.scanner.setup.RunsDry p →
      move = .dispatch ∧ p.cycle ≠ 0 ∧
        (p.pending = none → run.now.calls (run.extend move).now = [] ∧
          (run.extend move).now.world.heard p.handler =
            run.now.world.heard p.handler ++ [.requestFailed .unspecified])) ∧
    (∀ id p, run.now.config? id = some p → run.handlers.count p.handler = 1 →
      ∀ reason, .requestFailed reason ∈ run.now.world.heard p.handler →
        run.Happened fun earlier move => earlier.Fails move id p.handler reason) :=
  ⟨fun _ _ _ => cycle_resolves, fun _ _ _ => dry_cycle, fun _ _ hactive hcount _ =>
    run.failure_has_cause hactive hcount⟩

end Causes

namespace Sample

/-- Settings with a bucket that has no channels. In every second cycle nothing else is due. -/
def patchy : Settings where
  basePeriod := 1000
  buckets :=
    [{ period := 1000, flags := .afterEachScan, target := .channels [] },
      { period := 2000, flags := .afterEachScan, target := .channels [1] }]

/-- The first cycle has completed, and the tick of the next one is queued. -/
def beforeDry : Run Replay :=
  run [.background (some patchy) (some (handler 1)), .outside (.results "wlan0"), .dispatch,
    .fire 1]

theorem beforeDry_cycle : ∃ p, beforeDry.now.cycleAt .dispatch 1 = some p ∧
    p.handler = handler 1 ∧ p.pending = none ∧ beforeDry.now.scanner.setup.RunsDry p := by
  have hcycle : (beforeDry.now.cycleAt .dispatch 1).map
      (fun p => (p.handler, p.pending.isNone, p.due.map fun b => b.1.target)) =
        some (handler 1, true, [.channels []]) := by decide +kernel
  obtain ⟨p, hp, hparts⟩ := Option.map_eq_some_iff.mp hcycle
  simp only [Prod.mk.injEq, Option.isNone_iff_eq_none] at hparts
  obtain ⟨hhandler, hpending, htargets⟩ := hparts
  refine ⟨p, hp, hhandler, hpending, fun hnone => ?_, fun b hb => ?_⟩
  · simp [hnone] at htargets
  · obtain ⟨due, hdue, rfl⟩ := List.mem_map.mp hb
    have htarget : due.1.target ∈ [Target.channels []] :=
      htargets ▸ List.mem_map_of_mem hdue
    rw [List.mem_singleton.mp htarget]
    rfl

/-- The second cycle fails and the radio is not called for it. -/
theorem beforeDry_fails :
    beforeDry.now.calls (beforeDry.extend .dispatch).now = [] ∧
      (beforeDry.extend .dispatch).now.world.heard (handler 1) =
        [.statusAvailable, .requestFailed .unspecified] ∧
      (beforeDry.extend .dispatch).Happened fun earlier move =>
        earlier.Fails move 1 (handler 1) .unspecified := by
  obtain ⟨p, hp, hhandler, hpending, hdry⟩ := beforeDry_cycle
  obtain ⟨-, -, hreport⟩ := beforeDry.only_dry_cycles_fail_to_resolve.2.1 .dispatch 1 p hp hdry
  obtain ⟨hcalls, hheard⟩ := hreport hpending
  have hbefore : beforeDry.now.world.heard (handler 1) = [.statusAvailable] := by decide +kernel
  rw [hhandler, hbefore] at hheard
  refine ⟨hcalls, hheard, ?_⟩
  have hactive : ((beforeDry.extend .dispatch).now.config? 1).map Periodic.handler =
      some (handler 1) := by decide +kernel
  obtain ⟨q, hq, hown⟩ := Option.map_eq_some_iff.mp hactive
  rw [← hown]
  refine (beforeDry.extend .dispatch).only_dry_cycles_fail_to_resolve.2.2 1 q hq ?_ _ ?_
  · rw [hown]
    decide +kernel
  · rw [hown, hheard]
    simp

/-- The buckets of a configuration resolved together, and those that are due do not. -/
theorem beforeDry_unresolved : ¬ ∀ move id p, beforeDry.now.cycleAt move id = some p →
    p.due ≠ [] → ∃ request,
      beforeDry.now.scanner.setup.resolve p.settings (p.due.map Prod.fst) = .ok request := by
  intro hresolves
  obtain ⟨p, hp, -, -, hdue, hdry⟩ := beforeDry_cycle
  obtain ⟨request, hsome⟩ := hresolves _ _ p hp hdue
  rcases beforeDry.cycle_resolves hp hdue with ⟨-, hnone⟩ | ⟨hwet, -⟩
  · exact absurd (hsome.symm.trans hnone) (by simp)
  · exact hwet ⟨hdue, hdry⟩

end Sample

end WirelessScan
