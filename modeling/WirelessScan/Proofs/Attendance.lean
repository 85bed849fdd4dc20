import WirelessScan.Proofs.Employment
import WirelessScan.Proofs.Interleaving

/-!
# The passes of the waiting program

While the program waits for an outcome it makes passes: it takes a callback, or, if none waits to
be taken, it has the next event handled. The passes are recorded here together with the consumer
that they lead to. Two laws hold for every way in which events come up. Callbacks are taken in the
order in which they were made, none is lost, and the last event was handled before any callback
that was made meanwhile was taken. So a status that is taken comes from the last event, and the
scanner still shows the results that this event completed.
-/

namespace WirelessScan

variable {ρ : Type}

/-! ## Dispatch with one scanner -/

namespace Registry

theorem find?_register (s : Scanner) :
    SortedMap.find? (Registry.register ∅ s) s.iface = some s := by
  simp [Registry.register]

/-- A scanner takes the place of another one of its interface. -/
theorem insert_register {s t : Scanner} (h : t.iface = s.iface) :
    SortedMap.insert (Registry.register ∅ s) s.iface t = Registry.register ∅ t := by
  apply SortedMap.ext_find?
  intro iface
  simp only [Registry.register, SortedMap.find?_insert, h]
  split <;> rfl

/-- A registry of one scanner stays one. -/
theorem dispatch_register [Radio ρ] (s : Scanner) (e : Event) (w : World ρ) :
    ∃ t : Scanner, t.iface = s.iface ∧
      ((Registry.register ∅ s).dispatch e w).1 = Registry.register ∅ t := by
  rcases (Registry.register ∅ s).dispatch_cases e w with ⟨iface, t, -, hfind, heq⟩ | ⟨-, heq, -⟩
  · rw [Registry.register, SortedMap.find?_insert] at hfind
    split at hfind
    next hiface =>
      obtain rfl := Option.some.inj hfind
      have hsetup : (s.handle e (Surroundings.world w iface)).1.iface = s.iface :=
        congrArg Setup.iface (Scanner.handle_setup e)
      subst hiface
      exact ⟨_, hsetup, by rw [heq, insert_register hsetup]⟩
    next => cases hfind
  · exact ⟨s, rfl, heq⟩

end Registry

namespace Program

/-- The callbacks in a log are what the handler of the program heard. -/
theorem callbacks_log (w : World ρ) : callbacks w.log = w.heard handler := by
  unfold callbacks World.heard World.callbacks
  induction w.log with
  | nil => rfl
  | cons e rest ih =>
      cases e with
      | callback h c =>
          by_cases hown : h = handler <;> simp [Entry.callback?, hown, ih]
      | _ => simpa [List.filterMap_cons, Entry.callback?] using ih

namespace Consumer

/-- The station of a scanner in the surroundings of a consumer. -/
def station (c : Consumer ρ) (s : Scanner) : Station ρ := ⟨s, c.surroundings⟩

/-- The latest results at a place of an interface. -/
def latest? (c : Consumer ρ) (iface : String) (place : Place) : Option ResultSet :=
  (SortedMap.find? c.registry iface).bind fun s => (c.station s).latest? place

/-- What the next turn of the dispatch loop completes at a place of an interface. -/
def completion? [Radio ρ] (c : Consumer ρ) (iface : String) (place : Place) : Option Completion :=
  (SortedMap.find? c.registry iface).bind fun s => (c.station s).completion? place

/-- A consumer with one scanner, which works for the program at a place. -/
structure Employs (c : Consumer ρ) (settings : Settings) (place : Place) (s : Scanner) :
    Prop where
  registry : c.registry = Registry.register ∅ s
  employed : Employed settings place s

variable {c : Consumer ρ} {settings : Settings} {place : Place} {s : Scanner}

/-- What a consumer shows depends on its scanners alone. -/
theorem latest?_congr {c' : Consumer ρ} (h : c.registry = c'.registry) {iface : String} :
    c.latest? iface place = c'.latest? iface place := by
  unfold latest?
  rw [h]
  cases place <;> rfl

theorem Employs.get (h : c.Employs settings place s) :
    Registry.get c.registry s.iface = .ok s := by
  rw [Registry.get, h.registry, Registry.find?_register]

theorem Employs.latest? (h : c.Employs settings place s) (place' : Place) :
    c.latest? s.iface place' = (c.station s).latest? place' := by
  rw [Consumer.latest?, h.registry, Registry.find?_register]
  rfl

variable [Radio ρ]

theorem Employs.completion? (h : c.Employs settings place s) (place' : Place) :
    c.completion? s.iface place' = (c.station s).completion? place' := by
  rw [Consumer.completion?, h.registry, Registry.find?_register]
  rfl

/-- Handling an event is a turn of the station of the only scanner. -/
theorem dispatch_serve (h : c.registry = Registry.register ∅ s) :
    c.dispatch.registry = Registry.register ∅ (c.station s).serve.scanner ∧
      c.dispatch.outcomes = c.outcomes ++ (c.station s).serve.world.heard handler := by
  have hregistry : (c.station s).registry = c.registry := h.symm
  unfold dispatch Station.serve
  rw [hregistry, show (c.station s).world = c.surroundings from rfl]
  unfold Registry.dispatchNext?
  cases c.surroundings.queue.pop? with
  | none =>
      refine ⟨h, ?_⟩
      rw [← callbacks_log]
      exact (List.append_nil _).symm
  | some r =>
      obtain ⟨t, hiface, hone⟩ := Registry.dispatch_register s r.1
        { c.surroundings with queue := r.2 }
      refine ⟨?_, congrArg (c.outcomes ++ ·) (callbacks_log _)⟩
      have hfind : SortedMap.find? (Registry.register ∅ t) (c.station s).iface = some t :=
        (congrArg _ hiface.symm).trans (Registry.find?_register t)
      simp only [after, h, hone, hfind, Option.getD_some]

/-- What handling an event does for a program: its scanner goes on working for it, it is told of
a completion or of failures, and a completion is what its place shows. -/
theorem Employs.dispatched (h : c.Employs settings place s) (hbatched : settings.isBatched = true) :
    ∃ (t : Scanner) (said : List Callback), t.iface = s.iface ∧
      c.dispatch.Employs settings place t ∧ c.dispatch.outcomes = c.outcomes ++ said ∧
      Told settings place (c.station s) said ∧
      ∀ x, (c.station s).completion? place = some x →
        c.dispatch.latest? s.iface place = some x.results := by
  have hstep := (c.station s).step_serve
  obtain ⟨hregistry, houtcomes⟩ := dispatch_serve h.registry
  obtain ⟨said, hheard, htold⟩ := h.employed.told hstep
  have hiface : (c.station s).serve.scanner.iface = s.iface := congrArg Setup.iface hstep.setup
  have hafter : c.dispatch.Employs settings place (c.station s).serve.scanner :=
    ⟨hregistry, h.employed.dispatched hbatched hstep⟩
  refine ⟨_, said, hiface, hafter, ?_, htold, ?_⟩
  · rw [houtcomes, hheard]
    rfl
  · intro x hx
    rw [← hiface, hafter.latest?]
    exact hstep.latest_of_completion hx

end Consumer

/-! ## Passes -/

/-- A pass of the loop in which the program waits. -/
inductive Pass (ρ : Type) where
  /-- The next event was handled. This is the consumer just before. -/
  | served (found : Consumer ρ)
  | took (outcome : Callback)

/-- The passes that lead from one consumer to another. An event is handled only if no callback
waits, and before it something may happen outside. -/
inductive Passes [Radio ρ] (wait : World ρ → Option (World ρ)) (start : Consumer ρ) :
    List (Pass ρ) → Consumer ρ → Prop where
  | start : Passes wait start [] start
  | served {passes : List (Pass ρ)} {c : Consumer ρ} {world : World ρ}
      (h : Passes wait start passes c) (hnone : c.outcomes = [])
      (hwait : wait c.world = some world) :
      Passes wait start (passes ++ [.served { c with world }])
        (Consumer.dispatch { c with world })
  | took {passes : List (Pass ρ)} {c : Consumer ρ} {outcome : Callback} {rest : List Callback}
      (h : Passes wait start passes c) (houtcomes : c.outcomes = outcome :: rest) :
      Passes wait start (passes ++ [.took outcome]) { c with outcomes := rest }

/-- The record that a callback reports. -/
def record? : Callback → Option Detection
  | .fullResult d _ => some d
  | _ => none

/-- The callback that is taken in a pass. -/
def Pass.taken? : Pass ρ → Option Callback
  | served _ => none
  | took outcome => some outcome

/-- What is completed in a pass at a place of an interface. -/
def Pass.completion? [Radio ρ] (iface : String) (place : Place) : Pass ρ → Option Completion
  | served found => found.completion? iface place
  | took _ => none

/-- The callbacks that were taken, in order. -/
def taken (passes : List (Pass ρ)) : List Callback :=
  passes.filterMap Pass.taken?

/-- The number of times that a status was taken. -/
def statuses (passes : List (Pass ρ)) : Nat :=
  (taken passes).count .statusAvailable

/-- What was completed, in order. -/
def completions [Radio ρ] (iface : String) (place : Place) (passes : List (Pass ρ)) :
    List Completion :=
  passes.filterMap (Pass.completion? iface place)

/-- The records that were taken, in order. -/
def records (passes : List (Pass ρ)) : List Detection :=
  (taken passes).filterMap record?

section Views

variable (passes more : List (Pass ρ)) (outcome : Callback)

theorem taken_append : taken (passes ++ more) = taken passes ++ taken more :=
  List.filterMap_append

theorem taken_took : taken (passes ++ [.took outcome]) = taken passes ++ [outcome] := by
  simp [taken, Pass.taken?]

theorem taken_served (found : Consumer ρ) : taken (passes ++ [.served found]) = taken passes := by
  simp [taken, Pass.taken?]

theorem completions_append [Radio ρ] (iface : String) (place : Place) :
    completions iface place (passes ++ more) =
      completions iface place passes ++ completions iface place more :=
  List.filterMap_append

theorem completions_served [Radio ρ] (iface : String) (place : Place) (found : Consumer ρ) :
    completions iface place (passes ++ [.served found]) =
      completions iface place passes ++ (found.completion? iface place).toList := by
  cases hfound : found.completion? iface place <;>
    simp [completions, Pass.completion?, hfound]

theorem completions_map_took [Radio ρ] (iface : String) (place : Place)
    (outcomes : List Callback) :
    completions iface place (passes ++ outcomes.map .took) = completions iface place passes := by
  have hnone : completions iface place (outcomes.map (Pass.took (ρ := ρ))) = [] := by
    simp [completions, Pass.completion?]
  rw [completions_append, hnone, List.append_nil]

end Views

namespace Told

variable [Radio ρ] {settings : Settings} {place : Place} {now : Station ρ} {said : List Callback}

/-- A completion is told with one status, and nothing else is. -/
theorem count_status (h : Told settings place now said) :
    said.count .statusAvailable = (now.completion? place).toList.length := by
  cases h with
  | @completed x full hcompletion =>
      have hrecords : (x.results.reports full).count .statusAvailable = 0 :=
        List.count_eq_zero.mpr fun h => by cases ResultSet.reports_isTerminal h
      rw [hcompletion, List.count_append, hrecords]
      rfl
  | failed hcompletion hsaid =>
      rw [hcompletion]
      refine List.count_eq_zero.mpr fun h => ?_
      obtain ⟨reason, heq⟩ := hsaid _ h
      cases heq

/-- The records that are told to a single scan are those of its completion, if it asked for them. -/
theorem records_eq (h : Told settings .single now said) : said.filterMap record? =
    (now.completion? .single).toList.flatMap fun x =>
      if settings.wantsFullResults then x.results.detections else [] := by
  cases h with
  | @completed x full hcompletion hfull =>
      rw [hcompletion, hfull rfl, ResultSet.reports]
      cases settings.wantsFullResults <;>
        simp [List.filterMap_map, Function.comp_def, record?]
  | failed hcompletion hsaid =>
      rw [hcompletion]
      refine List.filterMap_eq_nil_iff.mpr fun c hc => ?_
      obtain ⟨reason, rfl⟩ := hsaid c hc
      rfl

end Told

/-! ## Laws of the passes -/

/-- The records of a completion that a job has reported one by one. -/
def Job.recordsOf (job : Job) (x : Completion) : List Detection :=
  if job.settings.wantsFullResults then x.results.detections else []

/-- A consumer whose only scanner was just set to work for a job at a place. -/
structure Begun (job : Job) (place : Place) (c : Consumer ρ) : Prop where
  employs : ∃ s, s.iface = job.iface ∧ c.Employs job.settings place s
  outcomes : c.outcomes = []

section Laws

variable [Radio ρ] {job : Job} {place : Place} {wait : World ρ → Option (World ρ)}
  {start c : Consumer ρ} {passes more : List (Pass ρ)}

/-- What was taken and what still waits add up to what was completed: one status for each
completion, and the records of a single scan, as far as they are reported. -/
structure Ledger (job : Job) (place : Place) (passes : List (Pass ρ)) (c : Consumer ρ) : Prop where
  employs : ∃ s, s.iface = job.iface ∧ c.Employs job.settings place s
  statuses : (taken passes ++ c.outcomes).count .statusAvailable =
    (completions job.iface place passes).length
  records : place = .single → (taken passes ++ c.outcomes).filterMap record? =
    (completions job.iface place passes).flatMap job.recordsOf

theorem Ledger.served {world : World ρ} (h : Ledger job place passes c)
    (hbatched : job.settings.isBatched = true) (hnone : c.outcomes = []) :
    Ledger job place (passes ++ [.served { c with world }])
      (Consumer.dispatch { c with world }) := by
  obtain ⟨s, hiface, hs⟩ := h.employs
  have hfound : Consumer.Employs { c with world } job.settings place s := ⟨hs.registry, hs.employed⟩
  obtain ⟨t, said, ht, hafter, houtcomes, htold, -⟩ := hfound.dispatched hbatched
  have hsaid : (Consumer.dispatch { c with world }).outcomes = said := by rw [houtcomes, hnone]; rfl
  have hcompletion := hfound.completion? place
  rw [hiface] at hcompletion
  have hstatuses := h.statuses
  rw [hnone, List.append_nil] at hstatuses
  refine ⟨⟨t, ht.trans hiface, hafter⟩, ?_, fun hplace => ?_⟩
  · rw [taken_served, completions_served, hsaid, hcompletion, List.count_append, hstatuses,
      htold.count_status, List.length_append]
  · subst hplace
    have hrecords := h.records rfl
    rw [hnone, List.append_nil] at hrecords
    rw [taken_served, completions_served, hsaid, hcompletion, List.filterMap_append, hrecords,
      htold.records_eq, List.flatMap_append]
    rfl

theorem Ledger.took {outcome : Callback} {rest : List Callback} (h : Ledger job place passes c)
    (houtcomes : c.outcomes = outcome :: rest) :
    Ledger job place (passes ++ [.took outcome]) { c with outcomes := rest } := by
  obtain ⟨s, hiface, hs⟩ := h.employs
  -- A callback moves from those that wait to those that were taken.
  have hsame : taken (passes ++ [.took outcome]) ++ rest = taken passes ++ c.outcomes := by
    rw [taken_took, List.append_assoc, houtcomes]
    rfl
  have hcompletions := completions_map_took passes job.iface place [outcome]
  rw [List.map_singleton] at hcompletions
  refine ⟨⟨s, hiface, hs.registry, hs.employed⟩, ?_, fun hplace => ?_⟩
  · rw [hsame, hcompletions]
    exact h.statuses
  · rw [hsame, hcompletions]
    exact h.records hplace

namespace Passes

theorem ledger (h : Passes wait start passes c) (hbegun : Begun job place start)
    (hbatched : job.settings.isBatched = true) : Ledger job place passes c := by
  induction h with
  | start => exact ⟨hbegun.employs, by rw [hbegun.outcomes]; rfl, fun _ => by
      rw [hbegun.outcomes]; rfl⟩
  | served _ hnone _ ih => exact ih.served hbatched hnone
  | took _ houtcomes ih => exact ih.took houtcomes

/-- No more statuses are taken than there were completions. -/
theorem statuses_le (h : Passes wait start passes c) (hbegun : Begun job place start)
    (hbatched : job.settings.isBatched = true) :
    statuses passes ≤ (completions job.iface place passes).length := by
  rw [← (h.ledger hbegun hbatched).statuses, List.count_append]
  exact Nat.le_add_right _ _

/-- The passes before the last one lead somewhere, too. -/
theorem initial {pass : Pass ρ} (h : Passes wait start (passes ++ [pass]) c) :
    ∃ b, Passes wait start passes b := by
  generalize hall : passes ++ [pass] = all at h
  cases h with
  | start => simp at hall
  | served h => exact (List.append_inj' hall rfl).1 ▸ ⟨_, h⟩
  | took h => exact (List.append_inj' hall rfl).1 ▸ ⟨_, h⟩

theorem before (h : Passes wait start (passes ++ more) c) : ∃ b, Passes wait start passes b := by
  induction more generalizing passes with
  | nil => exact ⟨c, by rwa [List.append_nil] at h⟩
  | cons pass more ih =>
      rw [List.append_cons] at h
      obtain ⟨b, hb⟩ := ih h
      exact hb.initial

/-- Since the last event was handled, only callbacks were taken: those that it made, in order. -/
theorem recent (h : Passes wait start passes c) (hnone : start.outcomes = []) :
    (passes = [] ∧ c = start) ∨ ∃ (earlier : List (Pass ρ)) (before : Consumer ρ) (world : World ρ)
      (said : List Callback), Passes wait start earlier before ∧ before.outcomes = [] ∧
        passes = earlier ++ .served { before with world } :: said.map .took ∧
        c.registry = (Consumer.dispatch { before with world }).registry ∧
        said ++ c.outcomes = (Consumer.dispatch { before with world }).outcomes := by
  induction h with
  | start => exact .inl ⟨rfl, rfl⟩
  | served h houtcomes => exact .inr ⟨_, _, _, [], h, houtcomes, rfl, rfl, rfl⟩
  | @took passes c outcome rest _ houtcomes ih =>
      rcases ih with ⟨-, rfl⟩ | ⟨earlier, before, world, said, h, hbefore, rfl, hregistry, hsaid⟩
      · rw [hnone] at houtcomes
        cases houtcomes
      · refine .inr ⟨earlier, before, world, said ++ [outcome], h, hbefore, ?_, hregistry, ?_⟩
        · simp
        · rw [← hsaid, houtcomes]
          simp

/-- A status that is taken comes from the last event that was handled: it is the last callback that
was made then, and no other waits. This event completed the scan of the program, and the place of
the scan still shows the results of this completion. -/
theorem completed (h : Passes wait start (passes ++ [.took .statusAvailable]) c)
    (hbegun : Begun job place start) (hbatched : job.settings.isBatched = true) :
    ∃ (earlier : List (Pass ρ)) (found : Consumer ρ) (said : List Callback) (x : Completion),
      passes = earlier ++ .served found :: said.map .took ∧
      found.outcomes = [] ∧ found.dispatch.outcomes = said ++ [.statusAvailable] ∧
      found.completion? job.iface place = some x ∧ c.outcomes = [] ∧
      c.latest? job.iface place = some x.results := by
  rcases h.recent hbegun.outcomes with ⟨hnil, -⟩ |
    ⟨earlier, before, world, said, hearlier, hbefore, hpasses, hregistry, hsaid⟩
  · simp at hnil
  obtain ⟨s, hiface, hs⟩ := (hearlier.ledger hbegun hbatched).employs
  have hfound : Consumer.Employs { before with world } job.settings place s :=
    ⟨hs.registry, hs.employed⟩
  obtain ⟨t, told, -, -, houtcomes, htold, hlatest⟩ := hfound.dispatched hbatched
  rw [houtcomes, hbefore, List.nil_append] at hsaid
  -- The pass in which the status was taken is the last one, so it comes after that event.
  rcases List.eq_nil_or_concat said with rfl | ⟨said, last, rfl⟩
  · cases (List.append_inj' hpasses rfl).2
  have hcut : passes ++ [.took .statusAvailable] =
      (earlier ++ .served { before with world } :: said.map .took) ++ [.took last] := by
    rw [hpasses]
    simp
  obtain ⟨hinit, hlast⟩ := List.append_inj' hcut rfl
  obtain rfl : .statusAvailable = last := Pass.took.inj (List.singleton_inj.mp hlast)
  rw [List.concat_eq_append, List.append_assoc] at hsaid
  cases htold with
  | @completed x full hcompletion =>
      have hrecords : ∀ o ∈ x.results.reports full, o.isTerminal = false :=
        fun _ => ResultSet.reports_isTerminal
      have hnothing : c.outcomes = [] := endsOnce_append hrecords _ _ _ _ hsaid.symm rfl
      rw [hnothing] at hsaid
      refine ⟨earlier, _, said, x, hinit, hbefore, ?_, ?_, hnothing, ?_⟩
      · rw [houtcomes, hbefore, ← hsaid]
        rfl
      · rw [← hiface, hfound.completion?, hcompletion]
      · rw [Consumer.latest?_congr hregistry, ← hiface]
        exact hlatest x hcompletion
  | failed _ hfailures =>
      obtain ⟨reason, heq⟩ := hfailures .statusAvailable (by rw [← hsaid]; simp)
      cases heq

/-- The loop makes passes: it has some events handled and then takes a callback, if one comes. -/
theorem next (limit : Nat) (h : Passes wait start passes c) :
    ∃ served : List (Pass ρ), taken served = [] ∧
      ((∃ c', c.next wait limit = (none, c') ∧ Passes wait start (passes ++ served) c') ∨
        ∃ outcome b c', c.next wait limit = (some outcome, c') ∧
          Passes wait start (passes ++ served) b ∧
          Passes wait start (passes ++ served ++ [.took outcome]) c') := by
  induction limit generalizing passes c with
  | zero => exact ⟨[], rfl, .inl ⟨c, rfl, (List.append_nil passes).symm ▸ h⟩⟩
  | succ limit ih =>
      cases houtcomes : c.outcomes with
      | cons outcome rest =>
          have hnext : c.next wait (limit + 1) = (some outcome, { c with outcomes := rest }) := by
            simp [Consumer.next, Consumer.take?, houtcomes]
          refine ⟨[], rfl, .inr ⟨outcome, c, _, hnext, ?_⟩⟩
          rw [List.append_nil]
          exact ⟨h, h.took houtcomes⟩
      | nil =>
          have htake : c.take? = none := by rw [Consumer.take?, houtcomes]
          cases hwait : wait c.world with
          | none =>
              have hnext : c.next wait (limit + 1) = (none, c) := by
                simp [Consumer.next, htake, hwait]
              exact ⟨[], rfl, .inl ⟨c, hnext, (List.append_nil passes).symm ▸ h⟩⟩
          | some world =>
              have hnext : c.next wait (limit + 1) =
                  Consumer.next wait limit (Consumer.dispatch { c with world }) := by
                simp [Consumer.next, htake, hwait]
              obtain ⟨served, hserved, hfound⟩ := ih (h.served houtcomes hwait)
              refine ⟨.served { c with world } :: served, hserved, ?_⟩
              rw [hnext, List.append_cons]
              exact hfound

end Passes

end Laws

end Program

end WirelessScan
