import WirelessScan.Proofs.Attendance
import WirelessScan.Proofs.PageText
import WirelessScan.Proofs.Refusal

/-!
# What the program prints is what was completed

Whenever the program takes a status, no event was handled since the status was made, so the results
that it reads off the scanner are those of the completion that is reported. From this the pages of
a whole run follow: those of a single scan are the records of its one completion, if they were asked
for, and its results; those of a run over some cycles are the results of its completions, as many
as there should be, in order. The text that is printed shows just these networks, line by line.
However a run over cycles ends, no configuration stays active.
-/

namespace WirelessScan

variable {ρ : Type} [Radio ρ]

/-! ## The beginning of a run -/

theorem Single.Started.callbacks {setup : Setup} {s s' : Single} {w w' : World ρ}
    {settings : Option Settings} {handler : Option Handler} {accepted : Bool}
    (h : Started setup s w settings handler (accepted, s', w')) : w'.callbacks = w.callbacks := by
  cases h <;> simp

theorem Background.Started.callbacks {setup : Setup} {b b' : Background} {w w' : World ρ}
    {settings : Option Settings} {handler : Option Handler} {answer : Option ScanId}
    (h : Started setup b w settings handler (answer, b', w')) : w'.callbacks = w.callbacks := by
  cases h with
  | refused => rfl
  | unresolved => rfl
  | @activated _ _ _ refusal _ _ _ _ hran =>
      have hcallbacks := hran.callbacks.trans (World.schedule_callbacks _ _ _)
      cases refusal <;> exact hcallbacks

namespace Program

/-- The completion of every cycle that a configured scan runs is reported. -/
theorem isBatched_settings (config : Config) : config.settings.isBatched = true := by
  have hflags : ∀ full : Bool, (if full then ReportFlags.union .afterEachScan .fullScanResult
      else .afterEachScan).isBatched = true := by decide
  unfold Settings.isBatched Config.settings
  cases config.scan.band <;> cases config.scan.channels <;> simp [hflags]

section Beginning

variable {job : Job} {setup : Setup} {c start : Consumer ρ}

omit [Radio ρ] in
/-- A consumer after its scanner was called, if the call made no callbacks. -/
theorem begun_after {place : Place} {s : Scanner} {world : World ρ}
    (hregistry : c.registry = Registry.register ∅ { setup }) (houtcomes : c.outcomes = [])
    (hiface : setup.iface = job.iface) (hs : s.setup = setup)
    (hemployed : Employed job.settings place s)
    (hcallbacks : world.callbacks = c.surroundings.callbacks) :
    Begun job place (c.after (c.registry.register s) world) where
  employs := by
    have hsame : s.iface = Scanner.iface { setup } := congrArg Setup.iface hs
    refine ⟨s, hsame.trans hiface, ?_, hemployed⟩
    have hone := Registry.insert_register hsame
    rw [← hsame, ← hregistry] at hone
    exact hone
  outcomes := by
    rw [Consumer.after, callbacks_log, World.heard_congr hcallbacks, houtcomes]
    rfl

omit [Radio ρ] in
theorem get_new (hregistry : c.registry = Registry.register ∅ { setup })
    (hiface : setup.iface = job.iface) : c.registry.get job.iface = .ok { setup } := by
  have hfind : SortedMap.find? (Registry.register ∅ { setup }) setup.iface = some { setup } :=
    Registry.find?_register { setup }
  rw [Registry.get, hregistry, ← hiface, hfind]

theorem begun_single (hregistry : c.registry = Registry.register ∅ { setup })
    (houtcomes : c.outcomes = []) (hiface : setup.iface = job.iface)
    (h : job.startSingle c = .ok start) : Begun job .single start := by
  obtain ⟨accepted, single, world, hstarted, heq⟩ := Scanner.startSingle_started
    { setup } c.surroundings (some job.settings) (some handler)
  rw [Job.startSingle, get_new hregistry hiface] at h
  simp only [heq] at h
  cases accepted with
  | false => cases h
  | true =>
      obtain rfl := Except.ok.inj h
      refine begun_after hregistry houtcomes hiface rfl ⟨?_, ?_⟩ hstarted.callbacks
      · intro scan hslot
        cases hstarted with
        | unresolved => cases hslot
        | rejected => cases hslot
        | armed =>
            obtain rfl := Slot.armed.inj hslot
            exact ⟨rfl, rfl, rfl⟩
      · intro id p hfind
        cases hfind

theorem begun_cycles {id : ScanId} (hregistry : c.registry = Registry.register ∅ { setup })
    (houtcomes : c.outcomes = []) (hiface : setup.iface = job.iface)
    (hbatched : job.settings.isBatched = true) (h : job.startCycles c = .ok (id, start)) :
    Begun job (.cycle id) start := by
  obtain ⟨answer, background, world, hstarted, heq⟩ := Scanner.startBackground_started
    { setup } c.surroundings (some job.settings) (some handler)
  rw [Job.startCycles, get_new hregistry hiface] at h
  simp only [heq] at h
  cases answer with
  | none => cases h
  | some answer =>
      obtain ⟨rfl, rfl⟩ := Prod.mk.inj (Except.ok.inj h)
      refine begun_after hregistry houtcomes hiface rfl ⟨?_, ?_⟩ hstarted.callbacks
      · intro scan hslot
        cases hslot
      · intro other p hfind
        cases hstarted with
        | unresolved => cases hfind
        | activated _ _ hran =>
            rw [SortedMap.find?_insert] at hfind
            split at hfind
            next hother =>
              obtain rfl := Option.some.inj hfind
              exact ⟨congrArg _ hother.symm, hran.handler, hran.settings,
                hran.reportStatus hbatched (by simp)⟩
            next => cases hfind

end Beginning

/-! ## The course of a run -/

/-- The completions whose status was taken. -/
def reported (iface : String) (place : Place) (passes : List (Pass ρ)) : List Completion :=
  (completions iface place passes).take (statuses passes)

/-- The passes of a run from the beginning of its scan on. -/
structure Course (job : Job) (place : Place) (wait : World ρ → Option (World ρ))
    (start : Consumer ρ) (passes : List (Pass ρ)) (c : Consumer ρ) : Prop where
  reached : Passes wait start passes c
  /-- Whenever a status was taken, it was the last callback that was made when the last event was
  handled, and no callback had waited before. This event had completed the scan, it is the
  completion of that number, and the scanner showed its results at the time. -/
  prompt : ∀ before after, passes = before ++ .took .statusAvailable :: after →
    ∃ (earlier : List (Pass ρ)) (found : Consumer ρ) (said : List Callback) (x : Completion)
      (shown : Consumer ρ), before = earlier ++ .served found :: said.map .took ∧
        found.outcomes = [] ∧ found.dispatch.outcomes = said ++ [.statusAvailable] ∧
        found.completion? job.iface place = some x ∧
        (completions job.iface place passes)[statuses before]? = some x ∧
        Passes wait start (before ++ [.took .statusAvailable]) shown ∧
        shown.latest? job.iface place = some x.results

section Courses

variable {job : Job} {place : Place} {wait : World ρ → Option (World ρ)} {start c : Consumer ρ}
  {passes more : List (Pass ρ)}

omit [Radio ρ] in
theorem statuses_append (passes more : List (Pass ρ)) :
    statuses (passes ++ more) = statuses passes + statuses more := by
  simp [statuses, taken_append]

omit [Radio ρ] in
theorem statuses_of_taken {outcomes : List Callback} (h : taken more = outcomes) :
    statuses more = outcomes.count .statusAvailable :=
  congrArg (List.count _) h

namespace Passes

/-- A status is taken for the next completion in order, the last one so far. -/
theorem status (h : Passes wait start (passes ++ [.took .statusAvailable]) c)
    (hbegun : Begun job place start) (hbatched : job.settings.isBatched = true) :
    ∃ (earlier : List (Pass ρ)) (found : Consumer ρ) (said : List Callback) (x : Completion),
      passes = earlier ++ .served found :: said.map .took ∧
      found.outcomes = [] ∧ found.dispatch.outcomes = said ++ [.statusAvailable] ∧
      found.completion? job.iface place = some x ∧ c.outcomes = [] ∧
      c.latest? job.iface place = some x.results ∧
      (completions job.iface place earlier).length = statuses passes ∧
      completions job.iface place passes = completions job.iface place earlier ++ [x] := by
  obtain ⟨earlier, found, said, x, rfl, hfree, hsaid, hcompletion, hnone, hlatest⟩ :=
    h.completed hbegun hbatched
  have hpasses : completions job.iface place (earlier ++ .served found :: said.map .took) =
      completions job.iface place earlier ++ [x] := by
    have hsplit := completions_map_took (earlier ++ [.served found]) job.iface place said
    rw [completions_served, hcompletion] at hsplit
    simpa using hsplit
  have hall := completions_map_took (earlier ++ .served found :: said.map .took) job.iface place
    [.statusAvailable]
  rw [List.map_singleton, hpasses] at hall
  have hcount := (h.ledger hbegun hbatched).statuses
  rw [hnone, List.append_nil, hall, taken_took, List.count_append, List.length_append] at hcount
  exact ⟨earlier, found, said, x, rfl, hfree, hsaid, hcompletion, hnone, hlatest,
    (Nat.succ.inj hcount).symm, hpasses⟩

/-- Every way of passing is a course. -/
theorem course (h : Passes wait start passes c) (hbegun : Begun job place start)
    (hbatched : job.settings.isBatched = true) : Course job place wait start passes c where
  reached := h
  prompt before after heq := by
    subst heq
    rw [List.append_cons] at h ⊢
    obtain ⟨shown, hshown⟩ := h.before
    obtain ⟨earlier, found, said, x, rfl, hfree, hsaid, hcompletion, -, hlatest, hlength,
      hcompletions⟩ := hshown.status hbegun hbatched
    refine ⟨earlier, found, said, x, shown, rfl, hfree, hsaid, hcompletion, ?_, hshown, hlatest⟩
    rw [completions_append, completions_append, hcompletions, ← hlength]
    simp

/-- Passes without a status add nothing to what was reported. -/
theorem reported_append (h : Passes wait start passes c) (hbegun : Begun job place start)
    (hbatched : job.settings.isBatched = true) (hmore : statuses more = 0) :
    reported job.iface place (passes ++ more) = reported job.iface place passes := by
  rw [reported, statuses_append, hmore, Nat.add_zero, completions_append,
    List.take_append_of_le_length (h.statuses_le hbegun hbatched), reported]

/-- A status adds the completion that the scanner shows. -/
theorem reported_status (h : Passes wait start (passes ++ [.took .statusAvailable]) c)
    (hbegun : Begun job place start) (hbatched : job.settings.isBatched = true) :
    ∃ x, c.latest? job.iface place = some x.results ∧ c.outcomes = [] ∧
      reported job.iface place (passes ++ [.took .statusAvailable]) =
        reported job.iface place passes ++ [x] := by
  obtain ⟨earlier, found, said, x, -, -, -, -, hnone, hlatest, hlength, hcompletions⟩ :=
    h.status hbegun hbatched
  refine ⟨x, hlatest, hnone, ?_⟩
  have hall := completions_map_took passes job.iface place [.statusAvailable]
  rw [List.map_singleton] at hall
  have hone : statuses ([.took .statusAvailable] : List (Pass ρ)) = 1 := rfl
  rw [reported, reported, statuses_append, hall, hcompletions, hone, ← hlength, List.take_left,
    List.take_of_length_le (by simp)]

/-- Once nothing waits to be taken, everything that was completed was reported. -/
theorem reported_all (h : Passes wait start passes c) (hbegun : Begun job place start)
    (hbatched : job.settings.isBatched = true) (hnone : c.outcomes = []) :
    (completions job.iface place passes).length = statuses passes ∧
      reported job.iface place passes = completions job.iface place passes := by
  have hcount := (h.ledger hbegun hbatched).statuses
  rw [hnone, List.append_nil] at hcount
  have hlength : (completions job.iface place passes).length = statuses passes := hcount.symm
  exact ⟨hlength, List.take_of_length_le (Nat.le_of_eq hlength)⟩

end Passes

end Courses

/-! ## Following a scan -/

/-- How a run goes on after some passes. Whatever it still prints is what its further passes add to
the pages `printed`, and without an error `total` statuses were taken and nothing waits. -/
def Finishes (wait : World ρ → Option (World ρ)) (start : Consumer ρ)
    (printed : List (Pass ρ) → List Page) (total : Nat) (passes : List (Pass ρ)) (e : Ending ρ) :
    Prop :=
  ∃ more, Passes wait start (passes ++ more) e.consumer ∧
    printed (passes ++ more) = printed passes ++ e.pages ∧
    (e.error = none → statuses (passes ++ more) = total ∧ e.consumer.outcomes = [])

namespace Finishes

variable {wait : World ρ → Option (World ρ)} {start c : Consumer ρ}
  {printed : List (Pass ρ) → List Page} {total : Nat} {passes more : List (Pass ρ)} {e : Ending ρ}

theorem of_error (h : Passes wait start passes c) (message : String) :
    Finishes wait start printed total passes ⟨[], some message, c⟩ := by
  refine ⟨[], ?_, ?_, fun hnone => by cases hnone⟩
  · rwa [List.append_nil]
  · rw [List.append_nil]
    exact (List.append_nil _).symm

theorem of_last {pages : List Page} (h : Passes wait start (passes ++ more) c)
    (hpages : printed (passes ++ more) = printed passes ++ pages)
    (htotal : statuses (passes ++ more) = total) (hnone : c.outcomes = []) :
    Finishes wait start printed total passes ⟨pages, none, c⟩ :=
  ⟨more, h, hpages, fun _ => ⟨htotal, hnone⟩⟩

/-- Passes that come before add their pages in front. -/
theorem after {pages : List Page} (h : Finishes wait start printed total (passes ++ more) e)
    (hpages : printed (passes ++ more) = printed passes ++ pages) :
    Finishes wait start printed total passes (e.after pages) := by
  obtain ⟨rest, hpasses, hprinted, hok⟩ := h
  rw [List.append_assoc] at hpasses hprinted hok
  refine ⟨more ++ rest, hpasses, ?_, hok⟩
  rw [hprinted, hpages, List.append_assoc]
  rfl

/-- Passes without pages may come before. -/
theorem quiet (h : Finishes wait start printed total (passes ++ more) e)
    (hpages : printed (passes ++ more) = printed passes) :
    Finishes wait start printed total passes e :=
  h.after (hpages.trans (List.append_nil _).symm)

end Finishes

/-! ## Single scans -/

/-- The pages of a single scan. As text these are the records that were taken and then the table of
what was reported, else only what was reported. -/
def Job.singlePages (job : Job) (passes : List (Pass ρ)) : List Page :=
  if job.json then (reported job.iface .single passes).map (.json ·.results)
  else (records passes).map .fullResult ++
    (reported job.iface .single passes).map (.table ·.results)

/-- What a run printed. -/
def Ending.output (e : Ending ρ) : String := Page.output e.pages

/-- A run followed a single scan. -/
structure FollowsSingle (job : Job) (wait : World ρ → Option (World ρ)) (start : Consumer ρ)
    (passes : List (Pass ρ)) (e : Ending ρ) : Prop where
  course : Course job .single wait start passes e.consumer
  pages : e.pages = job.singlePages passes
  printed : ∃ texts, List.Forall₂ Page.Prints e.pages texts ∧ e.output = String.join texts
  /-- Without an error there was one completion. In text, a line for each of its records comes
  first, if they were asked for, and the table has a line for each of the same networks in the same
  order. -/
  completed : e.error = none → ∃ x, completions job.iface .single passes = [x] ∧
    statuses passes = 1 ∧
    (job.json = true → e.pages = [.json x.results] ∧ (Page.json x.results).Prints e.output) ∧
    (job.json = false →
      e.pages = (job.recordsOf x).map .fullResult ++ [.table x.results] ∧
      ∃ marks lines, List.Forall₂ Page.Announces (job.recordsOf x) marks ∧
        Page.Tabulates x.results lines ∧ e.output = Page.unlines (marks ++ lines))

section Singles

variable {job : Job} {wait : World ρ → Option (World ρ)} {start c : Consumer ρ}
  {passes : List (Pass ρ)}

omit [Radio ρ] in
theorem flatMap_recordPages (job : Job) (ds : List Detection) :
    ds.flatMap job.recordPages = if job.json then [] else ds.map .fullResult := by
  unfold Job.recordPages
  cases job.json <;> simp [← List.map_eq_flatMap]

/-- Passes without a status add the records that were taken. -/
theorem singlePages_append {more : List (Pass ρ)} (h : Passes wait start passes c)
    (hbegun : Begun job .single start) (hbatched : job.settings.isBatched = true)
    (hpasses : statuses passes = 0) (hmore : statuses more = 0) :
    job.singlePages (passes ++ more) =
      job.singlePages passes ++ (records more).flatMap job.recordPages := by
  have hnone : reported job.iface .single passes = [] := by rw [reported, hpasses]; rfl
  rw [Job.singlePages, Job.singlePages, h.reported_append hbegun hbatched hmore, hnone,
    flatMap_recordPages]
  cases job.json <;> simp [records, taken_append]

/-- The first status adds the results that the scanner shows. -/
theorem singlePages_status
    (h : Passes wait start (passes ++ [.took .statusAvailable]) c) (hbegun : Begun job .single start)
    (hbatched : job.settings.isBatched = true) (hpasses : statuses passes = 0) :
    ∃ scanner, c.registry.get job.iface = .ok scanner ∧ c.outcomes = [] ∧
      job.singlePages (passes ++ [.took .statusAvailable]) =
        job.singlePages passes ++ [.results job.json scanner.single.latest] := by
  obtain ⟨s, hiface, hs⟩ := (h.ledger hbegun hbatched).employs
  obtain ⟨x, hlatest, hnone, hreported⟩ := h.reported_status hbegun hbatched
  have hshown : s.single.latest = x.results := by
    rw [← hiface, hs.latest?] at hlatest
    exact Option.some.inj hlatest
  refine ⟨s, hiface ▸ hs.get, hnone, ?_⟩
  have hbefore : reported job.iface .single passes = [] := by rw [reported, hpasses]; rfl
  rw [Job.singlePages, Job.singlePages, hreported, hbefore, hshown]
  cases job.json <;> simp [records, taken_took, record?]

/-- A single scan takes callbacks until the first status. -/
theorem followSingle_finishes (hbegun : Begun job .single start)
    (hbatched : job.settings.isBatched = true) (limit count : Nat)
    (h : Passes wait start passes c) (hpasses : statuses passes = 0) :
    Finishes wait start job.singlePages 1 passes (job.followSingle wait limit count c) := by
  induction count generalizing passes c with
  | zero => exact .of_error h _
  | succ count ih =>
      obtain ⟨served, hserved, hfound⟩ := h.next limit
      have hquiet : statuses served = 0 := statuses_of_taken hserved
      have hbefore : statuses (passes ++ served) = 0 := by
        rw [statuses_append, hpasses, hquiet]
      -- The events that were handled before the callback printed nothing.
      suffices hfollows : Finishes wait start job.singlePages 1 (passes ++ served)
          (job.followSingle wait limit (count + 1) c) by
        refine hfollows.quiet ?_
        rw [singlePages_append h hbegun hbatched hpasses hquiet, records, hserved]
        exact List.append_nil _
      rcases hfound with ⟨c', hnext, hwaits⟩ | ⟨outcome, b, c', hnext, hb, htook⟩
      · simp only [Job.followSingle, hnext]
        exact .of_error hwaits _
      · have hpages (hquiet : statuses ([.took outcome] : List (Pass ρ)) = 0) :=
          singlePages_append hb hbegun hbatched hbefore hquiet
        cases outcome with
        | statusAvailable =>
            obtain ⟨scanner, hget, hnone, hprinted⟩ :=
              singlePages_status htook hbegun hbatched hbefore
            simp only [Job.followSingle, hnext, hget]
            have hone : statuses (passes ++ served ++ [.took .statusAvailable]) = 1 := by
              rw [statuses_append, hbefore]
              rfl
            exact .of_last htook hprinted hone hnone
        | fullResult d buckets =>
            simp only [Job.followSingle, hnext]
            have hnone : statuses (passes ++ served ++ [.took (.fullResult d buckets)]) = 0 := by
              rw [statuses_append, hbefore]
              rfl
            refine (ih htook hnone).after ((hpages rfl).trans ?_)
            exact congrArg (job.singlePages (passes ++ served) ++ ·) (List.append_nil _)
        | requestFailed reason =>
            simp only [Job.followSingle, hnext]
            exact (Finishes.of_error htook _).quiet ((hpages rfl).trans (List.append_nil _))

variable (wait) in
/-- A single scan that was begun is followed to its end. -/
theorem followsSingle (hbegun : Begun job .single start)
    (hbatched : job.settings.isBatched = true) (limit count : Nat) :
    ∃ passes, FollowsSingle job wait start passes (job.followSingle wait limit count start) := by
  obtain ⟨passes, hpasses, hpages, hok⟩ :=
    followSingle_finishes hbegun hbatched limit count (Passes.start : Passes wait start _ _) rfl
  rw [List.nil_append] at hpasses hpages hok
  have hnothing : job.singlePages ([] : List (Pass ρ)) = [] := by
    cases hjson : job.json <;> simp [Job.singlePages, hjson, records, reported, completions, taken]
  rw [hnothing, List.nil_append] at hpages
  refine ⟨passes, hpasses.course hbegun hbatched, hpages.symm, Page.exists_texts _, fun hnone => ?_⟩
  obtain ⟨hstatuses, houtcomes⟩ := hok hnone
  obtain ⟨hlength, hreported⟩ := hpasses.reported_all hbegun hbatched houtcomes
  obtain ⟨x, hx⟩ := List.length_eq_one_iff.mp (hlength.trans hstatuses)
  have hrecords := (hpasses.ledger hbegun hbatched).records rfl
  rw [houtcomes, List.append_nil, hx] at hrecords
  rw [Job.singlePages, hreported, hx, records, hrecords, List.flatMap_singleton] at hpages
  refine ⟨x, hx, hstatuses, fun hjson => ?_, fun htext => ?_⟩
  · rw [if_pos hjson] at hpages
    refine ⟨hpages.symm, Page.prints_iff.mpr ?_⟩
    rw [Ending.output, ← hpages]
    exact Page.output_singleton _
  · rw [if_neg (by simp [htext])] at hpages
    refine ⟨hpages.symm, ?_⟩
    rw [Ending.output, ← hpages]
    exact Page.exists_announced _ _

end Singles

/-! ## Cycles -/

/-- The pages of a completed cycle with its number: its results, in text under a heading. -/
def Job.completionPages (job : Job) (cycles : UInt32) (x : Completion × Nat) : List Page :=
  if job.json then [.json x.1.results]
  else [.heading (.ofNat x.2) cycles, .table x.1.results]

/-- The pages of some completed cycles, numbered from 1. -/
def Job.setPages (job : Job) (cycles : UInt32) (xs : List Completion) : List Page :=
  (xs.zipIdx 1).flatMap (job.completionPages cycles)

/-- The text of a completed cycle with its number. -/
structure Job.PrintsSet (job : Job) (cycles : UInt32) (x : Completion × Nat) (text : String) :
    Prop where
  json : job.json = true → (Page.json x.1.results).Prints text
  table : job.json = false → ∃ heading table, (Page.heading (.ofNat x.2) cycles).Prints heading ∧
    (Page.table x.1.results).Prints table ∧ text = heading ++ table

/-- The pages of a run over cycles: the results of what was reported. -/
def Job.batchedPages (job : Job) (id : ScanId) (cycles : UInt32) (passes : List (Pass ρ)) :
    List Page :=
  job.setPages cycles (reported job.iface (.cycle id) passes)

/-- A run followed the cycles of a configuration and then stopped it. -/
structure FollowsCycles (job : Job) (wait : World ρ → Option (World ρ)) (id : ScanId)
    (cycles : UInt32) (start : Consumer ρ) (passes : List (Pass ρ)) (e : Ending ρ) : Prop where
  course : ∃ c, Course job (.cycle id) wait start passes c ∧
    e = job.stopAfter id ⟨e.pages, e.error, c⟩
  pages : e.pages = job.batchedPages id cycles passes
  printed : ∃ texts, e.output = String.join texts ∧ List.Forall₂ (job.PrintsSet cycles)
    ((reported job.iface (.cycle id) passes).zipIdx 1) texts
  /-- Without an error, as many cycles were completed as there should be, and as many sets were
  printed: the results of all of them, in order. -/
  completed : e.error = none → (completions job.iface (.cycle id) passes).length = cycles.toNat ∧
    e.pages = job.setPages cycles (completions job.iface (.cycle id) passes) ∧
    ∃ texts, texts.length = cycles.toNat ∧ e.output = String.join texts ∧
      List.Forall₂ (job.PrintsSet cycles)
        ((completions job.iface (.cycle id) passes).zipIdx 1) texts

section Cycles

variable {job : Job} {wait : World ρ → Option (World ρ)} {id : ScanId} {cycles : UInt32}
  {start c : Consumer ρ} {passes : List (Pass ρ)}

omit [Radio ρ] in
theorem cyclePages_eq (job : Job) (cycles : UInt32) (x : Completion × Nat) :
    job.cyclePages (.ofNat x.2) cycles x.1.results = job.completionPages cycles x := by
  cases hjson : job.json <;> simp [Job.cyclePages, Job.completionPages, hjson]

omit [Radio ρ] in
theorem setPages_concat (job : Job) (cycles : UInt32) (xs : List Completion) (x : Completion) :
    job.setPages cycles (xs ++ [x]) =
      job.setPages cycles xs ++ job.cyclePages (.ofNat (xs.length + 1)) cycles x.results := by
  simp [Job.setPages, List.zipIdx_append, Nat.add_comm, ← cyclePages_eq]

omit [Radio ρ] in
theorem printsSet_completionPages (job : Job) (cycles : UInt32) (x : Completion × Nat) :
    job.PrintsSet cycles x (Page.output (job.completionPages cycles x)) where
  json hjson := by
    rw [Job.completionPages, if_pos hjson, Page.output_singleton]
    exact Page.prints_iff.mpr rfl
  table htext := by
    rw [Job.completionPages, if_neg (by simp [htext]), Page.output_pair]
    exact ⟨_, _, Page.prints_iff.mpr rfl, Page.prints_iff.mpr rfl, rfl⟩

omit [Radio ρ] in
/-- The text of some completed cycles is that of each. -/
theorem exists_setTexts (job : Job) (cycles : UInt32) (xs : List Completion) :
    ∃ texts, Page.output (job.setPages cycles xs) = String.join texts ∧
      List.Forall₂ (job.PrintsSet cycles) (xs.zipIdx 1) texts := by
  refine ⟨(xs.zipIdx 1).map fun x => Page.output (job.completionPages cycles x), ?_, ?_⟩
  · exact Page.output_flatMap _ _
  · rw [List.forall₂_map_right_iff, List.forall₂_same]
    intro x _
    exact printsSet_completionPages job cycles x

omit [Radio ρ] in
theorem ofNat_succ (n : UInt32) : UInt32.ofNat (n.toNat + 1) = n + 1 := by
  rw [UInt32.ofNat_add, UInt32.ofNat_toNat]
  rfl

omit [Radio ρ] in
theorem toNat_succ {n bound : UInt32} (h : n < bound) : (n + 1).toNat = n.toNat + 1 := by
  have hlt := UInt32.lt_iff_toNat_lt.mp h
  have hbound := bound.toNat_lt
  rw [UInt32.toNat_add, UInt32.toNat_one, Nat.mod_eq_of_lt (by omega)]

/-- Passes without a status add no pages. -/
theorem batchedPages_append {more : List (Pass ρ)} (h : Passes wait start passes c)
    (hbegun : Begun job (.cycle id) start) (hbatched : job.settings.isBatched = true)
    (hmore : statuses more = 0) :
    job.batchedPages id cycles (passes ++ more) = job.batchedPages id cycles passes := by
  rw [Job.batchedPages, h.reported_append hbegun hbatched hmore, Job.batchedPages]

/-- A status adds the results that the scanner shows, under the number of the cycle. -/
theorem batchedPages_status (h : Passes wait start (passes ++ [.took .statusAvailable]) c)
    (hbegun : Begun job (.cycle id) start) (hbatched : job.settings.isBatched = true) :
    ∃ scanner, c.registry.get job.iface = .ok scanner ∧ c.outcomes = [] ∧
      job.batchedPages id cycles (passes ++ [.took .statusAvailable]) =
        job.batchedPages id cycles passes ++
          (scanner.background.latest? id).elim []
            (job.cyclePages (.ofNat (statuses passes + 1)) cycles) := by
  obtain ⟨s, hiface, hs⟩ := (h.ledger hbegun hbatched).employs
  obtain ⟨x, hlatest, hnone, hreported⟩ := h.reported_status hbegun hbatched
  obtain ⟨b, hb⟩ := h.initial
  have hlength : (reported job.iface (.cycle id) passes).length = statuses passes :=
    List.length_take_of_le (hb.statuses_le hbegun hbatched)
  have hshown : s.background.latest? id = some x.results := by
    rw [← hiface, hs.latest?] at hlatest
    exact hlatest
  refine ⟨s, hiface ▸ hs.get, hnone, ?_⟩
  rw [Job.batchedPages, hreported, setPages_concat, hlength, hshown]
  rfl

/-- A run over cycles takes callbacks until there were as many statuses as there should be. -/
theorem followCycles_finishes (hbegun : Begun job (.cycle id) start)
    (hbatched : job.settings.isBatched = true) (limit count : Nat) {completed : UInt32}
    (h : Passes wait start passes c) (hcompleted : statuses passes = completed.toNat)
    (hlt : completed < cycles) :
    Finishes wait start (job.batchedPages id cycles) cycles.toNat passes
      (job.followCycles wait limit id cycles count completed c) := by
  induction count generalizing completed passes c with
  | zero => exact .of_error h _
  | succ count ih =>
      obtain ⟨served, hserved, hfound⟩ := h.next limit
      have hquiet : statuses served = 0 := statuses_of_taken hserved
      have hbefore : statuses (passes ++ served) = completed.toNat := by
        rw [statuses_append, hcompleted, hquiet, Nat.add_zero]
      suffices hfollows : Finishes wait start (job.batchedPages id cycles) cycles.toNat
          (passes ++ served) (job.followCycles wait limit id cycles (count + 1) completed c) from
        hfollows.quiet (batchedPages_append h hbegun hbatched hquiet)
      rcases hfound with ⟨c', hnext, hwaits⟩ | ⟨outcome, b, c', hnext, hb, htook⟩
      · simp only [Job.followCycles, hnext]
        exact .of_error hwaits _
      · cases outcome with
        | statusAvailable =>
            obtain ⟨scanner, hget, hnone, hprinted⟩ :=
              batchedPages_status htook hbegun hbatched
            rw [hbefore, ofNat_succ] at hprinted
            have hstatuses : statuses (passes ++ served ++ [.took .statusAvailable]) =
                (completed + 1).toNat := by
              rw [statuses_append, hbefore, toNat_succ hlt]
              rfl
            simp only [Job.followCycles, hnext, hget]
            split
            next hlast =>
              have htotal : (completed + 1).toNat = cycles.toNat :=
                Nat.le_antisymm (toNat_succ hlt ▸ hlt) hlast
              exact .of_last htook hprinted (hstatuses.trans htotal) hnone
            next hmore =>
              exact (ih htook hstatuses (UInt32.not_le.mp hmore)).after hprinted
        | fullResult d buckets =>
            simp only [Job.followCycles, hnext]
            have hstatuses : statuses (passes ++ served ++ [.took (.fullResult d buckets)]) =
                completed.toNat := by
              rw [statuses_append, hbefore]
              rfl
            exact (ih htook hstatuses hlt).quiet (batchedPages_append hb hbegun hbatched rfl)
        | requestFailed reason =>
            simp only [Job.followCycles, hnext]
            exact (Finishes.of_error htook _).quiet (batchedPages_append hb hbegun hbatched rfl)

omit [Radio ρ] in
theorem stopAfter_pages (job : Job) (id : ScanId) (e : Ending ρ) :
    (job.stopAfter id e).pages = e.pages := by
  unfold Job.stopAfter
  split <;> rfl

omit [Radio ρ] in
theorem stopAfter_error (job : Job) (id : ScanId) (e : Ending ρ) :
    (job.stopAfter id e).error = e.error := by
  unfold Job.stopAfter
  split <;> rfl

omit [Radio ρ] in
/-- Once the configuration of the program is stopped, none is active. -/
theorem stopAfter_inactive {e : Ending ρ} {s : Scanner} (hiface : s.iface = job.iface)
    (h : e.consumer.Employs job.settings (.cycle id) s) :
    ∃ t, (job.stopAfter id e).consumer.registry.get job.iface = .ok t ∧
      t.background.scans = ∅ := by
  obtain ⟨t, ht, hnone, hafter⟩ : ∃ t : Scanner, t.iface = s.iface ∧ t.background.scans = ∅ ∧
      (job.stopAfter id e).consumer.registry = e.consumer.registry.register t := by
    have hget := h.get
    rw [hiface] at hget
    unfold Job.stopAfter Scanner.stopBackground
    simp only [hget]
    have hother (other : ScanId) (hid : other ≠ id) := h.employed.no_other_config hid
    cases hfind : s.background.scans.find? id with
    | none =>
        rw [Background.stop_inactive hfind]
        refine ⟨s, rfl, SortedMap.ext_find? fun other => ?_, rfl⟩
        by_cases hid : other = id
        · rw [hid, hfind]
          rfl
        · rw [hother other hid]
          rfl
    | some p =>
        rw [Background.stop_active hfind]
        refine ⟨{ s with background := { s.background with scans := s.background.scans.erase id } },
          rfl, SortedMap.ext_find? fun other => ?_, rfl⟩
        rw [SortedMap.find?_erase]
        split
        · rfl
        next hid =>
          rw [hother other hid]
          rfl
  have hone := Registry.insert_register ht
  rw [← ht, ← h.registry] at hone
  have hregistry : (job.stopAfter id e).consumer.registry = Registry.register ∅ t :=
    hafter.trans hone
  refine ⟨t, ?_, hnone⟩
  rw [Registry.get, hregistry, ← hiface, ← ht, Registry.find?_register]

variable (wait) in
/-- The cycles of a configuration that was begun are followed, and then it is stopped. -/
theorem followsCycles (hbegun : Begun job (.cycle id) start)
    (hbatched : job.settings.isBatched = true) (hcycles : cycles ≠ 0) (limit count : Nat) :
    ∃ passes, FollowsCycles job wait id cycles start passes
      (job.stopAfter id (job.followCycles wait limit id cycles count 0 start)) := by
  have hpositive : 0 < cycles := UInt32.pos_iff_ne_zero.mpr hcycles
  obtain ⟨passes, hpasses, hpages, hok⟩ := followCycles_finishes hbegun hbatched limit count
    (Passes.start : Passes wait start _ _) (rfl : _ = UInt32.toNat 0) hpositive
  rw [List.nil_append] at hpasses hpages hok
  have hnothing : job.batchedPages id cycles ([] : List (Pass ρ)) = [] := rfl
  rw [hnothing, List.nil_append] at hpages
  have hprinted : (job.stopAfter id (job.followCycles wait limit id cycles count 0 start)).output =
      Page.output (job.batchedPages id cycles passes) := by
    rw [Ending.output, stopAfter_pages, hpages]
  refine ⟨passes, ⟨_, hpasses.course hbegun hbatched, ?_⟩, ?_, ?_, fun hnone => ?_⟩
  · rw [stopAfter_pages, stopAfter_error]
  · rw [stopAfter_pages, hpages]
  · rw [hprinted]
    exact exists_setTexts job cycles _
  · rw [stopAfter_error] at hnone
    obtain ⟨hstatuses, houtcomes⟩ := hok hnone
    obtain ⟨hlength, hreported⟩ := hpasses.reported_all hbegun hbatched houtcomes
    obtain ⟨texts, htexts, hsets⟩ := exists_setTexts job cycles
      (completions job.iface (.cycle id) passes)
    refine ⟨hlength.trans hstatuses, ?_, texts, ?_, ?_, hsets⟩
    · rw [stopAfter_pages, ← hpages, Job.batchedPages, hreported]
    · rw [← hsets.length_eq, List.length_zipIdx, hlength, hstatuses]
    · rw [hprinted, Job.batchedPages, hreported, htexts]

end Cycles

/-! ## Whole runs -/

/-- What a run prints are the results of what was completed. The program works with a new scanner
over any radio, in any world, and before each event anything can happen there.

A single scan that could be started takes callbacks in the course of some passes. Without an error
it prints the records of its one completion, if they were asked for, and then its results, which
have a line for each of the same networks in the same order. A run over cycles that could be started
prints the results of the first completions in order, one for each status that was taken; without an
error these are all completions, and as many as there should be. Afterwards no configuration is
active, however the run ended. In all courses a status is taken before any other event is
handled. -/
theorem prints_what_was_completed (config : Config) (json : Bool) (world : World ρ)
    (wait : World ρ → Option (World ρ)) (limit count : Nat) (cycles : UInt32) :
    let job : Job := { iface := config.interface, settings := config.settings, json }
    let c : Consumer ρ := { registry := Registry.register ∅ { setup := config.setup }, world }
    let single := job.runSingle wait limit count c
    let batched := job.runCycles wait limit count cycles c
    ((∃ message, job.startSingle c = .error message ∧ single = ⟨[], some message, c⟩) ∨
      ∃ start passes, job.startSingle c = .ok start ∧
        FollowsSingle job wait start passes single) ∧
    ((∃ message, (cycles = 0 ∨ job.startCycles c = .error message) ∧
        batched = ⟨[], some message, c⟩) ∨
      ∃ id start passes, job.startCycles c = .ok (id, start) ∧
        FollowsCycles job wait id cycles start passes batched) ∧
    ∃ s, batched.consumer.registry.get job.iface = .ok s ∧ s.background.scans = ∅ := by
  intro job c single batched
  have hbatched : job.settings.isBatched = true := isBatched_settings config
  have hnew : ∃ s, c.registry.get job.iface = .ok s ∧ s.background.scans = ∅ :=
    ⟨{ setup := config.setup }, get_new rfl rfl, rfl⟩
  refine ⟨?_, ?_⟩
  · cases hstart : job.startSingle c with
    | error message => exact .inl ⟨message, rfl, by simp only [single, Job.runSingle, hstart]⟩
    | ok start =>
        have hbegun := begun_single rfl rfl rfl hstart
        obtain ⟨passes, hfollows⟩ := followsSingle wait hbegun hbatched limit count
        refine .inr ⟨start, passes, rfl, ?_⟩
        simpa only [single, Job.runSingle, hstart] using hfollows
  · by_cases hcycles : cycles = 0
    · have hrun : batched = ⟨[], some "--batched needs at least one cycle", c⟩ := if_pos hcycles
      exact ⟨.inl ⟨_, .inl hcycles, hrun⟩, by rw [hrun]; exact hnew⟩
    cases hstart : job.startCycles c with
    | error message =>
        have hrun : batched = ⟨[], some message, c⟩ := by
          simp only [batched, Job.runCycles, if_neg hcycles, hstart]
        exact ⟨.inl ⟨_, .inr rfl, hrun⟩, by rw [hrun]; exact hnew⟩
    | ok r =>
        obtain ⟨id, start⟩ := r
        have hbegun := begun_cycles rfl rfl rfl hbatched hstart
        obtain ⟨passes, hfollows⟩ := followsCycles wait hbegun hbatched hcycles limit count
        have hrun : batched =
            job.stopAfter id (job.followCycles wait limit id cycles count 0 start) := by
          simp only [batched, Job.runCycles, if_neg hcycles, hstart]
        rw [← hrun] at hfollows
        refine ⟨.inr ⟨id, start, passes, rfl, hfollows⟩, ?_⟩
        obtain ⟨last, hcourse, hlast⟩ := hfollows.course
        obtain ⟨s, hiface, hs⟩ := (hcourse.reached.ledger hbegun hbatched).employs
        rw [hlast]
        exact stopAfter_inactive hiface hs

end Program

namespace Sample

open Program

/-- Two channels of which every record is reported. -/
def nearbyConfig : Config where
  scan := { band := none, channels := [1, 6], fullResults := true }

/-- The program over the radio of the neighbourhood. -/
def nearby (line : CommandLine) : Program.Ending Replay :=
  scan { configHome := ".", clock := 1000 } nearbyConfig line neighbourhood.networks

theorem nearby_printed :
    (nearby {}).error = none ∧ (nearby {}).pages.length = 2 ∧
      (nearby {}).output = Page.unlines [
        "+ near 00:00:00:00:00:01 2412 MHz",
        "SSID                             BSSID                MHz    dBm",
        "near                             00:00:00:00:00:01   2412    -40",
        "1 networks"] ∧
      (∃ start passes, FollowsSingle
        { iface := nearbyConfig.interface, settings := nearbyConfig.settings, json := false }
        waitForNext start passes (nearby {})) ∧
      (nearby { cycles := some 2 }).error = none ∧
      (nearby { cycles := some 2 }).pages.length = 4 ∧
      ∃ id start passes, FollowsCycles
        { iface := nearbyConfig.interface, settings := nearbyConfig.settings, json := false }
        waitForNext id 2 start passes (nearby { cycles := some 2 }) := by
  have hprints (limit count : Nat) := prints_what_was_completed nearbyConfig false
    { radio := { networks := neighbourhood.networks, options := nearbyConfig.replayOptions }
      clock := 1000 } waitForNext limit count 2
  have hsingle : (nearby {}).error = none := by decide +kernel
  have hcycles : (nearby { cycles := some 2 }).error = none := by decide +kernel
  refine ⟨hsingle, by decide +kernel, by decide +kernel, ?_, hcycles, by decide +kernel, ?_⟩
  · obtain ⟨⟨message, -, hfailed⟩ | ⟨start, passes, -, hfollows⟩, -⟩ :=
      hprints (turnLimit nearbyConfig) (callbackLimit 1 neighbourhood.networks)
    · cases hsingle.symm.trans (congrArg Program.Ending.error hfailed)
    · exact ⟨start, passes, hfollows⟩
  · obtain ⟨-, ⟨message, -, hfailed⟩ | ⟨id, start, passes, -, hfollows⟩, -⟩ :=
      hprints (turnLimit nearbyConfig) (callbackLimit 2 neighbourhood.networks)
    · cases hcycles.symm.trans (congrArg Program.Ending.error hfailed)
    · exact ⟨id, start, passes, hfollows⟩

end Sample

end WirelessScan
