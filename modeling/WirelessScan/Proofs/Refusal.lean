import WirelessScan.Proofs.Schedule

/-!
# Starts that come to nothing

A start can be refused, its channels may not resolve, and the radio can refuse a single scan. A
refused start leaves the scanner and the world exactly as they were. A start whose channels do not
resolve leaves one rejection on the queue and nothing else, but a configuration uses up its id. A
single scan that the radio refuses leaves what the admission call left and one rejection.
-/

namespace WirelessScan

variable {ρ : Type}

/-! ## Unfit settings -/

/-- Settings that cannot be run periodically: more buckets than a mask has bits, a period of zero,
or the period of a bucket that is no multiple of the base period. -/
inductive Settings.Unfit (s : Settings) : Prop where
  | tooMany (hlength : maxBuckets < s.buckets.length)
  | zeroBase (hbase : s.basePeriod = 0)
  | zeroPeriod {b : Bucket} (hb : b ∈ s.buckets) (hperiod : b.period = 0)
  | offGrid {b : Bucket} (hb : b ∈ s.buckets) (hgrid : ¬ s.basePeriod.toNat ∣ b.period.toNat)

theorem Settings.unfit_iff {s : Settings} : s.Unfit ↔ s.isPeriodic = false := by
  have hgrid (b : Bucket) : b.period % s.basePeriod = 0 ↔
      s.basePeriod.toNat ∣ b.period.toNat := by
    rw [← UInt32.toNat_inj, UInt32.toNat_mod, Nat.dvd_iff_mod_eq_zero]
    rfl
  rw [← Bool.not_eq_true, isPeriodic_iff]
  constructor
  · rintro hunfit ⟨hlength, hbase, hbuckets⟩
    cases hunfit with
    | tooMany hlength' => exact absurd hlength (Nat.not_le.mpr hlength')
    | zeroBase hbase' => exact hbase hbase'
    | zeroPeriod hb hperiod => exact (hbuckets _ hb).1 hperiod
    | offGrid hb hoff => exact hoff ((hgrid _).mp (hbuckets _ hb).2)
  · intro hnot
    by_cases hlength : s.buckets.length ≤ maxBuckets
    case neg => exact .tooMany (Nat.not_le.mp hlength)
    by_cases hbase : s.basePeriod = 0
    case pos => exact .zeroBase hbase
    have hbucket : ¬ ∀ b ∈ s.buckets, b.period ≠ 0 ∧ b.period % s.basePeriod = 0 :=
      fun hall => hnot ⟨hlength, hbase, hall⟩
    simp only [Classical.not_forall] at hbucket
    rcases hbucket with ⟨b, hb, hbad⟩
    by_cases hperiod : b.period = 0
    · exact .zeroPeriod hb hperiod
    · exact .offGrid hb fun hdvd => hbad ⟨hperiod, (hgrid b).mpr hdvd⟩

/-! ## Starts of a scanner -/

theorem World.post_eq {w : World ρ} (hopen : w.queue.isOpen = true) (e : Event) :
    w.post e = w.withEvents (w.queue.events ++ [e]) := by
  simp [post, withEvents, Queue.post, hopen]

section Starts

variable [Radio ρ] (s : Scanner) (w : World ρ)

/-- What a start leaves that comes to nothing, and when it does. -/
structure Scanner.StartsCleanly : Prop where
  singleRefused : ∀ settings handler, (s.startSingle settings handler w).1 = false ↔
    settings = none ∨ handler = none ∨ s.single.slot ≠ .idle
  singleIntact : ∀ settings handler, (s.startSingle settings handler w).1 = false →
    s.startSingle settings handler w = (false, s, w)
  backgroundRefused : ∀ settings handler, (s.startBackground settings handler w).1 = none ↔
    settings = none ∨ handler = none ∨ ∃ given, settings = some given ∧ given.Unfit
  backgroundIntact : ∀ settings handler, (s.startBackground settings handler w).1 = none →
    s.startBackground settings handler w = (none, s, w)
  /-- The two errors of settings that do not resolve, and the reasons that handlers hear. -/
  errors : ∀ (settings : Settings) error,
    s.setup.resolve settings settings.buckets = .error error ↔
      (∃ c, (s.setup.table.unknowns settings.buckets).head? = some c ∧
        error = .unknownChannel c ∧ error.reason = .invalidRequest) ∨
      (∀ b ∈ settings.buckets, s.setup.table.targetFrequencies b.target = .ok []) ∧
        error = .noChannels ∧ error.reason = .unspecified
  singleUnresolved : ∀ settings handler error, s.single.slot = .idle →
    s.setup.resolve settings settings.buckets = .error error →
      s.startSingle (some settings) (some handler) w =
        (true, s, w.withEvents
          (w.queue.events ++ [.admissionRejected s.iface handler error.reason]))
  backgroundUnresolved : ∀ settings handler error, ¬ settings.Unfit →
    s.setup.resolve settings settings.buckets = .error error →
      s.startBackground (some settings) (some handler) w =
        (some s.background.nextId,
          { s with background := { s.background with nextId := s.background.nextId + 1 } },
          w.withEvents (w.queue.events ++ [.admissionRejected s.iface handler error.reason]))
  /-- The radio refuses a single scan. It may put notices of its own on the queue meanwhile. -/
  singleRejected : ∀ settings handler request, s.single.slot = .idle →
    s.setup.resolve settings settings.buckets = .ok request →
    w.answer s.iface request ≠ .succeeded →
      ∃ (w' : World ρ) (notices : List Event),
        s.startSingle (some settings) (some handler) w = (true, s, w') ∧
        w'.timers = w.timers ∧ (∀ e ∈ notices, e.isNotice = true) ∧
        w'.queue.events = w.queue.events ++ notices ++
          [.admissionRejected s.iface handler (w.answer s.iface request)] ∧
        w'.log = w.log ++
          [.clockRead w.clock, .admission s.iface request (w.answer s.iface request)]

namespace Scanner

variable {s : Scanner} {w : World ρ} {settings : Option Settings} {handler : Option Handler}

variable (s w settings handler) in
/-- The ways of starting a single scan, for the whole scanner. -/
theorem startSingle_started : ∃ accepted single w',
    Single.Started s.setup s.single w settings handler (accepted, single, w') ∧
      s.startSingle settings handler w = (accepted, { s with single }, w') :=
  ⟨_, _, _, Single.start_started s.setup s.single settings handler w, rfl⟩

variable (s w settings handler) in
theorem startBackground_started : ∃ id background w',
    Background.Started s.setup s.background w settings handler (id, background, w') ∧
      s.startBackground settings handler w = (id, { s with background }, w') :=
  ⟨_, _, _, Background.start_started s.setup s.background settings handler w, rfl⟩

theorem startSingle_refused_iff : (s.startSingle settings handler w).1 = false ↔
    settings = none ∨ handler = none ∨ s.single.slot ≠ .idle := by
  rcases startSingle_started s w _ _ with ⟨accepted, single, w', hstarted, heq⟩
  rw [heq]
  cases hstarted with
  | refused hrefused => exact iff_of_true rfl hrefused
  | unresolved hidle => simp [hidle]
  | rejected hidle => simp [hidle]
  | armed hidle => simp [hidle]

theorem startSingle_refused (h : (s.startSingle settings handler w).1 = false) :
    s.startSingle settings handler w = (false, s, w) := by
  rcases startSingle_started s w _ _ with ⟨accepted, single, w', hstarted, heq⟩
  rw [heq] at h ⊢
  cases hstarted with
  | refused => rfl
  | _ => cases h

theorem startBackground_refused_iff : (s.startBackground settings handler w).1 = none ↔
    settings = none ∨ handler = none ∨ ∃ given, settings = some given ∧ given.Unfit := by
  rcases startBackground_started s w _ _ with ⟨id, background, w', hstarted, heq⟩
  rw [heq]
  simp only [Settings.unfit_iff]
  cases hstarted with
  | refused hrefused => exact iff_of_true rfl hrefused
  | unresolved hperiodic => simp [hperiodic]
  | activated hperiodic => simp [hperiodic]

theorem startBackground_refused (h : (s.startBackground settings handler w).1 = none) :
    s.startBackground settings handler w = (none, s, w) := by
  rcases startBackground_started s w _ _ with ⟨id, background, w', hstarted, heq⟩
  rw [heq] at h ⊢
  cases hstarted with
  | refused => rfl
  | _ => cases h

variable {given : Settings} {listener : Handler} {error : ScanError}

theorem startSingle_unresolved (hidle : s.single.slot = .idle)
    (hresolve : s.setup.resolve given given.buckets = .error error) :
    s.startSingle (some given) (some listener) w =
      (true, s, w.post (.admissionRejected s.iface listener error.reason)) := by
  rcases startSingle_started s w _ _ with ⟨accepted, single, w', hstarted, heq⟩
  rw [heq]
  cases hstarted with
  | refused hrefused => simp [hidle] at hrefused
  | unresolved _ hresolve' =>
      obtain rfl := Except.error.inj (hresolve.symm.trans hresolve')
      rfl
  | rejected _ hok => simp [hresolve] at hok
  | armed _ hok => simp [hresolve] at hok

theorem startBackground_unresolved (hfit : ¬ given.Unfit)
    (hresolve : s.setup.resolve given given.buckets = .error error) :
    s.startBackground (some given) (some listener) w =
      (some s.background.nextId,
        { s with background := { s.background with nextId := s.background.nextId + 1 } },
        w.post (.admissionRejected s.iface listener error.reason)) := by
  rcases startBackground_started s w _ _ with ⟨id, background, w', hstarted, heq⟩
  rw [heq]
  cases hstarted with
  | refused hrefused =>
      rw [Settings.unfit_iff] at hfit
      simp [hfit] at hrefused
  | unresolved _ hresolve' =>
      obtain rfl := Except.error.inj (hresolve.symm.trans hresolve')
      rfl
  | activated _ hok => simp [hresolve] at hok

theorem startSingle_rejected {request : Request} (hidle : s.single.slot = .idle)
    (hresolve : s.setup.resolve given given.buckets = .ok request)
    (hanswer : w.answer s.iface request ≠ .succeeded) :
    s.startSingle (some given) (some listener) w =
      (true, s, (w.asked s.iface request).post
        (.admissionRejected s.iface listener (w.answer s.iface request))) := by
  rcases startSingle_started s w _ _ with ⟨accepted, single, w', hstarted, heq⟩
  rw [heq]
  cases hstarted with
  | refused hrefused => simp [hidle] at hrefused
  | unresolved _ herror => simp [hresolve] at herror
  | rejected _ hresolve' =>
      obtain rfl := Except.ok.inj (hresolve.symm.trans hresolve')
      -- The slot is made idle again, which is what it was.
      simp only [← hidle]
      rfl
  | armed _ hresolve' hadmitted =>
      obtain rfl := Except.ok.inj (hresolve.symm.trans hresolve')
      exact absurd hadmitted hanswer

/-- An open queue is all that a clean start asks for. -/
theorem startsCleanly [NoticeRadio ρ] (hopen : w.queue.isOpen = true) : s.StartsCleanly w where
  singleRefused _ _ := startSingle_refused_iff
  singleIntact _ _ := startSingle_refused
  backgroundRefused _ _ := startBackground_refused_iff
  backgroundIntact _ _ := startBackground_refused
  errors settings error := by
    rw [Setup.resolve_eq_error_iff]
    constructor
    · rintro (⟨c, hc, rfl⟩ | ⟨hnone, rfl⟩)
      · exact .inl ⟨c, hc, rfl, rfl⟩
      · exact .inr ⟨hnone, rfl, rfl⟩
    · rintro (⟨c, hc, rfl, -⟩ | ⟨hnone, rfl, -⟩)
      · exact .inl ⟨c, hc, rfl⟩
      · exact .inr ⟨hnone, rfl⟩
  singleUnresolved settings handler error hidle hresolve := by
    rw [startSingle_unresolved hidle hresolve, World.post_eq hopen]
  backgroundUnresolved settings handler error hfit hresolve := by
    rw [startBackground_unresolved hfit hresolve, World.post_eq hopen]
  singleRejected settings handler request hidle hresolve hanswer := by
    have hasked : (w.asked s.iface request).queue.isOpen = true :=
      (w.asked_isOpen s.iface request).trans hopen
    refine ⟨_, (Radio.issue w.radio w.clock s.iface request).posted,
      startSingle_rejected hidle hresolve hanswer, rfl,
      NoticeRadio.posted w.radio w.clock s.iface request, ?_, w.asked_log s.iface request⟩
    rw [World.post_eq hasked, ← World.asked_events hopen]
    rfl

end Scanner

end Starts

/-! ## Every run -/

/-- In every state that a run can reach, a start that comes to nothing leaves no more than the
rejection that it owes. -/
theorem Run.starts_leave_state_intact [Radio ρ] [NoticeRadio ρ] (run : Run ρ) :
    run.now.scanner.StartsCleanly run.now.world :=
  Scanner.startsCleanly run.sound.world.isOpen

namespace Sample

/-- A scanner whose radio is busy. -/
def busy : Run Replay :=
  run [.outside (.radio { radio .reject with options := { outcome := .reject, reason := .busy } })]

theorem busy_starts :
    let s := busy.now.scanner
    let w := busy.now.world
    s.startBackground (some { settings with basePeriod := 0 }) (some (handler 1)) w =
        (none, s, w) ∧
      s.startSingle (some { settings with buckets := [{ target := .channels [1, 7, 9] }] })
          (some (handler 2)) w =
        (true, s, w.withEvents [.admissionRejected "wlan0" (handler 2) .invalidRequest]) ∧
      ∃ w', s.startSingle (some settings) (some (handler 3)) w = (true, s, w') ∧
        w'.queue.events = [.admissionRejected "wlan0" (handler 3) .busy] := by
  intro s w
  have hclean : s.StartsCleanly w := busy.starts_leave_state_intact
  have hidle : s.single.slot = .idle := by decide +kernel
  refine ⟨?_, ?_, ?_⟩
  · apply hclean.backgroundIntact
    exact (hclean.backgroundRefused _ _).mpr (.inr (.inr ⟨_, rfl, .zeroBase rfl⟩))
  · exact hclean.singleUnresolved _ _ (.unknownChannel 7) hidle (by rfl)
  · obtain ⟨w', -, hstart, -⟩ :=
      hclean.singleRejected settings (handler 3) _ hidle (by rfl) (by decide +kernel)
    have hevents : (s.startSingle (some settings) (some (handler 3)) w).2.2.queue.events =
        [.admissionRejected "wlan0" (handler 3) .busy] := by decide +kernel
    rw [hstart] at hevents
    exact ⟨w', hstart, hevents⟩

end Sample

end WirelessScan
