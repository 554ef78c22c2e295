import IptvCloud.Stream.Proof.Watchdog

/-!
# The reports of a stream

`OnTimeoutUpdated` makes the controller send the statistics of the stream to the daemon. An observer
of a stream notes when it ticked and reported last (`Heart`). The stream counts its up time in whole
seconds (`secondsBetween`), and so does `heartbeat`: over every run, in every session, a tick
reports exactly when the stream is active, has a client, and its up time is `report_delay_sec` more
than at the last report; and while the stream is active and ticks every `d` seconds, two reports are
less than `report_delay_sec + d` apart. Neither needs the clock to go forward; where it does, two
reports are more than nine seconds apart on it, which is what is left of ten when both are cut to
seconds.
-/

namespace IptvCloud.Streams

open Checked IptvCloud.Stream Run

variable {δ : Type} {ops : DesireOps δ} {s s' : LiveStream δ} {input : List InputUri}

/-! ## A tick -/

/-- The tick calls `OnTimeoutUpdated`. -/
def LiveStream.reports (ops : DesireOps δ) (s : LiveStream δ) (now resetNow : Int64) : Bool :=
  (s.handleMainTimerTick ops now resetNow).any fun p => .timeoutUpdated ∈ p.2

/-- What reports depends on is not changed before the end of a tick. -/
theorem checkNoData_update {resetNow : Int64} {diff diffInTotal diffOutTotal : UInt64} {desire : δ}
    {effects : List TickEffect}
    (h : s.checkNoData ops resetNow diff diffInTotal diffOutTotal desire = some (s', effects)) :
    .timeoutUpdated ∉ effects ∧ s'.status = s.status ∧ s'.statusTick = s.statusTick ∧
      s'.hasClient = s.hasClient ∧ s'.startTime = s.startTime := by
  have hin : (if diffInTotal < minInData then s.onInputDataFailed else s.onInputDataOK) =
      (s, if diffInTotal < minInData then [.quit] else []) := by
    split <;> rfl
  have hout : (if diffOutTotal < minOutData then s.onOutputDataFailed
        else s.onOutputDataOK resetNow) =
      (if diffOutTotal < minOutData then s else s.resetDataWait resetNow,
        if diffOutTotal < minOutData then [.quit] else [.checkpoint]) := by
    split <;> rfl
  simp only [LiveStream.checkNoData, hin, hout] at h
  obtain ⟨desireEffects, hdesire, h⟩ := Option.bind_eq_some_iff.1 h
  have hnot : .timeoutUpdated ∉ desireEffects := by
    unfold LiveStream.checkDesire at hdesire
    split at hdesire
    · obtain ⟨bytes, -, rfl⟩ := Option.map_eq_some_iff.1 hdesire
      split <;> simp
    · cases hdesire
      simp
  cases h
  refine ⟨?_, ?_⟩
  · simp only [List.mem_append, hnot, or_false]
    split <;> split <;> simp
  · split <;> exact ⟨rfl, rfl, rfl, rfl⟩

/-- The report of a tick: what it reports with is that of the stream before. -/
structure Reporting (s s' : LiveStream δ) (upTime : Int64) (reported : Prop) : Prop where
  reported : reported ↔ s.status ≠ .init ∧ s.hasClient = true ∧ s.statusTick ≤ upTime
  tick : s'.statusTick =
    if s.status ≠ .init ∧ s.statusTick ≤ upTime then upTime + reportDelaySec else s.statusTick
  hasClient : s'.hasClient = s.hasClient
  startTime : s'.startTime = s.startTime

theorem sendUpdate_reporting (s : LiveStream δ) (upTime : Int64) :
    Reporting s (s.sendUpdate upTime).1 upTime (.timeoutUpdated ∈ (s.sendUpdate upTime).2) := by
  by_cases h : s.status ≠ .init ∧ s.statusTick ≤ upTime
  · have heq : s.sendUpdate upTime = ({ s with statusTick := upTime + reportDelaySec },
        if s.hasClient then [.timeoutUpdated] else []) := if_pos h
    rw [heq]
    refine ⟨?_, (if_pos h).symm, rfl, rfl⟩
    cases hc : s.hasClient with
    | true => simp [h.1, h.2]
    | false => simp
  · have heq : s.sendUpdate upTime = (s, []) := if_neg h
    rw [heq]
    exact ⟨iff_of_false (by simp) fun h' => h ⟨h'.1, h'.2.2⟩, (if_neg h).symm, rfl, rfl⟩

/-- The end of a tick, with what came before it. -/
theorem reporting_of_update {s₁ : LiveStream δ} {before effects : List TickEffect} {upTime : Int64}
    (hbefore : .timeoutUpdated ∉ before ∧ s₁.status = s.status ∧ s₁.statusTick = s.statusTick ∧
      s₁.hasClient = s.hasClient ∧ s₁.startTime = s.startTime)
    (h : some ((s₁.sendUpdate upTime).1, before ++ (s₁.sendUpdate upTime).2) = some (s', effects)) :
    Reporting s s' upTime (.timeoutUpdated ∈ effects) := by
  obtain ⟨hnot, hstatus, htick, hclient, hstart⟩ := hbefore
  have hupdate := sendUpdate_reporting s₁ upTime
  cases h
  refine ⟨?_, ?_, hupdate.hasClient.trans hclient, hupdate.startTime.trans hstart⟩
  · rw [List.mem_append, or_iff_right hnot, hupdate.reported, hstatus, htick, hclient]
  · rw [hupdate.tick, hstatus, htick]

theorem handleMainTimerTick_reporting {now resetNow : Int64} {effects : List TickEffect}
    (h : s.handleMainTimerTick ops now resetNow = some (s', effects)) :
    Reporting s s' (s.getElipsedTime now) (.timeoutUpdated ∈ effects) := by
  simp only [LiveStream.handleMainTimerTick] at h
  split at h
  · obtain ⟨⟨s₁, before⟩, hcheck, h⟩ := Option.bind_eq_some_iff.1 h
    have hbefore := checkNoData_update hcheck
    exact reporting_of_update hbefore h
  · obtain ⟨⟨s₁, before⟩, hsame, h⟩ := Option.bind_eq_some_iff.1 h
    cases hsame
    refine reporting_of_update ?_ h
    exact ⟨List.not_mem_nil, rfl, rfl, rfl, rfl⟩

theorem le_getElipsedTime_iff {tick now : Int64} :
    tick ≤ s.getElipsedTime now ↔ tick.toInt ≤ secondsBetween s.startTime now := by
  rw [Int64.le_iff_toInt_le, toInt_getElipsedTime]

/-- Every tick returns, and reports as it should. -/
theorem reports_iff (s : LiveStream δ) (now resetNow : Int64) :
    s.reports ops now resetNow = true ↔ s.status ≠ .init ∧ s.hasClient = true ∧
      s.statusTick.toInt ≤ secondsBetween s.startTime now := by
  obtain ⟨s', effects, htick, -⟩ := handleMainTimerTick_spec ops s now resetNow
  rw [← le_getElipsedTime_iff, ← (handleMainTimerTick_reporting htick).reported]
  simp [LiveStream.reports, htick]

theorem toInt_reportTick (s : LiveStream δ) (now : Int64) :
    (s.getElipsedTime now + reportDelaySec).toInt = secondsBetween s.startTime now + 10 := by
  have hbounds := secondsBetween_bounds s.startTime now
  rw [Int64.toInt_add, toInt_getElipsedTime, show reportDelaySec.toInt = 10 by decide]
  exact Int.bmod_eq_of_le (by omega) (by omega)

/-- What a report depends on. -/
structure StatusKept (s s' : LiveStream δ) : Prop where
  statusTick : s'.statusTick = s.statusTick
  hasClient : s'.hasClient = s.hasClient
  startTime : s'.startTime = s.startTime

theorem StatusKept.trans {s₁ : LiveStream δ} (h : StatusKept s s₁) (h' : StatusKept s₁ s') :
    StatusKept s s' :=
  ⟨h'.statusTick.trans h.statusTick, h'.hasClient.trans h.hasClient,
    h'.startTime.trans h.startTime⟩

theorem ProbeFrame.statusKept (h : ProbeFrame s s') : StatusKept s s' :=
  ⟨h.statusTick, h.hasClient, h.startTime⟩

theorem updateDurations_statusKept {now : Int64} {duration : UInt64} {i : Nat}
    (h : s.updateDurations now duration input i = .ok s') : StatusKept s s' := by
  induction input generalizing i s with
  | nil =>
    cases h
    exact ⟨rfl, rfl, rfl⟩
  | cons uri input ih =>
    simp only [LiveStream.updateDurations] at h
    split at h
    · obtain ⟨id, -, h⟩ := bind_eq_ok_iff.1 h
      exact (updateStats_frame ..).statusKept.trans (ih h)
    · exact ih h

theorem message_statusKept {now : Int64} {message : BusMessage}
    (h : s.handleAsyncBusMessageReceived input now message = .ok s') : StatusKept s s' := by
  unfold LiveStream.handleAsyncBusMessageReceived at h
  split at h
  · exact updateDurations_statusKept h
  all_goals
    cases h
    exact ⟨rfl, rfl, rfl⟩

/-! ## The observer -/

/-- A stream with the readings of the clock at the last tick and at the last report of its
session. -/
structure Heart (δ : Type) where
  observed : Observed δ
  lastTick : Option Int64 := none
  lastReport : Option Int64 := none

/-- The stream of the observer. -/
abbrev Heart.stream (h : Heart δ) : LiveStream δ := h.observed.stream

/-- The notes after an event. -/
def Heart.next (ops : DesireOps δ) (h : Heart δ) (e : StreamEvent) (observed : Observed δ) :
    Heart δ :=
  match e with
  | .exec _ _ => ⟨observed, none, none⟩
  | .tick now resetNow =>
    ⟨observed, some now, if h.stream.reports ops now resetNow then some now else h.lastReport⟩
  | .restart _ | .data _ _ _ | .message _ _ => { h with observed }

/-- `streamStep` with the notes. -/
def beat (ops : DesireOps δ) (input : List InputUri) (h : Heart δ) (e : StreamEvent) :
    Option (Heart δ) :=
  (streamStep ops input h.observed e).map (h.next ops e)

/-- The whole seconds of the stream's up time at a reading of the clock. -/
abbrev Heart.upSeconds (h : Heart δ) (now : Int64) : Int := secondsBetween h.stream.startTime now

/-- A tick reports exactly when the stream is active, has a client, and its up time is ten whole
seconds more than at the last report of the session. -/
def OnTime (ops : DesireOps δ) (h : Heart δ) : StreamEvent → Prop
  | .tick now resetNow =>
    h.stream.reports ops now resetNow = true ↔
      h.stream.status ≠ .init ∧ h.stream.hasClient = true ∧
      match h.lastReport with
      | none => 0 ≤ h.upSeconds now
      | some t => h.upSeconds t + 10 ≤ h.upSeconds now
  | _ => True

/-- The stream is active when it ticks, at most `d` whole seconds after it ticked last. -/
def Steady (d : Int) (h : Heart δ) : StreamEvent → Prop
  | .tick now _ => h.stream.status ≠ .init ∧
    ∀ t, h.lastTick = some t → h.upSeconds now ≤ h.upSeconds t + d
  | _ => True

/-- A tick that reports does so less than `10 + d` whole seconds after the last report. -/
def Timely (ops : DesireOps δ) (d : Int) (h : Heart δ) : StreamEvent → Prop
  | .tick now resetNow => h.stream.reports ops now resetNow = true →
    ∀ t, h.lastReport = some t → h.upSeconds now < h.upSeconds t + 10 + d
  | _ => True

/-- A tick that reports does so more than nine seconds after the last report. -/
def ReportsApart (ops : DesireOps δ) (h : Heart δ) : StreamEvent → Prop
  | .tick now resetNow => h.stream.reports ops now resetNow = true →
    ∀ t, h.lastReport = some t → t.toInt + 9 * 1000 < now.toInt
  | _ => True

/-- With a client the status tick is ten seconds after the last report. -/
def HeartInv (h : Heart δ) : Prop :=
  h.stream.hasClient = true →
    h.stream.statusTick.toInt = h.lastReport.elim 0 fun t => h.upSeconds t + 10

/-- While the stream is steady, the last tick is before the next report. -/
structure SteadyInv (h : Heart δ) : Prop where
  inv : HeartInv h
  before : ∀ t, h.lastTick = some t → h.upSeconds t < h.stream.statusTick.toInt
  ticked : h.lastReport.isSome → h.lastTick.isSome

/-- On a clock that goes forward, the last report is not after what it showed last. -/
structure ForwardInv (h : Heart δ) : Prop where
  inv : HeartInv h
  clock : ∀ t, h.lastReport = some t → t ≤ h.observed.clock

section
variable {h h' : Heart δ} {e : StreamEvent} {d : Int}

/-- A tick of the observed stream. -/
structure Beaten (ops : DesireOps δ) (h h' : Heart δ) (now resetNow : Int64) : Prop where
  reporting : Reporting h.stream h'.stream (h.stream.getElipsedTime now)
    (h.stream.reports ops now resetNow = true)
  lastTick : h'.lastTick = some now
  lastReport : h'.lastReport =
    if h.stream.reports ops now resetNow then some now else h.lastReport

theorem Beaten.upSeconds {now resetNow : Int64} (hb : Beaten ops h h' now resetNow) (t : Int64) :
    h'.upSeconds t = h.upSeconds t := by
  rw [Heart.upSeconds, hb.reporting.startTime]

theorem beat_tick {now resetNow : Int64}
    (hstep : beat ops input h (.tick now resetNow) = some h') : Beaten ops h h' now resetNow := by
  obtain ⟨observed, hobserved, rfl⟩ := Option.map_eq_some_iff.1 hstep
  obtain ⟨⟨s', effects⟩, htick, rfl⟩ := Option.map_eq_some_iff.1 hobserved
  have hreports : (h.stream.reports ops now resetNow = true) = (.timeoutUpdated ∈ effects) := by
    simp [LiveStream.reports, htick]
  have hreporting := handleMainTimerTick_reporting htick
  refine ⟨?_, rfl, rfl⟩
  rw [hreports]
  show Reporting h.stream (Observed.stream (if _ then _ else _)) _ _
  split <;> exact hreporting

/-- Other events than a new session and a tick leave the status tick and the notes. -/
structure Quiet (h h' : Heart δ) : Prop where
  kept : StatusKept h.stream h'.stream
  lastTick : h'.lastTick = h.lastTick
  lastReport : h'.lastReport = h.lastReport

theorem Quiet.upSeconds (hq : Quiet h h') (t : Int64) : h'.upSeconds t = h.upSeconds t := by
  rw [Heart.upSeconds, hq.kept.startTime]

theorem beat_other (hstep : beat ops input h e = some h')
    (hexec : ∀ probeIn now, e ≠ .exec probeIn now)
    (htick : ∀ now resetNow, e ≠ .tick now resetNow) : Quiet h h' := by
  obtain ⟨observed, hobserved, rfl⟩ := Option.map_eq_some_iff.1 hstep
  cases e with
  | exec probeIn now => exact absurd rfl (hexec probeIn now)
  | tick now resetNow => exact absurd rfl (htick now resetNow)
  | restart now =>
    cases hobserved
    exact ⟨⟨rfl, rfl, rfl⟩, rfl, rfl⟩
  | data probe direction data =>
    cases hobserved
    refine ⟨?_, rfl, rfl⟩
    show StatusKept h.stream (h.stream.callbackProbeBuffer probe direction data)
    rw [callbackProbeBuffer_eq]
    exact (countBuffers_frame ..).statusKept
  | message message now =>
    simp only [streamStep] at hobserved
    split at hobserved
    · rename_i s' hmessage
      cases hobserved
      exact ⟨message_statusKept hmessage, rfl, rfl⟩
    · cases hobserved

/-! ## Runs -/

theorem statusTick_le_iff (hinv : HeartInv h) {now : Int64} (hclient : h.stream.hasClient = true) :
    h.stream.statusTick.toInt ≤ h.upSeconds now ↔ match h.lastReport with
      | none => 0 ≤ h.upSeconds now
      | some t => h.upSeconds t + 10 ≤ h.upSeconds now := by
  rw [hinv hclient]
  cases h.lastReport <;> rfl

theorem onTime_of_inv (hinv : HeartInv h) : OnTime ops h e := by
  cases e with
  | exec _ _ | restart _ | data _ _ _ | message _ _ => trivial
  | tick now resetNow =>
    apply (reports_iff h.stream now resetNow).trans
    by_cases hclient : h.stream.hasClient = true
    · rw [statusTick_le_iff hinv hclient]
    · exact iff_of_false (fun hr => hclient hr.2.1) fun hr => hclient hr.2.1

theorem heartInv_beat (hinv : HeartInv h) (hstep : beat ops input h e = some h') : HeartInv h' := by
  have other (hquiet : Quiet h h') : HeartInv h' := by
    intro hc
    simp only [hquiet.kept.statusTick, hquiet.lastReport, hquiet.upSeconds]
    exact hinv (hquiet.kept.hasClient ▸ hc)
  cases e with
  | exec probeIn now =>
    cases hstep
    exact fun _ => rfl
  | tick now resetNow =>
    have hb := beat_tick hstep
    intro hc
    have hclient : h.stream.hasClient = true := hb.reporting.hasClient ▸ hc
    simp only [hb.upSeconds]
    by_cases hr : h.stream.reports ops now resetNow = true
    · rcases hb.reporting.reported.1 hr with ⟨hactive, -, hdue⟩
      rw [hb.lastReport, if_pos hr, hb.reporting.tick, if_pos ⟨hactive, hdue⟩, toInt_reportTick]
      rfl
    · have hnot : ¬ (h.stream.status ≠ .init ∧ h.stream.statusTick ≤ h.stream.getElipsedTime now) :=
        fun hdue => hr (hb.reporting.reported.2 ⟨hdue.1, hclient, hdue.2⟩)
      rw [hb.lastReport, if_neg hr, hb.reporting.tick, if_neg hnot]
      exact hinv hclient
  | restart _ | data _ _ _ | message _ _ => exact other (beat_other hstep nofun nofun)

theorem steadyInv_beat (hinv : SteadyInv h) (hsteady : Steady d h e)
    (hstep : beat ops input h e = some h') : SteadyInv h' := by
  refine ⟨heartInv_beat hinv.inv hstep, ?_, ?_⟩
  all_goals cases e with
  | exec probeIn now =>
    cases hstep
    exact nofun
  | tick now resetNow => ?_
  | restart _ | data _ _ _ | message _ _ =>
    have hquiet := beat_other hstep nofun nofun
    simp only [hquiet.kept.statusTick, hquiet.lastTick, hquiet.lastReport, hquiet.upSeconds]
    first | exact hinv.before | exact hinv.ticked
  · have hb := beat_tick hstep
    intro t ht
    rw [hb.lastTick] at ht
    cases ht
    rw [hb.upSeconds, hb.reporting.tick]
    by_cases hdue : h.stream.statusTick ≤ h.stream.getElipsedTime now
    · rw [if_pos ⟨hsteady.1, hdue⟩, toInt_reportTick, Heart.upSeconds]
      omega
    · rw [if_neg fun hc => hdue hc.2, Heart.upSeconds]
      rw [le_getElipsedTime_iff] at hdue
      omega
  · simp [(beat_tick hstep).lastTick]

theorem timely_of_inv (hinv : SteadyInv h) (hsteady : Steady d h e) : Timely ops d h e := by
  cases e with
  | exec _ _ | restart _ | data _ _ _ | message _ _ => trivial
  | tick now resetNow =>
    intro hr t ht
    rcases (reports_iff _ now resetNow).1 hr with ⟨-, hclient, -⟩
    obtain ⟨u, hu⟩ := Option.isSome_iff_exists.1 (hinv.ticked (by rw [ht]; rfl))
    have hstatus := hinv.inv hclient
    have hbefore := hinv.before u hu
    have hgap := hsteady.2 u hu
    rw [ht] at hstatus
    simp only [Option.elim_some] at hstatus
    omega

/-- The clock of the observer follows the readings. -/
theorem clock_streamStep {o o' : Observed δ} (hord : Ordered o e)
    (hstep : streamStep ops input o e = some o') :
    o.clock ≤ o'.clock ∧ ∀ now resetNow, e = .tick now resetNow → now ≤ o'.clock := by
  cases e with
  | exec _ _ | restart _ =>
    cases hstep
    exact ⟨hord, by rintro _ _ ⟨⟩⟩
  | data _ _ _ =>
    cases hstep
    exact ⟨Int64.le_refl _, by rintro _ _ ⟨⟩⟩
  | message message now =>
    simp only [streamStep] at hstep
    split at hstep
    · cases hstep
      exact ⟨Int64.le_refl _, by rintro _ _ ⟨⟩⟩
    · cases hstep
  | tick now resetNow =>
    obtain ⟨⟨s', effects⟩, -, rfl⟩ := Option.map_eq_some_iff.1 hstep
    have hclock : now ≤ (if .checkpoint ∈ effects then o.checkpoint s' resetNow
        else { o with stream := s', clock := now }).clock := by
      split
      · exact hord.2
      · exact Int64.le_refl _
    exact ⟨Int64.le_trans hord.1 hclock, fun _ _ he => by cases he; exact hclock⟩

theorem forwardInv_beat (hinv : ForwardInv h) (hord : Ordered h.observed e)
    (hstep : beat ops input h e = some h') : ForwardInv h' := by
  refine ⟨heartInv_beat hinv.inv hstep, fun t ht => ?_⟩
  have hclock : h.observed.clock ≤ h'.observed.clock ∧
      ∀ now resetNow, e = .tick now resetNow → now ≤ h'.observed.clock := by
    obtain ⟨observed, hobserved, rfl⟩ := Option.map_eq_some_iff.1 hstep
    have hclock := clock_streamStep hord hobserved
    cases e <;> exact hclock
  cases e with
  | exec probeIn now =>
    cases hstep
    cases ht
  | tick now resetNow =>
    rw [(beat_tick hstep).lastReport] at ht
    split at ht
    · cases ht
      exact hclock.2 _ _ rfl
    · exact Int64.le_trans (hinv.clock t ht) hclock.1
  | restart _ | data _ _ _ | message _ _ =>
    rw [(beat_other hstep nofun nofun).lastReport] at ht
    exact Int64.le_trans (hinv.clock t ht) hclock.1

theorem reportsApart_of_inv (hinv : ForwardInv h) (hord : Ordered h.observed e) :
    ReportsApart ops h e := by
  cases e with
  | exec _ _ | restart _ | data _ _ _ | message _ _ => trivial
  | tick now resetNow =>
    intro hr t ht
    have honTime : OnTime ops h (.tick now resetNow) := onTime_of_inv hinv.inv
    have hdue := honTime.1 hr
    rw [ht] at hdue
    have hseconds : secondsBetween h.stream.startTime t + (9 + 1) ≤
        secondsBetween h.stream.startTime now := by
      have hlater := hdue.2.2
      simp only [Heart.upSeconds] at hlater
      omega
    have hapart := apart_of_seconds (n := 9) (Int64.le_trans (hinv.clock t ht) hord.1) hseconds
    exact hapart

end

/-- **The heartbeat of a stream**: in every run of a new stream, a tick reports exactly when the
stream is active, has a client, and its up time is ten whole seconds more than at the last report of
the session; in every run in which the stream is active at its ticks, which come every `d` seconds,
a report comes less than `10 + d` whole seconds after the last one; and in every run whose readings
of the clock are in order, more than nine seconds after it. -/
theorem heartbeat (ops : DesireOps δ) (input : List InputUri) (stream : LiveStream δ)
    (hnew : stream.statusTick = 0) (clock : Int64) (events : List StreamEvent) :
    Along (beat ops input) (OnTime ops) ⟨.start stream clock, none, none⟩ events ∧
      (∀ d, Along (beat ops input) (Steady d) ⟨.start stream clock, none, none⟩ events →
        Along (beat ops input) (Timely ops d) ⟨.start stream clock, none, none⟩ events) ∧
      (Along (beat ops input) (fun h e => Ordered h.observed e)
          ⟨.start stream clock, none, none⟩ events →
        Along (beat ops input) (ReportsApart ops) ⟨.start stream clock, none, none⟩ events) := by
  have hinv : HeartInv (⟨.start stream clock, none, none⟩ : Heart δ) := fun _ => by
    simp [Heart.stream, Observed.start, hnew]
  refine ⟨along_of_inv (I := HeartInv) (fun _ _ _ hI hstep => heartInv_beat hI hstep)
    (fun _ _ hI => onTime_of_inv hI) hinv, fun d hd => ?_, fun hord => ?_⟩
  · exact hd.inv (I := SteadyInv) (fun _ _ _ hI hC hstep => steadyInv_beat hI hC hstep)
      (fun _ _ hI hC => timely_of_inv hI hC) ⟨hinv, nofun, nofun⟩
  · exact hord.inv (I := ForwardInv) (fun _ _ _ hI hC hstep => forwardInv_beat hI hC hstep)
      (fun _ _ hI hC => reportsApart_of_inv hI hC) ⟨hinv, nofun⟩

/-- A session that starts to play, and a tick. -/
def playingEvents : List StreamEvent :=
  [.exec [0] 1000, .message (.stateChanged true .playing) 1000, .tick 70000 70000]

theorem heartbeat_playing :
    Along (beat sampleOps []) (OnTime sampleOps) ⟨.start sampleStream 0, none, none⟩ playingEvents ∧
      Along (beat sampleOps []) (Timely sampleOps 1) ⟨.start sampleStream 0, none, none⟩
        playingEvents := by
  obtain ⟨honTime, htimely, -⟩ := heartbeat sampleOps [] sampleStream rfl 0 playingEvents
  refine ⟨honTime, htimely 1 ⟨trivial, fun h₁ hexec => ⟨trivial, fun h₂ hplay => ⟨?_, ?_⟩⟩⟩⟩
  · cases hexec
    cases hplay
    exact ⟨by decide, nofun⟩
  · exact fun _ _ => trivial

end IptvCloud.Streams
