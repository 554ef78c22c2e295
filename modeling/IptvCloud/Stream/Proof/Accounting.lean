import IptvCloud.Stream.Proof.Watchdog

/-!
# The bytes of the channels

* `accountInv_step`: the counts of a channel are the bytes that its probes saw, as long as nothing
  else is added to them (`AccountInv`).
* `accounted_iff`: over every run with less than `2 ^ 63` bytes, the difference of a channel is what
  its probes saw since the checkpoint exactly when every event is `Harmless`:
  `HandleAsyncBusMessageReceived` counts the duration of a segment as bytes of every HTTP input, and
  the callback of a source pad does not count a buffer list.
-/

namespace IptvCloud.Streams

open Checked IptvCloud.Stream Run

variable {δ : Type} {ops : DesireOps δ} {s s' : LiveStream δ} {o o' : Observed δ}
  {input : List InputUri} {e : StreamEvent} {p : Probe}

/-! ## Channels -/

/-- The channel of a probe. -/
def LiveStream.channel (s : LiveStream δ) (p : Probe) : Option (ChannelStats δ) :=
  match p.name with
  | .probeIn => s.input[p.id]?
  | .probeOut => s.output[p.id]?

/-- Every channel is accounted for: its difference is what its probes saw since the checkpoint. -/
def Accounted (o : Observed δ) : Prop :=
  ∀ p channel, o.stream.channel p = some channel →
    channel.prevTotalBytes ≤ channel.totalBytes ∧ channel.getDiffTotalBytes.toNat = o.seen p

/-- The counts of a channel, as the bytes of the buffers. -/
structure CountsOf (all seen : Nat) (count : UInt64 × UInt64) : Prop where
  total : count.1.toNat = all
  prev : count.2.toNat + seen = all

structure AccountInv (o : Observed δ) : Prop where
  channels : ∀ p channel, o.stream.channel p = some channel →
    CountsOf (o.all p) (o.seen p) (counts channel)
  le : ∀ p, o.all p ≤ o.traffic
  small : o.traffic < 2 ^ 63

/-- Nothing was counted yet. -/
def Fresh (s : LiveStream δ) : Prop :=
  ∀ channel ∈ s.input ++ s.output, counts channel = (0, 0)

theorem channel_mem {channel : ChannelStats δ} (h : s.channel p = some channel) :
    channel ∈ s.input ++ s.output := by
  unfold LiveStream.channel at h
  split at h
  · exact List.mem_append_left _ (List.mem_of_getElem? h)
  · exact List.mem_append_right _ (List.mem_of_getElem? h)

theorem accountInv_start (h : Fresh s) (clock : Int64) : AccountInv (.start s clock) := by
  refine ⟨fun p channel hchannel => ?_, fun _ => Nat.le_refl _, Nat.two_pow_pos 63⟩
  rw [h channel (channel_mem hchannel)]
  exact ⟨rfl, rfl⟩

theorem CountsOf.accounted {all seen : Nat} {channel : ChannelStats δ}
    (h : CountsOf all seen (counts channel)) :
    channel.prevTotalBytes ≤ channel.totalBytes ∧ channel.getDiffTotalBytes.toNat = seen := by
  obtain ⟨htotal, hprev⟩ := h
  simp only [counts] at htotal hprev
  have hle : channel.prevTotalBytes ≤ channel.totalBytes := by
    rw [UInt64.le_iff_toNat_le]
    omega
  refine ⟨hle, ?_⟩
  rw [ChannelStats.getDiffTotalBytes, UInt64.toNat_sub_of_le _ _ hle]
  omega

theorem AccountInv.accounted (h : AccountInv o) : Accounted o :=
  fun p channel hchannel => (h.channels p channel hchannel).accounted

/-! ## Steps -/

theorem channel_updateStats (now : Int64) (probe : Probe) (size : UInt64) (p : Probe) :
    (s.updateStats now probe size).channel p =
      (s.channel p).map fun c =>
        if probe = p then c.setTotalBytes now (c.totalBytes + size) else c := by
  obtain ⟨name, id⟩ := probe
  obtain ⟨name', id'⟩ := p
  cases name <;> cases name' <;>
    simp [LiveStream.channel, LiveStream.updateStats, List.getElem?_modify]

/-- The counts after a probe counted buffers. -/
theorem channel_countBuffers (probe : Probe) (buffers : List Buffer) (p : Probe) :
    ((s.countBuffers probe buffers).channel p).map counts = (s.channel p).map fun c =>
      (if probe = p then c.totalBytes + UInt64.ofNat (totalSize buffers) else c.totalBytes,
        c.prevTotalBytes) := by
  induction buffers generalizing s with
  | nil =>
    show (s.channel p).map counts = (s.channel p).map fun c =>
      (if probe = p then c.totalBytes + 0 else c.totalBytes, c.prevTotalBytes)
    simp only [UInt64.add_zero, ite_self]
    rfl
  | cons b bs ih =>
    show (((s.updateStats b.now probe b.size).countBuffers probe bs).channel p).map counts = _
    rw [ih, channel_updateStats, Option.map_map]
    refine congrArg (fun f => (s.channel p).map f) (funext fun c => ?_)
    by_cases hp : probe = p
    · simp [hp, ChannelStats.setTotalBytes, totalSize_cons, UInt64.add_assoc]
    · simp [hp]

/-- A probe that counts all that passed it keeps the counts. -/
theorem accountInv_passed (h : AccountInv o) {probe : Probe} {buffers : List Buffer} {bytes : Nat}
    (hall : ∀ channel, o.stream.channel probe = some channel → totalSize buffers = bytes)
    (hsmall : o.traffic + bytes < 2 ^ 63) :
    AccountInv (o.passed (o.stream.countBuffers probe buffers) probe bytes) := by
  refine ⟨fun p channel hchannel => ?_, fun p => ?_, hsmall⟩
  · have hcounts := channel_countBuffers (s := o.stream) probe buffers p
    rw [show (o.stream.countBuffers probe buffers).channel p = some channel from
      hchannel] at hcounts
    obtain ⟨c, hc, he⟩ := Option.map_eq_some_iff.1 hcounts.symm
    obtain ⟨htotal, hprev⟩ := h.channels p c hc
    have hle := h.le p
    simp only [counts] at htotal hprev
    rw [← he]
    by_cases hp : probe = p
    · subst hp
      have hbytes := hall c hc
      have hmod : totalSize buffers % 2 ^ 64 = bytes := by omega
      refine ⟨?_, ?_⟩
      · simp only [if_true, UInt64.toNat_add, UInt64.toNat_ofNat', htotal, hmod, Observed.passed]
        omega
      · simp only [if_true, Observed.passed]
        omega
    · simp only [hp, Ne.symm hp, if_false, Observed.passed]
      exact ⟨htotal, hprev⟩
  · have hle := h.le p
    simp only [Observed.passed]
    split <;> omega

/-- Streams whose channels have the same counts, or counts made of them by `f`. -/
theorem channel_of_counts {f : ChannelStats δ → UInt64 × UInt64}
    (hin : s'.input.map counts = s.input.map f) (hout : s'.output.map counts = s.output.map f)
    {channel : ChannelStats δ} (h : s'.channel p = some channel) :
    ∃ c, s.channel p = some c ∧ counts channel = f c := by
  obtain ⟨name, id⟩ := p
  cases name with
  | probeIn =>
    have hi := congrArg (fun l => l[id]?) hin
    simp only [List.getElem?_map] at hi
    rw [show s'.input[id]? = some channel from h] at hi
    obtain ⟨c, hc, he⟩ := Option.map_eq_some_iff.1 hi.symm
    exact ⟨c, hc, he.symm⟩
  | probeOut =>
    have ho := congrArg (fun l => l[id]?) hout
    simp only [List.getElem?_map] at ho
    rw [show s'.output[id]? = some channel from h] at ho
    obtain ⟨c, hc, he⟩ := Option.map_eq_some_iff.1 ho.symm
    exact ⟨c, hc, he.symm⟩

/-- Moving the checkpoint keeps the counts. -/
theorem accountInv_checkpoint (h : AccountInv o) {now : Int64}
    (hs : CheckpointMoved o.stream s' now) : AccountInv (o.checkpoint s' now) := by
  refine ⟨fun p channel hchannel => ?_, h.le, h.small⟩
  obtain ⟨c, hc, hcounts⟩ := channel_of_counts hs.input hs.output hchannel
  obtain ⟨htotal, -⟩ := h.channels p c hc
  rw [hcounts]
  exact ⟨htotal, htotal⟩

/-! ## Changes of duration -/

/-- The bytes that a change of duration adds to the channel of a probe: the duration for every HTTP
input, from `i` on, whose probe it is. -/
def durationBytes (probeIn : Probes) (duration : UInt64) : List InputUri → Nat → Probe → UInt64
  | [], _, _ => 0
  | uri :: input, i, p =>
    (if uri.input.scheme = .http ∧ p.name = .probeIn ∧ probeIn[i]? = some p.id then duration
      else 0) + durationBytes probeIn duration input (i + 1) p

theorem channel_updateDurations {now : Int64} {duration : UInt64} {i : Nat}
    (h : s.updateDurations now duration input i = .ok s') (p : Probe) :
    (s'.channel p).map counts = (s.channel p).map fun c =>
      (c.totalBytes + durationBytes s.probeIn duration input i p, c.prevTotalBytes) := by
  induction input generalizing i s with
  | nil =>
    cases h
    simp [durationBytes]
    rfl
  | cons uri input ih =>
    simp only [LiveStream.updateDurations] at h
    split at h
    · rename_i hhttp
      obtain ⟨id, hid, h⟩ := bind_eq_ok_iff.1 h
      rw [elemAt_eq_ok_iff] at hid
      rw [ih h, channel_updateStats, Option.map_map]
      refine congrArg (fun f => (s.channel p).map f) (funext fun c => ?_)
      by_cases hp : (⟨.probeIn, id⟩ : Probe) = p
      · subst hp
        simp [durationBytes, hhttp, hid, LiveStream.updateStats, ChannelStats.setTotalBytes,
          UInt64.add_assoc]
      · have hother : ¬ (p.name = .probeIn ∧ s.probeIn[i]? = some p.id) := by
          rintro ⟨hname, hprobe⟩
          refine hp (Probe.mk.injEq .. ▸ ⟨hname.symm, ?_⟩)
          rw [hid] at hprobe
          exact Option.some.inj hprobe
        simp [durationBytes, hp, hother, LiveStream.updateStats]
    · rename_i hhttp
      rw [ih h]
      simp [durationBytes, hhttp]

/-! ## Runs -/

/-- The events happen, and all buffers together have less than `2 ^ 63` bytes. -/
def Bounded (ops : DesireOps δ) (input : List InputUri) (o : Observed δ) (e : StreamEvent) : Prop :=
  (streamStep ops input o e).isSome = true ∧
    match e with
    | .data _ _ data => o.traffic + data.bytes < 2 ^ 63
    | _ => True

/-- The event neither adds the duration of a segment to a channel, nor is it a buffer list with
bytes at a source pad whose probe has a channel. -/
def Harmless (input : List InputUri) (o : Observed δ) : StreamEvent → Prop
  | .message (.durationChanged duration) _ =>
    ∀ p channel, o.stream.channel p = some channel →
      durationBytes o.stream.probeIn duration input 0 p = 0
  | .data probe .src (.bufferList buffers) =>
    ∀ channel, o.stream.channel probe = some channel → totalSize buffers = 0
  | _ => True

/-- A callback counts all that passed the pad exactly when the data is harmless. -/
theorem harmless_data_iff {probe : Probe} {direction : PadDirection} {data : ProbeData} :
    Harmless input o (.data probe direction data) ↔
      ∀ channel, o.stream.channel probe = some channel →
        totalSize (countedBuffers direction data) = data.bytes := by
  cases direction <;> cases data <;>
    simp [Harmless, countedBuffers, ProbeData.bytes, ProbeData.buffers, totalSize, eq_comm]

/-- Other messages leave the channels alone. -/
theorem channel_message {now : Int64} {message : BusMessage}
    (h : s.handleAsyncBusMessageReceived input now message = .ok s') :
    (∃ duration, message = .durationChanged duration ∧
      s.updateDurations now duration input 0 = .ok s') ∨
    ((∀ duration, message ≠ .durationChanged duration) ∧ ∀ p, s'.channel p = s.channel p) := by
  unfold LiveStream.handleAsyncBusMessageReceived at h
  split at h
  · exact .inl ⟨_, rfl, h⟩
  all_goals cases h; exact .inr ⟨nofun, fun _ => rfl⟩

/-- A change of duration that adds nothing keeps the counts. -/
theorem accountInv_message (h : AccountInv o) {message : BusMessage} {now : Int64}
    (hharmless : Harmless input o (.message message now))
    (hs : o.stream.handleAsyncBusMessageReceived input now message = .ok s') :
    AccountInv { o with stream := s' } := by
  refine ⟨fun p channel hchannel => ?_, h.le, h.small⟩
  rcases channel_message hs with ⟨duration, rfl, hs⟩ | ⟨-, hs⟩
  · have hcounts := channel_updateDurations hs p
    rw [show s'.channel p = some channel from hchannel] at hcounts
    obtain ⟨c, hc, he⟩ := Option.map_eq_some_iff.1 hcounts.symm
    rw [hharmless p c hc, UInt64.add_zero] at he
    rw [← he]
    exact h.channels p c hc
  · exact h.channels p channel ((hs p).symm.trans hchannel)

theorem accountInv_step (h : AccountInv o) (hb : Bounded ops input o e)
    (hharmless : Harmless input o e) (hstep : streamStep ops input o e = some o') :
    AccountInv o' := by
  cases e with
  | exec probeIn now => cases hstep; exact accountInv_checkpoint h (checkpointMoved_exec _ _ _)
  | restart now => cases hstep; exact accountInv_checkpoint h (checkpointMoved_restart _ _)
  | data probe direction data =>
    cases hstep
    rw [callbackProbeBuffer_eq]
    exact accountInv_passed h (harmless_data_iff.1 hharmless) hb.2
  | tick now resetNow =>
    obtain ⟨s', effects, htick, hspec⟩ := handleMainTimerTick_spec ops o.stream now resetNow
    simp only [streamStep, htick, Option.map_some, Option.some.injEq] at hstep
    subst hstep
    split
    · rename_i hcheck
      exact accountInv_checkpoint h (hspec.moved (hspec.checkpoint.1 hcheck))
    · rename_i hcheck
      have hkept := hspec.kept (mt hspec.checkpoint.2 hcheck)
      refine ⟨fun p channel hchannel => ?_, h.le, h.small⟩
      obtain ⟨c, hc, hcounts⟩ := channel_of_counts hkept.input hkept.output hchannel
      exact hcounts ▸ h.channels p c hc
  | message message now =>
    simp only [streamStep] at hstep
    split at hstep
    · rename_i s' hs
      cases hstep
      exact accountInv_message h hharmless hs
    · cases hstep

/-- After an event the channels are accounted for only if it is harmless. -/
theorem harmless_of_accounted (h : AccountInv o) (hb : Bounded ops input o e)
    (hstep : ∀ o', streamStep ops input o e = some o' → Accounted o') : Harmless input o e := by
  cases e with
  | exec _ _ | restart _ | tick _ _ => trivial
  | data probe direction data =>
    refine harmless_data_iff.2 fun c hc => ?_
    have haccounted := hstep _ rfl
    rw [callbackProbeBuffer_eq] at haccounted
    have hcounts := channel_countBuffers (s := o.stream) probe (countedBuffers direction data) probe
    rw [hc] at hcounts
    obtain ⟨channel, hchannel, he⟩ := Option.map_eq_some_iff.1 hcounts
    obtain ⟨-, hdiff⟩ := haccounted probe channel hchannel
    obtain ⟨htotal, hprev⟩ := h.channels probe c hc
    have hle := h.le probe
    have hsmall := hb.2
    have hcounted := totalSize_counted_le direction data
    have htotal' : channel.totalBytes =
        c.totalBytes + UInt64.ofNat (totalSize (countedBuffers direction data)) := by
      simpa [counts] using congrArg Prod.fst he
    have hprev' : channel.prevTotalBytes = c.prevTotalBytes := congrArg Prod.snd he
    simp only [counts] at htotal hprev
    simp only [ChannelStats.getDiffTotalBytes, htotal', hprev', UInt64.toNat_sub, UInt64.toNat_add,
      UInt64.toNat_ofNat', Observed.passed, if_true] at hdiff
    omega
  | message message now =>
    cases message with
    | durationChanged duration =>
      intro p c hc
      cases hs : o.stream.handleAsyncBusMessageReceived input now (.durationChanged duration) with
      | error fault => simp [Bounded, streamStep, hs] at hb
      | ok s' =>
        have haccounted := hstep { o with stream := s' } (by simp [streamStep, hs])
        have hdurations : o.stream.updateDurations now duration input 0 = .ok s' := hs
        have hcounts := channel_updateDurations hdurations p
        rw [hc] at hcounts
        obtain ⟨channel, hchannel, he⟩ := Option.map_eq_some_iff.1 hcounts
        obtain ⟨-, hdiff⟩ := haccounted p channel hchannel
        obtain ⟨-, hdiff'⟩ := (h.channels p c hc).accounted
        have htotal : channel.totalBytes =
            c.totalBytes + durationBytes o.stream.probeIn duration input 0 p :=
          congrArg Prod.fst he
        have hprev : channel.prevTotalBytes = c.prevTotalBytes := congrArg Prod.snd he
        have hsame : channel.getDiffTotalBytes = c.getDiffTotalBytes :=
          UInt64.toNat_inj.1 (hdiff.trans hdiff'.symm)
        simp only [ChannelStats.getDiffTotalBytes, htotal, hprev] at hsame
        grind
    | _ => trivial

/-- **Accounting**: in every run with less than `2 ^ 63` bytes of traffic, the channels are
accounted for throughout exactly when every event is harmless. -/
theorem accounted_iff (ops : DesireOps δ) (input : List InputUri) (stream : LiveStream δ)
    (clock : Int64) (events : List StreamEvent) (hfresh : Fresh stream)
    (hb : Along (streamStep ops input) (Bounded ops input) (.start stream clock) events) :
    Always (streamStep ops input) Accounted (.start stream clock) events ↔
      Along (streamStep ops input) (Harmless input) (.start stream clock) events :=
  always_iff_under (I := AccountInv) (fun _ => AccountInv.accounted)
    (fun _ _ hI hb => ⟨harmless_of_accounted hI hb, fun hC _ hstep =>
      (accountInv_step hI hb hC hstep).accounted⟩)
    (fun _ _ _ hI hb hC hstep => accountInv_step hI hb hC hstep)
    (accountInv_start hfresh clock) hb

theorem fresh_sampleStream : Fresh sampleStream := by
  intro channel hc
  simp only [sampleStream, List.cons_append, List.nil_append, List.mem_cons, List.not_mem_nil,
    or_false] at hc
  rcases hc with rfl | rfl <;> rfl

theorem accounted_iff_sample :
    Fresh sampleStream ∧
      Along (streamStep sampleOps []) (Bounded sampleOps []) (.start sampleStream 0)
        [.exec [0] 1000, .data ⟨.probeIn, 0⟩ .src (.buffer ⟨188, 2000⟩)] ∧
      (Always (streamStep sampleOps []) Accounted (.start sampleStream 0)
          [.exec [0] 1000, .data ⟨.probeIn, 0⟩ .src (.buffer ⟨188, 2000⟩)] ↔
        Along (streamStep sampleOps []) (Harmless []) (.start sampleStream 0)
          [.exec [0] 1000, .data ⟨.probeIn, 0⟩ .src (.buffer ⟨188, 2000⟩)]) := by
  have hb : Along (streamStep sampleOps []) (Bounded sampleOps []) (.start sampleStream 0)
      [.exec [0] 1000, .data ⟨.probeIn, 0⟩ .src (.buffer ⟨188, 2000⟩)] := by
    refine ⟨⟨rfl, trivial⟩, fun o ho => ⟨⟨rfl, ?_⟩, fun _ _ => trivial⟩⟩
    cases ho
    decide
  exact ⟨fresh_sampleStream, hb, accounted_iff sampleOps [] sampleStream 0 _ fresh_sampleStream hb⟩

/-- An input over HTTP. -/
def httpInput : List InputUri := [{ input := { scheme := .http } }]

/-- `GST_CLOCK_TIME_NONE` is counted as bytes of the input, and a buffer list at its source pad is
not counted. -/
theorem accounting_lost :
    Fresh sampleStream ∧
      (Along (streamStep sampleOps httpInput) (Bounded sampleOps httpInput) (.start sampleStream 0)
          [.exec [0] 1000, .message (.durationChanged (-1)) 2000] ∧
        ¬ Always (streamStep sampleOps httpInput) Accounted (.start sampleStream 0)
          [.exec [0] 1000, .message (.durationChanged (-1)) 2000]) ∧
      (Along (streamStep sampleOps httpInput) (Bounded sampleOps httpInput) (.start sampleStream 0)
          [.exec [0] 1000, .data ⟨.probeIn, 0⟩ .src (.bufferList [⟨188, 2000⟩])] ∧
        ¬ Always (streamStep sampleOps httpInput) Accounted (.start sampleStream 0)
          [.exec [0] 1000, .data ⟨.probeIn, 0⟩ .src (.bufferList [⟨188, 2000⟩])]) := by
  refine ⟨fresh_sampleStream,
    ⟨⟨⟨rfl, trivial⟩, fun o ho => ⟨⟨?_, trivial⟩, fun _ _ => trivial⟩⟩, ?_⟩,
    ⟨⟨rfl, trivial⟩, fun o ho => ⟨⟨rfl, ?_⟩, fun _ _ => trivial⟩⟩, ?_⟩
  · cases ho
    rfl
  · intro h
    obtain ⟨-, hdiff⟩ := (h.2 _ rfl).2 _ rfl ⟨.probeIn, 0⟩ _ rfl
    exact absurd hdiff (by decide)
  · cases ho
    decide
  · intro h
    obtain ⟨-, hdiff⟩ := (h.2 _ rfl).2 _ rfl ⟨.probeIn, 0⟩ _ rfl
    exact absurd hdiff (by decide)

end IptvCloud.Streams
