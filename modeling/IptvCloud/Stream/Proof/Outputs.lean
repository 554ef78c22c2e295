import IptvCloud.Stream.Proof.Converters

/-!
# What the outputs add to a pipeline

The elements of an output have its number in their names, so that two outputs are apart. Within one
output the names are apart unless a video and an audio of MPEG go towards rtp (`Builder.sharesPay`,
`ToRtp`): `make_mpeg2_pay` gives the pay of an audio the name of the pay of a video.
-/

namespace IptvCloud.Streams.Builders

open Footprint

variable {lib : Library} {run : Run} {D : Prop} {E : Fault → Prop} {i : Nat}

/-! ## Pays -/

/-- The audio is MPEG. -/
def Builder.mpegAudio : Builder → Bool
  | .encoding config => config.audioEncoder = "lamemp3enc"
  | .relay config => config.audioParser = "mpegaudioparse"
  | .timeShiftRecorder config => config.audioParser = "mpegaudioparse"

/-- The template of the pay of an audio. -/
def audioPayTemplate (mpeg : Bool) : Template := if mpeg then .videoPay else .audioPay

theorem makeVideoPay_eq (vcodec : SupportedVideoCodec) (payId : Nat) :
    ∃ plugin, makeVideoPay vcodec payId = ⟨plugin, memSPrintf .videoPay payId⟩ := by
  cases vcodec <;> exact ⟨_, rfl⟩

theorem makeAudioPay_eq (acodec : SupportedAudioCodec) (payId : Nat) :
    ∃ plugin, makeAudioPay acodec payId =
      ⟨plugin, memSPrintf (audioPayTemplate (acodec = .mpeg)) payId⟩ := by
  cases acodec <;> exact ⟨_, rfl⟩

section
variable (hE : Tolerates run D E)
include hE

theorem places_codec {γ : Type} (codec : γ) : Places [] i D E (fun _ => True)
    (do
      notReached run
      return codec) :=
  (places_notReached hE).bind (fun _ _ => .pure trivial) (.inr (by simp))

theorem places_getVideoCodecType (builder : Builder) :
    Places [] i D E (fun _ => True) (builder.getVideoCodecType run) := by
  cases builder
  all_goals
    simp only [Builder.getVideoCodecType, Builder.getVideoCodecType.ofParser]
    split_ifs
    all_goals first
      | exact .pure trivial
      | exact places_codec hE _

end

theorem places_audioParserCodec {parser : String} (h : parser ∈ audioParsers) :
    Places [] i D E (fun codec => decide (codec = .mpeg) = decide (parser = "mpegaudioparse"))
      (Builder.getAudioCodecType.ofParser run parser) := by
  simp only [audioParsers, List.mem_cons, List.not_mem_nil, or_false] at h
  unfold Builder.getAudioCodecType.ofParser
  rcases h with rfl | rfl | rfl
  all_goals exact .pure (by decide)

/-- A codec that is known is not left to `NOTREACHED`. -/
theorem places_getAudioCodecType {builder : Builder} (h : builder.AudioKnown) :
    Places [] i D E (fun codec => decide (codec = .mpeg) = builder.mpegAudio)
      (builder.getAudioCodecType run) := by
  cases builder with
  | encoding config =>
    simp only [Builder.AudioKnown, audioEncoders, List.mem_cons, List.not_mem_nil, or_false] at h
    rcases h with h | h | h
    all_goals
      simp only [Builder.getAudioCodecType, Builder.mpegAudio, h]
      exact .pure (by decide)
  | relay config => exact places_audioParserCodec h
  | timeShiftRecorder config => exact places_audioParserCodec h

/-! ## The video and the audio of an output -/

/-- Templates that are used under a condition. -/
def onlyIf (holds : Bool) (L : List Template) : List Template := if holds then L else []

theorem Places.stepIf_only {L : List Template} {Q : Option Element → Prop} {holds : Bool}
    {last : Option Element} {step : Build (Option Element)}
    (hstep : holds = true → Places L i D E Q step) (hskip : holds = false → Q last) :
    Places (onlyIf holds L) i D E Q (Builders.stepIf holds last step) := by
  cases holds with
  | true => exact hstep rfl
  | false => exact .pure (hskip rfl)

theorem Places.doIf_only {L : List Template} {holds : Bool} {step : Build Unit}
    (hstep : holds = true → Places L i D E (fun _ => True) step) :
    Places (onlyIf holds L) i D E (fun _ => True) (Builders.doIf holds step) := by
  cases holds with
  | true => exact hstep rfl
  | false => exact .pure trivial

/-- The templates of the video of an output. -/
def videoTemplates (isRtpOut : Bool) : List Template :=
  .videoTeeQueue :: onlyIf isRtpOut [.videoPay]

/-- The templates of the audio of an output. -/
def audioTemplates (isRtpOut mpeg : Bool) : List Template :=
  .audioTeeQueue :: onlyIf isRtpOut [audioPayTemplate mpeg]

section
variable (hE : Tolerates run D E)
include hE

/-- A queue and, towards rtp, a pay, between an end and the muxer. -/
theorem places_toMux {queue pay : Template} {last mux : Option Element} {isRtpOut : Bool}
    {makePay : Option Element → Build (Option Element)} (hlast : last.isSome = true)
    (hmux : mux.isSome = true) (hne : queue ≠ pay) (hpay : ∀ next : Option Element,
      next.isSome = true → Places [pay] i D E (fun o => o.isSome = true) (makePay next)) :
    Places (queue :: onlyIf isRtpOut [pay]) i D E (fun _ => True) (do
      let next ← appendElement run last ⟨"queue", memSPrintf queue i⟩
      let next ← stepIf isRtpOut next (makePay next)
      elementLink run next mux) := by
  refine (places_appendElement hE "queue" (.inl hlast)).bind (fun next hnext => ?_) (.inr ?_)
  · refine (Places.stepIf_only (fun _ => hpay next hnext.1) fun _ => hnext.1).bind_nil ?_
    intro next hnext
    exact (places_elementLink hE (.inl ⟨hnext, hmux⟩)).post fun _ _ => trivial
  · cases isRtpOut <;> simp [hne]

theorem places_linkVideo (builder : Builder) {conn : Connector} {mux : Option Element}
    {isRtpOut : Bool} (hconn : conn.video.isSome = true) (hmux : mux.isSome = true) :
    Places (videoTemplates isRtpOut) i D E (fun _ => True)
      (builder.linkVideo run conn mux isRtpOut i) := by
  refine places_toMux hE hconn hmux (by decide) fun next hnext => ?_
  refine (places_getVideoCodecType hE builder).bind (fun vcodec _ => ?_) (.inr (by simp))
  obtain ⟨plugin, hpay⟩ := makeVideoPay_eq vcodec i
  rw [hpay]
  exact (places_appendElement hE plugin (.inl hnext)).post fun _ h => h.1

theorem places_linkAudio {builder : Builder} {conn : Connector} {mux : Option Element}
    {isRtpOut : Bool} (hknown : builder.AudioKnown) (hconn : conn.audio.isSome = true)
    (hmux : mux.isSome = true) :
    Places (audioTemplates isRtpOut builder.mpegAudio) i D E (fun _ => True)
      (builder.linkAudio run conn mux isRtpOut i) := by
  have hne : Template.audioTeeQueue ≠ audioPayTemplate builder.mpegAudio := by
    cases builder.mpegAudio <;> decide
  refine places_toMux hE hconn hmux hne fun next hnext => ?_
  refine (places_getAudioCodecType hknown).bind (fun acodec hcodec => ?_) (.inr (by simp))
  obtain ⟨plugin, hpay⟩ := makeAudioPay_eq acodec i
  rw [hpay, hcodec]
  exact (places_appendElement hE plugin (.inl hnext)).post fun _ h => h.1

end

/-! ## One output -/

/-- `build_output` makes a sink. -/
def SinkMade (lib : Library) (output : OutputUri) : Prop :=
  match output.output.scheme with
  | .udp | .tcp => (lib.toHostAndPort output.output.host).isSome = true
  | .rtmp => True
  | .http => (lib.fileName output.output.path).isEmpty = false
  | _ => False

/-- An output is done with: it is a device, which is skipped, or there is a sink for it. -/
def OutputMade (lib : Library) (output : OutputUri) : Prop :=
  isDeviceOutUrl lib output.output = true ∨ SinkMade lib output

/-- An output towards rtp. -/
def ToRtp (lib : Library) (output : OutputUri) : Prop :=
  isDeviceOutUrl lib output.output = false ∧ output.output.scheme = .udp

/-- A video, and an audio with a pay of the same name. -/
def Builder.sharesPay (builder : Builder) : Bool :=
  builder.config.haveVideo && builder.config.haveAudio && builder.mpegAudio

/-- The templates of `BuildOutput`. -/
def outputTemplates : List Template :=
  [.muxer, .videoTeeQueue, .videoPay, .audioTeeQueue, .audioPay, .sink, .splitSink]

/-- The templates of one output. -/
def oneOutputTemplates (haveVideo haveAudio isRtpOut mpeg : Bool) : List Template :=
  [.muxer] ++ (onlyIf haveVideo (videoTemplates isRtpOut) ++
    (onlyIf haveAudio (audioTemplates isRtpOut mpeg) ++ [.sink]))

theorem oneOutputTemplates_subset : ∀ haveVideo haveAudio isRtpOut mpeg : Bool,
    ∀ t ∈ oneOutputTemplates haveVideo haveAudio isRtpOut mpeg, t ∈ outputTemplates := by
  decide

theorem muxer_apart : ∀ haveVideo haveAudio isRtpOut mpeg : Bool,
    ∀ t ∈ [Template.muxer], t ∉ onlyIf haveVideo (videoTemplates isRtpOut) ++
      (onlyIf haveAudio (audioTemplates isRtpOut mpeg) ++ [.sink]) := by
  decide

/-- The video is apart from the audio unless they share the pay. -/
theorem video_apart : ∀ haveVideo haveAudio isRtpOut mpeg : Bool,
    (isRtpOut = true → (haveVideo && haveAudio && mpeg) = false) →
      ∀ t ∈ onlyIf haveVideo (videoTemplates isRtpOut),
        t ∉ onlyIf haveAudio (audioTemplates isRtpOut mpeg) ++ [.sink] := by
  decide

theorem audio_apart : ∀ haveAudio isRtpOut mpeg : Bool,
    ∀ t ∈ onlyIf haveAudio (audioTemplates isRtpOut mpeg), t ∉ [Template.sink] := by
  decide

section
variable (hE : Tolerates run D E)
include hE

theorem places_makeMuxer (lib : Library) {output : OutputUri} : Places [] i D E
    (fun o => (SinkMade lib output → o.isSome = true) ∧
      ∀ e, o = some e → e.name = memSPrintf .muxer i)
    (makeMuxer run output.output.scheme i) := by
  unfold makeMuxer SinkMade
  cases output.output.scheme
  case rtmp | udp | tcp | http =>
    refine .pure ⟨fun _ => rfl, ?_⟩
    rintro e ⟨⟩
    rfl
  all_goals exact places_null hE ⟨False.elim, by simp⟩

theorem places_makeSinkIf {holds : Bool} (plugin : String) : Places [] i D E
    (fun o => (o.isSome = true ↔ holds = true) ∧ ∀ e, o = some e → e.name = memSPrintf .sink i)
    (makeSinkIf run holds plugin i) := by
  refine Places.ite (fun h => .pure ⟨by simp [h], ?_⟩) fun h =>
    places_null hE ⟨by simp [h], by simp⟩
  rintro e ⟨⟩
  rfl

theorem places_buildOutput {output : OutputUri} : Places [] i D E
    (fun o => (o.isSome = true ↔ SinkMade lib output) ∧
      ∀ e, o = some e → e.name = memSPrintf .sink i)
    (buildOutput lib run output i) := by
  unfold buildOutput SinkMade
  cases output.output.scheme
  case udp => exact places_makeSinkIf hE "udpsink"
  case tcp => exact places_makeSinkIf hE "tcpserversink"
  case rtmp =>
    refine .pure ⟨by simp, ?_⟩
    rintro e ⟨⟩
    rfl
  case http =>
    refine (places_makeSinkIf hE "hlssink").post fun o ho => ⟨?_, ho.2⟩
    rw [ho.1, Bool.not_eq_true']
  all_goals exact places_null hE ⟨by simp, by simp⟩

theorem places_buildGenericOutput {output : OutputUri}
    (h : SinkMade lib output ∨ E .nullElement) :
    Places [] i D E
      (fun o => o.isSome = true ∧ SinkMade lib output ∧
        ∀ e, o = some e → e.name = memSPrintf .sink i)
      (buildGenericOutput lib run output i) := by
  refine (places_buildOutput hE).bind (fun sink ⟨hsome, hname⟩ => ?_) (.inr (by simp))
  refine (places_deref (h.imp hsome.2 id)).bind (fun e he => ?_) (.inr (by simp))
  have hmade : sink.isSome = true := by rw [he]; rfl
  exact .pure ⟨hmade, hsome.1 hmade, hname⟩

/-- The round of an output where its names are apart. -/
theorem places_buildOneOutput {builder : Builder} {conn : Connector} {output : OutputUri}
    (hconn : WellConnected builder.config conn) (hknown : builder.PluginsKnown)
    (hmade : OutputMade lib output ∨ E .nullElement)
    (hshare : D ∨ ¬ (builder.sharesPay = true ∧ ToRtp lib output)) :
    Places outputTemplates i D E (fun _ => OutputMade lib output)
      (builder.buildOneOutput lib run conn output i) := by
  unfold Builder.buildOneOutput
  refine Places.ite (fun hdevice => ?_) fun hdevice => ?_
  · exact (places_criticalLog hE).mono (by simp) fun _ _ => .inl hdevice
  have hsink : SinkMade lib output ∨ E .nullElement := by
    refine hmade.imp (fun h => h.resolve_left ?_) id
    rw [hdevice]
    exact Bool.false_ne_true
  have hshare : D ∨ (decide (output.output.scheme = .udp) = true → builder.sharesPay = false) := by
    refine hshare.imp id fun h hudp => Bool.eq_false_iff.2 fun hshares => ?_
    exact h ⟨hshares, hdevice, of_decide_eq_true hudp⟩
  refine Places.mono ?_ (oneOutputTemplates_subset builder.config.haveVideo
    builder.config.haveAudio (output.output.scheme = .udp) builder.mpegAudio) fun _ h => h
  refine (places_makeMuxer hE lib).bind (fun mux ⟨hmux, hname⟩ => ?_) (.inr (by simp))
  refine (places_elementAdd hE hname (hsink.imp hmux id)).bind (fun _ hadded => ?_)
    (.inr (muxer_apart _ _ _ _))
  refine (Places.doIf_only fun hhas => places_linkVideo hE builder (by rw [hconn.video, hhas])
    hadded).bind (fun _ _ => ?_) (hshare.imp id (video_apart _ _ _ _))
  refine (Places.doIf_only fun hhas => places_linkAudio hE (hknown.audio hhas)
    (by rw [hconn.audio, hhas]) hadded).bind (fun _ _ => ?_) (.inr (audio_apart _ _ _))
  refine (places_buildGenericOutput hE hsink).bind (fun sink ⟨hsome, hs, hname⟩ => ?_)
    (.inr (by simp))
  refine (places_elementAdd hE hname (.inl hsome)).bind_nil fun _ _ => ?_
  exact (places_elementLink hE (.inl ⟨hadded, hsome⟩)).post fun _ _ => .inr hs

end

/-! ## All outputs -/

/-- The names of the outputs from a number on. -/
def OutputNames (n : Nat) : Set String :=
  {name | ∃ t ∈ outputTemplates, ∃ j, n ≤ j ∧ name = memSPrintf t j}

theorem names_union_outputNames (n : Nat) :
    Names outputTemplates n ∪ OutputNames (n + 1) ⊆ OutputNames n := by
  rintro name (⟨t, ht, hname⟩ | ⟨t, ht, j, hj, hname⟩)
  · exact ⟨t, ht, n, Nat.le_refl n, hname⟩
  · exact ⟨t, ht, j, Nat.le_of_succ_le hj, hname⟩

theorem disjoint_outputNames {L : List Template} {i n : Nat}
    (h : ∀ j, n ≤ j → i = j → ∀ t ∈ L, t ∉ outputTemplates) :
    Disjoint (Names L i) (OutputNames n) := by
  rw [Set.disjoint_left]
  rintro name ⟨t, ht, rfl⟩ ⟨t', ht', j, hj, hname⟩
  obtain ⟨rfl, hij⟩ := memSPrintf_inj hname
  exact h j hj hij t ht ht'

theorem disjoint_succ_outputNames (n : Nat) :
    Disjoint (Names outputTemplates n) (OutputNames (n + 1)) :=
  disjoint_outputNames fun j hj hij => by omega

/-- There is an output towards rtp, and those before it are done with. -/
def ReachesRtp (lib : Library) (outputs : List OutputUri) : Prop :=
  ∃ before output after, outputs = before ++ output :: after ∧
    (∀ o ∈ before, OutputMade lib o) ∧ ToRtp lib output

theorem not_reachesRtp_nil : ¬ ReachesRtp lib [] := by
  rintro ⟨before, output, after, h, -⟩
  simp at h

theorem reachesRtp_cons {output : OutputUri} {outputs : List OutputUri} :
    ReachesRtp lib (output :: outputs) ↔
      ToRtp lib output ∨ (OutputMade lib output ∧ ReachesRtp lib outputs) := by
  constructor
  · rintro ⟨before, output', after, heq, hbefore, hrtp⟩
    cases before with
    | nil =>
      cases heq
      exact .inl hrtp
    | cons o before =>
      cases heq
      obtain ⟨hmade, hbefore⟩ := List.forall_mem_cons.1 hbefore
      exact .inr ⟨hmade, before, output', after, rfl, hbefore, hrtp⟩
  · rintro (hrtp | ⟨hmade, before, output', after, rfl, hbefore, hrtp⟩)
    · exact ⟨[], output, outputs, rfl, by simp, hrtp⟩
    · exact ⟨output :: before, output', after, rfl, List.forall_mem_cons.2 ⟨hmade, hbefore⟩, hrtp⟩

/-- The loop of `BuildOutput`. -/
def Builder.outputLoop (lib : Library) (run : Run) (builder : Builder) (conn : Connector)
    (outputs : List (OutputUri × Nat)) : Build Unit :=
  outputs.foldlM (fun _ output => builder.buildOneOutput lib run conn output.1 output.2) ()

theorem outputLoop_cons {builder : Builder} {conn : Connector} {output : OutputUri} {n : Nat}
    {outputs : List (OutputUri × Nat)} :
    builder.outputLoop lib run conn ((output, n) :: outputs) =
      builder.buildOneOutput lib run conn output n >>= fun _ =>
        builder.outputLoop lib run conn outputs :=
  rfl

section
variable (hE : Tolerates run D E)
include hE

/-- The names of the outputs are apart unless one is reached that shares a pay. -/
theorem adds_outputLoop {builder : Builder} {conn : Connector}
    (hconn : WellConnected builder.config conn) (hknown : builder.PluginsKnown)
    (hnull : E .nullElement) (outputs : List OutputUri) (n : Nat)
    (hshare : D ∨ ¬ (builder.sharesPay = true ∧ ReachesRtp lib outputs)) :
    Adds Element.name D (OutputNames n) E (fun _ => True)
      (builder.outputLoop lib run conn (outputs.zipIdx n)) := by
  induction outputs generalizing n with
  | nil => exact .pure trivial
  | cons output outputs ih =>
    have hone : D ∨ ¬ (builder.sharesPay = true ∧ ToRtp lib output) :=
      hshare.imp id fun h hrtp => h ⟨hrtp.1, reachesRtp_cons.2 (.inl hrtp.2)⟩
    have hrest : OutputMade lib output →
        D ∨ ¬ (builder.sharesPay = true ∧ ReachesRtp lib outputs) := fun hmade =>
      hshare.imp id fun h hrtp => h ⟨hrtp.1, reachesRtp_cons.2 (.inr ⟨hmade, hrtp.2⟩)⟩
    rw [List.zipIdx_cons, outputLoop_cons]
    exact (Adds.bind (places_buildOneOutput hE hconn hknown (.inr hnull) hone)
      (fun _ hmade => ih (n + 1) (hrest hmade)) (.inr (disjoint_succ_outputNames n))).mono
      (names_union_outputNames n) fun _ h => h

/-- The connectors of a recorder are both linked to its sink. -/
theorem places_buildRecorderOutput {config : AudioVideoConfig} {conn : Connector}
    (hconn : WellConnected config conn)
    (h : (config.haveVideo = true ∧ config.haveAudio = true) ∨ E .nullLink) :
    Places [.splitSink] 0 D E
      (fun conn => WellConnected config conn ∧ config.haveVideo = true ∧ config.haveAudio = true)
      (buildRecorderOutput conn) := by
  have hlink : ∀ src : Option Element, src.isSome = true ∨ E .nullLink →
      Places [] 0 D E (fun _ => src.isSome = true) (linkToMultiplexer src) := by
    intro src hsrc
    cases src with
    | none => exact places_throw (hsrc.resolve_left (by simp))
    | some src => exact .pure rfl
  refine (places_add hE "splitmuxsink").bind_nil fun _ _ => ?_
  refine (hlink conn.audio ?_).bind_nil fun _ haudio => ?_
  · exact h.imp (fun h => by rw [hconn.audio, h.2]) id
  refine (hlink conn.video ?_).bind_nil fun _ hvideo => ?_
  · exact h.imp (fun h => by rw [hconn.video, h.1]) id
  rw [hconn.audio] at haudio
  rw [hconn.video] at hvideo
  exact .pure ⟨hconn, hvideo, haudio⟩

end

/-! ## A shared pay -/

theorem leads_elementAdd (e : Element) :
    Leads (fun _ => True) (elementAdd (some e)) fun _ => Taken Element.name e.name := by
  intro s _ s' _ hrun
  rw [run_elementAdd] at hrun
  split_ifs at hrun
  cases hrun
  exact ⟨e, by simp, rfl⟩

theorem refuses_elementAdd (e : Element) :
    Leads (Taken Element.name e.name) (elementAdd (some e)) fun _ _ => False := by
  intro s _ s' htaken hrun
  rw [run_elementAdd, if_pos (List.mem_map.2 htaken)] at hrun
  cases hrun

/-- Where any fault may be, each rule is a frame. -/
theorem tolerates_any (run : Run) : Tolerates run True fun _ => True :=
  ⟨fun _ _ => trivial, fun _ _ _ => trivial, fun _ => trivial⟩

theorem leads_appendElement (last : Option Element) (e : Element) :
    Leads (fun _ => True) (appendElement run last e) fun _ => Taken Element.name e.name := by
  refine (leads_elementAdd e).bind fun _ => ?_
  exact (places_elementLink (i := 0) (tolerates_any run) (.inr trivial)).keeps_bind fun _ _ => .pure

theorem leads_linkVideo (builder : Builder) (conn : Connector) (mux : Option Element) :
    Leads (fun _ => True) (builder.linkVideo run conn mux true i) fun _ =>
      Taken Element.name (memSPrintf .videoPay i) := by
  refine Leads.trivial.bind fun next => ?_
  refine Leads.bind (R := fun _ => Taken Element.name (memSPrintf .videoPay i)) ?_ fun next => ?_
  · refine Leads.trivial.bind fun vcodec => ?_
    obtain ⟨plugin, hpay⟩ := makeVideoPay_eq vcodec i
    rw [hpay]
    exact leads_appendElement next _
  · intro s b s' hs hrun
    exact ((places_elementLink (i := i) (tolerates_any run) (.inr trivial)).keeps s b s' hs hrun).2

theorem refuses_linkAudio {builder : Builder} {conn : Connector} {mux : Option Element}
    (hknown : builder.AudioKnown) (hmpeg : builder.mpegAudio = true) :
    Leads (Taken Element.name (memSPrintf .videoPay i)) (builder.linkAudio run conn mux true i)
      fun _ _ => False := by
  refine (places_appendElement (tolerates_any run) "queue" (.inr trivial)).keeps_bind
    fun next _ => ?_
  refine Leads.bind (R := fun _ _ => False) ?_ fun _ => .absurd
  refine (places_getAudioCodecType (E := fun _ => True) (i := i) hknown).keeps_bind
    fun acodec hcodec => ?_
  obtain ⟨plugin, hpay⟩ := makeAudioPay_eq acodec i
  rw [hcodec, hmpeg] at hpay
  rw [hpay]
  exact (refuses_elementAdd ⟨plugin, memSPrintf .videoPay i⟩).bind fun _ => .absurd

/-- A run in which all elements are linked and the `NOTREACHED`s return. -/
def quiet : Run := ⟨fun _ _ => true, false, false⟩

theorem tolerates_quiet (h : D → ∀ name, E (.duplicateName name)) : Tolerates quiet D E :=
  ⟨h, by simp [quiet], by simp [quiet]⟩

/-- A name that is taken. -/
def IsDuplicate (fault : Fault) : Prop := ∃ name, fault = .duplicateName name

theorem Places.clash {β γ δ : Type} {L L' : List Template} {Q : β → Prop} {R : γ → Prop}
    {S : δ → Prop} {x : Build β} {y : Build γ} {f : γ → Build δ} {name : String}
    (hx : Places L i True E Q x) (hy : Places L' i True E R y)
    (htakes : Leads (fun _ => True) x fun _ => Taken Element.name name)
    (hrefuses : Leads (Taken Element.name name) y fun _ _ => False) :
    Places (L ++ L') i True E S (x >>= fun _ => y >>= f) := by
  unfold Places
  rw [names_append]
  exact Adds.clash hx hy htakes hrefuses

/-- The second pay of the name is refused. -/
theorem places_clash {builder : Builder} {conn : Connector} {output : OutputUri}
    (hE : Tolerates run True E) (hconn : WellConnected builder.config conn)
    (hknown : builder.PluginsKnown) (hshares : builder.sharesPay = true) (hrtp : ToRtp lib output) :
    Places outputTemplates i True E (fun _ => False)
      (builder.buildOneOutput lib run conn output i) := by
  obtain ⟨hdevice, hudp⟩ := hrtp
  simp only [Builder.sharesPay, Bool.and_eq_true] at hshares
  obtain ⟨⟨hvideo, haudio⟩, hmpeg⟩ := hshares
  have haknown := hknown.audio haudio
  simp only [Builder.buildOneOutput, hdevice, hudp, hvideo, haudio, decide_true, doIf, if_true,
    Bool.false_eq_true, if_false, makeMuxer, pure_bind]
  refine Places.mono ((places_add hE "rtpmux").bind (fun _ _ => Places.clash
    (places_linkVideo hE builder (by rw [hconn.video, hvideo]) rfl)
    (places_linkAudio hE haknown (by rw [hconn.audio, haudio]) rfl)
    (leads_linkVideo builder conn _) (refuses_linkAudio haknown hmpeg)) (.inl trivial)) ?_
    fun _ h => h
  rw [hmpeg]
  decide

/-- The outputs fail where one that shares a pay is reached. -/
theorem adds_outputLoop_clash {builder : Builder} {conn : Connector}
    (hE : Tolerates run True E) (hconn : WellConnected builder.config conn)
    (hknown : builder.PluginsKnown) (hshares : builder.sharesPay = true)
    (outputs : List OutputUri) (n : Nat) (hreach : ReachesRtp lib outputs) :
    Adds Element.name True (OutputNames n) E (fun _ => False)
      (builder.outputLoop lib run conn (outputs.zipIdx n)) := by
  induction outputs generalizing n with
  | nil => exact absurd hreach not_reachesRtp_nil
  | cons output outputs ih =>
    rw [List.zipIdx_cons, outputLoop_cons]
    refine Adds.mono ?_ (names_union_outputNames n) fun _ h => h
    rcases reachesRtp_cons.1 hreach with hrtp | ⟨hmade, hrest⟩
    · exact Adds.bind (places_clash hE hconn hknown hshares hrtp) (fun _ h => h.elim)
        (.inl trivial)
    · exact Adds.bind (places_buildOneOutput hE hconn hknown (.inl hmade) (.inl trivial))
        (fun _ _ => ih (n + 1) hrest) (.inl trivial)

end IptvCloud.Streams.Builders
