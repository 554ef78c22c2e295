import IptvCloud.Stream.Proof.Outputs

/-!
# The pipelines of the builders

The stages of `InitPipeline` in sequence. Two invariants and the configurations that keep them. The
ends of the pipeline are there for the kinds of data that the stream has, and no null pointer is
linked (`ConnectorInvariant`): a video that is converted on a GPU loses its end, and a recorder
links both ends whatever the stream has. The names of the elements are distinct (`DistinctNames`): a
video and an audio of MPEG towards rtp share the name of their pays.
-/

namespace IptvCloud.Streams.Builders

open Footprint

variable {lib : Library} {run : Run} {D : Prop} {E : Fault → Prop} {builder : Builder}

/-! ## Stages -/

/-- The input is opened, and its data is taken up. -/
structure Builder.Opened (lib : Library) (builder : Builder) : Prop where
  source : SourceMade lib builder.config
  parsers : builder.ParsersKnown

/-- The templates of the stages before the outputs. -/
def stageTemplates : List Template :=
  [.src, .decodebin] ++ [.udbVideo, .udbAudio] ++ postProcTemplates ++ converterTemplates

theorem initPipeline_eq (lib : Library) (run : Run) (builder : Builder) :
    builder.initPipeline lib run = builder.buildUpTo lib run .output >>= fun _ => pure true := by
  simp only [Builder.initPipeline, Builder.buildUpTo, bind_assoc]

section
variable (hE : Tolerates run D E) (hopen : builder.Opened lib ∨ Lenient E)
  (hgpu : builder.Opened lib → builder.onGpu = true → E .nullLink)
include hE hopen

theorem places_udbConnections :
    Places ([.src, .decodebin] ++ [.udbVideo, .udbAudio]) 0 D E
      (fun conn => WellConnected builder.config conn ∧ builder.Opened lib)
      (builder.buildUpTo lib run .udbConnections) := by
  refine (places_buildInput hE (hopen.imp (·.source) id)).bind ?_ (.inr (by decide))
  rintro conn ⟨rfl, hsource⟩
  exact (places_buildUdbConnections hE builder (hopen.imp (·.parsers) id)).post
    fun conn ⟨hconn, hparsers⟩ => ⟨hconn, hsource, hparsers⟩

include hgpu

theorem places_postProc :
    Places ([.src, .decodebin] ++ [.udbVideo, .udbAudio] ++ postProcTemplates) 0 D E
      (fun conn => builder.PostProcessed conn ∧ builder.Opened lib)
      (builder.buildUpTo lib run .postProc) := by
  refine (places_udbConnections hE hopen).bind (fun conn ⟨hconn, hopened⟩ => ?_) (.inr (by decide))
  exact (places_buildPostProc hE builder hconn (hgpu hopened)).post
    fun conn hconn => ⟨hconn, hopened⟩

theorem places_converter (hknown : builder.PluginsKnown ∨ E .nullElement) :
    Places stageTemplates 0 D E
      (fun conn => WellConnected builder.config conn ∧ builder.Opened lib ∧
        builder.onGpu = false ∧ builder.PluginsKnown)
      (builder.buildUpTo lib run .converter) := by
  refine (places_postProc hE hopen hgpu).bind (fun conn ⟨hconn, hopened⟩ => ?_) (.inr (by decide))
  refine (places_buildConverter hE builder hconn (hgpu hopened) hopened.parsers hknown).post ?_
  exact fun conn ⟨hconn, hrest⟩ => ⟨hconn, hopened, hrest⟩

end

/-! ## Outputs -/

/-- A recorder links both ends to its sink. -/
def Builder.LinksBoth : Builder → Prop
  | .timeShiftRecorder config => config.haveVideo = true ∧ config.haveAudio = true
  | .encoding _ | .relay _ => True

/-- An output is reached towards which two pays of one name are added. -/
def Builder.PaysTwice (lib : Library) : Builder → Prop
  | .timeShiftRecorder _ => False
  | builder => builder.sharesPay = true ∧ ReachesRtp lib builder.config.output

/-- The pipeline is built up to such an output. -/
structure Builder.Clashes (lib : Library) (builder : Builder) : Prop where
  opened : builder.Opened lib
  onCpu : builder.onGpu = false
  plugins : builder.PluginsKnown
  output : builder.PaysTwice lib

theorem disjoint_stageTemplates : Disjoint (Names stageTemplates 0) (OutputNames 0) :=
  disjoint_outputNames fun _ _ _ => by decide

section
variable (hE : Tolerates run D E) (hlenient : Lenient E)
include hE hlenient

theorem adds_buildOutput {conn : Connector} (hconn : WellConnected builder.config conn)
    (hknown : builder.PluginsKnown) (hlinks : builder.LinksBoth ∨ E .nullLink)
    (hpays : D ∨ ¬ builder.PaysTwice lib) :
    Adds Element.name D (OutputNames 0) E (WellConnected builder.config)
      (builder.buildOutput lib run conn) := by
  have houtputs : ∀ (builder : Builder), WellConnected builder.config conn → builder.PluginsKnown →
      D ∨ ¬ (builder.sharesPay = true ∧ ReachesRtp lib builder.config.output) →
      Adds Element.name D (OutputNames 0) E (WellConnected builder.config)
        (builder.buildOutputs lib run conn) := by
    intro builder hconn hknown hpays
    exact (adds_outputLoop hE hconn hknown hlenient.nullElement _ 0 hpays).bind_pure
      fun _ _ => hconn
  cases builder with
  | encoding config => exact houtputs (.encoding config) hconn hknown hpays
  | relay config => exact houtputs (.relay config) hconn hknown hpays
  | timeShiftRecorder config =>
    refine Adds.mono (places_buildRecorderOutput hE hconn hlinks) ?_ fun conn hconn => hconn.1
    rintro name ⟨t, ht, hname⟩
    exact ⟨t, by simp_all [outputTemplates], 0, Nat.le_refl 0, hname⟩

theorem adds_output (hgpu : builder.Opened lib → builder.onGpu = true → E .nullLink)
    (hlinks : builder.Opened lib → builder.LinksBoth ∨ E .nullLink)
    (hclash : D ∨ ¬ builder.Clashes lib) :
    Adds Element.name D (Names stageTemplates 0 ∪ OutputNames 0) E (WellConnected builder.config)
      (builder.buildUpTo lib run .output) := by
  refine Adds.bind (places_converter hE (.inr hlenient) hgpu (.inr hlenient.nullElement)) ?_
    (.inr disjoint_stageTemplates)
  rintro conn ⟨hconn, hopened, hcpu, hknown⟩
  exact adds_buildOutput hE hlenient hconn hknown (hlinks hopened)
    (hclash.imp id fun h hpays => h ⟨hopened, hcpu, hknown, hpays⟩)

end

/-! ## Connectors -/

/-- From `BuildUdbConnections` on each stage returns the ends of the kinds of data that the stream
has, and no null pointer is linked. -/
structure ConnectorInvariant (lib : Library) (builder : Builder) : Prop where
  connected : ∀ run stage conn elements,
    (builder.buildUpTo lib run stage).run [] = .ok (conn, elements) →
      WellConnected builder.config conn
  nonNull : ∀ run, (builder.initPipeline lib run).run [] ≠ .error .nullLink

/-- No end is lost, and the ends that are linked are there. -/
structure Builder.KeepsEnds (builder : Builder) : Prop where
  onCpu : builder.onGpu = false
  both : builder.LinksBoth

theorem haveVideo_of_onGpu (h : builder.onGpu = true) : builder.config.haveVideo = true := by
  cases builder with
  | encoding config => exact (Bool.and_eq_true_iff.1 h).1
  | relay config => cases h
  | timeShiftRecorder config => cases h

theorem run_bind_error {β γ : Type} {x : Build β} {f : β → Build γ} {s : List Element}
    {fault : Fault} (h : x.run s = .error fault) : (x >>= f).run s = .error fault := by
  rw [StateT.run_bind, h]
  rfl

/-- A stage that fails is the end of the run. -/
theorem initPipeline_error {stage : Stage} {fault : Fault}
    (h : (builder.buildUpTo lib run stage).run [] = .error fault) :
    (builder.initPipeline lib run).run [] = .error fault := by
  rw [initPipeline_eq]
  refine run_bind_error ?_
  cases stage with
  | udbConnections => exact run_bind_error (run_bind_error (run_bind_error h))
  | postProc => exact run_bind_error (run_bind_error h)
  | converter => exact run_bind_error h
  | output => exact h

/-- A null pointer is linked at no stage where the ends are kept. -/
theorem adds_stage (h : builder.Opened lib → builder.KeepsEnds) (run : Run) (stage : Stage) :
    ∃ T, Adds Element.name True T (· ≠ Fault.nullLink) (WellConnected builder.config)
      (builder.buildUpTo lib run stage) := by
  have hE : Tolerates run True (· ≠ Fault.nullLink) := ⟨by simp, by simp, by simp⟩
  have hlenient : Lenient (· ≠ Fault.nullLink) := ⟨by simp, by simp, by simp⟩
  have hgpu : builder.Opened lib → builder.onGpu = true → Fault.nullLink ≠ Fault.nullLink :=
    fun hopened hgpu => absurd (h hopened).onCpu (by rw [hgpu]; exact Bool.noConfusion)
  cases stage with
  | udbConnections =>
    exact ⟨_, Places.post (places_udbConnections hE (.inr hlenient)) fun conn hconn => hconn.1⟩
  | postProc =>
    exact ⟨_, Places.post (places_postProc hE (.inr hlenient) hgpu)
      fun conn ⟨hconn, hopened⟩ => hconn.wellConnected (h hopened).onCpu⟩
  | converter =>
    exact ⟨_, Places.post (places_converter hE (.inr hlenient) hgpu (.inr hlenient.nullElement))
      fun conn hconn => hconn.1⟩
  | output =>
    exact ⟨_, adds_output hE hlenient hgpu (fun hopened => .inl (h hopened).both) (.inl trivial)⟩

theorem connectorInvariant_of_keepsEnds (h : builder.Opened lib → builder.KeepsEnds) :
    ConnectorInvariant lib builder where
  connected run stage conn elements hrun := by
    obtain ⟨T, hT⟩ := adds_stage h run stage
    have hstage := hT.run_nil
    rw [hrun] at hstage
    exact hstage.1
  nonNull run hrun := by
    obtain ⟨T, hT⟩ := adds_stage h run .output
    have hpipeline : Adds Element.name True T (· ≠ Fault.nullLink) (fun _ => True)
        (builder.initPipeline lib run) := by
      rw [initPipeline_eq]
      exact hT.bind_pure fun _ _ => trivial
    have hpipeline := hpipeline.run_nil
    rw [hrun] at hpipeline
    exact hpipeline rfl

/-- After the post processing on a GPU the end of the video is missing, or the logo is linked to
it. -/
theorem onCpu_of_connectorInvariant (h : ConnectorInvariant lib builder)
    (hopened : builder.Opened lib) : builder.onGpu = false := by
  refine Bool.eq_false_iff.2 fun hgpu => ?_
  have hpost := (places_postProc (D := False) (E := (· = Fault.nullLink))
    (tolerates_quiet False.elim) (.inl hopened) fun _ _ => rfl).run_nil
  cases hrun : (builder.buildUpTo lib quiet .postProc).run [] with
  | error fault =>
    rw [hrun] at hpost
    cases hpost
    exact h.nonNull quiet (initPipeline_error hrun)
  | ok p =>
    rw [hrun] at hpost
    have hlost := hpost.1.1.video
    have hvideo := (h.connected quiet .postProc p.1 p.2 hrun).video
    rw [hgpu, Bool.not_true, Bool.and_false] at hlost
    rw [haveVideo_of_onGpu hgpu, hlost] at hvideo
    cases hvideo

/-- A recorder links the end that its stream does not have. -/
theorem linksBoth_of_connectorInvariant (h : ConnectorInvariant lib builder)
    (hopened : builder.Opened lib) : builder.LinksBoth := by
  cases builder with
  | encoding config => trivial
  | relay config => trivial
  | timeShiftRecorder config =>
    have hE : Tolerates quiet False (· = Fault.nullLink) := tolerates_quiet False.elim
    have hstages := places_converter hE (.inl hopened) (fun _ _ => rfl)
      (.inl ⟨hopened.parsers.video, hopened.parsers.audio⟩)
    have houtput : Places (stageTemplates ++ [.splitSink]) 0 False (· = Fault.nullLink)
        (fun conn => WellConnected config.toAudioVideoConfig conn ∧
          (Builder.timeShiftRecorder config).LinksBoth)
        ((Builder.timeShiftRecorder config).buildUpTo lib quiet .output) :=
      hstages.bind (fun conn hconn => places_buildRecorderOutput hE hconn.1 (.inr rfl))
        (.inr (by decide))
    have houtput := houtput.run_nil
    cases hrun : ((Builder.timeShiftRecorder config).buildUpTo lib quiet .output).run [] with
    | error fault =>
      rw [hrun] at houtput
      cases houtput
      exact absurd (initPipeline_error hrun) (h.nonNull quiet)
    | ok p =>
      rw [hrun] at houtput
      exact houtput.1.2

/-- The connectors are kept unless the pipeline of a configuration that loses one is opened. -/
theorem connectorInvariant_iff (lib : Library) (builder : Builder) :
    ConnectorInvariant lib builder ↔ (builder.Opened lib → builder.KeepsEnds) :=
  ⟨fun h hopened =>
    ⟨onCpu_of_connectorInvariant h hopened, linksBoth_of_connectorInvariant h hopened⟩,
    connectorInvariant_of_keepsEnds⟩

/-! ### Two configurations that lose a connector -/

/-- The libraries on the configurations below. -/
def sampleLibrary : Library where
  toCommon := { Common.blank with
    parseUrl text := { path := text }
    toHostAndPort _ := some ("localhost", 6000) }
  isValidUrl url := url.scheme ≠ .unknown
  isValidSize size := 0 < size.1 ∧ 0 < size.2
  fileName := id

/-- A stream of one file. -/
def sampleConfig (type : StreamType) (haveAudio : Bool) (output : List OutputUri) :
    AudioVideoConfig where
  type := type
  maxRestartAttempts := 1
  ttlSec := none
  input := [{ input := { scheme := .file, path := "/1.ts" } }]
  output := output
  haveVideo := true
  haveAudio := haveAudio
  audioSelect := none
  avformat := false
  loop := false

/-- An encoding of a video on a GPU. -/
def sampleVaapi : EncodingConfig where
  toAudioVideoConfig := sampleConfig .encode true []
  deinterlace := none
  frameRate := none
  volume := none
  videoEncoder := "vaapih264enc"
  audioEncoder := "faac"
  audioChannelsCount := none
  videoEncoderArgs := ∅
  videoEncoderStrArgs := ∅
  size := (0, 0)
  videoBitRate := none
  audioBitRate := none
  logo := {}
  decklinkVideoMode := 0
  aspectRatio := none
  relayVideo := false
  relayAudio := false

/-- A recorder of a video without audio. -/
def sampleVideoRecorder : TimeshiftConfig where
  toAudioVideoConfig := sampleConfig .timeshiftRecorder false []
  videoParser := "h264parse"
  audioParser := "aacparse"
  timeshiftChunkDuration := 60

theorem connectorInvariant_fails :
    ¬ ConnectorInvariant sampleLibrary (.encoding sampleVaapi) ∧
      ¬ ConnectorInvariant sampleLibrary (.timeShiftRecorder sampleVideoRecorder) := by
  constructor
  · intro h
    have hvideo := (h.connected quiet .postProc _ _ rfl).video
    cases hvideo
  · intro h
    exact h.nonNull quiet rfl

/-! ## Names -/

/-- No element is added under a name that is taken, and the names of a pipeline are distinct. -/
structure DistinctNames (lib : Library) (builder : Builder) : Prop where
  accepted : ∀ run name, (builder.initPipeline lib run).run [] ≠ .error (.duplicateName name)
  nodup : ∀ run built elements, (builder.initPipeline lib run).run [] = .ok (built, elements) →
    (elements.map Element.name).Nodup

theorem distinctNames_of_not_clashes (h : ¬ builder.Clashes lib) : DistinctNames lib builder := by
  have hnames : ∀ run, Adds Element.name False (Names stageTemplates 0 ∪ OutputNames 0)
      (¬ IsDuplicate ·) (fun _ => True) (builder.initPipeline lib run) := by
    intro run
    have hE : Tolerates run False (¬ IsDuplicate ·) :=
      ⟨False.elim, by simp [IsDuplicate], by simp [IsDuplicate]⟩
    have hlenient : Lenient (¬ IsDuplicate ·) :=
      ⟨by simp [IsDuplicate], by simp [IsDuplicate], by simp [IsDuplicate]⟩
    rw [initPipeline_eq]
    exact (adds_output hE hlenient (by simp [IsDuplicate]) (by simp [IsDuplicate])
      (.inr h)).bind_pure fun _ _ => trivial
  constructor
  · intro run name hrun
    have hpipeline := (hnames run).run_nil
    rw [hrun] at hpipeline
    exact hpipeline ⟨name, rfl⟩
  · intro run built elements hrun
    have hpipeline := (hnames run).run_nil
    rw [hrun] at hpipeline
    exact hpipeline.2.resolve_left id

/-- The outputs after the stages fail. -/
theorem adds_clash (hE : Tolerates run True E) (h : builder.Clashes lib) :
    ∃ T, Adds Element.name True T E (fun _ => False) (builder.buildUpTo lib run .output) := by
  have hstages := places_converter hE (.inl h.opened)
    (fun _ hgpu => absurd h.onCpu (by rw [hgpu]; exact Bool.noConfusion)) (.inl h.plugins)
  have houtputs : ∀ (builder : Builder) conn, WellConnected builder.config conn →
      builder.PluginsKnown → builder.sharesPay = true → ReachesRtp lib builder.config.output →
      Adds Element.name True (OutputNames 0) E (fun _ => False)
        (builder.buildOutputs lib run conn) := fun builder conn hconn hknown hshares hreach =>
    (adds_outputLoop_clash hE hconn hknown hshares _ 0 hreach).bind_never
  refine ⟨Names stageTemplates 0 ∪ OutputNames 0,
    Adds.bind hstages (fun conn hconn => ?_) (.inl trivial)⟩
  have houtput := h.output
  cases builder with
  | encoding config => exact houtputs (.encoding config) conn hconn.1 h.plugins houtput.1 houtput.2
  | relay config => exact houtputs (.relay config) conn hconn.1 h.plugins houtput.1 houtput.2
  | timeShiftRecorder config => exact houtput.elim

theorem not_clashes_of_distinctNames (h : DistinctNames lib builder) : ¬ builder.Clashes lib := by
  intro hclash
  obtain ⟨T, hT⟩ := adds_clash (E := IsDuplicate)
    (tolerates_quiet fun _ name => ⟨name, rfl⟩) hclash
  have houtput := hT.run_nil
  cases hrun : (builder.buildUpTo lib quiet .output).run [] with
  | error fault =>
    rw [hrun] at houtput
    obtain ⟨name, rfl⟩ := houtput
    exact h.accepted quiet name (initPipeline_error hrun)
  | ok p =>
    rw [hrun] at houtput
    exact houtput.1

/-- The names are distinct exactly where no two pays of one name are reached. -/
theorem distinctNames_iff (lib : Library) (builder : Builder) :
    DistinctNames lib builder ↔ ¬ builder.Clashes lib :=
  ⟨not_clashes_of_distinctNames, distinctNames_of_not_clashes⟩

/-! ### A configuration with two pays of one name -/

/-- A relay of a video and of an audio of MPEG towards rtp. -/
def sampleMpegRelay : RelayConfig where
  toAudioVideoConfig := sampleConfig .relay true
    [{ output := { scheme := .udp, host := "localhost:6000" } }]
  videoParser := "h264parse"
  audioParser := "mpegaudioparse"

theorem distinctNames_fails : ¬ DistinctNames sampleLibrary (.relay sampleMpegRelay) :=
  fun h => h.accepted quiet "video_pay_0" rfl

end IptvCloud.Streams.Builders
