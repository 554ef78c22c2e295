import IptvCloud.Stream.Proof.Builders

/-!
# What the conversion adds to a pipeline

The rules of the post processing and of the conversion, for each builder, in the terms of `Places`.
After the post processing the end of the video is missing on a GPU (`Builder.PostProcessed`); the
conversion uses it, and returns only where it was there.
-/

namespace IptvCloud.Streams.Builders

open Footprint

variable {lib : Library} {run : Run} {D : Prop} {E : Fault → Prop} {i : Nat}

/-! ## Converters -/

/-- The names of the caps filters of `x264enc`. -/
def paramNames (i : Nat) (key : String) : Set String :=
  if key = "x264enc.profile" then Names [.videoX264encCapsFilterProfile] i
  else if key = "x264enc.stream-format" then Names [.videoX264encCapsFilterStreamFormat] i
  else ∅

theorem disjoint_paramNames {key key' : String} (h : key ≠ key') :
    Disjoint (paramNames i key) (paramNames i key') := by
  unfold paramNames
  split_ifs with hp hp' hf' hf hp' hf' hp' hf'
  · exact absurd (hp.trans hp'.symm) h
  · exact disjoint_names fun _ => by decide
  · exact Set.disjoint_empty _
  · exact disjoint_names fun _ => by decide
  · exact absurd (hf.trans hf'.symm) h
  · exact Set.disjoint_empty _
  all_goals exact Set.empty_disjoint _

section
variable (hE : Tolerates run D E)
include hE

theorem adds_setupEncoderStrParam {avc : Element} {last : Option Element} {key : String}
    (hlast : last.isSome = true) :
    Adds Element.name D (paramNames i key) E (fun o => o.isSome = true)
      (setupEncoderStrParam run avc i last key) := by
  unfold setupEncoderStrParam paramNames
  split_ifs with hname hprofile hformat
  all_goals first
    | exact .pure hlast
    | exact (places_appendElement hE "capsfilter" (.inl hlast)).post fun _ h => h.1

theorem places_setupEncoderStrParams {videoStrArgs : ArgsMap} {avc : Element} :
    Places [.videoX264encCapsFilterProfile, .videoX264encCapsFilterStreamFormat] i D E
      (fun o => o.isSome = true) (setupEncoderStrParams run videoStrArgs avc i) := by
  have hnodup : (videoStrArgs.keys.mergeSort fun a b => a ≤ b).Nodup :=
    (List.mergeSort_perm _ _).nodup_iff.2 videoStrArgs.keys_nodup
  have hdisj := hnodup.imp fun {key key'} h => disjoint_paramNames (i := i) h
  refine (Adds.foldlM hdisj (fun key last hlast => adds_setupEncoderStrParam hE hlast) rfl).mono ?_
    fun _ h => h
  refine Set.iUnion₂_subset fun key _ => ?_
  unfold paramNames
  split_ifs
  · exact fun name ⟨t, ht, hname⟩ => ⟨t, by simp_all, hname⟩
  · exact fun name ⟨t, ht, hname⟩ => ⟨t, by simp_all, hname⟩
  · exact Set.empty_subset _

theorem places_buildVideoEncoder {config : EncodingConfig}
    (h : config.videoEncoder ∈ videoEncoders ∨ E .nullElement) :
    Places [.videoCodec, .videoX264encCapsFilterProfile, .videoX264encCapsFilterStreamFormat] i D E
      (fun line => Full line ∧ config.videoEncoder ∈ videoEncoders)
      (buildVideoEncoder run config i) := by
  refine (places_makeNamed hE).bind (fun codec ⟨hsome, hname⟩ => ?_) (.inr (by simp))
  refine (places_elementAdd hE hname (h.imp hsome.2 id)).bind (fun _ hadded => ?_)
    (.inr (by decide))
  refine (places_deref (.inl hadded)).bind (fun avc _ => ?_) (.inr (by simp))
  refine (places_setupEncoderStrParams hE).bind (fun last hlast => ?_) (.inr (by simp))
  exact .pure ⟨⟨hadded, hlast⟩, hsome.1 hadded⟩

theorem places_convertVideo {config : EncodingConfig} {last : Option Element}
    (hlast : last.isSome = true ∨ E .nullLink)
    (h : config.videoEncoder ∈ videoEncoders ∨ E .nullElement) :
    Places [.videoCodec, .videoX264encCapsFilterProfile, .videoX264encCapsFilterStreamFormat,
      .videoParser, .videoTee] 0 D E
      (fun o => o.isSome = true ∧ last.isSome = true ∧ config.videoEncoder ∈ videoEncoders)
      (convertVideo run config last) := by
  refine (places_appendLine hE (places_buildVideoEncoder hE h) (fun _ hline => hline.1.1)
    hlast).bind ?_ (.inr (by decide))
  rintro o ⟨hlinked, line, ⟨hfull, hknown⟩, rfl⟩
  refine (places_stepIf_append hE "h264parse" hfull.2).bind (fun last hlast => ?_)
    (.inr (by decide))
  exact (places_appendElement hE "tee" (.inl hlast)).post fun o ho => ⟨ho.1, hlinked, hknown⟩

theorem places_buildAudioConverter {config : EncodingConfig}
    (h : config.audioEncoder ∈ audioEncoders ∨ E .nullElement) :
    Places [.audioCodec, .audioResample, .mpegAudioParse] i D E
      (fun line => Full line ∧ config.audioEncoder ∈ audioEncoders)
      (buildAudioConverter run config i) := by
  refine (places_makeNamed hE).bind (fun enc ⟨hsome, hname⟩ => ?_) (.inr (by simp))
  refine (places_elementAdd hE hname (h.imp hsome.2 id)).bind (fun _ hadded => ?_)
    (.inr (by decide))
  split_ifs with hmp3
  · refine (places_add hE "audioresample").bind (fun _ _ => ?_) (.inr (by decide))
    refine (places_add hE "mpegaudioparse").bind (fun _ _ => ?_) (.inr (by simp))
    refine (places_elementLink hE (.inl ⟨rfl, hadded⟩)).bind (fun _ _ => ?_) (.inr (by simp))
    refine (places_elementLink hE (.inl ⟨hadded, rfl⟩)).bind (fun _ _ => ?_) (.inr (by simp))
    exact .pure ⟨⟨rfl, rfl⟩, hsome.1 hadded⟩
  · exact .pure ⟨⟨hadded, hadded⟩, hsome.1 hadded⟩

theorem places_convertAudio {config : EncodingConfig} {last : Option Element}
    (hlast : last.isSome = true) (h : config.audioEncoder ∈ audioEncoders ∨ E .nullElement) :
    Places [.audioCodec, .audioResample, .mpegAudioParse, .audioParser, .audioTee] 0 D E
      (fun o => o.isSome = true ∧ config.audioEncoder ∈ audioEncoders)
      (convertAudio run config last) := by
  refine (places_appendLine hE (places_buildAudioConverter hE h) (fun _ hline => hline.1.1)
    (.inl hlast)).bind ?_ (.inr (by decide))
  rintro o ⟨-, line, ⟨hfull, hknown⟩, rfl⟩
  refine (places_stepIf_append hE "aacparse" hfull.2).bind (fun last hlast => ?_)
    (.inr (by decide))
  exact (places_appendElement hE "tee" (.inl hlast)).post fun o ho => ⟨ho.1, hknown⟩

end

/-! ## Stages of the conversion -/

/-- The video is converted on a GPU. -/
def Builder.onGpu : Builder → Bool
  | .encoding config => config.haveVideo && isGpu config
  | .relay _ | .timeShiftRecorder _ => false

/-- The plugin of the video is known: the encoder of an encoding, the parser of another stream. -/
def Builder.VideoKnown : Builder → Prop
  | .encoding config => config.videoEncoder ∈ videoEncoders
  | .relay config => config.videoParser ∈ videoParsers
  | .timeShiftRecorder config => config.videoParser ∈ videoParsers

def Builder.AudioKnown : Builder → Prop
  | .encoding config => config.audioEncoder ∈ audioEncoders
  | .relay config => config.audioParser ∈ audioParsers
  | .timeShiftRecorder config => config.audioParser ∈ audioParsers

/-- The plugins are known for the kinds of data that the stream has. -/
structure Builder.PluginsKnown (builder : Builder) : Prop where
  video : builder.config.haveVideo = true → builder.VideoKnown
  audio : builder.config.haveAudio = true → builder.AudioKnown

/-- The ends after the post processing: that of the video is missing on a GPU. -/
structure Builder.PostProcessed (builder : Builder) (conn : Connector) : Prop where
  video : conn.video.isSome = (builder.config.haveVideo && !builder.onGpu)
  audio : conn.audio.isSome = builder.config.haveAudio

/-- The templates of `BuildPostProc`. -/
def postProcTemplates : List Template :=
  [.postProc, .videoConvert, .deinterlace, .videoScale, .videoScaleCapsFilter, .aspectRatio,
    .videoRate, .videoRateCapsFilter, .videoLogo, .audioConvert, .audioConvertCapsFilter, .volume]

/-- The templates of `BuildConverter`. -/
def converterTemplates : List Template :=
  [.videoCodec, .videoX264encCapsFilterProfile, .videoX264encCapsFilterStreamFormat, .videoParser,
    .videoTee, .audioCodec, .audioResample, .mpegAudioParse, .audioParser, .audioTee]

theorem WellConnected.postProcessed {builder : Builder} {conn : Connector}
    (h : WellConnected builder.config conn) (hgpu : builder.onGpu = false) :
    builder.PostProcessed conn :=
  ⟨by rw [h.video, hgpu, Bool.not_false, Bool.and_true], h.audio⟩

theorem Builder.PostProcessed.wellConnected {builder : Builder} {conn : Connector}
    (h : builder.PostProcessed conn) (hgpu : builder.onGpu = false) :
    WellConnected builder.config conn :=
  ⟨by rw [h.video, hgpu, Bool.not_false, Bool.and_true], h.audio⟩

section
variable (hE : Tolerates run D E)
include hE

theorem places_buildPostProc (builder : Builder) {conn : Connector}
    (hconn : WellConnected builder.config conn) (h : builder.onGpu = true → E .nullLink) :
    Places postProcTemplates 0 D E builder.PostProcessed (builder.buildPostProc lib run conn) := by
  cases builder with
  | encoding config =>
    refine (places_buildEncodingPostProc hE hconn fun hhas hgpu _ => h ?_).post
      fun conn ⟨hvideo, haudio⟩ => ⟨?_, haudio⟩
    · rw [Builder.onGpu, hhas, hgpu, Bool.and_self]
    · rw [hvideo, Builder.onGpu, Builder.config]
      cases config.haveVideo <;> simp
  | relay config => exact .pure (hconn.postProcessed rfl)
  | timeShiftRecorder config => exact .pure (hconn.postProcessed rfl)

theorem places_buildEncodingConverter {config : EncodingConfig} {conn : Connector}
    (hconn : (Builder.encoding config).PostProcessed conn)
    (hgpu : (Builder.encoding config).onGpu = true → E .nullLink)
    (hknown : (Builder.encoding config).PluginsKnown ∨ E .nullElement) :
    Places converterTemplates 0 D E
      (fun conn => WellConnected config.toAudioVideoConfig conn ∧
        (Builder.encoding config).onGpu = false ∧ (Builder.encoding config).PluginsKnown)
      (buildEncodingConverter run config conn) := by
  have hvideo : conn.video.isSome = (config.haveVideo && !(Builder.encoding config).onGpu) :=
    hconn.video
  have haudio : conn.audio.isSome = config.haveAudio := hconn.audio
  refine (places_stepIf_has (fun hhas => ?_) fun hhas => places_convertVideo hE ?_
    (hknown.imp (·.video hhas) id)).bind (fun video ⟨hvideo', hvknown⟩ => ?_) (.inr (by decide))
  · rw [hvideo, hhas, Bool.false_and]
  · cases hg : (Builder.encoding config).onGpu with
    | true => exact .inr (hgpu hg)
    | false => exact .inl (by rw [hvideo, hhas, hg]; rfl)
  refine (places_stepIf_has (fun hhas => ?_) fun hhas => places_convertAudio hE ?_
    (hknown.imp (·.audio hhas) id)).bind (fun audio ⟨haudio', haknown⟩ => ?_) (.inr (by simp))
  · rw [haudio, hhas]
  · rw [haudio, hhas]
  refine .pure ⟨⟨hvideo', haudio'⟩, ?_, fun hhas => (hvknown hhas).2, haknown⟩
  cases hhas : config.haveVideo with
  | false => rw [Builder.onGpu, hhas, Bool.false_and]
  | true =>
    have hsome := (hvknown hhas).1
    rw [hvideo, hhas, Bool.true_and, Bool.not_eq_true'] at hsome
    exact hsome

theorem places_buildRelayConverter {config : AudioVideoConfig} {conn : Connector}
    (hconn : WellConnected config conn) :
    Places [.videoTee, .audioTee] 0 D E (WellConnected config)
      (buildRelayConverter run config conn) := by
  refine (places_stepIf_has (fun hhas => by rw [hconn.video, hhas]) fun hhas =>
    places_appendElement hE "tee" (.inl (by rw [hconn.video, hhas]))).bind
    (fun video ⟨hvideo, _⟩ => ?_) (.inr (by decide))
  refine (places_stepIf_has (fun hhas => by rw [hconn.audio, hhas]) fun hhas =>
    places_appendElement hE "tee" (.inl (by rw [hconn.audio, hhas]))).bind
    (fun audio ⟨haudio, _⟩ => ?_) (.inr (by simp))
  exact .pure ⟨hvideo, haudio⟩

theorem places_buildConverter (builder : Builder) {conn : Connector}
    (hconn : builder.PostProcessed conn) (hgpu : builder.onGpu = true → E .nullLink)
    (hparsers : builder.ParsersKnown) (hknown : builder.PluginsKnown ∨ E .nullElement) :
    Places converterTemplates 0 D E
      (fun conn => WellConnected builder.config conn ∧ builder.onGpu = false ∧ builder.PluginsKnown)
      (builder.buildConverter run conn) := by
  cases builder with
  | encoding config => exact places_buildEncodingConverter hE hconn hgpu hknown
  | relay config =>
    refine (places_buildRelayConverter hE (hconn.wellConnected rfl)).mono (by decide) ?_
    exact fun conn hconn => ⟨hconn, rfl, hparsers.video, hparsers.audio⟩
  | timeShiftRecorder config =>
    exact .pure ⟨hconn.wellConnected rfl, rfl, hparsers.video, hparsers.audio⟩

end

end IptvCloud.Streams.Builders
