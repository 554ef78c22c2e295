import IptvCloud.Lib.Wiring
import IptvCloud.Stream.Proof.Pipeline

/-!
# The way of the data through a pipeline

The links of a pipeline that is built. Each function of the builders goes on from the end that it is
given (`Continues`) or makes a line of its own (`Carries`), so that what a stage adds lies between
the old end and the new one. With the outputs, the video and the audio have a way from the element
that takes them up to the sink of each output that is no device, and no element stands beside these
ways (`Delivers`).
-/

namespace IptvCloud.Streams.Builders

open Footprint Wiring

variable {lib : Library} {run : Run} {builder : Builder} {s elements : List Element} {i : Nat}

/-- `gst_element_link` links the elements. A run says it of each two elements that a call may name;
what is said of the links of a pipeline is said for every run. -/
def Linked (run : Run) (a b : Element) : Prop := run.links a b = true

/-! ## Elements -/

theorem elementAdd_ok {elem : Option Element} {r : Unit × List Element}
    (h : (elementAdd elem).run s = .ok r) : ∃ e, elem = some e ∧ r.2 = s ++ [e] := by
  cases elem with
  | none => cases h
  | some e =>
    rw [run_elementAdd] at h
    split_ifs at h
    cases h
    exact ⟨e, rfl, rfl⟩

theorem elementLink_ok {src dest : Option Element} {r : Unit × List Element}
    (h : (elementLink run src dest).run s = .ok r) :
    ∃ a b, src = some a ∧ dest = some b ∧ Linked run a b ∧ r.2 = s := by
  cases src with
  | none => cases h
  | some a =>
    cases dest with
    | none => cases h
    | some b =>
      simp only [elementLink] at h
      split_ifs at h with hlink
      · cases h
        exact ⟨a, b, rfl, rfl, hlink, rfl⟩
      · cases h

/-- What a computation that returns has added. -/
theorem adds_ok {β : Type} {T : Set String} {Q : β → Prop} {x : Build β} {r : β × List Element}
    (hx : Adds Element.name True T (fun _ => True) Q x) (h : x.run s = .ok r) :
    Q r.1 ∧ ∀ e ∈ r.2, e ∈ s ∨ e.name ∈ T := by
  have hrun := hx s (.inl trivial)
  rw [h] at hrun
  obtain ⟨hQ, l, hl, hnames, -⟩ := hrun
  refine ⟨hQ, fun e he => ?_⟩
  rw [hl] at he
  exact (List.mem_append.1 he).imp id (hnames e)

/-- A computation without a footprint leaves the elements. -/
theorem places_nil_ok {β : Type} {Q : β → Prop} {x : Build β} {r : β × List Element}
    (hx : Places [] i True (fun _ => True) Q x) (h : x.run s = .ok r) : Q r.1 ∧ r.2 = s := by
  have hrun := hx s (.inl trivial)
  rw [h] at hrun
  obtain ⟨hQ, l, hl, hnames, -⟩ := hrun
  refine ⟨hQ, ?_⟩
  cases l with
  | nil => rw [hl, List.append_nil]
  | cons e l =>
    obtain ⟨t, ht, -⟩ := hnames e (by simp)
    cases ht

theorem joins_elementLink (a b : Element) :
    Joins (Linked run) a b (elementLink run (some a) (some b)) := by
  refine .single fun s r h => ?_
  obtain ⟨_, _, ⟨⟩, ⟨⟩, hlink, hr⟩ := elementLink_ok h
  exact ⟨hlink, hr⟩

theorem continues_appendElement (a e : Element) :
    Continues (Linked run) a (appendElement run (some a) e) := by
  intro s r ha h
  obtain ⟨_, s₁, h₁, h⟩ := run_bind_ok h
  obtain ⟨_, ⟨⟩, rfl⟩ := elementAdd_ok h₁
  obtain ⟨_, s₂, h₂, h⟩ := run_bind_ok h
  obtain ⟨_, _, ⟨⟩, ⟨⟩, hlink, rfl⟩ := elementLink_ok h₂
  cases h
  exact ⟨e, [e], rfl, by simp, .single (by simp [ha]) (by simp) hlink⟩

theorem continues_stepIf {a : Element} {holds : Bool} {step : Build (Option Element)}
    (h : holds = true → Continues (Linked run) a step) :
    Continues (Linked run) a (stepIf holds (some a) step) :=
  .ite h fun _ => .pure a

theorem continues_appendLine {a : Element} {line : Build Line}
    (h : Carries (Linked run) line) : Continues (Linked run) a (appendLine run (some a) line) := by
  intro s r ha hrun
  obtain ⟨_, s₁, h₁, hrun⟩ := run_bind_ok hrun
  obtain ⟨b, c, l, heq, hb, hc, hl⟩ := h s _ h₁
  cases heq
  obtain ⟨_, s₂, h₂, hrun⟩ := run_bind_ok hrun
  obtain ⟨_, _, ⟨⟩, ⟨⟩, hlink, rfl⟩ := elementLink_ok h₂
  cases hrun
  exact ⟨c, l, rfl, hc, .link (List.mem_append_left l ha) hb hlink hl⟩

theorem continues_appendFiltered (a e capsfilter : Element) :
    Continues (Linked run) a (appendFiltered run (some a) e capsfilter) := by
  intro s r ha h
  obtain ⟨_, s₁, h₁, h⟩ := run_bind_ok h
  obtain ⟨_, ⟨⟩, rfl⟩ := elementAdd_ok h₁
  obtain ⟨_, s₂, h₂, h⟩ := run_bind_ok h
  obtain ⟨_, ⟨⟩, rfl⟩ := elementAdd_ok h₂
  obtain ⟨_, s₃, h₃, h⟩ := run_bind_ok h
  obtain ⟨_, _, ⟨⟩, ⟨⟩, hlink, rfl⟩ := elementLink_ok h₃
  obtain ⟨_, s₄, h₄, h⟩ := run_bind_ok h
  obtain ⟨_, _, ⟨⟩, ⟨⟩, hlink', rfl⟩ := elementLink_ok h₄
  cases h
  refine ⟨capsfilter, [e] ++ [capsfilter], by rw [List.append_assoc], by simp, ?_⟩
  exact (Between.single (by simp [ha]) (by simp) hlink).trans (.single (by simp) (by simp) hlink')

/-- A line that begins with an element that is added. -/
theorem carries_add {e : Element} {line : Build Line}
    (h : Finishes (Linked run) e e line) :
    Carries (Linked run) (elementAdd (some e) >>= fun _ => line) := by
  refine Finishes.carries (a := e) (fun s r hrun => ?_) fun _ => h
  obtain ⟨_, ⟨⟩, hr⟩ := elementAdd_ok hrun
  exact hr

/-! ## Post processing -/

theorem carries_buildVideoConvert (deinterlace : Option Bool) :
    Carries (Linked run) (buildVideoConvert run deinterlace i) := by
  refine carries_add (.bind (continues_stepIf fun _ => ?_) fun last => .pure _ last)
  exact continues_appendElement _ _

theorem carries_buildCpuPostProc (config : EncodingConfig) :
    Carries (Linked run) (buildCpuPostProc lib run config i) := by
  refine (carries_buildVideoConvert config.deinterlace).bind fun first last => ?_
  refine .bind (continues_stepIf fun _ => continues_appendFiltered _ _ _) fun last => ?_
  refine .bind (continues_stepIf fun _ => continues_appendElement _ _) fun last => ?_
  refine .bind (continues_stepIf fun _ => continues_appendFiltered _ _ _) fun last => ?_
  exact .pure first last

theorem continues_appendLogo (logo : Logo) (a : Element) :
    Continues (Linked run) a (appendLogo run logo (some a) i) := by
  refine .after (fun s r h => ?_) fun _ => continues_appendElement _ _
  have hquiet : Places [] i True (fun _ => True) (fun _ => True)
      (doIf (logo.path.scheme ≠ .file) (notReached run)) :=
    .doIf (fun _ => places_notReached (tolerates_any run)) fun _ => trivial
  exact (places_nil_ok hquiet h).2

theorem carries_buildVideoPostProc {config : EncodingConfig} (hcpu : isGpu config = false) :
    Carries (Linked run) (buildVideoPostProc lib run config i) := by
  unfold buildVideoPostProc
  rw [if_neg (by rw [hcpu]; exact Bool.false_ne_true)]
  refine (carries_buildCpuPostProc config).bind fun first last => ?_
  refine .bind (continues_stepIf fun _ => continues_appendLogo _ _) fun last => ?_
  exact .pure first last

theorem carries_buildAudioPostProc (config : EncodingConfig) :
    Carries (Linked run) (buildAudioPostProc run config i) := by
  refine carries_add ?_
  refine .bind (continues_stepIf fun _ => continues_appendElement _ _) fun last => ?_
  refine .bind (continues_stepIf fun _ => continues_appendElement _ _) fun last => ?_
  exact .pure _ last

/-! ## Converters -/

theorem continues_setupEncoderStrParams (videoStrArgs : ArgsMap) (avc : Element) :
    Continues (Linked run) avc (setupEncoderStrParams run videoStrArgs avc i) := by
  refine .foldlM (fun last key => ?_) _ avc
  unfold setupEncoderStrParam
  split_ifs
  · exact .pure last
  · exact continues_appendElement _ _
  · exact continues_appendElement _ _
  · exact .pure last

/-- No element is added before the encoder. -/
theorem carries_makeKnown {known : List String} {plugin : String} {t : Template}
    {line : Option Element → Build Line} (h : ∀ enc, Carries (Linked run) (line enc)) :
    Carries (Linked run) (makeKnown run known plugin (memSPrintf t i) >>= line) :=
  .after (fun _ _ hrun => (places_nil_ok (places_makeNamed (tolerates_any run)) hrun).2) h

theorem carries_buildVideoEncoder (config : EncodingConfig) :
    Carries (Linked run) (buildVideoEncoder run config i) := by
  refine carries_makeKnown fun codec => ?_
  cases codec with
  | none => exact fun s r h => by cases h
  | some avc =>
    refine carries_add ?_
    show Finishes (Linked run) avc avc (setupEncoderStrParams run config.videoEncoderStrArgs avc i
      >>= fun last => pure (some avc, last))
    exact .bind (continues_setupEncoderStrParams _ avc) fun last => .pure avc last

/-- The encoder of mp3 is added before the element that it is linked behind. -/
theorem carries_buildMp3Line (enc : Element) :
    Carries (Linked run) (elementAdd (some enc) >>= fun _ => buildMp3Line run (some enc) i) := by
  intro s r h
  obtain ⟨_, s₁, h₁, h⟩ := run_bind_ok h
  obtain ⟨_, ⟨⟩, rfl⟩ := elementAdd_ok h₁
  obtain ⟨_, s₂, h₂, h⟩ := run_bind_ok h
  obtain ⟨resample, heq, rfl⟩ := elementAdd_ok h₂
  obtain ⟨_, s₃, h₃, h⟩ := run_bind_ok h
  obtain ⟨parse, heq', rfl⟩ := elementAdd_ok h₃
  obtain ⟨_, s₄, h₄, h⟩ := run_bind_ok h
  obtain ⟨_, _, heq₄, ⟨⟩, hlink, rfl⟩ := elementLink_ok h₄
  obtain ⟨_, s₅, h₅, h⟩ := run_bind_ok h
  obtain ⟨_, _, ⟨⟩, heq₅, hlink', rfl⟩ := elementLink_ok h₅
  cases h
  cases heq.symm.trans heq₄
  cases heq'.symm.trans heq₅
  refine ⟨resample, parse, [enc] ++ [resample] ++ [parse], ?_, by simp, by simp, ?_⟩
  · rw [← List.append_assoc, ← List.append_assoc, ← heq, ← heq']
  have hway : Between (Linked run) (s ++ ([enc] ++ [resample] ++ [parse])) resample parse
      ([enc] ++ [parse]) :=
    (Between.single (by simp) (by simp) hlink).trans (.single (by simp) (by simp) hlink')
  refine ⟨hway.path, fun e he => ?_⟩
  by_cases hresample : e = resample
  · subst hresample
    exact ⟨.refl _, hway.path⟩
  · refine hway.through e ?_
    simpa [hresample] using he

theorem carries_buildAudioConverter (config : EncodingConfig) :
    Carries (Linked run) (buildAudioConverter run config i) := by
  refine carries_makeKnown fun enc => ?_
  cases enc with
  | none => exact fun s r h => by cases h
  | some enc =>
    split_ifs
    · exact carries_buildMp3Line enc
    · exact carries_add (.pure enc enc)

theorem continues_convertVideo (config : EncodingConfig) (a : Element) :
    Continues (Linked run) a (convertVideo run config (some a)) := by
  refine (continues_appendLine (carries_buildVideoEncoder config)).bind fun last => ?_
  refine (continues_stepIf fun _ => continues_appendElement _ _).bind fun last => ?_
  exact continues_appendElement _ _

theorem continues_convertAudio (config : EncodingConfig) (a : Element) :
    Continues (Linked run) a (convertAudio run config (some a)) := by
  refine (continues_appendLine (carries_buildAudioConverter config)).bind fun last => ?_
  refine (continues_stepIf fun _ => continues_appendElement _ _).bind fun last => ?_
  exact continues_appendElement _ _

/-! ## Stages -/

/-- A kind of data. -/
inductive Medium
  | video
  | audio
  deriving DecidableEq, Repr

/-- The stream has data of the kind. -/
def Medium.has (config : AudioVideoConfig) : Medium → Bool
  | .video => config.haveVideo
  | .audio => config.haveAudio

/-- The end of the pipeline for the kind. -/
def Medium.tip (conn : Connector) : Medium → Option Element
  | .video => conn.video
  | .audio => conn.audio

/-- The template of the element that takes the data up. -/
def Medium.udb : Medium → Template
  | .video => .udbVideo
  | .audio => .udbAudio

/-- The data of the kind has a way to the element. -/
def Fed (run : Run) (s : List Element) (m : Medium) (e : Element) : Prop :=
  ∃ udb ∈ s, udb.name = memSPrintf m.udb 0 ∧ Path (Linked run) s udb e

theorem Fed.mono {s' : List Element} {m : Medium} {e : Element} (h : Fed run s m e)
    (hs : s ⊆ s') : Fed run s' m e := by
  obtain ⟨udb, hudb, hname, hpath⟩ := h
  exact ⟨udb, hs hudb, hname, hpath.mono hs⟩

theorem Fed.trans {m : Medium} {a e : Element} (h : Fed run s m a)
    (hpath : Path (Linked run) s a e) : Fed run s m e := by
  obtain ⟨udb, hudb, hname, hway⟩ := h
  exact ⟨udb, hudb, hname, hway.trans hpath⟩

/-- An element of the input. -/
def IsInput (e : Element) : Prop := e.name = memSPrintf .src 0 ∨ e.name = memSPrintf .decodebin 0

/-- The data of each kind has a way to the end for it. -/
def Ended (run : Run) (has : Medium → Bool) (tip : Medium → Option Element) (s : List Element) :
    Prop :=
  ∀ m, has m = true → ∃ a ∈ s, tip m = some a ∧ Fed run s m a

/-- The elements of a stage: the source is linked to the decodebin, the data of each kind has a way
to the end for it, and the other elements lie on these ways. -/
structure Wired (run : Run) (has : Medium → Bool) (tip : Medium → Option Element)
    (s : List Element) : Prop where
  input : ∃ src ∈ s, ∃ decodebin ∈ s, src.name = memSPrintf .src 0 ∧
    decodebin.name = memSPrintf .decodebin 0 ∧ Linked run src decodebin
  ends : Ended run has tip s
  through : ∀ e ∈ s, IsInput e ∨
    ∃ m a, has m = true ∧ tip m = some a ∧ Fed run s m e ∧ Path (Linked run) s e a

variable {has : Medium → Bool} {tip : Medium → Option Element} {m : Medium}

theorem Wired.input_mono {s' : List Element} (h : Wired run has tip s) (hs : s ⊆ s') :
    ∃ src ∈ s', ∃ decodebin ∈ s', src.name = memSPrintf .src 0 ∧
      decodebin.name = memSPrintf .decodebin 0 ∧ Linked run src decodebin := by
  obtain ⟨src, hsrc, decodebin, hdecodebin, hinput⟩ := h.input
  exact ⟨src, hs hsrc, decodebin, hs hdecodebin, hinput⟩

/-- The end of a kind of data moves on. -/
theorem Wired.advance {a b : Element} {l : List Element} (h : Wired run has tip s)
    (hhas : has m = true) (ha : tip m = some a) (hb : b ∈ s ++ l)
    (hl : Between (Linked run) (s ++ l) a b l) :
    Wired run has (Function.update tip m (some b)) (s ++ l) := by
  have hsub : s ⊆ s ++ l := List.subset_append_left s l
  have hfed : Fed run (s ++ l) m a := by
    obtain ⟨_, -, ha', hfed⟩ := h.ends m hhas
    cases ha.symm.trans ha'
    exact hfed.mono hsub
  refine ⟨h.input_mono hsub, fun m' hm' => ?_, fun e he => ?_⟩
  · by_cases hm : m' = m
    · subst hm
      exact ⟨b, hb, Function.update_self .., hfed.trans hl.path⟩
    · obtain ⟨a', ha', htip, hfed'⟩ := h.ends m' hm'
      exact ⟨a', hsub ha', by rw [Function.update_of_ne hm, htip], hfed'.mono hsub⟩
  · rcases List.mem_append.1 he with he | he
    · rcases h.through e he with hinput | ⟨m', a', hm', htip, hfed', hpath⟩
      · exact .inl hinput
      · by_cases hm : m' = m
        · subst hm
          cases ha.symm.trans htip
          exact .inr ⟨m', b, hm', Function.update_self .., hfed'.mono hsub,
            (hpath.mono hsub).trans hl.path⟩
        · exact .inr ⟨m', a', hm', by rw [Function.update_of_ne hm, htip], hfed'.mono hsub,
            hpath.mono hsub⟩
    · exact .inr ⟨m, b, hhas, Function.update_self .., hfed.trans (hl.through e he).1,
        (hl.through e he).2⟩

/-- A kind of data is taken up. -/
theorem Wired.takeUp {udb : Element} (h : Wired run has tip s) (hhas : has m = false)
    (hname : udb.name = memSPrintf m.udb 0) :
    Wired run (Function.update has m true) (Function.update tip m (some udb)) (s ++ [udb]) := by
  have hsub : s ⊆ s ++ [udb] := List.subset_append_left s _
  have hfed : Fed run (s ++ [udb]) m udb := ⟨udb, by simp, hname, .refl udb⟩
  have hne : ∀ m', has m' = true → m' ≠ m := by
    rintro m' hm' rfl
    rw [hhas] at hm'
    cases hm'
  refine ⟨h.input_mono hsub, fun m' hm' => ?_, fun e he => ?_⟩
  · by_cases hm : m' = m
    · subst hm
      exact ⟨udb, by simp, Function.update_self .., hfed⟩
    · rw [Function.update_of_ne hm] at hm'
      obtain ⟨a, ha, htip, hfed'⟩ := h.ends m' hm'
      exact ⟨a, hsub ha, by rw [Function.update_of_ne hm, htip], hfed'.mono hsub⟩
  · rcases List.mem_append.1 he with he | he
    · rcases h.through e he with hinput | ⟨m', a, hm', htip, hfed', hpath⟩
      · exact .inl hinput
      · have hm := hne m' hm'
        exact .inr ⟨m', a, by rw [Function.update_of_ne hm, hm'],
          by rw [Function.update_of_ne hm, htip], hfed'.mono hsub, hpath.mono hsub⟩
    · rw [List.mem_singleton.1 he]
      exact .inr ⟨m, udb, Function.update_self .., Function.update_self .., hfed, .refl udb⟩

theorem leads_advance {step : Option Element → Build (Option Element)}
    (hstep : has m = true → ∀ a, Continues (Linked run) a (step (some a))) :
    Leads (Wired run has tip) (stepIf (has m) (tip m) (step (tip m)))
      fun o => Wired run has (Function.update tip m o) := by
  intro s o s' h hrun
  cases hhas : has m with
  | false =>
    rw [hhas] at hrun
    cases hrun
    rwa [Function.update_eq_self]
  | true =>
    obtain ⟨a, hmem, ha, -⟩ := h.ends m hhas
    rw [hhas, ha] at hrun
    obtain ⟨b, l, heq, hb, hl⟩ := hstep hhas a s _ hmem hrun
    cases heq
    exact h.advance hhas ha hb hl

theorem leads_takeUp {make : Build (Option Element)} {text : String} {holds : Bool} {known : Prop}
    (hhas : has m = false) (htip : tip m = none) (hmake : Places [] 0 True (fun _ => True)
      (fun o => (o.isSome = true ↔ known) ∧ ∀ e, o = some e → e.name = memSPrintf m.udb 0) make) :
    Leads (Wired run has tip) (stepIf holds none (addUdbConnection make text))
      fun o => Wired run (Function.update has m holds) (Function.update tip m o) := by
  intro s o s' h hrun
  cases holds with
  | false =>
    cases hrun
    rwa [← hhas, ← htip, Function.update_eq_self, Function.update_eq_self]
  | true =>
    obtain ⟨udb, s₁, h₁, hrun⟩ := run_bind_ok hrun
    obtain ⟨⟨-, hname⟩, hs₁⟩ := places_nil_ok hmake h₁
    obtain ⟨_, s₂, h₂, hrun⟩ := run_bind_ok hrun
    obtain ⟨-, hs₂⟩ := places_nil_ok (i := 0) (places_check (.inr fun _ => trivial)) h₂
    obtain ⟨_, s₃, h₃, hrun⟩ := run_bind_ok hrun
    obtain ⟨e, rfl, hs₃⟩ := elementAdd_ok h₃
    cases hrun
    cases hs₁
    cases hs₂
    cases hs₃
    exact h.takeUp hhas (hname e rfl)

theorem leads_buildInput (config : AudioVideoConfig) :
    Leads (· = []) (buildInput lib run config) fun conn s =>
      conn = ⟨none, none⟩ ∧ Wired run (fun _ => false) (fun _ => none) s := by
  rintro s conn s' rfl hrun
  obtain ⟨src, s₁, h₁, hrun⟩ := run_bind_ok hrun
  have hsrc : ∃ e, src = some e ∧ e.name = memSPrintf .src 0 ∧ s₁ = [e] := by
    unfold buildInputSrc at h₁
    cases hinput : config.input with
    | nil =>
      rw [hinput] at h₁
      cases h₁
    | cons uri rest =>
      rw [hinput] at h₁
      obtain ⟨src, s₂, h₂, h₁⟩ := run_bind_ok h₁
      obtain ⟨⟨-, hname⟩, hs₂⟩ := places_nil_ok (places_makeSrc (tolerates_any run)) h₂
      obtain ⟨_, s₃, h₃, h₁⟩ := run_bind_ok h₁
      obtain ⟨-, hs₃⟩ := places_nil_ok (i := 0) (places_deref (.inr trivial)) h₃
      obtain ⟨_, s₄, h₄, h₁⟩ := run_bind_ok h₁
      obtain ⟨e, rfl, hs₄⟩ := elementAdd_ok h₄
      cases h₁
      cases hs₂
      cases hs₃
      exact ⟨e, rfl, hname e rfl, hs₄⟩
  obtain ⟨e, rfl, hname, rfl⟩ := hsrc
  obtain ⟨_, s₂, h₂, hrun⟩ := run_bind_ok hrun
  obtain ⟨decodebin, heq, rfl⟩ := elementAdd_ok h₂
  obtain ⟨_, s₃, h₃, hrun⟩ := run_bind_ok hrun
  obtain ⟨_, _, ⟨⟩, ⟨⟩, hlink, hs₃⟩ := elementLink_ok h₃
  cases hrun
  cases heq
  cases hs₃
  refine ⟨rfl, ⟨e, by simp, _, by simp, hname, rfl, hlink⟩, fun _ => Bool.noConfusion, ?_⟩
  intro e' he'
  rcases List.mem_pair.1 he' with rfl | rfl
  · exact .inl (.inl hname)
  · exact .inl (.inr rfl)

/-- The ends of both kinds of data as a connector. -/
theorem tip_eq (conn : Connector) (video audio : Option Element) :
    Function.update (Function.update (Medium.tip conn) .video video) .audio audio =
      Medium.tip ⟨video, audio⟩ := by
  funext m
  cases m <;> rfl

theorem leads_buildUdbConnections (builder : Builder) :
    Leads (Wired run (fun _ => false) (fun _ => none))
      (builder.buildUdbConnections run ⟨none, none⟩)
      fun conn => Wired run (Medium.has builder.config) (Medium.tip conn) := by
  have hhas : Function.update (Function.update (fun _ => false) Medium.video
      builder.config.haveVideo) .audio builder.config.haveAudio = Medium.has builder.config := by
    funext m
    cases m <;> rfl
  have hnone : Medium.tip ⟨none, none⟩ = fun _ => none := by
    funext m
    cases m <;> rfl
  show Leads _ (stepIf builder.config.haveVideo none
      (addUdbConnection (builder.buildVideoUdbConnection run) "vudb") >>= fun video =>
    stepIf builder.config.haveAudio none
      (addUdbConnection (builder.buildAudioUdbConnection run) "audb") >>= fun audio =>
    pure (Connector.mk video audio)) fun conn => _
  refine (leads_takeUp (m := .video) rfl rfl
    (places_buildVideoUdbConnection (tolerates_any run) builder)).bind fun video => ?_
  refine (leads_takeUp (m := .audio) rfl rfl
    (places_buildAudioUdbConnection (tolerates_any run) builder)).bind fun audio => ?_
  rintro s conn s' h ⟨⟩
  rwa [hhas, ← hnone, tip_eq] at h

/-- A stage that goes on from the ends. -/
theorem leads_stage {config : AudioVideoConfig} {conn : Connector}
    (video audio : Option Element → Build (Option Element))
    (hvideo : config.haveVideo = true → ∀ a, Continues (Linked run) a (video (some a)))
    (haudio : config.haveAudio = true → ∀ a, Continues (Linked run) a (audio (some a))) :
    Leads (Wired run (Medium.has config) (Medium.tip conn)) (do
        let video ← stepIf config.haveVideo conn.video (video conn.video)
        let audio ← stepIf config.haveAudio conn.audio (audio conn.audio)
        return Connector.mk video audio)
      fun conn => Wired run (Medium.has config) (Medium.tip conn) := by
  refine (leads_advance (m := .video) hvideo).bind fun video' => ?_
  refine (leads_advance (m := .audio) haudio).bind fun audio' => ?_
  rintro s _ s' h ⟨⟩
  rwa [tip_eq] at h

theorem leads_buildPostProc {conn : Connector} (hcpu : builder.onGpu = false) :
    Leads (Wired run (Medium.has builder.config) (Medium.tip conn))
      (builder.buildPostProc lib run conn)
      fun conn => Wired run (Medium.has builder.config) (Medium.tip conn) := by
  cases builder with
  | encoding config =>
    refine leads_stage (fun last => appendLine run last (buildVideoPostProc lib run config 0))
      (fun last => appendLine run last (buildAudioPostProc run config 0))
      (fun hhas a => continues_appendLine (carries_buildVideoPostProc ?_))
      fun _ a => continues_appendLine (carries_buildAudioPostProc config)
    have hcpu : (config.haveVideo && isGpu config) = false := hcpu
    rwa [show config.haveVideo = true from hhas, Bool.true_and] at hcpu
  | relay config => exact Leads.ret (R := fun conn => Wired run _ (Medium.tip conn))
  | timeShiftRecorder config => exact Leads.ret (R := fun conn => Wired run _ (Medium.tip conn))

theorem leads_buildConverter {conn : Connector} :
    Leads (Wired run (Medium.has builder.config) (Medium.tip conn))
      (builder.buildConverter run conn)
      fun conn => Wired run (Medium.has builder.config) (Medium.tip conn) := by
  cases builder with
  | encoding config =>
    exact leads_stage (convertVideo run config) (convertAudio run config)
      (fun _ a => continues_convertVideo config a) fun _ a => continues_convertAudio config a
  | relay config =>
    exact leads_stage (fun last => appendElement run last ⟨"tee", memSPrintf .videoTee 0⟩)
      (fun last => appendElement run last ⟨"tee", memSPrintf .audioTee 0⟩)
      (fun _ a => continues_appendElement a _) fun _ a => continues_appendElement a _
  | timeShiftRecorder config => exact Leads.ret (R := fun conn => Wired run _ (Medium.tip conn))

/-! ## Outputs -/

/-- The sink of an output is there, with a way to it from the end of each kind of data. -/
def Reaches (run : Run) (has : Medium → Bool) (tip : Medium → Option Element) (s : List Element)
    (i : Nat) : Prop :=
  ∃ sink ∈ s, sink.name = memSPrintf .sink i ∧
    ∀ m a, has m = true → tip m = some a → Path (Linked run) s a sink

/-- The element has a way to the sink of an output. -/
def Drains (run : Run) (s : List Element) (e : Element) : Prop :=
  ∃ i, ∃ sink ∈ s, sink.name = memSPrintf .sink i ∧ Path (Linked run) s e sink

/-- An element of an output: it has a way to a sink and, where the stream has data, a way to it. -/
structure Outgoing (run : Run) (has : Medium → Bool) (s : List Element) (e : Element) : Prop where
  drains : Drains run s e
  fed : (∃ m, has m = true) → ∃ m, has m = true ∧ Fed run s m e

theorem Reaches.mono {s' : List Element} (h : Reaches run has tip s i) (hs : s ⊆ s') :
    Reaches run has tip s' i := by
  obtain ⟨sink, hsink, hname, hpath⟩ := h
  exact ⟨sink, hs hsink, hname, fun m a hm ha => (hpath m a hm ha).mono hs⟩

theorem Outgoing.mono {s' : List Element} {e : Element} (h : Outgoing run has s e)
    (hs : s ⊆ s') : Outgoing run has s' e := by
  obtain ⟨j, sink, hsink, hname, hpath⟩ := h.drains
  refine ⟨⟨j, sink, hs hsink, hname, hpath.mono hs⟩, fun hany => ?_⟩
  obtain ⟨m, hm, hfed⟩ := h.fed hany
  exact ⟨m, hm, hfed.mono hs⟩

theorem places_getAudioCodecType_any (builder : Builder) :
    Places [] i True (fun _ => True) (fun _ => True) (builder.getAudioCodecType run) := by
  cases builder
  all_goals
    simp only [Builder.getAudioCodecType, Builder.getAudioCodecType.ofParser]
    split_ifs
    all_goals first
      | exact .pure trivial
      | exact places_codec (tolerates_any run) _

/-- A queue and, towards rtp, a pay, between an end and the muxer. -/
theorem joins_toMux {a mux queue : Element} {isRtpOut : Bool}
    (makePay : Option Element → Build (Option Element))
    (hpay : ∀ b, Continues (Linked run) b (makePay (some b))) :
    Joins (Linked run) a mux (do
      let next ← appendElement run (some a) queue
      let next ← stepIf isRtpOut next (makePay next)
      elementLink run next (some mux)) := by
  refine .bind (continues_appendElement a queue) fun next => ?_
  refine .bind (continues_stepIf fun _ => hpay next) fun next => ?_
  exact joins_elementLink next mux

theorem joins_linkVideo (builder : Builder) {conn : Connector} {a mux : Element} {isRtpOut : Bool}
    (ha : conn.video = some a) :
    Joins (Linked run) a mux (builder.linkVideo run conn (some mux) isRtpOut i) := by
  unfold Builder.linkVideo
  rw [ha]
  refine joins_toMux (fun next => do
    let vcodec ← builder.getVideoCodecType run
    appendElement run next (makeVideoPay vcodec i)) fun b => ?_
  refine .after (fun s r h => ?_) fun vcodec => continues_appendElement b _
  exact (places_nil_ok (i := 0) (places_getVideoCodecType (tolerates_any run) builder) h).2

theorem joins_linkAudio (builder : Builder) {conn : Connector} {a mux : Element} {isRtpOut : Bool}
    (ha : conn.audio = some a) :
    Joins (Linked run) a mux (builder.linkAudio run conn (some mux) isRtpOut i) := by
  unfold Builder.linkAudio
  rw [ha]
  refine joins_toMux (fun next => do
    let acodec ← builder.getAudioCodecType run
    appendElement run next (makeAudioPay acodec i)) fun b => ?_
  refine .after (fun s r h => ?_) fun acodec => continues_appendElement b _
  exact (places_nil_ok (i := 0) (places_getAudioCodecType_any builder) h).2

/-- The part of an output for one kind of data: what it adds lies between the end and the muxer. -/
theorem doIf_joins {last : Option Element} {mux : Element} {holds : Bool} {step : Build Unit}
    {r : Unit × List Element} (hstep : ∀ a, last = some a → Joins (Linked run) a mux step)
    (hlast : holds = true → ∃ a ∈ s, last = some a) (hmux : mux ∈ s)
    (hrun : (doIf holds step).run s = .ok r) :
    ∃ l, r.2 = s ++ l ∧ (∀ a, holds = true → last = some a → Path (Linked run) (s ++ l) a mux) ∧
      ∀ e ∈ l, Path (Linked run) (s ++ l) e mux ∧
        ∃ a, holds = true ∧ last = some a ∧ Path (Linked run) (s ++ l) a e := by
  cases holds with
  | false =>
    cases hrun
    exact ⟨[], by simp, fun _ => Bool.noConfusion, by simp⟩
  | true =>
    obtain ⟨a, hmem, ha⟩ := hlast rfl
    obtain ⟨l, hr, hl⟩ := hstep a ha s r hmem hmux hrun
    refine ⟨l, hr, fun a' _ ha' => ?_, fun e he => ?_⟩
    · cases ha.symm.trans ha'
      exact hl.path
    · exact ⟨(hl.through e he).2, a, rfl, ha, (hl.through e he).1⟩

/-- An element of the output with the number, which is no device. -/
def Owned (lib : Library) (outputs : List OutputUri) (n : Nat) (e : Element) : Prop :=
  ∃ j output, outputs[j]? = some output ∧ isDeviceOutUrl lib output.output = false ∧
    e.name ∈ Names outputTemplates (n + j)

theorem Owned.cons {output : OutputUri} {outputs : List OutputUri} {n : Nat} {e : Element}
    (h : Owned lib outputs (n + 1) e) : Owned lib (output :: outputs) n e := by
  obtain ⟨j, o, ho, hdevice, hname⟩ := h
  refine ⟨j + 1, o, ho, hdevice, ?_⟩
  rwa [Nat.add_assoc, Nat.add_comm 1 j] at hname

/-- The pipeline that is built: no name is taken twice; the source is linked to the decodebin; the
data of each kind has a way from the element that takes it up to the sink of each output that is no
device; each element beside the input has a way from the data, where the stream has some, and to a
sink, where there is an output that is no device; an element that is of no stage before the outputs
is of an output that is no device. -/
structure Delivers (lib : Library) (run : Run) (config : AudioVideoConfig)
    (elements : List Element) : Prop where
  names : (elements.map Element.name).Nodup
  input : ∃ src ∈ elements, ∃ decodebin ∈ elements, src.name = memSPrintf .src 0 ∧
    decodebin.name = memSPrintf .decodebin 0 ∧ Linked run src decodebin
  sinks : ∀ i output, config.output[i]? = some output →
    isDeviceOutUrl lib output.output = false → ∃ sink ∈ elements,
      sink.name = memSPrintf .sink i ∧ ∀ m, m.has config = true → Fed run elements m sink
  fed : (∃ m, Medium.has config m = true) → ∀ e ∈ elements,
    IsInput e ∨ ∃ m, Medium.has config m = true ∧ Fed run elements m e
  drains : (∃ output ∈ config.output, isDeviceOutUrl lib output.output = false) →
    ∀ e ∈ elements, IsInput e ∨ Drains run elements e
  owned : ∀ e ∈ elements, e.name ∈ Names stageTemplates 0 ∨ Owned lib config.output 0 e

/-- What the stages before the outputs have found out, and the names that they have taken. -/
theorem connected_of_converter {conn : Connector}
    (h : (builder.buildUpTo lib run .converter).run [] = .ok (conn, s)) :
    (WellConnected builder.config conn ∧ builder.onGpu = false ∧ builder.PluginsKnown) ∧
      ∀ e ∈ s, e.name ∈ Names stageTemplates 0 := by
  have hlenient : Lenient fun _ => True := ⟨trivial, trivial, fun _ => trivial⟩
  have hplaces : Places stageTemplates 0 True (fun _ => True)
      (fun conn => WellConnected builder.config conn ∧ builder.Opened lib ∧
        builder.onGpu = false ∧ builder.PluginsKnown) (builder.buildUpTo lib run .converter) :=
    places_converter (tolerates_any run) (.inr hlenient) (fun _ _ => trivial) (.inr trivial)
  obtain ⟨⟨hconn, -, hcpu, hknown⟩, hnames⟩ := adds_ok hplaces h
  exact ⟨⟨hconn, hcpu, hknown⟩, fun e he => (hnames e he).resolve_left (by simp)⟩

/-- The stages before the outputs. -/
theorem wired_of_converter {conn : Connector}
    (h : (builder.buildUpTo lib run .converter).run [] = .ok (conn, s)) :
    Wired run (Medium.has builder.config) (Medium.tip conn) s := by
  obtain ⟨⟨-, hcpu, -⟩, -⟩ := connected_of_converter h
  have hstages : Leads (· = []) (builder.buildUpTo lib run .converter) fun conn s =>
      Wired run (Medium.has builder.config) (Medium.tip conn) s := by
    refine Leads.bind (Leads.bind (Leads.bind (leads_buildInput builder.config) fun conn => ?_)
      fun conn => leads_buildPostProc hcpu) fun conn => leads_buildConverter
    rintro s conn' s' ⟨rfl, hwired⟩ hrun
    exact leads_buildUdbConnections builder s conn' s' hwired hrun
  exact hstages [] conn s rfl h

/-- The element that takes up the data of a kind is in the pipeline of any builder. -/
theorem takenUp_of_built (h : (builder.initPipeline lib run).run [] = .ok (true, elements))
    (hhas : Medium.has builder.config m = true) :
    Taken Element.name (memSPrintf m.udb 0) elements := by
  rw [initPipeline_eq] at h
  obtain ⟨conn', s', h, hr⟩ := run_bind_ok h
  cases hr
  obtain ⟨conn, s, hstages, h⟩ := run_bind_ok (x := builder.buildUpTo lib run .converter) h
  have hlenient : Lenient fun _ => True := ⟨trivial, trivial, fun _ => trivial⟩
  obtain ⟨⟨hconn, -, hknown⟩, -⟩ := connected_of_converter hstages
  obtain ⟨-, -, -, udb, hudb, hname, -⟩ := (wired_of_converter hstages).ends m hhas
  exact ((adds_buildOutput (tolerates_any run) hlenient hconn hknown (.inr trivial)
    (.inl trivial)).keeps s conn' elements ⟨udb, hudb, hname⟩ h).2

end IptvCloud.Streams.Builders
