import IptvCloud.Stream.Mosaic
import IptvCloud.Stream.Proof.Dataflow

/-!
# The way of the data through a mosaic

The pipeline of a mosaic that is built: each input has its source, its decodebin and the elements
that take its data up, with a way to the mixers; behind the mixers the video and the audio have a
way to the sinks of each output, and no element stands beside these ways but the mixer of a kind of
data that the stream does not have (`mosaic_delivers`).
-/

namespace IptvCloud.Streams.Mosaic

open Footprint Wiring Builders

variable {lib : Library} {run : Run} {config : EncodingConfig} {s elements : List Element}
  {i n : Nat} {m : Medium}

/-! ## The inputs -/

/-- The mixer of a kind of data. -/
def mixer : Medium → Element
  | .video => ⟨"videomixer", Template.videoMixer.name 0⟩
  | .audio => ⟨"audiomixer", Template.interlive.name 0⟩

/-- The element that takes up the data of an input. -/
def udb (m : Medium) (i : Nat) : Element := ⟨"queue", memSPrintf m.udb i⟩

theorem elementAdd_appends (e : Element) (s : List Element) (r : Unit × List Element)
    (h : (elementAdd (some e)).run s = .ok r) : r.2 = s ++ [e] := by
  obtain ⟨_, ⟨⟩, hr⟩ := elementAdd_ok h
  exact hr

theorem enters_buildTileVideo :
    Enters (Linked run) (udb .video i) (mixer .video) (buildTileVideo run (mixer .video) i) := by
  refine Joins.enters (elementAdd_appends _) fun _ => ?_
  refine .bind (continues_appendFiltered _ _ _) fun scale => ?_
  refine .bind (continues_appendElement _ _) fun videoBox => ?_
  exact joins_elementLink videoBox _

theorem enters_buildTileAudio :
    Enters (Linked run) (udb .audio i) (mixer .audio) (buildTileAudio run (mixer .audio) i) := by
  refine Joins.enters (elementAdd_appends _) fun _ => ?_
  refine .bind (continues_appendElement _ _) fun spec => ?_
  exact joins_elementLink spec _

/-- The data of a kind of the input with the number `i` has a way to the element. -/
def FedBy (run : Run) (s : List Element) (m : Medium) (i : Nat) (e : Element) : Prop :=
  udb m i ∈ s ∧ Path (Linked run) s (udb m i) e

/-- The source and the decodebin of an input are there and linked. -/
def Opened (run : Run) (s : List Element) (i : Nat) : Prop :=
  ∃ src ∈ s, ∃ decodebin ∈ s, src.name = memSPrintf .src i ∧
    decodebin.name = memSPrintf .decodebin i ∧ Linked run src decodebin

/-- The source or the decodebin of one of the first `n` inputs. -/
def IsInput (n : Nat) (e : Element) : Prop :=
  ∃ i < n, e.name = memSPrintf .src i ∨ e.name = memSPrintf .decodebin i

theorem FedBy.mono {s' : List Element} {e : Element} (h : FedBy run s m i e) (hs : s ⊆ s') :
    FedBy run s' m i e :=
  ⟨hs h.1, h.2.mono hs⟩

theorem FedBy.trans {a e : Element} (h : FedBy run s m i a) (hpath : Path (Linked run) s a e) :
    FedBy run s m i e :=
  ⟨h.1, h.2.trans hpath⟩

theorem Opened.mono {s' : List Element} (h : Opened run s i) (hs : s ⊆ s') : Opened run s' i := by
  obtain ⟨src, hsrc, decodebin, hdecodebin, hopened⟩ := h
  exact ⟨src, hs hsrc, decodebin, hs hdecodebin, hopened⟩

theorem IsInput.mono {n' : Nat} {e : Element} (h : IsInput n e) (hn : n ≤ n') : IsInput n' e := by
  obtain ⟨i, hi, he⟩ := h
  exact ⟨i, by omega, he⟩

/-- The part of an input for a kind of data. -/
theorem doIf_enters {a d : Element} {holds : Bool} {part : Build Unit} {r : Unit × List Element}
    (hpart : Enters (Linked run) a d part) (hd : d ∈ s)
    (hrun : (doIf holds part).run s = .ok r) :
    ∃ l, r.2 = s ++ l ∧ (holds = true → a ∈ s ++ l ∧ Path (Linked run) (s ++ l) a d) ∧
      ∀ e ∈ l, holds = true ∧ Path (Linked run) (s ++ l) a e ∧ Path (Linked run) (s ++ l) e d := by
  cases holds with
  | false =>
    cases hrun
    exact ⟨[], by simp, fun h => Bool.noConfusion h, by simp⟩
  | true =>
    obtain ⟨l, hr, ha, hl⟩ := hpart s r hd hrun
    exact ⟨l, hr, fun _ => ⟨List.mem_append_right s ha, hl.path⟩,
      fun e he => ⟨rfl, hl.through e he⟩⟩

/-- The first `n` inputs are open, their data has a way to the mixers, and no element but the mixers
stands beside these ways. -/
structure Tiled (run : Run) (has : Medium → Bool) (n : Nat) (s : List Element) : Prop where
  mixers : ∀ m, mixer m ∈ s
  opened : ∀ i < n, Opened run s i
  fed : ∀ i < n, ∀ m, has m = true → FedBy run s m i (mixer m)
  through : ∀ e ∈ s, IsInput n e ∨ (∃ m, e = mixer m) ∨
    ∃ m, has m = true ∧ (∃ i < n, FedBy run s m i e) ∧ Path (Linked run) s e (mixer m)

theorem tiled_buildTile {grid cell : Nat × Nat} {uri : InputUri}
    {options : MosaicImageOptions} {r : MosaicImageOptions × List Element}
    (h : Tiled run (Medium.has config.toAudioVideoConfig) n s)
    (hrun : (buildTile lib run config (mixer .video) (mixer .audio) grid cell uri n options).run s =
      .ok r) :
    Tiled run (Medium.has config.toAudioVideoConfig) (n + 1) r.2 := by
  obtain ⟨src, s₁, h₁, hrun⟩ := run_bind_ok hrun
  obtain ⟨⟨-, hname⟩, hs₁⟩ := places_nil_ok (i := n) (places_makeSrc (tolerates_any run)) h₁
  obtain rfl : s = s₁ := hs₁.symm
  obtain ⟨_, s₂, h₂, hrun⟩ := run_bind_ok hrun
  obtain ⟨-, hs₂⟩ := places_nil_ok (i := n) (places_deref (.inr trivial)) h₂
  obtain rfl : s = s₂ := hs₂.symm
  obtain ⟨_, s₃, h₃, hrun⟩ := run_bind_ok hrun
  obtain ⟨src, rfl, rfl⟩ := elementAdd_ok h₃
  obtain ⟨_, s₄, h₄, hrun⟩ := run_bind_ok hrun
  obtain ⟨decodebin, ⟨⟩, rfl⟩ := elementAdd_ok h₄
  obtain ⟨_, s₅, h₅, hrun⟩ := run_bind_ok hrun
  obtain ⟨_, _, ⟨⟩, ⟨⟩, hlink, rfl⟩ := elementLink_ok h₅
  obtain ⟨_, s₆, h₆, hrun⟩ := run_bind_ok hrun
  obtain ⟨lv, rfl, hvideo, hvthrough⟩ := doIf_enters enters_buildTileVideo
    (by simp [h.mixers .video]) h₆
  obtain ⟨_, s₇, h₇, hrun⟩ := run_bind_ok hrun
  obtain ⟨la, rfl, haudio, hathrough⟩ := doIf_enters enters_buildTileAudio
    (by simp [h.mixers .audio]) h₇
  cases hrun
  have hsub : s ⊆ s ++ [src] ++ [⟨"decodebin", memSPrintf .decodebin n⟩] ++ lv ++ la :=
    fun e he => by simp [he]
  have hnew : ∀ m, Medium.has config.toAudioVideoConfig m = true →
      FedBy run (s ++ [src] ++ [⟨"decodebin", memSPrintf .decodebin n⟩] ++ lv ++ la) m n
        (mixer m) := by
    intro m hm
    cases m with
    | video => exact ⟨List.mem_append_left la (hvideo hm).1, (hvideo hm).2.append⟩
    | audio => exact haudio hm
  refine ⟨fun m => hsub (h.mixers m), fun i hi => ?_, fun i hi m hm => ?_, fun e he => ?_⟩
  · rcases Nat.lt_succ_iff_lt_or_eq.1 hi with hi | rfl
    · exact (h.opened i hi).mono hsub
    · exact ⟨src, by simp, _, by simp, hname src rfl, rfl, hlink⟩
  · rcases Nat.lt_succ_iff_lt_or_eq.1 hi with hi | rfl
    · exact (h.fed i hi m hm).mono hsub
    · exact hnew m hm
  · simp only [List.mem_append, List.mem_singleton] at he
    rcases he with (((he | rfl) | rfl) | he) | he
    · rcases h.through e he with hinput | hmixer | ⟨m, hm, ⟨i, hi, hfed⟩, hpath⟩
      · exact .inl (hinput.mono (Nat.le_succ n))
      · exact .inr (.inl hmixer)
      · exact .inr (.inr ⟨m, hm, ⟨i, by omega, hfed.mono hsub⟩, hpath.mono hsub⟩)
    · exact .inl ⟨n, Nat.lt_succ_self n, .inl (hname e rfl)⟩
    · exact .inl ⟨n, Nat.lt_succ_self n, .inr rfl⟩
    · obtain ⟨hm, hfed, hpath⟩ := hvthrough e he
      exact .inr (.inr ⟨.video, hm, ⟨n, Nat.lt_succ_self n, (hnew .video hm).1, hfed.append⟩,
        hpath.append⟩)
    · obtain ⟨hm, hfed, hpath⟩ := hathrough e he
      exact .inr (.inr ⟨.audio, hm, ⟨n, Nat.lt_succ_self n, (hnew .audio hm).1, hfed⟩, hpath⟩)

theorem tiled_foldlM {grid : Nat × Nat} (tiles : List ((Nat × Nat) × InputUri))
    {options : MosaicImageOptions} {r : MosaicImageOptions × List Element}
    (h : Tiled run (Medium.has config.toAudioVideoConfig) n s)
    (hrun : ((tiles.zipIdx n).foldlM (fun options tile => buildTile lib run config (mixer .video)
      (mixer .audio) grid tile.1.1 tile.1.2 tile.2 options) options : Build _).run s = .ok r) :
    Tiled run (Medium.has config.toAudioVideoConfig) (n + tiles.length) r.2 := by
  induction tiles generalizing n s options with
  | nil =>
    cases hrun
    exact h
  | cons tile tiles ih =>
    rw [List.zipIdx_cons, List.foldlM_cons] at hrun
    obtain ⟨options', s₁, h₁, hrun⟩ := run_bind_ok hrun
    have hrest := ih (tiled_buildTile h h₁) hrun
    rwa [Nat.add_assoc, Nat.add_comm 1] at hrest

/-! ## The ends -/

theorem continues_buildMixedVideo (a : Element) :
    Continues (Linked run) a (buildMixedVideo run config (some a)) := by
  refine (continues_appendElement a _).bind fun video => ?_
  refine (continues_appendLine (carries_buildVideoConvert _)).bind fun video => ?_
  exact continues_appendElement video _

theorem continues_buildMixedAudio (a : Element) :
    Continues (Linked run) a (buildMixedAudio run config (some a)) := by
  refine (continues_appendLine (carries_buildAudioPostProc config)).bind fun audio => ?_
  exact continues_appendElement audio _

/-- The data of all inputs has a way to the end for its kind. The mixer of a kind of data that the
stream does not have is left alone; the other elements lie on these ways. -/
structure Mixed (run : Run) (has : Medium → Bool) (n : Nat) (tip : Medium → Option Element)
    (s : List Element) : Prop where
  opened : ∀ i < n, Opened run s i
  ends : ∀ m, has m = true → ∃ a ∈ s, tip m = some a ∧ ∀ i < n, FedBy run s m i a
  through : ∀ e ∈ s, IsInput n e ∨ (∃ m, has m = false ∧ e = mixer m) ∨
    ∃ m a, has m = true ∧ tip m = some a ∧ (∃ i < n, FedBy run s m i e) ∧ Path (Linked run) s e a

variable {has : Medium → Bool} {tip : Medium → Option Element}

/-- There is an input, so that the mixers of the stream lie on ways. -/
theorem Tiled.mixed (h : Tiled run has n s) (hn : 0 < n) :
    Mixed run has n (fun m => some (mixer m)) s := by
  refine ⟨h.opened, fun m hm => ⟨mixer m, h.mixers m, rfl, fun i hi => h.fed i hi m hm⟩,
    fun e he => ?_⟩
  rcases h.through e he with hinput | ⟨m, rfl⟩ | ⟨m, hm, hfed, hpath⟩
  · exact .inl hinput
  · cases hm : has m with
    | false => exact .inr (.inl ⟨m, hm, rfl⟩)
    | true => exact .inr (.inr ⟨m, mixer m, hm, rfl, ⟨0, hn, h.fed 0 hn m hm⟩, .refl _⟩)
  · exact .inr (.inr ⟨m, mixer m, hm, rfl, hfed, hpath⟩)

/-- The end of a kind of data moves on. -/
theorem Mixed.advance {a b : Element} {l : List Element} (h : Mixed run has n tip s)
    (hn : 0 < n) (hhas : has m = true) (ha : tip m = some a) (hb : b ∈ s ++ l)
    (hl : Between (Linked run) (s ++ l) a b l) :
    Mixed run has n (Function.update tip m (some b)) (s ++ l) := by
  have hsub : s ⊆ s ++ l := List.subset_append_left s l
  have hfed : ∀ i < n, FedBy run (s ++ l) m i a := by
    obtain ⟨_, -, ha', hfed⟩ := h.ends m hhas
    cases ha.symm.trans ha'
    exact fun i hi => (hfed i hi).mono hsub
  refine ⟨fun i hi => (h.opened i hi).mono hsub, fun m' hm' => ?_, fun e he => ?_⟩
  · by_cases hm : m' = m
    · subst hm
      exact ⟨b, hb, Function.update_self .., fun i hi => (hfed i hi).trans hl.path⟩
    · obtain ⟨a', ha', htip, hfed'⟩ := h.ends m' hm'
      exact ⟨a', hsub ha', by rw [Function.update_of_ne hm, htip],
        fun i hi => (hfed' i hi).mono hsub⟩
  · rcases List.mem_append.1 he with he | he
    · rcases h.through e he with hinput | hidle | ⟨m', a', hm', htip, ⟨i, hi, hfed'⟩, hpath⟩
      · exact .inl hinput
      · exact .inr (.inl hidle)
      · by_cases hm : m' = m
        · subst hm
          cases ha.symm.trans htip
          exact .inr (.inr ⟨m', b, hm', Function.update_self .., ⟨i, hi, hfed'.mono hsub⟩,
            (hpath.mono hsub).trans hl.path⟩)
        · exact .inr (.inr ⟨m', a', hm', by rw [Function.update_of_ne hm, htip],
            ⟨i, hi, hfed'.mono hsub⟩, hpath.mono hsub⟩)
    · exact .inr (.inr ⟨m, b, hhas, Function.update_self .., ⟨0, hn, (hfed 0 hn).trans
        (hl.through e he).1⟩, (hl.through e he).2⟩)

theorem leads_mixed {step : Build (Option Element)} (hn : 0 < n)
    (hstep : ∀ a, tip m = some a → Continues (Linked run) a step) :
    Leads (Mixed run has n tip) (stepIf (has m) (tip m) step)
      fun o => Mixed run has n (Function.update tip m o) := by
  intro s o s' h hrun
  cases hhas : has m with
  | false =>
    rw [hhas] at hrun
    cases hrun
    rwa [Function.update_eq_self]
  | true =>
    obtain ⟨a, hmem, ha, -⟩ := h.ends m hhas
    rw [hhas] at hrun
    obtain ⟨b, l, heq, hb, hl⟩ := hstep a ha s _ hmem hrun
    cases heq
    exact h.advance hn hhas ha hb hl

/-! ## The outputs -/

theorem joins_appendVideoPay (a : Element) :
    Continues (Linked run) a (appendVideoPay run config (some a) i) := by
  unfold appendVideoPay
  split_ifs
  · exact continues_appendElement a _
  · exact continues_appendElement a _
  · exact continues_appendElement a _
  · refine .after (fun s r h => ?_) fun _ => fun s r _ h => by cases h
    exact (places_nil_ok (i := 0) (places_notReached (tolerates_any run)) h).2

theorem joins_linkVideo {a mux : Element} {isRtpOut : Bool} :
    Joins (Linked run) a mux (linkVideo run config (some a) (some mux) isRtpOut i) := by
  refine .bind (continues_appendElement a _) fun next => ?_
  refine .bind (continues_stepIf fun _ => continues_appendElement next _) fun last => ?_
  refine .bind (continues_stepIf fun _ => continues_appendFiltered last _ _) fun last => ?_
  refine .bind (continues_appendLine (carries_buildVideoEncoder config)) fun next => ?_
  refine .bind (continues_stepIf fun _ => joins_appendVideoPay next) fun next => ?_
  refine .bind (continues_stepIf fun _ => continues_appendElement next _) fun next => ?_
  exact joins_elementLink next mux

/-- The encoder of mp3 is added before the element that it is linked behind. -/
theorem continues_appendMp3 (a enc : Element) :
    Continues (Linked run) a
      (elementAdd (some enc) >>= fun _ => appendMp3 run (some a) (some enc) i) := by
  intro s r ha h
  obtain ⟨_, s₁, h₁, h⟩ := run_bind_ok h
  obtain ⟨_, ⟨⟩, rfl⟩ := elementAdd_ok h₁
  obtain ⟨_, s₂, h₂, h⟩ := run_bind_ok h
  obtain ⟨_, ⟨⟩, rfl⟩ := elementAdd_ok h₂
  obtain ⟨_, s₃, h₃, h⟩ := run_bind_ok h
  obtain ⟨_, ⟨⟩, rfl⟩ := elementAdd_ok h₃
  obtain ⟨_, s₄, h₄, h⟩ := run_bind_ok h
  obtain ⟨_, _, ⟨⟩, ⟨⟩, hlink, rfl⟩ := elementLink_ok h₄
  obtain ⟨_, s₅, h₅, h⟩ := run_bind_ok h
  obtain ⟨_, _, ⟨⟩, ⟨⟩, hlink', rfl⟩ := elementLink_ok h₅
  obtain ⟨_, s₆, h₆, h⟩ := run_bind_ok h
  obtain ⟨_, _, ⟨⟩, ⟨⟩, hlink'', rfl⟩ := elementLink_ok h₆
  cases h
  refine ⟨_, _, by rw [List.append_assoc, List.append_assoc], by simp, ?_⟩
  have hway := ((Between.single (by simp [ha]) (by simp) hlink).trans
    (.single (by simp) (by simp) hlink')).trans (.single (s := s ++ ([enc] ++
      ([⟨"audioresample", memSPrintf .audioResample i⟩] ++
        [⟨"mpegaudioparse", memSPrintf .mpegAudioParse i⟩]))) (by simp) (by simp) hlink'')
  refine ⟨hway.path, fun e he => hway.through e ?_⟩
  simp only [List.mem_append, List.mem_singleton] at he
  rcases he with rfl | rfl | rfl <;> simp

theorem continues_appendAudioEncoder (a : Element) :
    Continues (Linked run) a (appendAudioEncoder run config (some a) i) := by
  unfold appendAudioEncoder
  refine .after (fun s r h => ?_) fun enc => ?_
  · exact (places_nil_ok (places_makeNamed (tolerates_any run)) h).2
  cases enc with
  | none => exact fun s r _ h => by cases h
  | some enc =>
    split_ifs
    · exact continues_appendMp3 a enc
    · exact continues_appendElement a enc

theorem joins_linkAudio {a mux : Element} {isRtpOut : Bool} :
    Joins (Linked run) a mux (linkAudio run config (some a) (some mux) isRtpOut i) := by
  refine .bind (continues_appendElement a _) fun next => ?_
  refine .bind (continues_appendAudioEncoder next) fun next => ?_
  refine .bind (continues_stepIf fun _ => continues_appendElement next _) fun next => ?_
  exact joins_elementLink next mux

/-- The name of the sink of an output for a kind of data: a device has two. -/
def sinkName (isDevice : Bool) (i : Nat) : Medium → String
  | .video => if isDevice then Template.videoSink.name i else memSPrintf .sink i
  | .audio => if isDevice then Template.audioSink.name i else memSPrintf .sink i

/-- The output is a device. -/
def isDevice (lib : Library) (output : OutputUri) : Bool :=
  (sinkDeviceType lib output.output).isSome

/-- The ends of the kinds of data have ways to the sinks of an output. -/
def Reaches (run : Run) (has : Medium → Bool) (tip : Medium → Option Element) (s : List Element)
    (isDevice : Bool) (i : Nat) : Prop :=
  ∀ m a, has m = true → tip m = some a →
    ∃ sink ∈ s, sink.name = sinkName isDevice i m ∧ Path (Linked run) s a sink

/-- An element of an output: it has a way to a sink and, where the stream has data, a way from the
end of a kind of data. -/
structure Outgoing (run : Run) (has : Medium → Bool) (tip : Medium → Option Element)
    (s : List Element) (e : Element) : Prop where
  drains : ∃ isDevice i m, ∃ sink ∈ s, sink.name = sinkName isDevice i m ∧
    Path (Linked run) s e sink
  fed : (∃ m, has m = true) → ∃ m a, has m = true ∧ tip m = some a ∧ Path (Linked run) s a e

theorem Reaches.mono {s' : List Element} {d : Bool} (h : Reaches run has tip s d i)
    (hs : s ⊆ s') : Reaches run has tip s' d i := by
  intro m a hm ha
  obtain ⟨sink, hsink, hname, hpath⟩ := h m a hm ha
  exact ⟨sink, hs hsink, hname, hpath.mono hs⟩

theorem Outgoing.mono {s' : List Element} {e : Element} (h : Outgoing run has tip s e)
    (hs : s ⊆ s') : Outgoing run has tip s' e := by
  obtain ⟨d, j, m, sink, hsink, hname, hpath⟩ := h.drains
  refine ⟨⟨d, j, m, sink, hs hsink, hname, hpath.mono hs⟩, fun hany => ?_⟩
  obtain ⟨m, a, hm, ha, hfed⟩ := h.fed hany
  exact ⟨m, a, hm, ha, hfed.mono hs⟩

/-- What a round leaves of an output: its sinks are reached, and the elements it adds are its. -/
def Placed (run : Run) (has : Medium → Bool) (tip : Medium → Option Element) (d : Bool) (i : Nat)
    (s s' : List Element) : Prop :=
  s ⊆ s' ∧ Reaches run has tip s' d i ∧ ∀ e ∈ s', e ∈ s ∨ Outgoing run has tip s' e

/-- The part of a device for a kind of data. -/
theorem doIf_device (has : Medium → Bool) (tip : Medium → Option Element) {queue sink : Element}
    {r : Unit × List Element} (hname : sink.name = sinkName true i m)
    (hends : has m = true → ∃ a ∈ s, tip m = some a)
    (hrun : (doIf (has m) (buildDevice run (tip m) queue sink)).run s = .ok r) :
    s ⊆ r.2 ∧ (∀ a, has m = true → tip m = some a →
        ∃ sink ∈ r.2, sink.name = sinkName true i m ∧ Path (Linked run) r.2 a sink) ∧
      ∀ e ∈ r.2, e ∈ s ∨ Outgoing run has tip r.2 e := by
  cases hm : has m with
  | false =>
    rw [hm] at hrun
    cases hrun
    exact ⟨List.Subset.refl s, fun _ h => Bool.noConfusion h, fun e he => .inl he⟩
  | true =>
    obtain ⟨a, hmem, ha⟩ := hends hm
    rw [hm, ha] at hrun
    obtain ⟨next, s₁, h₁, hrun⟩ := run_bind_ok hrun
    obtain ⟨_, s₂, h₂, hrun⟩ := run_bind_ok hrun
    cases hrun
    obtain ⟨b, l, heq, hb, hl⟩ := continues_appendElement a queue s _ hmem h₁
    cases heq
    obtain ⟨_, s₃, h₃, h₂⟩ := run_bind_ok h₂
    obtain ⟨_, ⟨⟩, rfl⟩ := elementAdd_ok h₃
    obtain ⟨_, s₄, h₄, h₂⟩ := run_bind_ok h₂
    obtain ⟨_, _, ⟨⟩, ⟨⟩, hlink, rfl⟩ := elementLink_ok h₄
    cases h₂
    have hway : Between (Linked run) (s ++ l ++ [sink]) a sink (l ++ [sink]) :=
      (hl.mono (List.subset_append_left _ _)).trans
        (.single (List.mem_append_left _ hb) (by simp) hlink)
    have hsink : sink ∈ s ++ l ++ [sink] := by simp
    refine ⟨fun e he => by simp [he], fun a' _ ha' => ?_, fun e he => ?_⟩
    · cases ha.symm.trans ha'
      exact ⟨sink, hsink, hname, hway.path⟩
    · rw [List.append_assoc] at he
      rcases List.mem_append.1 he with he | he
      · exact .inl he
      · obtain ⟨hfed, hdrain⟩ := hway.through e he
        exact .inr ⟨⟨true, i, m, sink, hsink, hname, hdrain⟩, fun _ => ⟨m, a, hm, ha, hfed⟩⟩

theorem makeVideoDeviceSink_name (dt : SinkDeviceType) (i : Nat) :
    (makeVideoDeviceSink dt i).name = sinkName true i .video := by
  cases dt <;> rfl

theorem makeAudioDeviceSink_name (dt : SinkDeviceType) (i : Nat) :
    (makeAudioDeviceSink dt i).name = sinkName true i .audio := by
  cases dt <;> rfl

/-- The round of a device. -/
theorem placed_device {conn : Builders.Connector} {dt : SinkDeviceType} {output : OutputUri}
    {r : Unit × List Element} (hdevice : sinkDeviceType lib output.output = some dt)
    (hends : ∀ m, Medium.has config.toAudioVideoConfig m = true →
      ∃ a ∈ s, Medium.tip conn m = some a)
    (hrun : (buildOneOutput lib run config conn.video conn.audio output i).run s = .ok r) :
    Placed run (Medium.has config.toAudioVideoConfig) (Medium.tip conn) true i s r.2 := by
  unfold buildOneOutput at hrun
  rw [hdevice] at hrun
  obtain ⟨_, s₁, h₁, hrun⟩ := run_bind_ok hrun
  obtain ⟨hsub, hvideo, hvadded⟩ := doIf_device (m := .video)
    (Medium.has config.toAudioVideoConfig) (Medium.tip conn) (makeVideoDeviceSink_name dt i)
    (hends .video) h₁
  have hends' : ∀ m, Medium.has config.toAudioVideoConfig m = true →
      ∃ a ∈ s₁, Medium.tip conn m = some a := by
    intro m hm
    obtain ⟨a, hmem, ha⟩ := hends m hm
    exact ⟨a, hsub hmem, ha⟩
  obtain ⟨hsub', haudio, haadded⟩ := doIf_device (m := .audio)
    (Medium.has config.toAudioVideoConfig) (Medium.tip conn) (makeAudioDeviceSink_name dt i)
    (hends' .audio) hrun
  refine ⟨List.Subset.trans hsub hsub', fun m a hm ha => ?_, fun e he => ?_⟩
  · cases m with
    | video =>
      obtain ⟨sink, hsink, hname, hpath⟩ := hvideo a hm ha
      exact ⟨sink, hsub' hsink, hname, hpath.mono hsub'⟩
    | audio => exact haudio a hm ha
  · rcases haadded e he with he | hout
    · exact (hvadded e he).imp id fun hout => hout.mono hsub'
    · exact .inr hout

/-- The round of an output that is no device. -/
theorem placed_muxed {conn : Builders.Connector} {output : OutputUri} {r : Unit × List Element}
    (hdevice : sinkDeviceType lib output.output = none)
    (hends : ∀ m, Medium.has config.toAudioVideoConfig m = true →
      ∃ a ∈ s, Medium.tip conn m = some a)
    (hrun : (buildOneOutput lib run config conn.video conn.audio output i).run s = .ok r) :
    Placed run (Medium.has config.toAudioVideoConfig) (Medium.tip conn) false i s r.2 := by
  unfold buildOneOutput at hrun
  rw [hdevice] at hrun
  obtain ⟨mux, s₁, h₁, hrun⟩ := run_bind_ok hrun
  obtain rfl : s = s₁ := (places_nil_ok (places_makeMuxer (tolerates_any run) lib) h₁).2.symm
  obtain ⟨_, s₂, h₂, hrun⟩ := run_bind_ok hrun
  obtain ⟨mux, rfl, rfl⟩ := elementAdd_ok h₂
  obtain ⟨_, s₃, h₃, hrun⟩ := run_bind_ok hrun
  have hvideoEnd : config.haveVideo = true → ∃ a ∈ s ++ [mux], conn.video = some a := by
    intro hm
    obtain ⟨a, hmem, ha⟩ := hends .video hm
    exact ⟨a, List.mem_append_left _ hmem, ha⟩
  obtain ⟨lv, rfl, hvpath, hvideo⟩ := doIf_joins (fun a ha => by rw [ha]; exact joins_linkVideo)
    hvideoEnd (by simp) h₃
  obtain ⟨_, s₄, h₄, hrun⟩ := run_bind_ok hrun
  have haudioEnd : config.haveAudio = true → ∃ a ∈ s ++ [mux] ++ lv, conn.audio = some a := by
    intro hm
    obtain ⟨a, hmem, ha⟩ := hends .audio hm
    exact ⟨a, by simp [hmem], ha⟩
  obtain ⟨la, rfl, hapath, haudio⟩ := doIf_joins (fun a ha => by rw [ha]; exact joins_linkAudio)
    haudioEnd (by simp) h₄
  obtain ⟨sink, s₅, h₅, hrun⟩ := run_bind_ok hrun
  obtain ⟨⟨-, -, hname⟩, hs₅⟩ := places_nil_ok
    (places_buildGenericOutput (tolerates_any run) (.inr trivial)) h₅
  obtain rfl : s ++ [mux] ++ lv ++ la = s₅ := hs₅.symm
  obtain ⟨_, s₆, h₆, hrun⟩ := run_bind_ok hrun
  obtain ⟨sink, rfl, rfl⟩ := elementAdd_ok h₆
  obtain ⟨_, _, ⟨⟩, ⟨⟩, hlink, hr⟩ := elementLink_ok hrun
  rw [hr]
  have hsink : Path (Linked run) (s ++ [mux] ++ lv ++ la ++ [sink]) mux sink :=
    .single (by simp) (by simp) hlink
  have hpath : ∀ m a, Medium.has config.toAudioVideoConfig m = true → Medium.tip conn m = some a →
      Path (Linked run) (s ++ [mux] ++ lv ++ la ++ [sink]) a mux := by
    intro m a hm ha
    cases m with
    | video => exact (hvpath a hm ha).append.append
    | audio => exact (hapath a hm ha).append
  have hsinkName : ∀ m, sink.name = sinkName false i m := by
    intro m
    cases m <;> exact hname sink rfl
  have hmux : (∃ m, Medium.has config.toAudioVideoConfig m = true) →
      ∃ m a, Medium.has config.toAudioVideoConfig m = true ∧ Medium.tip conn m = some a ∧
        Path (Linked run) (s ++ [mux] ++ lv ++ la ++ [sink]) a mux := by
    rintro ⟨m, hm⟩
    obtain ⟨a, -, ha⟩ := hends m hm
    exact ⟨m, a, hm, ha, hpath m a hm ha⟩
  have hdrains : ∀ e, Path (Linked run) (s ++ [mux] ++ lv ++ la ++ [sink]) e mux →
      ∃ d j m, ∃ t ∈ s ++ [mux] ++ lv ++ la ++ [sink], t.name = sinkName d j m ∧
        Path (Linked run) (s ++ [mux] ++ lv ++ la ++ [sink]) e t := fun e he =>
    ⟨false, i, .video, sink, by simp, hsinkName .video, he.trans hsink⟩
  refine ⟨fun e he => by simp [he], fun m a hm ha =>
    ⟨sink, by simp, hsinkName m, (hpath m a hm ha).trans hsink⟩, fun e he => ?_⟩
  simp only [List.mem_append, List.mem_singleton] at he
  rcases he with (((he | rfl) | he) | he) | rfl
  · exact .inl he
  · exact .inr ⟨hdrains e (.refl e), hmux⟩
  · obtain ⟨hway, a, hm, ha, hfrom⟩ := hvideo e he
    exact .inr ⟨hdrains e hway.append.append, fun _ => ⟨.video, a, hm, ha, hfrom.append.append⟩⟩
  · obtain ⟨hway, a, hm, ha, hfrom⟩ := haudio e he
    exact .inr ⟨hdrains e hway.append, fun _ => ⟨.audio, a, hm, ha, hfrom.append⟩⟩
  · refine .inr ⟨⟨false, i, .video, e, by simp, hsinkName .video, .refl e⟩, fun hany => ?_⟩
    obtain ⟨m, a, hm, ha, hway⟩ := hmux hany
    exact ⟨m, a, hm, ha, hway.trans hsink⟩

/-- The sinks of the outputs are reached, and what is added is theirs. -/
theorem placed_outputs {conn : Builders.Connector} (outputs : List OutputUri) (n : Nat)
    {r : Unit × List Element}
    (hends : ∀ m, Medium.has config.toAudioVideoConfig m = true →
      ∃ a ∈ s, Medium.tip conn m = some a)
    (hrun : ((outputs.zipIdx n).foldlM (fun _ output => buildOneOutput lib run config conn.video
      conn.audio output.1 output.2) () : Build Unit).run s = .ok r) :
    s ⊆ r.2 ∧ (∀ j output, outputs[j]? = some output →
        Reaches run (Medium.has config.toAudioVideoConfig) (Medium.tip conn) r.2
          (isDevice lib output) (n + j)) ∧
      ∀ e ∈ r.2, e ∈ s ∨
        Outgoing run (Medium.has config.toAudioVideoConfig) (Medium.tip conn) r.2 e := by
  induction outputs generalizing n s with
  | nil =>
    cases hrun
    exact ⟨List.Subset.refl s, by simp, fun e he => .inl he⟩
  | cons output outputs ih =>
    rw [List.zipIdx_cons, List.foldlM_cons] at hrun
    obtain ⟨_, s₁, h₁, hrun⟩ := run_bind_ok hrun
    have hround : Placed run (Medium.has config.toAudioVideoConfig) (Medium.tip conn)
        (isDevice lib output) n s s₁ := by
      unfold isDevice
      cases hdevice : sinkDeviceType lib output.output with
      | none => exact placed_muxed hdevice hends h₁
      | some dt => exact placed_device hdevice hends h₁
    obtain ⟨hsub, hreaches, hadded⟩ := hround
    have hends' : ∀ m, Medium.has config.toAudioVideoConfig m = true →
        ∃ a ∈ s₁, Medium.tip conn m = some a := by
      intro m hm
      obtain ⟨a, hmem, ha⟩ := hends m hm
      exact ⟨a, hsub hmem, ha⟩
    obtain ⟨hsub', hreaches', hadded'⟩ := ih (n + 1) hends' hrun
    refine ⟨List.Subset.trans hsub hsub', fun j o ho => ?_, fun e he => ?_⟩
    · cases j with
      | zero =>
        cases ho
        exact hreaches.mono hsub'
      | succ j =>
        have hnext := hreaches' j o ho
        rwa [Nat.add_assoc, Nat.add_comm 1 j] at hnext
    · rcases hadded' e he with he | hout
      · exact (hadded e he).imp id fun hout => hout.mono hsub'
      · exact .inr hout

/-! ## Pipelines -/

/-- The pipeline of a mosaic that is built: the source of each input is linked to its decodebin; the
data of each kind of each input has a way to the sink of each output. Each element is of an input,
or mixes a kind of data that the stream does not have, or has a way from the data of an input, where
there is data, and to a sink, where there is an output. -/
structure Delivers (lib : Library) (run : Run) (config : EncodingConfig)
    (elements : List Element) : Prop where
  grid : mosaicGrid config.input.length ≠ none
  opened : ∀ i < config.input.length, Opened run elements i
  sinks : ∀ i < config.input.length, ∀ k output, config.output[k]? = some output →
    ∀ m, Medium.has config.toAudioVideoConfig m = true → ∃ sink ∈ elements,
      sink.name = sinkName (isDevice lib output) k m ∧ FedBy run elements m i sink
  fed : (∃ m, Medium.has config.toAudioVideoConfig m = true) → ∀ e ∈ elements,
    IsInput config.input.length e ∨
    (∃ m, Medium.has config.toAudioVideoConfig m = false ∧ e = mixer m) ∨
    ∃ m, Medium.has config.toAudioVideoConfig m = true ∧
      ∃ i < config.input.length, FedBy run elements m i e
  drains : config.output ≠ [] → ∀ e ∈ elements,
    IsInput config.input.length e ∨
    (∃ m, Medium.has config.toAudioVideoConfig m = false ∧ e = mixer m) ∨
    ∃ d k m, ∃ sink ∈ elements, sink.name = sinkName d k m ∧ Path (Linked run) elements e sink

/-- A grid has a cell for each input, and an input. -/
theorem length_cells {size : Nat} {grid : Nat × Nat} (h : mosaicGrid size = some grid) :
    (cells grid).length = size ∧ 0 < size := by
  unfold mosaicGrid at h
  split_ifs at h with h₁ h₂ h₄ h₉ h₁₆
  all_goals
    cases h
    subst size
    exact ⟨rfl, by decide⟩

theorem tiled_mixers : Tiled run has 0 [mixer .video, mixer .audio] where
  mixers m := by cases m <;> simp
  opened i hi := absurd hi (Nat.not_lt_zero i)
  fed i hi := absurd hi (Nat.not_lt_zero i)
  through e he := by
    rcases List.mem_pair.1 he with rfl | rfl
    · exact .inr (.inl ⟨.video, rfl⟩)
    · exact .inr (.inl ⟨.audio, rfl⟩)

/-- The stages of a mosaic that is built. -/
theorem stages_of_built {options : MosaicImageOptions}
    (h : (initPipeline lib run config).run [] = .ok (some options, elements)) :
    ∃ grid conn s tiled, mosaicGrid config.input.length = some grid ∧
      (buildTiles lib run config (mixer .video) (mixer .audio) grid
        { screenSize := (1280, 720), rightPadding := 100 }).run [mixer .video, mixer .audio] =
          .ok tiled ∧
      options = (if config.haveVideo then tiled.1 else {}) ∧
      Mixed run (Medium.has config.toAudioVideoConfig) config.input.length (Medium.tip conn) s ∧
      (buildOutput lib run config conn.video conn.audio).run s = .ok ((), elements) := by
  unfold initPipeline at h
  cases hgrid : mosaicGrid config.input.length with
  | none =>
    rw [hgrid] at h
    cases h
  | some grid =>
    rw [hgrid] at h
    obtain ⟨hcells, hpos⟩ := length_cells hgrid
    obtain ⟨_, s₁, h₁, h⟩ := run_bind_ok h
    obtain ⟨_, ⟨⟩, rfl⟩ := elementAdd_ok h₁
    obtain ⟨_, s₂, h₂, h⟩ := run_bind_ok h
    obtain ⟨_, ⟨⟩, rfl⟩ := elementAdd_ok h₂
    obtain ⟨tiled, s₃, h₃, h⟩ := run_bind_ok h
    have htiled := tiled_foldlM _ tiled_mixers h₃
    rw [List.length_zip, hcells, Nat.min_self, Nat.zero_add] at htiled
    obtain ⟨video, s₄, h₄, h⟩ := run_bind_ok h
    have hvideo := leads_mixed (m := .video) hpos
      (fun a ha => by cases ha; exact continues_buildMixedVideo _) _ _ _ (htiled.mixed hpos) h₄
    obtain ⟨audio, s₅, h₅, h⟩ := run_bind_ok h
    have haudio := leads_mixed (m := .audio) hpos
      (fun a ha => by cases ha; exact continues_buildMixedAudio _) _ _ _ hvideo h₅
    obtain ⟨_, s₆, h₆, h⟩ := run_bind_ok h
    cases h
    have htip : Function.update (Function.update (fun m => some (mixer m)) Medium.video video)
        .audio audio = Medium.tip ⟨video, audio⟩ := by
      funext m
      cases m <;> rfl
    have hmixed : Mixed run (Medium.has config.toAudioVideoConfig) config.input.length
        (Medium.tip ⟨video, audio⟩) s₅ := htip ▸ haudio
    exact ⟨grid, ⟨video, audio⟩, s₅, _, rfl, h₃, rfl, hmixed, h₆⟩

/-- The elements that take up the data of the inputs are there. -/
theorem udb_mem_of_built {options : MosaicImageOptions}
    (h : (initPipeline lib run config).run [] = .ok (some options, elements))
    (hm : Medium.has config.toAudioVideoConfig m = true) (hi : i < config.input.length) :
    udb m i ∈ elements := by
  obtain ⟨grid, conn, s, tiled, -, -, -, hmixed, h⟩ := stages_of_built h
  have hends : ∀ m, Medium.has config.toAudioVideoConfig m = true →
      ∃ a ∈ s, Medium.tip conn m = some a := by
    intro m hm
    obtain ⟨a, hmem, ha, -⟩ := hmixed.ends m hm
    exact ⟨a, hmem, ha⟩
  obtain ⟨a, -, -, hfed⟩ := hmixed.ends m hm
  exact (placed_outputs config.output 0 hends h).1 (hfed i hi).1

/-- A mosaic that is built delivers the data of all its inputs to all its outputs. -/
theorem mosaic_delivers {options : MosaicImageOptions}
    (h : (initPipeline lib run config).run [] = .ok (some options, elements)) :
    Delivers lib run config elements := by
  obtain ⟨grid, conn, s, tiled, hgrid, -, -, hmixed, h⟩ := stages_of_built h
  have hends : ∀ m, Medium.has config.toAudioVideoConfig m = true →
      ∃ a ∈ s, Medium.tip conn m = some a := by
    intro m hm
    obtain ⟨a, hmem, ha, -⟩ := hmixed.ends m hm
    exact ⟨a, hmem, ha⟩
  obtain ⟨hsub, hreaches, hadded⟩ := placed_outputs config.output 0 hends h
  have hfed : ∀ m a, Medium.has config.toAudioVideoConfig m = true → Medium.tip conn m = some a →
      ∀ i < config.input.length, FedBy run elements m i a := by
    intro m a hm ha i hi
    obtain ⟨_, -, ha', hfed⟩ := hmixed.ends m hm
    cases ha.symm.trans ha'
    exact (hfed i hi).mono hsub
  have hsinks : ∀ k output, config.output[k]? = some output →
      Reaches run (Medium.has config.toAudioVideoConfig) (Medium.tip conn) elements
        (isDevice lib output) k := by
    intro k output ho
    have hreach := hreaches k output ho
    rwa [Nat.zero_add] at hreach
  refine ⟨by rw [hgrid]; exact Option.some_ne_none grid, fun i hi => (hmixed.opened i hi).mono hsub,
    fun i hi k output ho m hm => ?_, fun hany e he => ?_, fun hne e he => ?_⟩
  · obtain ⟨a, -, ha⟩ := hends m hm
    obtain ⟨sink, hsink, hname, hpath⟩ := hsinks k output ho m a hm ha
    exact ⟨sink, hsink, hname, (hfed m a hm ha i hi).trans hpath⟩
  · rcases hadded e he with he | hout
    · rcases hmixed.through e he with hinput | hidle | ⟨m, a, hm, -, ⟨i, hi, hfrom⟩, -⟩
      · exact .inl hinput
      · exact .inr (.inl hidle)
      · exact .inr (.inr ⟨m, hm, i, hi, hfrom.mono hsub⟩)
    · obtain ⟨m, a, hm, ha, hpath⟩ := hout.fed hany
      have hpos : 0 < config.input.length := (length_cells hgrid).2
      exact .inr (.inr ⟨m, hm, 0, hpos, (hfed m a hm ha 0 hpos).trans hpath⟩)
  · rcases hadded e he with he | hout
    · rcases hmixed.through e he with hinput | hidle | ⟨m, a, hm, ha, -, hpath⟩
      · exact .inl hinput
      · exact .inr (.inl hidle)
      · obtain ⟨output, outputs, houtput⟩ := List.exists_cons_of_ne_nil hne
        obtain ⟨sink, hsink, hname, hway⟩ := hsinks 0 output (by rw [houtput]; rfl) m a hm ha
        exact .inr (.inr ⟨_, 0, m, sink, hsink, hname, (hpath.mono hsub).trans hway⟩)
    · exact .inr (.inr hout.drains)

/-- A mosaic of two inputs, on a screen and towards rtmp. -/
def sampleMosaic : EncodingConfig where
  toAudioVideoConfig := { sampleConfig .encode true
    [{ output := { path := "screen" } }, { output := { scheme := .rtmp } }] with
      input := [{ input := { scheme := .file, path := "/1.ts" } },
        { input := { scheme := .file, path := "/2.ts" } }] }
  deinterlace := none
  frameRate := none
  volume := none
  videoEncoder := "x264enc"
  audioEncoder := "lamemp3enc"
  audioChannelsCount := none
  videoEncoderArgs := ∅
  videoEncoderStrArgs := ∅
  size := (0, 0)
  videoBitRate := none
  audioBitRate := none
  logo := {}
  decklinkVideoMode := 0
  aspectRatio := none
  relayVideo := false
  relayAudio := false

theorem sampleMosaic_run : ∃ options elements, elements.length = 36 ∧
    (initPipeline sampleLibrary quiet sampleMosaic).run [] = .ok (some options, elements) := by
  have h : ((initPipeline sampleLibrary quiet sampleMosaic).run []).toOption.map
      (fun p => (p.1.isSome, p.2.length)) = some (true, 36) := by with_unfolding_all rfl
  cases hrun : (initPipeline sampleLibrary quiet sampleMosaic).run [] with
  | error fault =>
    rw [hrun] at h
    cases h
  | ok p =>
    obtain ⟨options, elements⟩ := p
    rw [hrun] at h
    obtain ⟨hsome, hlength⟩ := Prod.mk.inj (Option.some.inj h)
    obtain ⟨options, rfl⟩ := Option.isSome_iff_exists.1 hsome
    exact ⟨options, elements, hlength, rfl⟩

theorem mosaic_delivers_sampleMosaic : ∃ elements, elements.length = 36 ∧
    Delivers sampleLibrary quiet sampleMosaic elements := by
  obtain ⟨options, elements, hlength, hrun⟩ := sampleMosaic_run
  exact ⟨elements, hlength, mosaic_delivers hrun⟩

end IptvCloud.Streams.Mosaic
