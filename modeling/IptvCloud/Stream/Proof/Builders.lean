import Mathlib.Data.List.DropRight
import IptvCloud.Lib.Footprint
import IptvCloud.Stream.Builders

/-!
# What the builders add to a pipeline

A name is a template and a number, and gives both back (`memSPrintf_inj`). `Places` is the footprint
of a computation by templates: the names under one number that it adds, the value it returns, and
the faults it can end with. Each function of the elements and of the builders has one such rule. It
says what holds when the function returns; the faults it may end with are left open (`Tolerates`),
so that one rule serves for a run without null pointers, for one without duplicate names and for
one without any fault.
-/

namespace IptvCloud.Streams.Builders

open Footprint

/-! ## Names -/

/-- All templates. -/
def Template.all : List Template :=
  [.videoTee, .audioTee, .udbVideo, .udbAudio, .postProc, .videoLogo, .deinterlace, .aspectRatio,
    .videoConvert, .audioConvert, .volume, .audioConvertCapsFilter, .src, .videoCodec, .audioCodec,
    .videoScaleCapsFilter, .videoX264encCapsFilterStreamFormat, .videoX264encCapsFilterProfile,
    .videoScale, .videoRateCapsFilter, .videoRate, .audioResample, .mpegAudioParse, .decodebin,
    .sink, .audioParser, .videoParser, .muxer, .audioPay, .videoPay, .videoTeeQueue,
    .audioTeeQueue, .splitSink]

theorem Template.mem_all (t : Template) : t ∈ all := by
  cases t <;> decide

theorem Template.text_inj {t t' : Template} (h : t.text = t'.text) : t = t' := by
  have hnodup : (all.map text).Nodup := by decide +kernel
  exact List.inj_on_of_nodup_map hnodup t.mem_all t'.mem_all h

theorem Template.text_eq_concat (t : Template) : ∃ l, t.text.toList = l ++ ['_'] := by
  have hall : ∀ t ∈ all, t.text.toList.getLast? = some '_' := by decide +kernel
  exact ⟨_, (List.dropLast_append_getLast? '_' (hall t t.mem_all)).symm⟩

/-- The digits at the end of a name are its number. -/
theorem rdropWhile_memSPrintf (t : Template) (i : Nat) :
    (memSPrintf t i).toList.rdropWhile Char.isDigit = t.text.toList := by
  obtain ⟨l, hl⟩ := t.text_eq_concat
  have hdigits : ∀ c ∈ (Nat.toDigits 10 i).reverse, c.isDigit = true := fun c hc =>
    Nat.isDigit_of_mem_toDigits (by decide) (by decide) (List.mem_reverse.1 hc)
  rw [memSPrintf, String.toList_append, String.toList_ofList, List.rdropWhile, List.reverse_append,
    List.dropWhile_append_of_pos hdigits, hl, List.reverse_append]
  simp [Char.isDigit]

theorem memSPrintf_inj {t t' : Template} {i j : Nat} (h : memSPrintf t i = memSPrintf t' j) :
    t = t' ∧ i = j := by
  have htext : t = t' := by
    refine Template.text_inj (String.toList_inj.1 ?_)
    rw [← rdropWhile_memSPrintf t i, h, rdropWhile_memSPrintf]
  subst htext
  have hdigits : Nat.toDigits 10 i = Nat.toDigits 10 j := by
    have hl := congrArg String.toList h
    rw [memSPrintf, memSPrintf, String.toList_append, String.toList_append, String.toList_ofList,
      String.toList_ofList] at hl
    exact List.append_cancel_left hl
  refine ⟨rfl, ?_⟩
  rw [← Nat.ofDigitChars_ten_toDigits (n := i), hdigits, Nat.ofDigitChars_ten_toDigits]

/-! ## Footprints by templates -/

/-- The names of the templates under a number. -/
def Names (L : List Template) (i : Nat) : Set String := {name | ∃ t ∈ L, name = memSPrintf t i}

theorem names_append (L L' : List Template) (i : Nat) :
    Names (L ++ L') i = Names L i ∪ Names L' i := by
  ext name
  simp [Names, or_and_right, exists_or]

theorem disjoint_names {L L' : List Template} {i j : Nat} (h : i = j → ∀ t ∈ L, t ∉ L') :
    Disjoint (Names L i) (Names L' j) := by
  rw [Set.disjoint_left]
  rintro name ⟨t, ht, rfl⟩ ⟨t', ht', hname⟩
  obtain ⟨rfl, rfl⟩ := memSPrintf_inj hname
  exact h rfl t ht ht'

variable {lib : Library} {run : Run} {D : Prop} {E : Fault → Prop} {i : Nat}

/-- The computation adds names of the templates under the number. -/
def Places {β : Type} (L : List Template) (i : Nat) (D : Prop) (E : Fault → Prop) (Q : β → Prop)
    (x : Build β) : Prop :=
  Adds Element.name D (Names L i) E Q x

/-- The faults that a rule leaves open: a duplicate name where these are no concern, and what
GStreamer and the library `common` answer. -/
structure Tolerates (run : Run) (D : Prop) (E : Fault → Prop) : Prop where
  duplicate : D → ∀ name, E (.duplicateName name)
  notLinked : ∀ src dest, run.links src dest = false → E .notLinked
  stopped : run.notReachedStops = true ∨ run.criticalStops = true → E .stopped

/-- The faults of null pointers that are not linked, of missing inputs and of the `CHECK`s. -/
structure Lenient (E : Fault → Prop) : Prop where
  nullElement : E .nullElement
  noInput : E .noInput
  checkFailed : ∀ text, E (.checkFailed text)

section
variable {β γ : Type} {L L' : List Template} {Q Q' : β → Prop} {R : γ → Prop} {x : Build β}
  {f : β → Build γ}

theorem Places.pure {b : β} (h : Q b) : Places L i D E Q (Pure.pure b) := Adds.pure h

theorem Places.mono (h : Places L i D E Q x) (hL : ∀ t ∈ L, t ∈ L') (hQ : ∀ b, Q b → Q' b) :
    Places L' i D E Q' x :=
  Adds.mono h (fun _ ⟨t, ht, hname⟩ => ⟨t, hL t ht, hname⟩) hQ

theorem Places.post (h : Places L i D E Q x) (hQ : ∀ b, Q b → Q' b) : Places L i D E Q' x :=
  h.mono (fun _ ht => ht) hQ

theorem Places.bind (hx : Places L i D E Q x) (hf : ∀ b, Q b → Places L' i D E R (f b))
    (hdisj : D ∨ ∀ t ∈ L, t ∉ L') : Places (L ++ L') i D E R (x >>= f) := by
  unfold Places
  rw [names_append]
  exact Adds.bind hx hf (hdisj.imp id fun h => disjoint_names fun _ => h)

/-- Followed by a computation that adds nothing. -/
theorem Places.bind_nil (hx : Places L i D E Q x) (hf : ∀ b, Q b → Places [] i D E R (f b)) :
    Places L i D E R (x >>= f) :=
  (hx.bind hf (.inr (by simp))).mono (by simp) fun _ h => h

theorem Places.ite {c : Bool} {y : Build β} (hx : c = true → Places L i D E Q x)
    (hy : c = false → Places L i D E Q y) : Places L i D E Q (if c then x else y) := by
  cases c with
  | true => exact hx rfl
  | false => exact hy rfl

end

theorem places_throw {β : Type} {L : List Template} {Q : β → Prop} {fault : Fault} (h : E fault) :
    Places L i D E Q (throw fault : Build β) :=
  Adds.throw h

theorem Places.stepIf {L : List Template} {Q : Option Element → Prop} {holds : Bool}
    {last : Option Element} {step : Build (Option Element)}
    (hstep : holds = true → Places L i D E Q step) (hskip : holds = false → Q last) :
    Places L i D E Q (Builders.stepIf holds last step) :=
  Places.ite hstep fun h => .pure (hskip h)

theorem Places.doIf {L : List Template} {Q : Unit → Prop} {holds : Bool} {step : Build Unit}
    (hstep : holds = true → Places L i D E Q step) (hskip : holds = false → Q ()) :
    Places L i D E Q (Builders.doIf holds step) :=
  Places.ite hstep fun h => .pure (hskip h)

/-! ## Elements -/

theorem run_elementAdd (e : Element) (s : List Element) :
    (elementAdd (some e)).run s =
      if e.name ∈ s.map Element.name then .error (.duplicateName e.name)
      else .ok ((), s ++ [e]) :=
  rfl

theorem places_deref {elem : Option Element} (h : elem.isSome = true ∨ E .nullElement) :
    Places [] i D E (fun e => elem = some e) (deref elem) := by
  cases elem with
  | none => exact places_throw (h.resolve_left (by simp))
  | some e => exact .pure rfl

section
variable (hE : Tolerates run D E)
include hE

theorem places_elementAdd {t : Template} {elem : Option Element}
    (hname : ∀ e, elem = some e → e.name = memSPrintf t i)
    (h : elem.isSome = true ∨ E .nullElement) :
    Places [t] i D E (fun _ => elem.isSome = true) (elementAdd elem) := by
  intro s hs
  cases elem with
  | none => exact h.resolve_left (by simp)
  | some e =>
    have hmem : e.name ∈ Names [t] i := ⟨t, by simp, hname e rfl⟩
    by_cases htaken : e.name ∈ s.map Element.name
    · rw [run_elementAdd, if_pos htaken]
      rcases hs with hD | hfree
      · exact hE.duplicate hD e.name
      · obtain ⟨a, ha, heq⟩ := List.mem_map.1 htaken
        exact absurd (heq ▸ hmem) (hfree a ha)
    · rw [run_elementAdd, if_neg htaken]
      exact ⟨rfl, [e], rfl, by simpa using hmem, .inr (List.nodup_singleton _)⟩

/-- A new element. -/
theorem places_add {t : Template} (plugin : String) :
    Places [t] i D E (fun _ => True) (elementAdd (some ⟨plugin, memSPrintf t i⟩)) := by
  refine (places_elementAdd hE ?_ (.inl rfl)).post fun _ _ => trivial
  rintro e ⟨⟩
  rfl

theorem places_elementLink {src dest : Option Element}
    (h : (src.isSome = true ∧ dest.isSome = true) ∨ E .nullLink) :
    Places [] i D E (fun _ => src.isSome = true ∧ dest.isSome = true)
      (elementLink run src dest) := by
  cases src with
  | none => exact places_throw (h.resolve_left (by simp))
  | some src =>
    cases dest with
    | none => exact places_throw (h.resolve_left (by simp))
    | some dest =>
      refine Places.ite (fun _ => .pure ⟨rfl, rfl⟩) fun hlinks => ?_
      exact places_throw (hE.notLinked src dest hlinks)

theorem places_notReached : Places [] i D E (fun _ => True) (notReached run) :=
  Places.ite (fun h => places_throw (hE.stopped (.inl h))) fun _ => .pure trivial

theorem places_criticalLog : Places [] i D E (fun _ => True) (criticalLog run) :=
  Places.ite (fun h => places_throw (hE.stopped (.inr h))) fun _ => .pure trivial

theorem places_null {Q : Option Element → Prop} (h : Q none) : Places [] i D E Q
    (do
      notReached run
      return none) :=
  (places_notReached hE).bind (fun _ _ => .pure h) (.inr (by simp))

/-- An element of a factory under a name of its own. -/
theorem places_makeNamed {t : Template} {known : List String} {plugin : String} :
    Places [] i D E (fun o => (o.isSome = true ↔ plugin ∈ known) ∧
      ∀ e, o = some e → e.name = memSPrintf t i) (makeKnown run known plugin (memSPrintf t i)) := by
  unfold makeKnown
  split_ifs with h
  · refine .pure ⟨by simpa using h, ?_⟩
    rintro e ⟨⟩
    rfl
  · exact places_null hE ⟨by simpa using h, by simp⟩

theorem places_appendElement {t : Template} {last : Option Element} (plugin : String)
    (h : last.isSome = true ∨ E .nullLink) :
    Places [t] i D E (fun o => o.isSome = true ∧ last.isSome = true)
      (appendElement run last ⟨plugin, memSPrintf t i⟩) := by
  refine (places_add hE plugin).bind (fun _ _ => ?_) (.inr (by simp))
  refine (places_elementLink hE (h.imp (fun h => ⟨h, rfl⟩) id)).bind (fun _ hlink => ?_)
    (.inr (by simp))
  exact .pure ⟨rfl, hlink.1⟩

theorem places_appendLine {L : List Template} {Q : Line → Prop} {last : Option Element}
    {line : Build Line} (hline : Places L i D E Q line) (hQ : ∀ l, Q l → l.1.isSome = true)
    (h : last.isSome = true ∨ E .nullLink) :
    Places L i D E (fun o => last.isSome = true ∧ ∃ l, Q l ∧ o = l.2)
      (appendLine run last line) := by
  have hlinked : ∀ l, Q l → Places [] i D E (fun o => last.isSome = true ∧ ∃ l, Q l ∧ o = l.2)
      (elementLink run last l.1 >>= fun _ => Pure.pure l.2) := by
    intro l hl
    refine (places_elementLink hE (h.imp (fun h => ⟨h, hQ l hl⟩) id)).bind (fun _ hlink => ?_)
      (.inr (by simp))
    exact .pure ⟨hlink.1, l, hl, rfl⟩
  exact hline.bind_nil hlinked

end

/-! ## Inputs -/

/-- There is a first input, and `make_src` makes its source. -/
def SourceMade (lib : Library) (config : AudioVideoConfig) : Prop :=
  ∃ uri rest source, config.input = uri :: rest ∧ Streams.makeSrc lib.toCommon uri = .ok source

/-- The video of an encoding is queued; that of a relay goes through a parser that is known. -/
def Builder.VideoParserKnown : Builder → Prop
  | .encoding _ => True
  | .relay config => config.videoParser ∈ videoParsers
  | .timeShiftRecorder config => config.videoParser ∈ videoParsers

def Builder.AudioParserKnown : Builder → Prop
  | .encoding _ => True
  | .relay config => config.audioParser ∈ audioParsers
  | .timeShiftRecorder config => config.audioParser ∈ audioParsers

/-- The parsers are known for the kinds of data that the stream has. -/
structure Builder.ParsersKnown (builder : Builder) : Prop where
  video : builder.config.haveVideo = true → builder.VideoParserKnown
  audio : builder.config.haveAudio = true → builder.AudioParserKnown

/-- The ends are there for the kinds of data that the stream has. -/
structure WellConnected (config : AudioVideoConfig) (conn : Connector) : Prop where
  video : conn.video.isSome = config.haveVideo
  audio : conn.audio.isSome = config.haveAudio

theorem places_check {holds : Bool} {text : String}
    (h : holds = true ∨ ∀ text, E (.checkFailed text)) :
    Places [] i D E (fun _ => holds = true) (check holds text) := by
  cases holds with
  | true => exact .pure rfl
  | false => exact places_throw (h.resolve_left (by simp) text)

theorem places_queue {t : Template} {known : Prop} (h : known) :
    Places [] 0 D E (fun o => (o.isSome = true ↔ known) ∧ ∀ e, o = some e → e.name = memSPrintf t 0)
      (Pure.pure (some ⟨"queue", memSPrintf t 0⟩) : Build (Option Element)) := by
  refine .pure ⟨by simpa using h, ?_⟩
  rintro e ⟨⟩
  rfl

/-- A kind of data that the stream may have. -/
theorem places_stepIf_has {L : List Template} {has : Bool} {last : Option Element}
    {step : Build (Option Element)} {known : Prop} (hlast : has = false → last.isSome = false)
    (hstep : has = true → Places L 0 D E (fun o => o.isSome = true ∧ known) step) :
    Places L 0 D E (fun o => o.isSome = has ∧ (has = true → known)) (stepIf has last step) := by
  refine Places.stepIf (fun hhas => ?_) fun hhas => ?_
  · refine (hstep hhas).post fun o ⟨hsome, hknown⟩ => ?_
    exact ⟨by rw [hsome, hhas], fun _ => hknown⟩
  · exact ⟨by rw [hlast hhas, hhas], by simp [hhas]⟩

section
variable (hE : Tolerates run D E)
include hE

theorem places_makeSrc {uri : InputUri} : Places [] i D E
    (fun o => (o.isSome = true ↔ ∃ source, Streams.makeSrc lib.toCommon uri = .ok source) ∧
      ∀ e, o = some e → e.name = memSPrintf .src i) (makeSrc lib run uri i) := by
  unfold makeSrc
  cases hsrc : Streams.makeSrc lib.toCommon uri with
  | ok source =>
    refine .pure ⟨by simp, ?_⟩
    rintro e ⟨⟩
    rfl
  | error fault => exact places_null hE ⟨by simp, by simp⟩

theorem places_buildInputSrc {config : AudioVideoConfig} (h : SourceMade lib config ∨ Lenient E) :
    Places [.src] 0 D E (fun o => o.isSome = true ∧ SourceMade lib config)
      (buildInputSrc lib run config) := by
  unfold buildInputSrc
  cases hinput : config.input with
  | nil =>
    refine places_throw (h.elim ?_ Lenient.noInput)
    rintro ⟨uri, rest, source, heq, -⟩
    cases hinput.symm.trans heq
  | cons uri rest =>
    refine (places_makeSrc hE).bind (fun src ⟨hsome, hname⟩ => ?_) (.inr (by simp))
    have hmade : src.isSome = true ∨ E .nullElement := by
      refine h.imp ?_ Lenient.nullElement
      rintro ⟨uri', rest', source, heq, hsource⟩
      cases hinput.symm.trans heq
      exact hsome.2 ⟨source, hsource⟩
    refine (places_deref hmade).bind (fun _ _ => ?_) (.inr (by simp))
    refine (places_elementAdd hE hname hmade).bind (fun _ hadded => ?_) (.inr (by simp))
    obtain ⟨source, hsource⟩ := hsome.1 hadded
    exact .pure ⟨hadded, uri, rest, source, hinput, hsource⟩

theorem places_buildInput {config : AudioVideoConfig} (h : SourceMade lib config ∨ Lenient E) :
    Places [.src, .decodebin] 0 D E (fun conn => conn = ⟨none, none⟩ ∧ SourceMade lib config)
      (buildInput lib run config) := by
  refine (places_buildInputSrc hE h).bind (fun src ⟨hsrc, hmade⟩ => ?_) (.inr (by decide))
  refine (places_add hE "decodebin").bind (fun _ _ => ?_) (.inr (by simp))
  refine (places_elementLink hE (.inl ⟨hsrc, rfl⟩)).bind (fun _ _ => ?_) (.inr (by simp))
  exact .pure ⟨rfl, hmade⟩

theorem places_addUdbConnection {t : Template} {make : Build (Option Element)} {text : String}
    {known : Prop} (hmake : Places [] 0 D E (fun o => (o.isSome = true ↔ known) ∧
      ∀ e, o = some e → e.name = memSPrintf t 0) make) (h : known ∨ Lenient E) :
    Places [t] 0 D E (fun o => o.isSome = true ∧ known) (addUdbConnection make text) := by
  refine hmake.bind (fun udb ⟨hsome, hname⟩ => ?_) (.inr (by simp))
  refine (places_check (h.imp hsome.2 Lenient.checkFailed)).bind (fun _ hadded => ?_)
    (.inr (by simp))
  refine (places_elementAdd hE hname (.inl hadded)).bind (fun _ _ => ?_) (.inr (by simp))
  exact .pure ⟨hadded, hsome.1 hadded⟩

theorem places_buildVideoUdbConnection (builder : Builder) :
    Places [] 0 D E (fun o => (o.isSome = true ↔ builder.VideoParserKnown) ∧
      ∀ e, o = some e → e.name = memSPrintf .udbVideo 0) (builder.buildVideoUdbConnection run) := by
  cases builder with
  | encoding config => exact places_queue trivial
  | relay config => exact places_makeNamed hE
  | timeShiftRecorder config => exact places_makeNamed hE

theorem places_buildAudioUdbConnection (builder : Builder) :
    Places [] 0 D E (fun o => (o.isSome = true ↔ builder.AudioParserKnown) ∧
      ∀ e, o = some e → e.name = memSPrintf .udbAudio 0) (builder.buildAudioUdbConnection run) := by
  cases builder with
  | encoding config => exact places_queue trivial
  | relay config => exact places_makeNamed hE
  | timeShiftRecorder config => exact places_makeNamed hE

theorem places_buildUdbConnections (builder : Builder) (h : builder.ParsersKnown ∨ Lenient E) :
    Places [.udbVideo, .udbAudio] 0 D E
      (fun conn => WellConnected builder.config conn ∧ builder.ParsersKnown)
      (builder.buildUdbConnections run ⟨none, none⟩) := by
  refine (places_check (.inl rfl)).bind (fun _ _ => ?_) (.inr (by simp))
  refine (places_check (.inl rfl)).bind (fun _ _ => ?_) (.inr (by simp))
  refine (places_stepIf_has (fun _ => rfl) fun hhas => places_addUdbConnection hE
    (places_buildVideoUdbConnection hE builder) (h.imp (·.video hhas) id)).bind
    (fun video ⟨hvideo, hvknown⟩ => ?_) (.inr (by decide))
  refine (places_stepIf_has (fun _ => rfl) fun hhas => places_addUdbConnection hE
    (places_buildAudioUdbConnection hE builder) (h.imp (·.audio hhas) id)).bind
    (fun audio ⟨haudio, haknown⟩ => ?_) (.inr (by simp))
  exact .pure ⟨⟨hvideo, haudio⟩, hvknown, haknown⟩

end

/-! ## Post processing -/

/-- A line with a first and a last element. -/
def Full (line : Line) : Prop := line.1.isSome = true ∧ line.2.isSome = true

section
variable (hE : Tolerates run D E)
include hE

/-- An element that may be appended to an end that is there. -/
theorem places_stepIf_append {t : Template} {holds : Bool} {last : Option Element} (plugin : String)
    (hlast : last.isSome = true) : Places [t] i D E (fun o => o.isSome = true)
      (stepIf holds last (appendElement run last ⟨plugin, memSPrintf t i⟩)) :=
  .stepIf (fun _ => (places_appendElement hE plugin (.inl hlast)).post fun _ h => h.1)
    fun _ => hlast

theorem places_buildVideoConvert {deinterlace : Option Bool} :
    Places [.videoConvert, .deinterlace] i D E Full (buildVideoConvert run deinterlace i) := by
  refine (places_add hE "videoconvert").bind (fun _ _ => ?_) (.inr (by decide))
  refine (places_stepIf_append hE "avdeinterlace" rfl).bind (fun last hlast => ?_) (.inr (by simp))
  exact .pure ⟨rfl, hlast⟩

theorem places_appendFiltered {t t' : Template} {last : Option Element} {plugin plugin' : String}
    (hlast : last.isSome = true) (hne : t ≠ t') :
    Places [t, t'] i D E (fun o => o.isSome = true)
      (appendFiltered run last ⟨plugin, memSPrintf t i⟩ ⟨plugin', memSPrintf t' i⟩) := by
  refine (places_add hE plugin).bind (fun _ _ => ?_) (.inr (by simpa using hne))
  refine (places_add hE plugin').bind (fun _ _ => ?_) (.inr (by simp))
  refine (places_elementLink hE (.inl ⟨hlast, rfl⟩)).bind (fun _ _ => ?_) (.inr (by simp))
  refine (places_elementLink hE (.inl ⟨rfl, rfl⟩)).bind (fun _ _ => ?_) (.inr (by simp))
  exact .pure rfl

theorem places_buildCpuPostProc {config : EncodingConfig} :
    Places [.videoConvert, .deinterlace, .videoScale, .videoScaleCapsFilter, .aspectRatio,
      .videoRate, .videoRateCapsFilter] i D E Full (buildCpuPostProc lib run config i) := by
  refine (places_buildVideoConvert hE).bind (fun line hline => ?_) (.inr (by decide))
  refine (Places.stepIf (fun _ => places_appendFiltered hE hline.2 (by decide))
    fun _ => hline.2).bind (fun last hlast => ?_) (.inr (by decide))
  refine (places_stepIf_append hE "aspectratiocrop" hlast).bind (fun last hlast => ?_)
    (.inr (by decide))
  refine (Places.stepIf (fun _ => places_appendFiltered hE hlast (by decide))
    fun _ => hlast).bind (fun last hlast => ?_) (.inr (by simp))
  exact .pure ⟨hline.1, hlast⟩

theorem places_buildGpuPostProc {config : EncodingConfig} :
    Places [.postProc] i D E (fun line => line.1.isSome = true ∧ line.2 = none)
      (buildGpuPostProc config i) := by
  refine (places_add hE _).bind (fun _ _ => ?_) (.inr (by simp))
  exact .pure ⟨rfl, rfl⟩

theorem places_appendLogo {logo : Logo} {last : Option Element}
    (h : last.isSome = true ∨ E .nullLink) :
    Places [.videoLogo] i D E (fun o => o.isSome = true ∧ last.isSome = true)
      (appendLogo run logo last i) := by
  refine (Places.doIf (fun _ => places_notReached hE) fun _ => trivial).bind (fun _ _ => ?_)
    (.inr (by simp))
  exact places_appendElement hE "gdkpixbufoverlay" h

/-- The post processing of the video has no last element on a GPU. -/
theorem places_buildVideoPostProc {config : EncodingConfig}
    (h : isGpu config = true → lib.isValidUrl config.logo.path = true → E .nullLink) :
    Places [.postProc, .videoConvert, .deinterlace, .videoScale, .videoScaleCapsFilter,
      .aspectRatio, .videoRate, .videoRateCapsFilter, .videoLogo] i D E
      (fun line => line.1.isSome = true ∧ line.2.isSome = !isGpu config)
      (buildVideoPostProc lib run config i) := by
  have hfirst : Places [.postProc, .videoConvert, .deinterlace, .videoScale, .videoScaleCapsFilter,
      .aspectRatio, .videoRate, .videoRateCapsFilter] i D E
      (fun line => line.1.isSome = true ∧ line.2.isSome = !isGpu config)
      (if isGpu config then buildGpuPostProc config i else buildCpuPostProc lib run config i) := by
    refine Places.ite (fun hgpu => ?_) fun hcpu => ?_
    · refine (places_buildGpuPostProc hE).mono (by decide) fun line hline => ?_
      exact ⟨hline.1, by rw [hline.2, hgpu]; rfl⟩
    · refine (places_buildCpuPostProc hE).mono (by decide) fun line hline => ?_
      exact ⟨hline.1, by rw [hline.2, hcpu]; rfl⟩
  refine hfirst.bind (fun line hline => ?_) (.inr (by decide))
  have hlogo : Places [.videoLogo] i D E (fun o => o.isSome = !isGpu config)
      (stepIf (lib.isValidUrl config.logo.path) line.2 (appendLogo run config.logo line.2 i)) := by
    refine .stepIf (fun hvalid => ?_) fun _ => hline.2
    have hlast : line.2.isSome = true ∨ E .nullLink := by
      cases hgpu : isGpu config with
      | true => exact .inr (h hgpu hvalid)
      | false => exact .inl (by rw [hline.2, hgpu]; rfl)
    refine (places_appendLogo hE hlast).post fun o ⟨ho, hline'⟩ => ?_
    rw [ho, ← hline.2, hline']
  refine hlogo.bind (fun last hlast => ?_) (.inr (by simp))
  exact .pure ⟨hline.1, hlast⟩

theorem places_buildAudioPostProc {config : EncodingConfig} :
    Places [.audioConvert, .audioConvertCapsFilter, .volume] i D E Full
      (buildAudioPostProc run config i) := by
  refine (places_add hE "audioconvert").bind (fun _ _ => ?_) (.inr (by decide))
  refine (places_stepIf_append hE "capsfilter" rfl).bind (fun last hlast => ?_) (.inr (by decide))
  refine (places_stepIf_append hE "volume" hlast).bind (fun last hlast => ?_) (.inr (by simp))
  exact .pure ⟨rfl, hlast⟩

/-- After the post processing there is no end of the video of a GPU. -/
theorem places_buildEncodingPostProc {config : EncodingConfig} {conn : Connector}
    (hconn : WellConnected config.toAudioVideoConfig conn)
    (h : config.haveVideo = true → isGpu config = true →
      lib.isValidUrl config.logo.path = true → E .nullLink) :
    Places [.postProc, .videoConvert, .deinterlace, .videoScale, .videoScaleCapsFilter,
      .aspectRatio, .videoRate, .videoRateCapsFilter, .videoLogo, .audioConvert,
      .audioConvertCapsFilter, .volume] 0 D E
      (fun conn => conn.video.isSome = (config.haveVideo && !isGpu config) ∧
        conn.audio.isSome = config.haveAudio)
      (buildEncodingPostProc lib run config conn) := by
  have hvideo : Places [.postProc, .videoConvert, .deinterlace, .videoScale, .videoScaleCapsFilter,
      .aspectRatio, .videoRate, .videoRateCapsFilter, .videoLogo] 0 D E
      (fun o => o.isSome = (config.haveVideo && !isGpu config))
      (stepIf config.haveVideo conn.video
        (appendLine run conn.video (buildVideoPostProc lib run config 0))) := by
    refine .stepIf (fun hhas => ?_) fun hhas => by rw [hconn.video, hhas]; rfl
    refine (places_appendLine hE (places_buildVideoPostProc hE (h hhas)) (fun _ hline => hline.1)
      (.inl (by rw [hconn.video, hhas]))).post ?_
    rintro o ⟨-, line, hline, rfl⟩
    rw [hline.2, hhas]
    rfl
  have haudio : Places [.audioConvert, .audioConvertCapsFilter, .volume] 0 D E
      (fun o => o.isSome = config.haveAudio ∧ (config.haveAudio = true → True))
      (stepIf config.haveAudio conn.audio
        (appendLine run conn.audio (buildAudioPostProc run config 0))) := by
    refine places_stepIf_has (fun hhas => by rw [hconn.audio, hhas]) fun hhas => ?_
    refine (places_appendLine hE (places_buildAudioPostProc hE) (fun _ hline => hline.1)
      (.inl (by rw [hconn.audio, hhas]))).post ?_
    rintro o ⟨-, line, hline, rfl⟩
    exact ⟨hline.2, trivial⟩
  refine hvideo.bind (fun video hvideo => ?_) (.inr (by decide))
  refine haudio.bind (fun audio haudio => ?_) (.inr (by simp))
  exact .pure ⟨hvideo, haudio.1⟩

end

end IptvCloud.Streams.Builders
