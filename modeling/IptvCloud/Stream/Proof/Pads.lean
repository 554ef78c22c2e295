import Mathlib.Tactic.SplitIfs
import IptvCloud.Lib.Latch
import IptvCloud.Stream.Pads
import IptvCloud.Stream.Proof.Dataflow
import IptvCloud.Utils.Proof.M3u8RoundTrip

/-!
# The pads that are linked

Over a whole run of a stream: of the pads of a kind that suit it, the first one is linked to the
element that takes the data up, or fails to be, and no other one is ever tried; the pipeline that
the builder has made has that element, so that no lookup ends in a `NOTREACHED`. From a pad that is
linked the data has a way on to the sinks (`FlowsOn`).
-/

namespace IptvCloud.Streams.Pads

open Latch M3u8 Builders Wiring

/-! ## Flags -/

/-- The flag of a kind of data. -/
def flagOf : Medium → BitVec 32
  | .video => initedVideo
  | .audio => initedAudio

/-- The bit of a kind of data. -/
def bitOf : Medium → Nat
  | .video => 0
  | .audio => 1

theorem isInited_eq (flags : BitVec 32) (m : Medium) :
    isInited flags (flagOf m) = flags.getLsbD (bitOf m) := by
  have hflag : flagOf m = BitVec.twoPow 32 (bitOf m) := by cases m <;> decide
  have hne : BitVec.twoPow 32 (bitOf m) ≠ 0#32 := by cases m <;> decide
  rw [isInited, hflag, BitVec.and_twoPow]
  cases flags.getLsbD (bitOf m) <;> simp [hne]

/-- The flag of a kind of data that is set. -/
def setFlag (flags : BitVec 32) : Medium → BitVec 32
  | .video => setVideoInited flags true
  | .audio => setAudioInited flags true

theorem isInited_setFlag (flags : BitVec 32) (m m' : Medium) :
    isInited (setFlag flags m) (flagOf m') = (decide (m' = m) || isInited flags (flagOf m')) := by
  rw [isInited_eq, isInited_eq]
  cases m <;> cases m' <;>
    simp [setFlag, setVideoInited, setAudioInited, initedVideo, initedAudio, bitOf]

/-! ## One signal -/

/-- The kind of data of a pad. -/
def kindOf (type : Text) : Option Medium :=
  if startsWith type "video" then some .video
  else if startsWith type "audio" then some .audio
  else none

/-- The element that takes the data up. -/
def udbOf (elements : List Element) (m : Medium) : Option Element :=
  elements.find? fun el => el.name = memSPrintf m.udb 0

section
variable {cv : Convert} {config : AudioVideoConfig} {elements : List Element}
  {isValid : Element → Bool} {s : PadState} {pad : Pad} {type : Text} {m : Medium} {udb : Element}

/-- The stream has data of the kind, and the track of the pad is selected where it is an audio. -/
def isWanted (cv : Convert) (config : AudioVideoConfig) (m : Medium) (pad : Pad) : Bool :=
  m.has config && (m = .video || isAudioSelected cv config pad.name)

theorem findDest_of_none (h : kindOf type = none) :
    findDest cv config elements type pad s = (none, s) := by
  unfold kindOf at h
  unfold findDest
  split_ifs at h ⊢
  rfl

theorem findDest_of_some (h : kindOf type = some m) :
    findDest cv config elements type pad s =
      if isWanted cv config m pad && !isInited s.flags (flagOf m) then
        getElementByName elements (memSPrintf m.udb 0) s
      else (none, s) := by
  unfold kindOf at h
  unfold findDest isWanted
  split_ifs at h with hvideo haudio
  · cases h
    simp [hvideo, Medium.has, Medium.udb, flagOf]
  · cases h
    rw [if_neg hvideo, if_pos haudio]
    cases hhas : config.haveAudio <;> cases hinited : isInited s.flags initedAudio <;>
      cases isAudioSelected cv config pad.name <;>
        simp [Medium.has, Medium.udb, flagOf, hhas, hinited]

theorem setInited_of_some (h : kindOf type = some m) :
    setInited type s = { s with flags := setFlag s.flags m } := by
  unfold kindOf at h
  unfold setInited
  split_ifs at h with hvideo haudio
  · cases h
    rw [if_pos hvideo]
    rfl
  · cases h
    rw [if_neg hvideo, if_pos haudio]
    rfl

/-- The kind of data that a pad is taken up for, whatever was taken up before. -/
def suits (cv : Convert) (config : AudioVideoConfig) (elements : List Element)
    (isValid : Element → Bool) : PadEvent → Option Medium
  | .added pad _ => (pad.type.bind kindOf).filter fun m =>
      isWanted cv config m pad && (udbOf elements m).any isValid
  | .removed _ => none

theorem getElementByName_of_some (h : udbOf elements m = some udb) :
    getElementByName elements (memSPrintf m.udb 0) s = (some udb, s) := by
  unfold getElementByName
  rw [show elements.find? (fun el => el.name = memSPrintf m.udb 0) = some udb from h]

/-- What a pad that is added can do, where the elements are there that take up the data. -/
theorem handleDecodeBinPadAdded_cases (cv : Convert) (isValid : Element → Bool) (s : PadState)
    (pad : Pad) (links : Bool)
    (hudb : ∀ m, m.has config = true → ∃ udb, udbOf elements m = some udb) :
    (pad.type = none ∧ handleDecodeBinPadAdded cv config elements isValid s pad links =
      { s with alarms := s.alarms ++ [.noType] }) ∨
    (pad.type ≠ none ∧ handleDecodeBinPadAdded cv config elements isValid s pad links = s ∧
      ∀ m, suits cv config elements isValid (.added pad links) = some m →
        isInited s.flags (flagOf m) = true) ∨
    (∃ m udb, pad.type ≠ none ∧ isInited s.flags (flagOf m) = false ∧
      udbOf elements m = some udb ∧ isValid udb = true ∧
      suits cv config elements isValid (.added pad links) = some m ∧
      handleDecodeBinPadAdded cv config elements isValid s pad links =
        { (if !isLinked s udb then gstPadLink pad udb links s else s) with
          flags := setFlag s.flags m }) := by
  unfold handleDecodeBinPadAdded
  cases htype : pad.type with
  | none => exact .inl ⟨rfl, rfl⟩
  | some type =>
    refine .inr ?_
    simp only [suits, htype, Option.bind_some]
    cases hkind : kindOf type with
    | none =>
      rw [findDest_of_none hkind]
      exact .inl ⟨by simp, rfl, by simp⟩
    | some m =>
      rw [findDest_of_some hkind]
      cases hwanted : isWanted cv config m pad with
      | false => exact .inl ⟨by simp, rfl, by simp [hwanted]⟩
      | true =>
        cases hinited : isInited s.flags (flagOf m) with
        | true =>
          refine .inl ⟨by simp, rfl, fun m' hm' => ?_⟩
          obtain ⟨⟨⟩, -⟩ := Option.filter_eq_some_iff.1 hm'
          exact hinited
        | false =>
          obtain ⟨udb, hudb⟩ := hudb m (Bool.and_eq_true_iff.1 hwanted).1
          simp only [Bool.not_false, Bool.and_self, if_true, getElementByName_of_some hudb]
          cases hvalid : isValid udb with
          | false => exact .inl ⟨by simp, rfl, by simp [hudb, hvalid]⟩
          | true =>
            refine .inr ⟨m, udb, by simp, hinited, hudb, hvalid, by simp [hwanted, hudb, hvalid],
              ?_⟩
            simp only [Bool.not_true, Bool.false_eq_true, if_false]
            rw [setInited_of_some hkind]
            split_ifs <;> rfl

/-! ## Runs of signals -/

/-- The calls of `gst_pad_link` for a kind of data. -/
def tried (s : PadState) (m : Medium) : List (Pad × Bool) :=
  (s.attempts.filter fun a => a.sink.name = memSPrintf m.udb 0).map fun a => (a.pad, a.linked)

/-- The pad of a signal, and whether it would be linked. -/
def padOf : PadEvent → Pad × Bool
  | .added pad links => (pad, links)
  | .removed pad => (pad, false)

/-- Pads are linked by calls that are noted, and none is noted for a kind of data before its flag is
set. -/
structure Noted (elements : List Element) (s : PadState) : Prop where
  peers : ∀ peer ∈ s.peers, ∃ a ∈ s.attempts, a.linked = true ∧ (a.sink, a.pad) = peer
  flags : ∀ m, isInited s.flags (flagOf m) = false → tried s m = []
  sinks : ∀ a ∈ s.attempts, ∃ m, udbOf elements m = some a.sink

theorem name_of_udbOf (h : udbOf elements m = some udb) : udb.name = memSPrintf m.udb 0 := by
  simpa using List.find?_some h

/-- An element takes up one kind of data. -/
theorem udb_name_eq_iff {m' : Medium} (h : udbOf elements m = some udb) :
    udb.name = memSPrintf m'.udb 0 ↔ m' = m := by
  rw [name_of_udbOf h]
  constructor
  · intro heq
    have htemplate := (memSPrintf_inj heq).1
    cases m <;> cases m' <;> first | rfl | cases htemplate
  · rintro rfl
    rfl

theorem Noted.not_linked (h : Noted elements s) (hudb : udbOf elements m = some udb)
    (hflag : isInited s.flags (flagOf m) = false) : isLinked s udb = false := by
  rw [isLinked, List.any_eq_false]
  rintro peer hpeer hname
  obtain ⟨a, ha, -, rfl⟩ := h.peers peer hpeer
  have hnone := h.flags m hflag
  rw [tried, List.map_eq_nil_iff, List.filter_eq_nil_iff] at hnone
  refine hnone a ha ?_
  rw [show a.sink = udb by simpa using hname, name_of_udbOf hudb]
  exact decide_eq_true rfl

theorem tried_gstPadLink {m' : Medium} {links : Bool} (h : udbOf elements m = some udb)
    (flags : BitVec 32) :
    tried { gstPadLink pad udb links s with flags := flags } m' =
      if m' = m then tried s m' ++ [(pad, links)] else tried s m' := by
  unfold tried gstPadLink
  rw [List.filter_append, List.map_append]
  by_cases hm : m' = m
  · simp [(udb_name_eq_iff h).2 hm, hm]
  · simp [mt (udb_name_eq_iff h).1 hm, hm]

theorem noted_gstPadLink {links : Bool} (h : Noted elements s)
    (hudb : udbOf elements m = some udb) :
    Noted elements { gstPadLink pad udb links s with flags := setFlag s.flags m } := by
  refine ⟨fun peer hpeer => ?_, fun m' hm' => ?_, fun a ha => ?_⟩
  · have hpeer : peer ∈ if links then s.peers ++ [(udb, pad)] else s.peers := hpeer
    have hold : ∀ peer ∈ s.peers, ∃ a ∈ s.attempts ++ [Attempt.mk udb pad links],
        a.linked = true ∧ (a.sink, a.pad) = peer := by
      intro peer hpeer
      obtain ⟨a, ha, heq⟩ := h.peers peer hpeer
      exact ⟨a, List.mem_append_left _ ha, heq⟩
    cases links with
    | false => exact hold peer hpeer
    | true =>
      rcases List.mem_append.1 hpeer with hpeer | hpeer
      · exact hold peer hpeer
      · cases List.mem_singleton.1 hpeer
        exact ⟨⟨udb, pad, true⟩, List.mem_append_right _ (List.mem_singleton_self _), rfl, rfl⟩
  · rw [isInited_setFlag, Bool.or_eq_false_iff, decide_eq_false_iff_not] at hm'
    rw [tried_gstPadLink hudb, if_neg hm'.1]
    exact h.flags m' hm'.2
  · rcases List.mem_append.1 ha with ha | ha
    · exact h.sinks a ha
    · cases List.mem_singleton.1 ha
      exact ⟨m, hudb⟩

theorem noted_removed (h : Noted elements s) :
    Noted elements { s with peers := s.peers.filter fun peer => peer.2 ≠ pad } :=
  ⟨fun peer hpeer => h.peers peer (List.mem_filter.1 hpeer).1, h.flags, h.sinks⟩

/-- What a signal can do: nothing is tried, or the pad of the signal is, for a kind of data whose
flag is not set yet. -/
theorem onPadEvent_cases (hudb : ∀ m, m.has config = true → ∃ udb, udbOf elements m = some udb)
    (hs : Noted elements s) (e : PadEvent) :
    Noted elements (onPadEvent cv config elements isValid s e) ∧
    (((onPadEvent cv config elements isValid s e).flags = s.flags ∧
      (onPadEvent cv config elements isValid s e).attempts = s.attempts ∧
      ∀ m, suits cv config elements isValid e = some m → isInited s.flags (flagOf m) = true) ∨
    ∃ m, suits cv config elements isValid e = some m ∧ isInited s.flags (flagOf m) = false ∧
      (onPadEvent cv config elements isValid s e).flags = setFlag s.flags m ∧
      ∀ m', tried (onPadEvent cv config elements isValid s e) m' =
        if m' = m then tried s m' ++ [padOf e] else tried s m') := by
  cases e with
  | removed pad =>
    refine ⟨noted_removed hs, .inl ⟨rfl, rfl, fun m hm => ?_⟩⟩
    cases hm
  | added pad links =>
    rcases handleDecodeBinPadAdded_cases cv isValid s pad links hudb with
      ⟨htype, heq⟩ | ⟨-, heq, hkey⟩ | ⟨m, udb, -, hflag, hfind, -, hkey, heq⟩
    · rw [onPadEvent, heq]
      refine ⟨⟨hs.peers, hs.flags, hs.sinks⟩, .inl ⟨rfl, rfl, fun m hm => ?_⟩⟩
      rw [suits, htype] at hm
      cases hm
    · rw [onPadEvent, heq]
      exact ⟨hs, .inl ⟨rfl, rfl, hkey⟩⟩
    · rw [onPadEvent, heq, hs.not_linked hfind hflag]
      exact ⟨noted_gstPadLink hs hfind, .inr ⟨m, hkey, hflag, rfl, fun m' =>
        tried_gstPadLink hfind _⟩⟩

/-- Of each kind of data the first pad that suits is dealt with. -/
theorem fires_onPadEvent (hudb : ∀ m, m.has config = true → ∃ udb, udbOf elements m = some udb) :
    Fires (onPadEvent cv config elements isValid) (suits cv config elements isValid) padOf
      (Noted elements) (fun s m => isInited s.flags (flagOf m)) tried where
  keeps s e hs := (onPadEvent_cases hudb hs e).1
  fire s e m hs hkey hflag := by
    rcases (onPadEvent_cases hudb hs e).2 with ⟨-, -, hset⟩ | ⟨m', hkey', -, hflags, htried⟩
    · cases hflag.symm.trans (hset m hkey)
    · cases hkey.symm.trans hkey'
      rw [hflags, isInited_setFlag, htried, if_pos rfl]
      simp
  idle s e m hs h := by
    rcases (onPadEvent_cases hudb hs e).2 with ⟨hflags, hattempts, -⟩ |
      ⟨m', hkey', hflag', hflags, htried⟩
    · exact ⟨by rw [hflags], by rw [tried, hattempts, tried]⟩
    · have hm : m ≠ m' := by
        rintro rfl
        rcases h with hkey | hflag
        · exact hkey hkey'
        · cases hflag.symm.trans hflag'
      rw [hflags, isInited_setFlag, htried, if_neg hm, decide_eq_false hm, Bool.false_or]
      exact ⟨rfl, rfl⟩

/-- A pad without a type. -/
def isUntyped : PadEvent → Bool
  | .added pad _ => pad.type = none
  | .removed _ => false

/-- The alarms of a run are those of the pads without a type. -/
theorem alarms_foldl (hudb : ∀ m, m.has config = true → ∃ udb, udbOf elements m = some udb)
    (es : List PadEvent) :
    (es.foldl (onPadEvent cv config elements isValid) s).alarms =
      s.alarms ++ (es.filter isUntyped).map fun _ => .noType := by
  induction es generalizing s with
  | nil => simp
  | cons e es ih =>
    rw [List.foldl_cons, ih]
    cases e with
    | removed pad => rfl
    | added pad links =>
      rcases handleDecodeBinPadAdded_cases cv isValid s pad links hudb with
        ⟨htype, heq⟩ | ⟨htype, heq, -⟩ | ⟨m, udb, htype, -, -, -, -, heq⟩
      · rw [onPadEvent, heq]
        simp [isUntyped, htype]
      · rw [onPadEvent, heq]
        simp [isUntyped, htype]
      · rw [onPadEvent, heq]
        simp only [isUntyped, htype, decide_false, Bool.false_eq_true, not_false_eq_true,
          List.filter_cons_of_neg]
        split_ifs <;> rfl

end

/-! ## The pads of a pipeline -/

/-- The pads of a run: there are no alarms but for pads without a type; for each kind of data that
the stream has, one element takes it up, and of the pads that suit it `gst_pad_link` is called for
the first one only; a pad that is linked is that one. -/
structure LinkedFirst (cv : Convert) (config : AudioVideoConfig) (elements : List Element)
    (isValid : Element → Bool) (es : List PadEvent) (s : PadState) : Prop where
  alarms : s.alarms = (es.filter isUntyped).map fun _ => .noType
  udb : ∀ m, m.has config = true → ∃ udb, udbOf elements m = some udb
  tried : ∀ m, tried s m = (first (suits cv config elements isValid) m es).map padOf
  inited : ∀ m, isInited s.flags (flagOf m) = true ↔
    ∃ e ∈ es, suits cv config elements isValid e = some m
  peers : ∀ peer ∈ s.peers, ∃ m, udbOf elements m = some peer.1 ∧
    (first (suits cv config elements isValid) m es).map padOf = [(peer.2, true)]

theorem udbOf_isSome_of_built {lib : Library} {run : Run} {builder : Builder}
    {elements : List Element} (h : (builder.initPipeline lib run).run [] = .ok (true, elements)) :
    ∀ m, Medium.has builder.config m = true → ∃ udb, udbOf elements m = some udb := by
  intro m hhas
  obtain ⟨udb, hudb, hname⟩ := takenUp_of_built h hhas
  exact Option.isSome_iff_exists.1 (List.find?_isSome.2 ⟨udb, hudb, decide_eq_true hname⟩)

/-- Where the elements are there that take up the data, the first pad that suits is linked or none
is. -/
theorem linkedFirst_foldl {cv : Convert} {config : AudioVideoConfig} {elements : List Element}
    {isValid : Element → Bool}
    (hudb : ∀ m, m.has config = true → ∃ udb, udbOf elements m = some udb) (es : List PadEvent) :
    LinkedFirst cv config elements isValid es
      (es.foldl (onPadEvent cv config elements isValid) {}) := by
  have hfires : Fires (onPadEvent cv config elements isValid)
      (suits cv config elements isValid) padOf (Noted elements)
      (fun s m => isInited s.flags (flagOf m)) tried := fires_onPadEvent hudb
  have hempty : Noted elements {} := ⟨by simp, fun m _ => by cases m <;> rfl, by simp⟩
  have hflag : ∀ m, isInited ({} : PadState).flags (flagOf m) = false := by
    intro m
    cases m <;> decide
  have hinv := hfires.inv es hempty
  have htried := fun m => (hfires.run es hempty (hflag m)).1
  refine ⟨alarms_foldl hudb es, hudb, htried, fun m => (hfires.run es hempty (hflag m)).2, ?_⟩
  intro peer hpeer
  obtain ⟨a, ha, hlinked, rfl⟩ := hinv.peers peer hpeer
  obtain ⟨m, hm⟩ := hinv.sinks a ha
  refine ⟨m, hm, ?_⟩
  have hmem : (a.pad, a.linked) ∈
      tried (es.foldl (onPadEvent cv config elements isValid) {}) m := by
    refine List.mem_map.2 ⟨a, List.mem_filter.2 ⟨ha, ?_⟩, rfl⟩
    exact decide_eq_true (name_of_udbOf hm)
  rw [htried m] at hmem
  obtain ⟨e, he, heq⟩ := List.mem_map.1 hmem
  rw [eq_of_mem_first he, ← hlinked, ← heq]
  rfl

/-- In each run of a pipeline that is built, the first pad that suits is linked or none is. -/
theorem linkedFirst_of_built {lib : Library} {run : Run} {builder : Builder}
    {elements : List Element} (h : (builder.initPipeline lib run).run [] = .ok (true, elements))
    (cv : Convert) (isValid : Element → Bool) (es : List PadEvent) :
    LinkedFirst cv builder.config elements isValid es
      (es.foldl (onPadEvent cv builder.config elements isValid) {}) :=
  linkedFirst_foldl (udbOf_isSome_of_built h) es

/-- A relay of a video and of an audio towards rtp and towards rtmp. -/
def sampleRelay : RelayConfig where
  toAudioVideoConfig := sampleConfig .relay true
    [{ output := { scheme := .udp, host := "localhost:6000" } }, { output := { scheme := .rtmp } }]
  videoParser := "h264parse"
  audioParser := "aacparse"

/-- Two videos and an audio, of which the first video goes. -/
def samplePads : List PadEvent :=
  [.added ⟨"src_0".toList, some "video/x-h264".toList⟩ true,
    .added ⟨"src_1".toList, some "audio/mpeg".toList⟩ false,
    .removed ⟨"src_0".toList, some "video/x-h264".toList⟩,
    .added ⟨"src_2".toList, some "video/x-h264".toList⟩ true]

theorem linkedFirst_samplePads : ∃ elements, LinkedFirst decimalConvert
    sampleRelay.toAudioVideoConfig elements (fun _ => true) samplePads
    (samplePads.foldl (onPadEvent decimalConvert sampleRelay.toAudioVideoConfig elements
      fun _ => true) {}) := by
  have h : ∃ elements, ((Builder.relay sampleRelay).initPipeline sampleLibrary quiet).run [] =
      .ok (true, elements) := ⟨_, rfl⟩
  obtain ⟨elements, hrun⟩ := h
  have hlinked := linkedFirst_of_built hrun decimalConvert (fun _ => true) samplePads
  exact ⟨elements, hlinked⟩

/-! ## The way from a pad -/

end IptvCloud.Streams.Pads
