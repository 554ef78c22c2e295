import IptvCloud.Lib.History
import IptvCloud.Lib.Slots
import IptvCloud.Stream.Proof.MosaicPicture
import IptvCloud.Stream.Proof.Names
import IptvCloud.Stream.Proof.Pads

/-!
# Mosaics that run

A mosaic that is built, over a whole run of pads and of sound levels. What the state is after some
events is `Followed`, which each event keeps. The picture stays (`picture_of_run`); the sound levels
are those of the last messages, where no message has more levels than there are channels
(`levels_of_run`); each sink pad of an element that takes up data is a slot of its own
(`pads_of_run`).
-/

namespace IptvCloud.Streams.Mosaic

open M3u8 Builders Tiling Pads

variable {lib : Library} {run : Run} {elements : List Element}

/-! ## Events -/

variable {cv : Convert} {isValid : Element → Bool} {s s' : MosaicStream} {e : Event}
  {src : String} {newPad : Pad} {channels : Option Int} {links : Bool} {m : Medium} {i : Nat}
  {config : AudioVideoConfig}

/-- The number of the input that an element is of. -/
def elementId (cv : Convert) (src : String) : Option Nat :=
  match getElementId cv src.toList (some 0) with
  | (true, id) => id
  | _ => none

/-- The kind of data and the input that a new pad is for. -/
def wants (cv : Convert) (config : AudioVideoConfig) (src : String) (newPad : Pad) :
    Option (Medium × Nat) :=
  ((newPad.type.bind kindOf).filter fun m => m.has config).bind fun m =>
    (elementId cv src).map fun i => (m, i)

/-- The element that takes up the data of an input. -/
def udbOf (elements : List Element) (m : Medium) (i : Nat) : Option Element :=
  elements.find? fun el => el.name = memSPrintf m.udb i

/-- What an event does to the pads that are linked. -/
def opOf (cv : Convert) (config : AudioVideoConfig) (elements : List Element)
    (isValid : Element → Bool) : Event → Slots.Op Element (String × Pad)
  | .padAdded src newPad _ links =>
    match (wants cv config src newPad).bind fun (m, i) => udbOf elements m i with
    | some dest => if isValid dest && links then .take dest (src, newPad) else .skip
    | none => .skip
  | .padRemoved src pad => .release (src, pad)
  | .level .. => .skip

/-- The alarm of an element that is not found. -/
def lookupAlarms (elements : List Element) (m : Medium) (i : Nat) : List Alarm :=
  match udbOf elements m i with
  | some _ => []
  | none => [.notFounded (memSPrintf m.udb i)]

/-- The alarms of an event. -/
def alarmsOf (cv : Convert) (config : AudioVideoConfig) (elements : List Element) :
    Event → List Alarm
  | .padAdded src newPad _ _ =>
    if newPad.type = none then [.noType]
    else
      match wants cv config src newPad with
      | some (m, i) => lookupAlarms elements m i
      | none => []
  | _ => []

/-- The options after a new pad, whose channels are those of its input where it is an audio. -/
def announce (wanted : Option (Medium × Nat)) (channels : Option Int)
    (options : MosaicImageOptions) : MosaicImageOptions :=
  match wanted, channels with
  | some (.audio, i), some channels => { options with
      sreams := options.sreams.modify i fun stream =>
        { stream with channels := stream.channels ++ List.replicate channels.toNat {} } }
  | _, _ => options

theorem addChannels_eq (i : Nat) (channels : Option Int) (s : MosaicStream) :
    s.addChannels i channels =
      { s with options := announce (some (.audio, i)) channels s.options } := by
  cases channels with
  | none => rfl
  | some channels => rfl

theorem getElementByName_eq (elements : List Element) (m : Medium) (i : Nat) (s : MosaicStream) :
    s.getElementByName elements (memSPrintf m.udb i) =
      (udbOf elements m i, { s with alarms := s.alarms ++ lookupAlarms elements m i }) := by
  unfold MosaicStream.getElementByName lookupAlarms udbOf
  cases elements.find? fun el => el.name = memSPrintf m.udb i with
  | none => rfl
  | some el =>
    show (some el, s) = (some el, { s with alarms := s.alarms ++ [] })
    rw [List.append_nil]

/-- What is noted of a pad that is wanted. -/
def note (elements : List Element) (m : Medium) (i : Nat) (channels : Option Int)
    (s : MosaicStream) : MosaicStream :=
  { s with
    options := announce (some (m, i)) channels s.options
    alarms := s.alarms ++ lookupAlarms elements m i }

theorem findDest_of_none {type : Text} (h : kindOf type = none) :
    findDest config elements type i channels s = (none, s) := by
  unfold kindOf at h
  unfold findDest
  split_ifs at h ⊢
  rfl

/-- The element that a pad is to be linked to, as long as no flag is set. -/
theorem findDest_of_some (hflags : s.flags = initedNothing) {type : Text}
    (h : kindOf type = some m) :
    findDest config elements type i channels s =
      if m.has config then (udbOf elements m i, note elements m i channels s) else (none, s) := by
  have hvideo : isInited s.flags initedVideo = false := by rw [hflags]; decide
  have haudio : isInited s.flags initedAudio = false := by rw [hflags]; decide
  unfold kindOf at h
  unfold findDest
  split_ifs at h with hv ha
  · cases h
    rw [if_pos hv, hvideo, Bool.not_false, Bool.and_true]
    exact if_congr Iff.rfl (getElementByName_eq elements .video i s) rfl
  · cases h
    rw [if_neg hv, if_pos ha, haudio, Bool.not_false, Bool.and_true]
    refine if_congr Iff.rfl ?_ rfl
    have hfound := getElementByName_eq elements .audio i s
    unfold Medium.udb at hfound
    rw [hfound]
    exact Prod.ext rfl (addChannels_eq i channels _)

theorem getElementId_of_elementId (h : elementId cv src = some i) :
    getElementId cv src.toList (some 0) = (true, some i) := by
  unfold elementId at h
  split at h
  · rename_i heq
    rw [heq, h]
  · cases h

theorem wants_eq_some_iff : wants cv config src newPad = some (m, i) ↔
    ∃ type, newPad.type = some type ∧ kindOf type = some m ∧ m.has config = true ∧
      elementId cv src = some i := by
  simp only [wants, Option.bind_eq_some_iff, Option.filter_eq_some_iff, Option.map_eq_some_iff,
    Prod.mk.injEq]
  constructor
  · rintro ⟨m', ⟨⟨type, htype, hkind⟩, hhas⟩, i', hid, rfl, rfl⟩
    exact ⟨type, htype, hkind, hhas, hid⟩
  · rintro ⟨type, htype, hkind, hhas, hid⟩
    exact ⟨m, ⟨⟨type, htype, hkind⟩, hhas⟩, i, hid, rfl, rfl⟩

/-- A pad that no input wants. -/
theorem handleDecodeBinPadAdded_of_none (hflags : s.flags = initedNothing)
    (hwants : wants cv config src newPad = none) (htype : newPad.type ≠ none) :
    handleDecodeBinPadAdded cv config elements isValid s src newPad channels links = s := by
  obtain ⟨type, htype⟩ := Option.ne_none_iff_exists'.1 htype
  unfold handleDecodeBinPadAdded
  simp only [htype]
  split
  · rename_i i hid
    have hdest : findDest config elements type i channels s = (none, s) := by
      cases hkind : kindOf type with
      | none => exact findDest_of_none hkind
      | some m =>
        rw [findDest_of_some hflags hkind, if_neg]
        intro hhas
        have hsome : wants cv config src newPad = some (m, i) :=
          wants_eq_some_iff.2 ⟨type, htype, hkind, hhas, by rw [elementId, hid]⟩
        rw [hwants] at hsome
        cases hsome
    rw [hdest]
  · rfl

/-- A pad that an input wants, as long as no flag is set. -/
theorem handleDecodeBinPadAdded_of_some (hflags : s.flags = initedNothing)
    (hwants : wants cv config src newPad = some (m, i)) :
    handleDecodeBinPadAdded cv config elements isValid s src newPad channels links =
      match udbOf elements m i with
      | none => note elements m i channels s
      | some dest =>
        if isValid dest && links && !s.isLinked dest then
          { note elements m i channels s with peers := s.peers ++ [(dest, src, newPad)] }
        else note elements m i channels s := by
  obtain ⟨type, htype, hkind, hhas, hid⟩ := wants_eq_some_iff.1 hwants
  unfold handleDecodeBinPadAdded
  simp only [htype, getElementId_of_elementId hid, findDest_of_some hflags hkind, hhas, if_true]
  cases udbOf elements m i with
  | none => rfl
  | some dest =>
    have hlinked : (note elements m i channels s).isLinked dest = s.isLinked dest := rfl
    cases hvalid : isValid dest <;> cases links <;> cases h : s.isLinked dest <;>
      simp [hlinked, hvalid, h]
    rfl

/-- What a new pad does, as long as no flag is set. -/
theorem handleDecodeBinPadAdded_eq (hflags : s.flags = initedNothing) :
    handleDecodeBinPadAdded cv config elements isValid s src newPad channels links =
      { s with
        options := announce (wants cv config src newPad) channels s.options
        peers := Slots.step s.peers (opOf cv config elements isValid
          (.padAdded src newPad channels links))
        alarms := s.alarms ++ alarmsOf cv config elements
          (.padAdded src newPad channels links) } := by
  cases hwants : wants cv config src newPad with
  | none =>
    by_cases htype : newPad.type = none
    · simp [handleDecodeBinPadAdded, opOf, alarmsOf, announce, hwants, htype, Slots.step]
    · rw [handleDecodeBinPadAdded_of_none hflags hwants htype]
      simp [opOf, alarmsOf, announce, hwants, htype, Slots.step]
  | some wanted =>
    obtain ⟨m, i⟩ := wanted
    obtain ⟨type, htype, -⟩ := wants_eq_some_iff.1 hwants
    rw [handleDecodeBinPadAdded_of_some hflags hwants]
    cases hudb : udbOf elements m i with
    | none => simp [opOf, alarmsOf, hwants, htype, hudb, note, Slots.step]
    | some dest =>
      have htake : Slots.step s.peers (.take dest (src, newPad)) =
          if s.isLinked dest then s.peers else s.peers ++ [(dest, src, newPad)] := rfl
      simp only [opOf, alarmsOf, hwants, htype, hudb, Option.bind_some, reduceCtorEq, if_false]
      cases hvalid : isValid dest && links with
      | false => simp [note, Slots.step]
      | true => cases h : s.isLinked dest <;> simp [note, htake, h]

/-! ## Levels -/

/-- The levels that a channel has after a message. -/
def levelOf (rms peak decay : List UInt64) (j : Nat) (channel : AudioChannelInfo) :
    AudioChannelInfo :=
  if j < rms.length then ⟨rms.getD j 0, peak.getD j 0, decay.getD j 0⟩ else channel

theorem foldlM_setLevels (info : Nat → AudioChannelInfo) (channels : List AudioChannelInfo)
    (n : Nat) :
    (List.range n).foldlM (fun channels i =>
      if i < channels.length then some (channels.set i (info i)) else none) channels =
        if n ≤ channels.length then
          some (channels.mapIdx fun j channel => if j < n then info j else channel)
        else none := by
  induction n with
  | zero =>
    rw [if_pos (Nat.zero_le _)]
    exact congrArg some (List.ext_getElem (by simp) (by simp))
  | succ n ih =>
    rw [List.range_succ, List.foldlM_append, ih]
    by_cases hn : n < channels.length
    · rw [if_pos hn.le, if_pos (Nat.succ_le_of_lt hn), Option.bind_eq_bind, Option.bind_some,
        List.foldlM_cons, List.length_mapIdx, if_pos hn]
      refine congrArg some (List.ext_getElem (by simp) fun j hj hj' => ?_)
      rw [List.getElem_set, List.getElem_mapIdx, List.getElem_mapIdx]
      rcases Nat.lt_trichotomy j n with h | rfl | h
      · rw [if_neg (by omega), if_pos h, if_pos (by omega)]
      · rw [if_pos rfl, if_pos (by omega)]
      · rw [if_neg (by omega), if_neg (by omega), if_neg (by omega)]
    · rw [if_neg (by omega : ¬ n + 1 ≤ channels.length)]
      by_cases heq : n ≤ channels.length
      · rw [if_pos heq, Option.bind_eq_bind, Option.bind_some, List.foldlM_cons,
          List.length_mapIdx, if_neg hn]
        rfl
      · rw [if_neg heq]
        rfl

/-- The levels of a message are set where there are as many channels. -/
theorem setLevels_eq (channels : List AudioChannelInfo) (rms peak decay : List UInt64) :
    setLevels channels rms peak decay =
      if rms.length ≤ channels.length then some (channels.mapIdx (levelOf rms peak decay))
      else none :=
  foldlM_setLevels _ channels rms.length

/-- The channels that an event adds to an input. -/
def announcedBy (cv : Convert) (config : AudioVideoConfig) (i : Nat) : Event → Nat
  | .padAdded src newPad channels _ =>
    if wants cv config src newPad = some (.audio, i) then (channels.getD 0).toNat else 0
  | _ => 0

/-- The channels that the events have added to an input. -/
def announced (cv : Convert) (config : AudioVideoConfig) (i : Nat) (past : List Event) : Nat :=
  (past.map (announcedBy cv config i)).sum

/-- The levels of a channel of an input after an event. -/
def overwrite (cv : Convert) (i j : Nat) (channel : AudioChannelInfo) : Event → AudioChannelInfo
  | .level src rms peak decay =>
    if elementId cv src = some i then levelOf rms peak decay j channel else channel
  | _ => channel

/-- The levels of the last message that has some for the channel. -/
def lastLevel (cv : Convert) (past : List Event) (i j : Nat) : AudioChannelInfo :=
  past.foldl (overwrite cv i j) {}

/-- A message has at most as many levels as there are channels. -/
def InRange (cv : Convert) (config : AudioVideoConfig) (n : Nat) (past : List Event) :
    Event → Prop
  | .level src rms _ _ =>
    ∀ i < n, elementId cv src = some i → rms.length ≤ announced cv config i past
  | _ => True

variable {past : List Event}

theorem announced_snoc (e : Event) :
    announced cv config i (past ++ [e]) =
      announced cv config i past + announcedBy cv config i e := by
  simp [announced]

theorem lastLevel_snoc (e : Event) (i j : Nat) :
    lastLevel cv (past ++ [e]) i j = overwrite cv i j (lastLevel cv past i j) e := by
  simp [lastLevel]

/-- What stays of the options: all but the channels. -/
def frame (options : MosaicImageOptions) : (Int × Int) × Int × List ImageInfo :=
  (options.screenSize, options.rightPadding, options.sreams.map StreamInfo.img)

/-- The state of a mosaic after the past events. -/
structure Followed (cv : Convert) (config : AudioVideoConfig) (elements : List Element)
    (isValid : Element → Bool) (built : MosaicImageOptions) (past : List Event)
    (s : MosaicStream) : Prop where
  flags : s.flags = initedNothing
  peers : s.peers = (past.map (opOf cv config elements isValid)).foldl Slots.step []
  alarms : s.alarms = past.flatMap (alarmsOf cv config elements)
  frame : frame s.options = frame built
  channels : ∀ i stream, s.options.sreams[i]? = some stream →
    stream.channels = (List.range (announced cv config i past)).map (lastLevel cv past i)
  rest : ∀ i < s.options.sreams.length, ∀ j, announced cv config i past ≤ j →
    lastLevel cv past i j = {}

/-- What a new pad does to the stream of an input. -/
theorem announce_sreams (wanted : Option (Medium × Nat)) (channels : Option Int)
    (options : MosaicImageOptions) (i : Nat) : (announce wanted channels options).sreams[i]? =
      (options.sreams[i]?).map fun stream => { stream with
        channels := stream.channels ++ List.replicate
          (if wanted = some (.audio, i) then (channels.getD 0).toNat else 0) {} } := by
  have hsame : ∀ n, n = 0 → options.sreams[i]? = (options.sreams[i]?).map fun stream =>
      { stream with channels := stream.channels ++ List.replicate n {} } := by
    rintro n rfl
    simp
  unfold announce
  split
  · rename_i i' c
    rw [List.getElem?_modify]
    by_cases hi : i' = i
    · simp [hi]
    · simp only [Option.some.injEq, Prod.mk.injEq, true_and, hi, if_false]
      exact Option.map_id'.trans (hsame 0 rfl)
  · rename_i hnot
    refine hsame _ ?_
    split_ifs with hwanted
    · cases channels with
      | none => rfl
      | some c => exact absurd rfl (hnot i c hwanted)
    · rfl

theorem frame_announce (wanted : Option (Medium × Nat)) (channels : Option Int)
    (options : MosaicImageOptions) :
    Mosaic.frame (announce wanted channels options) = Mosaic.frame options := by
  have himages : (announce wanted channels options).sreams.map StreamInfo.img =
      options.sreams.map StreamInfo.img := by
    refine List.ext_getElem? fun i => ?_
    rw [List.getElem?_map, announce_sreams, Option.map_map, List.getElem?_map]
    rfl
  unfold Mosaic.frame
  rw [himages]
  unfold announce
  split <;> rfl

theorem length_of_frame {options options' : MosaicImageOptions}
    (h : Mosaic.frame options = Mosaic.frame options') :
    options.sreams.length = options'.sreams.length := by
  have hlength := congrArg (fun f => f.2.2.length) h
  simpa [Mosaic.frame] using hlength

/-- Entries that are added to a list whose function has the same value from there on. -/
theorem map_range_append {α : Type*} {f : Nat → α} {d : α} {a n : Nat}
    (h : ∀ j, a ≤ j → f j = d) :
    (List.range a).map f ++ List.replicate n d = (List.range (a + n)).map f := by
  rw [List.range_add, List.map_append, List.map_map, List.append_cancel_left_eq]
  refine (List.eq_replicate_iff.2 ⟨by simp, fun b hb => ?_⟩).symm
  obtain ⟨j, -, rfl⟩ := List.mem_map.1 hb
  exact h (a + j) (Nat.le_add_right a j)

variable {built : MosaicImageOptions} {encoding : EncodingConfig}

theorem followed_padAdded (h : Followed cv config elements isValid built past s) :
    Followed cv config elements isValid built (past ++ [.padAdded src newPad channels links])
      (handleDecodeBinPadAdded cv config elements isValid s src newPad channels links) := by
  rw [handleDecodeBinPadAdded_eq h.flags]
  refine ⟨h.flags, ?_, ?_, (frame_announce _ _ _).trans h.frame, fun i stream hstream => ?_,
    fun i hi j hj => ?_⟩
  · rw [List.map_append, List.foldl_append, ← h.peers]
    rfl
  · rw [List.flatMap_append, ← h.alarms, List.flatMap_singleton]
  · simp only [announce_sreams, Option.map_eq_some_iff] at hstream
    obtain ⟨stream, hold, rfl⟩ := hstream
    have hi : i < s.options.sreams.length := (List.getElem?_eq_some_iff.1 hold).1
    rw [h.channels i stream hold, announced_snoc, map_range_append (h.rest i hi)]
    refine List.map_congr_left fun j _ => ?_
    rw [lastLevel_snoc]
    rfl
  · rw [announced_snoc] at hj
    rw [lastLevel_snoc]
    exact h.rest i (hi.trans_eq (length_of_frame (frame_announce _ _ _))) j (by omega)

theorem followed_padRemoved {pad : Pad} (h : Followed cv config elements isValid built past s) :
    Followed cv config elements isValid built (past ++ [.padRemoved src pad])
      { s with peers := s.peers.filter fun peer => peer.2 ≠ (src, pad) } := by
  refine ⟨h.flags, ?_, ?_, h.frame, fun i stream hstream => ?_, fun i hi j hj => ?_⟩
  · rw [List.map_append, List.foldl_append, ← h.peers]
    rfl
  · rw [List.flatMap_append, ← h.alarms]
    exact (List.append_nil s.alarms).symm
  · rw [h.channels i stream hstream, announced_snoc]
    refine List.map_congr_left fun j _ => ?_
    rw [lastLevel_snoc]
    rfl
  · rw [lastLevel_snoc]
    exact h.rest i hi j (by simpa [announced_snoc, announcedBy] using hj)

theorem handleLevel_of_some {rms peak decay : List UInt64} (hid : elementId cv src = some i) :
    handleLevel cv s src rms peak decay =
      match s.options.sreams[i]? with
      | none => some s
      | some stream =>
        if rms.length ≤ stream.channels.length then
          some { s with options := { s.options with
            sreams := s.options.sreams.set i
              { stream with channels := stream.channels.mapIdx (levelOf rms peak decay) } } }
        else none := by
  simp only [handleLevel, getElementId_of_elementId hid, setLevels_eq]
  cases s.options.sreams[i]? with
  | none => rfl
  | some stream =>
    show Option.map _ (if _ then _ else _) = if _ then _ else _
    split_ifs <;> rfl

theorem handleLevel_of_none {rms peak decay : List UInt64} (hid : elementId cv src = none) :
    handleLevel cv s src rms peak decay = some s := by
  unfold elementId at hid
  unfold handleLevel
  split at hid
  · rename_i heq
    rw [heq, hid]
  · split
    · rename_i hnot _ i heq
      exact absurd heq (hnot (some i))
    · rfl

/-- A message of levels tells nothing of the channels of the other inputs. -/
theorem lastLevel_level_of_ne {rms peak decay : List UInt64} (h : elementId cv src ≠ some i)
    (j : Nat) : lastLevel cv (past ++ [Event.level src rms peak decay]) i j =
      lastLevel cv past i j := by
  rw [lastLevel_snoc]
  exact if_neg h

theorem lastLevel_level_of_eq {rms peak decay : List UInt64} (h : elementId cv src = some i)
    (j : Nat) : lastLevel cv (past ++ [Event.level src rms peak decay]) i j =
      levelOf rms peak decay j (lastLevel cv past i j) := by
  rw [lastLevel_snoc]
  exact if_pos h

theorem frame_set {options : MosaicImageOptions} {stream stream' : StreamInfo}
    (h : options.sreams[i]? = some stream) (himg : stream'.img = stream.img) :
    Mosaic.frame { options with sreams := options.sreams.set i stream' } =
      Mosaic.frame options := by
  have himages : (options.sreams.set i stream').map StreamInfo.img =
      options.sreams.map StreamInfo.img := by
    obtain ⟨hi, rfl⟩ := List.getElem?_eq_some_iff.1 h
    have hi' : i < (options.sreams.map StreamInfo.img).length := by simpa using hi
    rw [List.map_set, himg, ← List.getElem_map StreamInfo.img (h := hi'), List.set_getElem_self]
  unfold Mosaic.frame
  rw [himages]

theorem mapIdx_map_range {α β : Type*} (f : Nat → α → β) (g : Nat → α) (n : Nat) :
    ((List.range n).map g).mapIdx f = (List.range n).map fun j => f j (g j) :=
  List.ext_getElem (by simp) (by simp)

/-- A message of levels changes the levels of its input only. -/
theorem followed_level {rms peak decay : List UInt64}
    (h : Followed cv config elements isValid built past s)
    (hlevel : handleLevel cv s src rms peak decay = some s') :
    Followed cv config elements isValid built (past ++ [.level src rms peak decay]) s' := by
  have hannounced : ∀ i, announced cv config i (past ++ [Event.level src rms peak decay]) =
      announced cv config i past := fun i => announced_snoc _
  have hpeers : s.peers = ((past ++ [Event.level src rms peak decay]).map
      (opOf cv config elements isValid)).foldl Slots.step [] := by
    rw [List.map_append, List.foldl_append, ← h.peers]
    rfl
  have halarms : s.alarms = (past ++ [Event.level src rms peak decay]).flatMap
      (alarmsOf cv config elements) := by
    rw [List.flatMap_append, ← h.alarms]
    exact (List.append_nil s.alarms).symm
  have hsame : (∀ i < s.options.sreams.length, elementId cv src ≠ some i) →
      Followed cv config elements isValid built (past ++ [.level src rms peak decay]) s := by
    intro hother
    refine ⟨h.flags, hpeers, halarms, h.frame, fun i stream hstream => ?_, fun i hi j hj => ?_⟩
    · have hi : i < s.options.sreams.length := (List.getElem?_eq_some_iff.1 hstream).1
      rw [h.channels i stream hstream, hannounced]
      exact List.map_congr_left fun j _ => (lastLevel_level_of_ne (hother i hi) j).symm
    · rw [hannounced] at hj
      rw [lastLevel_level_of_ne (hother i hi)]
      exact h.rest i hi j hj
  cases hid : elementId cv src with
  | none =>
    rw [handleLevel_of_none hid] at hlevel
    cases hlevel
    exact hsame fun i _ => by rw [hid]; exact (Option.some_ne_none i).symm
  | some i₀ =>
    rw [handleLevel_of_some hid] at hlevel
    cases hstream₀ : s.options.sreams[i₀]? with
    | none =>
      rw [hstream₀] at hlevel
      cases hlevel
      refine hsame fun i hi heq => ?_
      cases hid.symm.trans heq
      exact absurd hi (Nat.not_lt.2 (List.getElem?_eq_none_iff.1 hstream₀))
    | some stream₀ =>
      simp only [hstream₀] at hlevel
      split_ifs at hlevel with hrange
      cases hlevel
      have hchannels := h.channels i₀ stream₀ hstream₀
      rw [hchannels, List.length_map, List.length_range] at hrange
      refine ⟨h.flags, hpeers, halarms, ?_, fun i stream hstream => ?_, fun i hi j hj => ?_⟩
      · refine Eq.trans (frame_set hstream₀ ?_) h.frame
        rfl
      · rw [hannounced]
        by_cases hi : i = i₀
        · subst hi
          rw [List.getElem?_set_self (List.getElem?_eq_some_iff.1 hstream₀).1] at hstream
          cases hstream
          show stream₀.channels.mapIdx _ = _
          rw [hchannels, mapIdx_map_range]
          exact List.map_congr_left fun j _ => (lastLevel_level_of_eq hid j).symm
        · rw [List.getElem?_set_ne (Ne.symm hi)] at hstream
          rw [h.channels i stream hstream]
          refine List.map_congr_left fun j _ => (lastLevel_level_of_ne ?_ j).symm
          rw [hid]
          exact fun heq => hi (Option.some.inj heq).symm
      · rw [hannounced] at hj
        rw [List.length_set] at hi
        by_cases heq : elementId cv src = some i
        · obtain rfl : i₀ = i := Option.some.inj (hid.symm.trans heq)
          rw [lastLevel_level_of_eq hid, levelOf, if_neg (by omega)]
          exact h.rest i₀ hi j hj
        · rw [lastLevel_level_of_ne heq]
          exact h.rest i hi j hj

/-- Each event leads from a state that follows the past events to one that does. -/
theorem keeps_followed : Run.Keeps (step cv config elements isValid)
    (Followed cv config elements isValid built) := by
  intro past s e s' h hstep
  cases e with
  | padAdded src newPad channels links =>
    cases hstep
    exact followed_padAdded h
  | padRemoved src pad =>
    cases hstep
    exact followed_padRemoved h
  | level src rms peak decay => exact followed_level h hstep

/-- The events that can happen. -/
theorem step_isSome_iff (h : Followed cv config elements isValid built past s) (e : Event) :
    (step cv config elements isValid s e).isSome = true ↔
      InRange cv config built.sreams.length past e := by
  have hlength := length_of_frame h.frame
  cases e with
  | padAdded src newPad channels links => exact iff_of_true rfl trivial
  | padRemoved src pad => exact iff_of_true rfl trivial
  | level src rms peak decay =>
    show (handleLevel cv s src rms peak decay).isSome = true ↔ ∀ i < built.sreams.length, _
    cases hid : elementId cv src with
    | none =>
      rw [handleLevel_of_none hid]
      simp
    | some i₀ =>
      rw [handleLevel_of_some hid, ← hlength]
      cases hstream : s.options.sreams[i₀]? with
      | none =>
        have hout := List.getElem?_eq_none_iff.1 hstream
        refine iff_of_true rfl fun i hi heq => ?_
        cases heq
        omega
      | some stream =>
        have hi₀ := (List.getElem?_eq_some_iff.1 hstream).1
        have hchannels : stream.channels.length = announced cv config i₀ past := by
          rw [h.channels i₀ stream hstream, List.length_map, List.length_range]
        simp only [hchannels]
        constructor
        · intro hsome i hi heq
          cases heq
          split_ifs at hsome with hrange
          · exact hrange
          · cases hsome
        · intro hall
          rw [if_pos (hall i₀ hi₀ rfl)]
          rfl

/-! ## Runs -/

theorem followed_built
    (h : (initPipeline lib run encoding).run [] = .ok (some built, elements)) :
    Followed cv config elements isValid built [] { options := built } := by
  have hchannels : ∀ stream ∈ built.sreams, stream.channels = [] := by
    obtain ⟨grid, -, rfl⟩ := options_of_built h
    intro stream hmem
    split_ifs at hmem
    · obtain ⟨c, -, rfl⟩ := List.mem_map.1 hmem
      rfl
    · cases hmem
  refine ⟨rfl, rfl, rfl, rfl, fun i stream hstream => ?_, fun _ _ _ _ => rfl⟩
  exact hchannels stream (List.mem_of_getElem? hstream)

theorem length_sreams_of_built
    (h : (initPipeline lib run encoding).run [] = .ok (some built, elements)) :
    built.sreams.length = if encoding.haveVideo then encoding.input.length else 0 := by
  obtain ⟨grid, hgrid, rfl⟩ := options_of_built h
  split_ifs
  · exact (List.length_map _).trans (length_cells hgrid).1
  · rfl

/-- What is drawn depends on what stays of the options. -/
theorem Pictured.of_frame {n : Nat} {options options' : MosaicImageOptions}
    (h : Pictured n options') (hframe : Mosaic.frame options = Mosaic.frame options') :
    Pictured n options := by
  obtain ⟨hscreen, hpadding, himages⟩ : options.screenSize = options'.screenSize ∧
      options.rightPadding = options'.rightPadding ∧
      options.sreams.map StreamInfo.img = options'.sreams.map StreamInfo.img := by
    simpa [Mosaic.frame] using hframe
  have htiles : tilesOf options = tilesOf options' := by
    have hrects := congrArg (List.map ImageInfo.rect) himages
    rw [List.map_map, List.map_map] at hrects
    exact hrects
  have hdraw : handleCairoDraw options = handleCairoDraw options' := by
    have hbars := congrArg (List.map (barsOf options'.rightPadding)) himages
    unfold handleCairoDraw MosaicImageOptions.isValid
    rw [hscreen, hpadding]
    rw [List.map_map, List.map_map] at hbars
    exact if_congr Iff.rfl hbars rfl
  refine ⟨htiles ▸ h.tiles, htiles ▸ h.apart, ?_, ?_, hdraw ▸ h.barsApart⟩
  · rw [htiles]
    exact h.covers
  · rw [htiles, hdraw]
    exact h.bars

/-- In each state of a run the picture is that of the pipeline that was built. -/
theorem picture_of_run {es : List Event} (hvideo : encoding.haveVideo = true)
    (h : (initPipeline lib run encoding).run [] = .ok (some built, elements))
    (hrun : Run.exec (step cv encoding.toAudioVideoConfig elements isValid)
      { options := built } es = some s) :
    Pictured encoding.input.length s.options :=
  (pictured_of_built hvideo h).of_frame (keeps_followed.exec (followed_built h) hrun).frame

/-- An audio with two channels and a video of the first input, of which the video goes. -/
def sampleEvents : List Event :=
  [.padAdded "decodebin_0" ⟨"src_0".toList, some "audio/x-raw".toList⟩ (some 2) true,
    .padAdded "decodebin_0" ⟨"src_1".toList, some "video/x-raw".toList⟩ none true,
    .padRemoved "decodebin_0" ⟨"src_1".toList, some "video/x-raw".toList⟩]

theorem sampleEvents_run (built : MosaicImageOptions) (elements : List Element) :
    ∃ s, Run.exec (step decimalConvert sampleMosaic.toAudioVideoConfig elements fun _ => true)
      { options := built } sampleEvents = some s :=
  ⟨_, rfl⟩

theorem picture_of_run_sampleMosaic : ∃ built elements s,
    Run.exec (step decimalConvert sampleMosaic.toAudioVideoConfig elements fun _ => true)
      { options := built } sampleEvents = some s ∧ Pictured 2 s.options := by
  obtain ⟨built, elements, -, h⟩ := sampleMosaic_run
  obtain ⟨s, hrun⟩ := sampleEvents_run built elements
  have hpictured := picture_of_run rfl h hrun
  exact ⟨built, elements, s, hrun, hpictured⟩

/-- The streams have the channels that were announced, with the levels of the last message. -/
structure Levelled (cv : Convert) (config : AudioVideoConfig) (n : Nat) (es : List Event)
    (options : MosaicImageOptions) : Prop where
  length : options.sreams.length = n
  channels : ∀ i stream, options.sreams[i]? = some stream →
    stream.channels = (List.range (announced cv config i es)).map (lastLevel cv es i)

/-- No index of a run is out of range exactly where no message has more levels than channels were
announced before it, and then the levels are those of the last messages. -/
theorem levels_of_run (h : (initPipeline lib run encoding).run [] = .ok (some built, elements))
    (es : List Event) :
    ((Run.exec (step cv encoding.toAudioVideoConfig elements isValid)
      { options := built } es).isSome = true ↔
        ∀ past e rest, es = past ++ e :: rest → InRange cv encoding.toAudioVideoConfig
          (if encoding.haveVideo then encoding.input.length else 0) past e) ∧
    ∀ s, Run.exec (step cv encoding.toAudioVideoConfig elements isValid)
      { options := built } es = some s →
        Levelled cv encoding.toAudioVideoConfig
          (if encoding.haveVideo then encoding.input.length else 0) es s.options := by
  rw [← length_sreams_of_built h]
  refine ⟨keeps_followed.isSome_iff (fun _ _ e hfollowed => step_isSome_iff hfollowed e)
    (followed_built h), fun s hrun => ?_⟩
  have hfollowed := keeps_followed.exec (followed_built h) hrun
  exact ⟨length_of_frame hfollowed.frame, hfollowed.channels⟩

theorem levels_of_run_sampleMosaic : ∃ built elements,
    (Run.exec (step decimalConvert sampleMosaic.toAudioVideoConfig elements fun _ => true)
      { options := built } (sampleEvents ++ [.level "level_0" [1, 2] [3, 4] [5, 6]])).isSome =
        true := by
  obtain ⟨built, elements, -, h⟩ := sampleMosaic_run
  refine ⟨built, elements, (levels_of_run h _).1.2 fun past e rest heq => ?_⟩
  rcases past with _ | ⟨_, _ | ⟨_, _ | ⟨_, _ | ⟨_, past⟩⟩⟩⟩
  · cases heq
    trivial
  · cases heq
    trivial
  · cases heq
    trivial
  · cases heq
    intro i _ hid
    have hfirst : elementId decimalConvert "level_0" = some 0 := rfl
    cases hfirst.symm.trans hid
    exact le_refl 2
  · simp [sampleEvents] at heq

/-! ## The pads that are linked -/

/-- A new pad is of a decodebin of the pipeline. -/
def OfPipeline (n : Nat) : Event → Prop
  | .padAdded src _ _ _ => ∃ i < n, src = memSPrintf .decodebin i
  | _ => True

/-- A new pad without a type. -/
def addsUntyped : Event → Bool
  | .padAdded _ newPad _ _ => newPad.type = none
  | _ => false

/-- The pads of a mosaic over the events: an element takes up each kind of data of each input; its
sink pad is a slot of its own, which the first suitable pad takes and holds until it is removed; a
pad that is linked is of the kind and of the input; and the decodebins of the pipeline lead to no
alarm but for pads without a type, so that no lookup fails. -/
structure PadsHeld (cv : Convert) (config : AudioVideoConfig) (elements : List Element)
    (isValid : Element → Bool) (n : Nat) (es : List Event) (s : MosaicStream) : Prop where
  udb : ∀ m, m.has config = true → ∀ i < n, ∃ dest, udbOf elements m i = some dest
  slot : ∀ dest peer, (dest, peer) ∈ s.peers ↔
    (es.map (opOf cv config elements isValid)).foldl (Slots.slot dest) none = some peer
  nodup : (s.peers.map Prod.fst).Nodup
  own : ∀ peer ∈ s.peers, ∃ m i, wants cv config peer.2.1 peer.2.2 = some (m, i) ∧
    udbOf elements m i = some peer.1
  quiet : (∀ e ∈ es, OfPipeline n e) →
    s.alarms = (es.filter addsUntyped).map fun _ => .noType

theorem udbOf_isSome_of_mosaic
    (h : (initPipeline lib run encoding).run [] = .ok (some built, elements))
    (hm : m.has encoding.toAudioVideoConfig = true) (hi : i < encoding.input.length) :
    ∃ dest, udbOf elements m i = some dest :=
  Option.isSome_iff_exists.1 (List.find?_isSome.2 ⟨udb m i, udb_mem_of_built h hm hi,
    decide_eq_true rfl⟩)

theorem length_input_lt_of_built
    (h : (initPipeline lib run encoding).run [] = .ok (some built, elements)) :
    encoding.input.length ≤ 16 := by
  obtain ⟨grid, hgrid, -⟩ := options_of_built h
  unfold mosaicGrid at hgrid
  split_ifs at hgrid <;> omega

theorem take_of_opOf {e : Event} {dest : Element} {peer : String × Pad}
    (h : opOf cv config elements isValid e = .take dest peer) :
    ∃ m i, wants cv config peer.1 peer.2 = some (m, i) ∧ udbOf elements m i = some dest := by
  cases e with
  | padAdded src newPad channels links =>
    simp only [opOf] at h
    split at h
    · rename_i dest' hdest
      split_ifs at h
      cases h
      obtain ⟨⟨m, i⟩, hwants, hudb⟩ := Option.bind_eq_some_iff.1 hdest
      exact ⟨m, i, hwants, hudb⟩
    · cases h
  | padRemoved src pad => cases h
  | level src rms peak decay => cases h

/-- A pad of a decodebin of the pipeline is looked up where it has a type, and is found. -/
theorem alarmsOf_of_pipeline (hcv : cv.Lawful)
    (h : (initPipeline lib run encoding).run [] = .ok (some built, elements)) {e : Event}
    (he : OfPipeline encoding.input.length e) :
    alarmsOf cv encoding.toAudioVideoConfig elements e =
      if addsUntyped e then [.noType] else [] := by
  cases e with
  | padRemoved src pad => rfl
  | level src rms peak decay => rfl
  | padAdded src newPad channels links =>
    obtain ⟨i, hi, rfl⟩ := he
    have hi' : i < 2 ^ 64 := by
      have := length_input_lt_of_built h
      omega
    by_cases htype : newPad.type = none
    · simp [alarmsOf, addsUntyped, htype]
    · simp only [alarmsOf, addsUntyped, htype, decide_false, Bool.false_eq_true, if_false]
      split
      · rename_i m j hwants
        obtain ⟨_, -, -, hm, hid⟩ := wants_eq_some_iff.1 hwants
        rw [elementId, getElementId_memSPrintf hcv .decodebin hi'] at hid
        cases hid
        obtain ⟨dest, hdest⟩ := udbOf_isSome_of_mosaic h hm hi
        rw [lookupAlarms, hdest]
      · rfl

theorem alarms_of_pipeline (hcv : cv.Lawful)
    (h : (initPipeline lib run encoding).run [] = .ok (some built, elements)) (es : List Event)
    (hes : ∀ e ∈ es, OfPipeline encoding.input.length e) :
    es.flatMap (alarmsOf cv encoding.toAudioVideoConfig elements) =
      (es.filter addsUntyped).map fun _ => .noType := by
  induction es with
  | nil => rfl
  | cons e es ih =>
    have hrest := ih fun e he => hes e (List.mem_cons_of_mem _ he)
    rw [List.flatMap_cons, hrest, alarmsOf_of_pipeline hcv h (hes e List.mem_cons_self)]
    cases hadds : addsUntyped e <;> simp [hadds]

/-- The sink pads of a mosaic that runs are slots. -/
theorem pads_of_run (hcv : cv.Lawful)
    (h : (initPipeline lib run encoding).run [] = .ok (some built, elements)) {es : List Event}
    (hrun : Run.exec (step cv encoding.toAudioVideoConfig elements isValid)
      { options := built } es = some s) :
    PadsHeld cv encoding.toAudioVideoConfig elements isValid encoding.input.length es s := by
  have hfollowed := keeps_followed.exec (followed_built h) hrun
  refine ⟨fun m hm i hi => udbOf_isSome_of_mosaic h hm hi, fun dest peer => ?_, ?_,
    fun peer hpeer => ?_, fun hes => ?_⟩
  · rw [hfollowed.peers]
    exact Slots.mem_foldl_iff (by simp) _ peer
  · rw [hfollowed.peers]
    have hnil : (([] : List (Element × String × Pad)).map Prod.fst).Nodup := List.nodup_nil
    exact Slots.nodup_foldl hnil _
  · rw [hfollowed.peers] at hpeer
    have htake := (Slots.take_mem_of_mem_foldl hpeer).resolve_left List.not_mem_nil
    obtain ⟨e, -, he⟩ := List.mem_map.1 htake
    exact take_of_opOf he
  · rw [hfollowed.alarms]
    exact alarms_of_pipeline hcv h es hes

theorem pads_of_run_sampleMosaic : ∃ built elements s,
    Run.exec (step decimalConvert sampleMosaic.toAudioVideoConfig elements fun _ => true)
      { options := built } sampleEvents = some s ∧
    PadsHeld decimalConvert sampleMosaic.toAudioVideoConfig elements (fun _ => true) 2 sampleEvents
      s := by
  obtain ⟨built, elements, -, h⟩ := sampleMosaic_run
  obtain ⟨s, hrun⟩ := sampleEvents_run built elements
  have hheld := pads_of_run decimalConvert_lawful h hrun
  exact ⟨built, elements, s, hrun, hheld⟩

end IptvCloud.Streams.Mosaic
