import IptvCloud.Stream.Proof.Pads

/-!
# The desired rate of an input

The caps that the autoplugger is asked about are rated once for each kind of data: a session adds
the rates of the first caps that can be rated to the desired rate of the input, which the sessions
of a stream share.
-/

namespace IptvCloud.Streams.Pads

open Latch M3u8 Builders

/-! ## Rated caps -/

section
variable {δ : Type} {media : MediaLib δ} {decodes : Bool} {s : DesireState δ} {caps : Caps}
  {m : Medium}

/-- The rate that is computed from caps, and the kind of data that it is the rate of. -/
def ratedCaps (media : MediaLib δ) (caps : Caps) : Option (Medium × δ) :=
  caps.padStruct.bind fun padStruct =>
    if caps.typeTitle = some "video/x-h264".toList then do
      let width ← padStruct.int "width"
      let height ← padStruct.int "height"
      let profile ← padStruct.int "profile"
      let framerate := match padStruct.framerate with
        | some (numerator, denominator) => numerator.tdiv denominator
        | none => 25
      return (.video,
        media.calculateDesireH264BandwidthBytesPerSec width height framerate profile)
    else if caps.typeTitle = some "audio/mpeg".toList ∨
        caps.typeTitle = some "audio/x-ac3".toList then do
      let rate ← padStruct.int "rate"
      let channels ← padStruct.int "channels"
      return (.audio, media.calculateDesireAudioBandwidthBytesPerSec rate channels)
    else none

/-- The kind of data of rated caps. -/
def ratedKind (media : MediaLib δ) (caps : Caps) : Option Medium :=
  (ratedCaps media caps).map Prod.fst

/-- The rate of caps is added, whatever was added before. -/
def addRate (media : MediaLib δ) (s : DesireState δ) (caps : Caps) : DesireState δ :=
  match ratedCaps media caps with
  | some (m, kbps) =>
    { desireFlags := setFlag s.desireFlags m, desire := media.add s.desire kbps }
  | none => s

theorem autoplug_h264 (padStruct : Option CapsStructure) :
    (handleDecodeBinAutoplugger media decodes s ⟨some "video/x-h264".toList, padStruct⟩).2 =
      registerVideoCaps media s .h264 padStruct := by
  have hdemuxer : isDemuxerFromType "video/x-h264".toList = none := by decide
  have hvideo : isVideoCodecFromType "video/x-h264".toList = some .h264 := by decide
  simp only [handleDecodeBinAutoplugger, hdemuxer, hvideo, Option.isSome_none, Bool.false_eq_true,
    if_false]
  split_ifs with hints
  · rfl
  · cases padStruct with
    | none => simp [registerVideoCaps]
    | some padStruct =>
      simp only [hasInt, Option.any_some, Bool.and_eq_true, not_and, Bool.not_eq_true,
        Option.isSome_eq_false_iff, Option.isNone_iff_eq_none] at hints
      unfold registerVideoCaps
      split_ifs
      · rfl
      · cases hwidth : padStruct.int "width" with
        | none => simp [hwidth]
        | some width => simp [hwidth, hints (by simp [hwidth])]

theorem autoplug_audio {typeTitle : Text} (padStruct : Option CapsStructure)
    (h : typeTitle = "audio/mpeg".toList ∨ typeTitle = "audio/x-ac3".toList) :
    (handleDecodeBinAutoplugger media decodes s ⟨some typeTitle, padStruct⟩).2 =
      registerAudioCaps media s padStruct := by
  have htype : isDemuxerFromType typeTitle = none ∧ isVideoCodecFromType typeTitle = none ∧
      (isAudioCodecFromType typeTitle).isSome = true := by
    rcases h with rfl | rfl <;> decide
  simp only [handleDecodeBinAutoplugger, htype, Option.isSome_none, Bool.false_eq_true, if_false,
    if_true]
  split_ifs with hints
  · rfl
  · cases padStruct with
    | none => simp [registerAudioCaps]
    | some padStruct =>
      have hrate : padStruct.int "rate" = none := by simpa [hasInt] using hints
      unfold registerAudioCaps
      split_ifs
      · rfl
      · simp [hrate]

/-- Caps of other types are not rated. -/
theorem autoplug_other {typeTitle : Option Text} (padStruct : Option CapsStructure)
    (hvideo : typeTitle ≠ some "video/x-h264".toList)
    (haudio : ¬ (typeTitle = some "audio/mpeg".toList ∨ typeTitle = some "audio/x-ac3".toList)) :
    (handleDecodeBinAutoplugger media decodes s ⟨typeTitle, padStruct⟩).2 = s := by
  cases typeTitle with
  | none => rfl
  | some typeTitle =>
    simp only [Option.some.injEq] at haudio
    have hvideo : typeTitle ≠ "video/x-h264".toList := fun h => hvideo (congrArg some h)
    have hnone : isAudioCodecFromType typeTitle = none := by
      unfold isAudioCodecFromType
      rw [if_neg fun h => haudio (.inl h), if_neg fun h => haudio (.inr h)]
    simp only [handleDecodeBinAutoplugger, hnone, isVideoCodecFromType, if_neg hvideo,
      Option.isSome_none, Bool.false_eq_true, if_false]
    split_ifs <;> rfl

/-- The caps are used unless others were before. -/
def useCaps (media : MediaLib δ) (s : DesireState δ) (caps : Caps) : DesireState δ :=
  if (ratedKind media caps).any fun m => isInited s.desireFlags (flagOf m) then s
  else addRate media s caps

theorem useCaps_of_none (h : ratedCaps media caps = none) : useCaps media s caps = s := by
  simp [useCaps, ratedKind, addRate, h]

theorem registerVideoCaps_h264 (padStruct : Option CapsStructure) :
    registerVideoCaps media s .h264 padStruct =
      useCaps media s ⟨some "video/x-h264".toList, padStruct⟩ := by
  unfold registerVideoCaps
  cases padStruct with
  | none =>
    rw [useCaps_of_none rfl]
    exact ite_self s
  | some padStruct =>
    have hrated : ratedCaps media ⟨some "video/x-h264".toList, some padStruct⟩ = do
        let width ← padStruct.int "width"
        let height ← padStruct.int "height"
        let profile ← padStruct.int "profile"
        let framerate := match padStruct.framerate with
          | some (numerator, denominator) => numerator.tdiv denominator
          | none => 25
        return (.video,
          media.calculateDesireH264BandwidthBytesPerSec width height framerate profile) := rfl
    cases hwidth : padStruct.int "width" with
    | none =>
      rw [useCaps_of_none (by rw [hrated, hwidth]; rfl)]
      simp [hwidth]
    | some width =>
      cases hheight : padStruct.int "height" with
      | none =>
        rw [useCaps_of_none (by rw [hrated, hwidth, hheight]; rfl)]
        simp [hwidth, hheight]
      | some height =>
        cases hprofile : padStruct.int "profile" with
        | none =>
          rw [useCaps_of_none (by rw [hrated, hwidth, hheight, hprofile]; rfl)]
          simp [hwidth, hheight, hprofile]
        | some profile =>
          rw [hwidth, hheight, hprofile] at hrated
          unfold useCaps ratedKind addRate
          rw [hrated]
          simp only [hwidth, hheight, hprofile]
          rfl

theorem registerAudioCaps_eq {typeTitle : Option Text} (padStruct : Option CapsStructure)
    (hvideo : typeTitle ≠ some "video/x-h264".toList)
    (haudio : typeTitle = some "audio/mpeg".toList ∨ typeTitle = some "audio/x-ac3".toList) :
    registerAudioCaps media s padStruct = useCaps media s ⟨typeTitle, padStruct⟩ := by
  unfold registerAudioCaps
  cases padStruct with
  | none =>
    rw [useCaps_of_none rfl]
    exact ite_self s
  | some padStruct =>
    have hrated : ratedCaps media ⟨typeTitle, some padStruct⟩ = do
        let rate ← padStruct.int "rate"
        let channels ← padStruct.int "channels"
        return (.audio, media.calculateDesireAudioBandwidthBytesPerSec rate channels) := by
      show (if _ then _ else if _ then _ else _) = _
      rw [if_neg hvideo, if_pos haudio]
    cases hrate : padStruct.int "rate" with
    | none =>
      rw [useCaps_of_none (by rw [hrated, hrate]; rfl)]
      simp [hrate]
    | some rate =>
      cases hchannels : padStruct.int "channels" with
      | none =>
        rw [useCaps_of_none (by rw [hrated, hrate, hchannels]; rfl)]
        simp [hrate, hchannels]
      | some channels =>
        rw [hrate, hchannels] at hrated
        unfold useCaps ratedKind addRate
        rw [hrated]
        simp only [hrate, hchannels]
        rfl

theorem handleDecodeBinAutoplugger_eq :
    (handleDecodeBinAutoplugger media decodes s caps).2 = useCaps media s caps := by
  obtain ⟨typeTitle, padStruct⟩ := caps
  by_cases hvideo : typeTitle = some "video/x-h264".toList
  · subst hvideo
    rw [autoplug_h264]
    exact registerVideoCaps_h264 padStruct
  · by_cases haudio : typeTitle = some "audio/mpeg".toList ∨ typeTitle = some "audio/x-ac3".toList
    · obtain ⟨title, rfl, htitle⟩ : ∃ title, typeTitle = some title ∧
          (title = "audio/mpeg".toList ∨ title = "audio/x-ac3".toList) := by
        rcases haudio with rfl | rfl
        · exact ⟨_, rfl, .inl rfl⟩
        · exact ⟨_, rfl, .inr rfl⟩
      rw [autoplug_audio padStruct htitle]
      exact registerAudioCaps_eq padStruct hvideo haudio
    · rw [autoplug_other padStruct hvideo haudio]
      refine (useCaps_of_none ?_).symm
      cases padStruct with
      | none => rfl
      | some padStruct =>
        show (if _ then _ else if _ then _ else _) = _
        rw [if_neg hvideo, if_neg haudio]

/-! ## Sessions -/

/-- Caps are used where they are the first ones of their kind. -/
theorem guards_autoplugger :
    Guards (fun s caps => (handleDecodeBinAutoplugger media decodes s caps).2) (addRate media)
      (ratedKind media) (fun s m => isInited s.desireFlags (flagOf m)) where
  fire s caps m hkey hflag := by
    show (handleDecodeBinAutoplugger media decodes s caps).2 = _ ∧ _
    rw [handleDecodeBinAutoplugger_eq, useCaps, hkey, if_neg (by simp [hflag])]
    obtain ⟨⟨m, kbps⟩, hrated, ⟨⟩⟩ := Option.map_eq_some_iff.1 hkey
    refine ⟨rfl, funext fun m' => ?_⟩
    simp only [addRate, hrated, isInited_setFlag, Function.update_apply]
    by_cases hm : m' = m <;> simp [hm]
  idle s caps h := by
    show (handleDecodeBinAutoplugger media decodes s caps).2 = s
    rw [handleDecodeBinAutoplugger_eq]
    cases hkey : ratedKind media caps with
    | none => exact useCaps_of_none (by simpa [ratedKind] using hkey)
    | some m =>
      rw [useCaps, hkey]
      exact if_pos (h m hkey)

theorem desire_addRate (questions : List Caps) (s : DesireState δ) :
    (questions.foldl (addRate media) s).desire =
      (questions.filterMap (ratedCaps media)).foldl (fun sum rate => media.add sum rate.2)
        s.desire := by
  induction questions generalizing s with
  | nil => rfl
  | cons caps questions ih =>
    rw [List.foldl_cons, ih]
    cases hrated : ratedCaps media caps with
    | none => simp [addRate, hrated]
    | some rate => simp [addRate, hrated]

/-- The rates that a session adds: those of the first caps of each kind of data. -/
def ratesOf (media : MediaLib δ) (questions : List Caps) : List (Medium × δ) :=
  (firsts (ratedKind media) (fun _ => false) questions).filterMap (ratedCaps media)

/-- A session adds its rates to what the earlier ones left, and starts with no kind of data. -/
theorem desire_autoplugSession (s : DesireState δ) (questions : List Caps) :
    (autoplugSession media decodes s questions).desire =
      (ratesOf media questions).foldl (fun sum rate => media.add sum rate.2) s.desire := by
  have hlatches : (fun m => isInited (initedNothing) (flagOf m)) = fun _ => false := by
    funext m
    cases m <;> decide
  unfold autoplugSession ratesOf
  rw [guards_autoplugger.foldl, desire_addRate, hlatches]

/-- Over the sessions of a stream the desired rate of its input is the sum of the rates of the first
caps of each kind of data in each session, whether they are decoded or not. -/
theorem desire_of_sessions (s : DesireState δ) (sessions : List (List Caps)) :
    (sessions.foldl (autoplugSession media decodes) s).desire =
      (sessions.flatMap (ratesOf media)).foldl (fun sum rate => media.add sum rate.2) s.desire := by
  induction sessions generalizing s with
  | nil => rfl
  | cons questions sessions ih =>
    rw [List.foldl_cons, ih, desire_autoplugSession, List.flatMap_cons, List.foldl_append]

end

end IptvCloud.Streams.Pads
