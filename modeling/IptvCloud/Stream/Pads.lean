import IptvCloud.Stream.Builders
import IptvCloud.Stream.Names
import IptvCloud.Stream.Watchdog

/-!
# Pads of the decodebin (`stream/streams/relay`, `stream/streams/encoding`)

What a relay and an encoding do with the signals of their decodebin: the pads that are added, which
are linked to the elements that take up the data, and the caps that the autoplugger is asked about,
which the desired rate of the input is computed from. `HandleDecodeBinPadAdded` is the same in both
streams, but for a `DNOTREACHED` in place of a `NOTREACHED`. A `NOTREACHED` is noted, and the
function goes on.
-/

namespace IptvCloud.Streams.Pads

open M3u8 Builders

/-! ## Flags -/

/-- `InitedFlag`. -/
def initedNothing : BitVec 32 := 0x0000
def initedVideo : BitVec 32 := 0x0001
def initedAudio : BitVec 32 := 0x0002

/-- A flag that is tested. -/
def isInited (flags flag : BitVec 32) : Bool := flags &&& flag != 0

/-- `SetVideoInited`. -/
def setVideoInited (flags : BitVec 32) (val : Bool) : BitVec 32 :=
  if val then flags ||| initedVideo else flags &&& ~~~initedVideo

/-- `SetAudioInited`. -/
def setAudioInited (flags : BitVec 32) (val : Bool) : BitVec 32 :=
  if val then flags ||| initedAudio else flags &&& initedAudio

/-! ## Pads -/

/-- A pad: its name, and `pad_get_type`, which is null without caps or without a structure. -/
structure Pad where
  name : Text
  type : Option Text
  deriving DecidableEq, Repr

/-- A call of `gst_pad_link`, and whether it linked the pads. -/
structure Attempt where
  sink : Element
  pad : Pad
  linked : Bool
  deriving DecidableEq, Repr

/-- A `NOTREACHED`. -/
inductive Alarm
  | noType
  | notFounded (name : String)
  deriving DecidableEq, Repr

/-- `flags_`, and what GStreamer holds: the elements whose sink pads are linked, with the pads that
they are linked to. The calls of `gst_pad_link` and the alarms are noted. -/
structure PadState where
  flags : BitVec 32 := initedNothing
  peers : List (Element × Pad) := []
  attempts : List Attempt := []
  alarms : List Alarm := []

/-- A signal of the decodebin: a pad is added, which `gst_pad_link` would link or not, or a pad is
removed, which unlinks it. -/
inductive PadEvent
  | added (pad : Pad) (links : Bool)
  | removed (pad : Pad)
  deriving DecidableEq, Repr

/-- `IBaseStream::GetElementByName`. -/
def getElementByName (elements : List Element) (name : String) (s : PadState) :
    Option Element × PadState :=
  match elements.find? fun el => el.name = name with
  | some el => (some el, s)
  | none => (none, { s with alarms := s.alarms ++ [.notFounded name] })

/-- `strncmp(type, prefix, 5) == 0`, for a prefix of five characters. -/
def startsWith (type : Text) (text : String) : Bool := text.toList.isPrefixOf type

/-- The track of a pad is the one that is selected, or none is selected. -/
def isAudioSelected (cv : Convert) (config : AudioVideoConfig) (gstPadName : Text) : Bool :=
  match config.audioSelect with
  | none => true
  | some audioSelect =>
    let (found, currentAudioTrack) := getPadId cv gstPadName (some 0)
    found && currentAudioTrack == some audioSelect.toInt

/-- `gst_pad_is_linked` of the sink pad of an element. -/
def isLinked (s : PadState) (dest : Element) : Bool := s.peers.any fun peer => peer.1 = dest

/-- `gst_pad_link`. -/
def gstPadLink (pad : Pad) (dest : Element) (links : Bool) (s : PadState) : PadState :=
  { s with
    peers := if links then s.peers ++ [(dest, pad)] else s.peers
    attempts := s.attempts ++ [⟨dest, pad, links⟩] }

section
variable (cv : Convert) (config : AudioVideoConfig) (elements : List Element)
  (isValid : Element → Bool)

/-- The element that a pad is to be linked to. -/
def findDest (type : Text) (pad : Pad) (s : PadState) : Option Element × PadState :=
  if startsWith type "video" then
    if config.haveVideo && !isInited s.flags initedVideo then
      getElementByName elements (memSPrintf .udbVideo 0) s
    else (none, s)
  else if startsWith type "audio" then
    if config.haveAudio && !isInited s.flags initedAudio then
      if isAudioSelected cv config pad.name then
        getElementByName elements (memSPrintf .udbAudio 0) s
      else (none, s)
    else (none, s)
  else (none, s)

/-- The flag that is set when a pad has been dealt with. -/
def setInited (type : Text) (s : PadState) : PadState :=
  if startsWith type "video" then { s with flags := setVideoInited s.flags true }
  else if startsWith type "audio" then { s with flags := setAudioInited s.flags true }
  else s

/-- `HandleDecodeBinPadAdded`; `isValid` says whether an element has a static sink pad. -/
def handleDecodeBinPadAdded (s : PadState) (pad : Pad) (links : Bool) : PadState :=
  match pad.type with
  | none => { s with alarms := s.alarms ++ [.noType] }
  | some type =>
    match findDest cv config elements type pad s with
    | (none, s) => s
    | (some dest, s) =>
      if !isValid dest then s
      else
        let s := if !isLinked s dest then gstPadLink pad dest links s else s
        setInited type s

/-- A signal. -/
def onPadEvent (s : PadState) : PadEvent → PadState
  | .added pad links => handleDecodeBinPadAdded cv config elements isValid s pad links
  | .removed pad => { s with peers := s.peers.filter fun peer => peer.2 ≠ pad }

end

/-! ## Types of caps -/

inductive SupportedDemuxer
  | mpegts
  | flv
  deriving DecidableEq, Repr

/-- `IsDemuxerFromType`. -/
def isDemuxerFromType (type : Text) : Option SupportedDemuxer :=
  if type = "video/mpegts".toList then some .mpegts
  else if type = "video/x-flv".toList then some .flv
  else none

/-- `IsVideoCodecFromType`. -/
def isVideoCodecFromType (type : Text) : Option SupportedVideoCodec :=
  if type = "video/mpeg".toList then some .mpeg
  else if type = "video/x-h264".toList then some .h264
  else if type = "video/x-h265".toList then some .h265
  else none

/-- `IsAudioCodecFromType`. -/
def isAudioCodecFromType (type : Text) : Option SupportedAudioCodec :=
  if type = "audio/mpeg".toList then some .mpeg
  else if type = "audio/x-ac3".toList then some .ac3
  else none

/-! ## Caps -/

/-- The first structure of caps: `gst_structure_get_int`, and `gst_structure_get_fraction` of the
frame rate. -/
structure CapsStructure where
  int : String → Option Int
  framerate : Option (Int × Int)

/-- Caps: what `get_type_from_caps` reads of them, and their first structure. -/
structure Caps where
  typeTitle : Option Text
  padStruct : Option CapsStructure

/-- `DesireBytesPerSec` and what computes it (`common::media`). -/
structure MediaLib (δ : Type) extends DesireOps δ where
  calculateDesireAudioBandwidthBytesPerSec : Int → Int → δ
  calculateDesireMPEGBandwidthBytesPerSec : Int → Int → δ
  calculateDesireH264BandwidthBytesPerSec : Int → Int → Int → Int → δ

/-- `desire_flags_`, and the desired rate of the first input. -/
structure DesireState (δ : Type) where
  desireFlags : BitVec 32 := initedNothing
  desire : δ

section
variable {δ : Type} (media : MediaLib δ)

/-- `RegisterAudioCaps` for the first input. -/
def registerAudioCaps (s : DesireState δ) (padStruct : Option CapsStructure) : DesireState δ :=
  if isInited s.desireFlags initedAudio then s
  else
    match padStruct with
    | none => s
    | some padStruct =>
      match padStruct.int "rate", padStruct.int "channels" with
      | some rate, some channels =>
        let kbps := media.calculateDesireAudioBandwidthBytesPerSec rate channels
        { desireFlags := s.desireFlags ||| initedAudio, desire := media.add s.desire kbps }
      | _, _ => s

/-- `RegisterVideoCaps` for the first input. -/
def registerVideoCaps (s : DesireState δ) (svideo : SupportedVideoCodec)
    (padStruct : Option CapsStructure) : DesireState δ :=
  if isInited s.desireFlags initedVideo then s
  else
    match svideo, padStruct with
    | .mpeg, some padStruct =>
      match padStruct.int "width", padStruct.int "height" with
      | some width, some height =>
        let kbps := media.calculateDesireMPEGBandwidthBytesPerSec width height
        { desireFlags := s.desireFlags ||| initedVideo, desire := media.add s.desire kbps }
      | _, _ => s
    | .h264, some padStruct =>
      match padStruct.int "width", padStruct.int "height", padStruct.int "profile" with
      | some width, some height, some profile =>
        let framerate := match padStruct.framerate with
          | some (numerator, denominator) => numerator.tdiv denominator
          | none => 25
        let kbps :=
          media.calculateDesireH264BandwidthBytesPerSec width height framerate profile
        { desireFlags := s.desireFlags ||| initedVideo, desire := media.add s.desire kbps }
      | _, _, _ => s
    | _, _ => s

/-- A field of the structure of caps is there. -/
def hasInt (padStruct : Option CapsStructure) (field : String) : Bool :=
  padStruct.any fun padStruct => (padStruct.int field).isSome

/-- `HandleDecodeBinAutoplugger`: whether to go on plugging. `decodes` is the answer for data that
is taken up: an encoding goes on and decodes it, a relay stops. -/
def handleDecodeBinAutoplugger (decodes : Bool) (s : DesireState δ) (caps : Caps) :
    Bool × DesireState δ :=
  match caps.typeTitle with
  | none => (true, s)
  | some typeTitle =>
    if (isDemuxerFromType typeTitle).isSome then (true, s)
    else
      match isVideoCodecFromType typeTitle with
      | some .h264 =>
        if hasInt caps.padStruct "width" && hasInt caps.padStruct "height" then
          (decodes, registerVideoCaps media s .h264 caps.padStruct)
        else (true, s)
      | some .h265 => (decodes, s)
      | some .mpeg => (true, s)
      | none =>
        if (isAudioCodecFromType typeTitle).isSome then
          if hasInt caps.padStruct "rate" then
            (decodes, registerAudioCaps media s caps.padStruct)
          else (true, s)
        else (true, s)

/-- The questions of a session. Its stream is a new one, with new flags; the statistics of the input
are those that the earlier sessions left. -/
def autoplugSession (decodes : Bool) (s : DesireState δ) (questions : List Caps) : DesireState δ :=
  questions.foldl (fun s caps => (handleDecodeBinAutoplugger media decodes s caps).2)
    { s with desireFlags := initedNothing }

end

end IptvCloud.Streams.Pads
