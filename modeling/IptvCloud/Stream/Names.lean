import IptvCloud.Lib.Printf
import IptvCloud.Lib.Regexp
import IptvCloud.Utils.M3u8

/-!
# Numbered names (`stream/stypes.cpp`, `stream/stypes.h`)

The templates that elements and http chunks are named by, and the functions that read the number
of a name back. The regular expressions are those of the source; `ConvertFromString` is the
parameter `Convert`. An output pointer is an option: null, or what the variable holds.
-/

namespace IptvCloud.Streams

open M3u8 Regexp Printf

/-! ## Elements and pads -/

/-- The `NAME_1U` templates of `stypes.h`, in its order. -/
def elementNameTemplates : List Text :=
  ["video_tee_%lu", "audio_tee_%lu", "udb_conn_video_%lu", "udb_conn_audio_%lu", "post_proc_%lu",
    "videologo_%lu", "deinterlace_%lu", "aspect_ratio_%lu", "video_convert_%lu",
    "encoder_video_convert_%lu", "auto_video_convert_%lu", "audio_convert_%lu", "volume_%lu",
    "videomixer_%lu", "interlive_%lu", "cairo_%lu", "queue2_%lu", "audio_convert_capsfilter_%lu",
    "src_%lu", "video_codec_%lu", "audio_codec_%lu", "video_caps_device_%lu",
    "videoscale_capsfilter_%lu", "x264enc_capsfilter_stream_format_%lu",
    "x264enc_capsfilter_profile_%lu", "videoscale_%lu", "videobox_%lu", "videorate_capsfilter_%lu",
    "videorate_%lu", "audioresample_%lu", "mpegaudioparse_%lu", "decodebin_%lu", "videobox_%lu",
    "video_decodebin_%lu", "audio_decodebin_%lu", "sink_%lu", "audio_sink_%lu", "video_sink_%lu",
    "audio_parser_%lu", "video_parser_%lu", "muxer_%lu", "audio_pay_%lu", "video_pay_%lu",
    "video_tee_queue_%lu", "audio_tee_queue_%lu", "level_%lu"].map String.toList

/-- `[0-9]`. -/
def digit : Expr := .cls Char.isDigit

/-- `^([^_]+_)+([0-9]+)$`. -/
def digitEnd : Expr :=
  .seq (.plus (.group 1 (.seq (.plus (.cls (· != '_'))) (.lit '_')))) (.group 2 (.plus digit))

/-- `GetElementId` and `GetPadId`, which differ in the type of the number: the result, and what the
variable holds after the call. -/
def getId {α : Type} (convertFromString : Text → Option α) (name : Text) (id : Option α) :
    Bool × Option α :=
  match id with
  | none => (false, none)
  | some old =>
    match digitEnd.fullMatch name with
    | none => (false, some old)
    | some matchResults =>
      match convertFromString (str matchResults 2) with
      | some lid => (true, some lid)
      | none => (true, some old)

/-- `GetElementId`. -/
def getElementId (cv : Convert) (name : Text) (elemId : Option Nat) : Bool × Option Nat :=
  getId cv.toUInt64 name elemId

/-- `GetPadId`. -/
def getPadId (cv : Convert) (name : Text) (padId : Option Int) : Bool × Option Int :=
  getId cv.toInt name padId

/-! ## Http chunks -/

/-- `TS_TEMPLATE`. -/
def tsTemplate : Text := "%05d.ts".toList

/-- `GenHttpTsTemplate`; a timestamp is an `int64_t`, printed as an unsigned number. -/
def genHttpTsTemplate (msec : Int64) : Text :=
  printf "%lu_%s".toList [.ulong msec.toUInt64.toNat, .str tsTemplate]

/-- `.`: of the characters of a byte, all but the line terminators. -/
def anyChar : Expr := .cls fun c => c != '\n' && c != '\r'

/-- `^[0-9]+_([0-9]+).ts$`, as the source concatenates it. -/
def chunkIndex : Expr :=
  .seq (.plus digit) (.seq (.lit '_') (.seq (.group 1 (.plus digit))
    (.seq anyChar (.seq (.lit 't') (.lit 's')))))

/-- `GetIndexFromHttpTsTemplate`: the result, and what the variable holds after the call. -/
def getIndexFromHttpTsTemplate (cv : Convert) (fileName : Text) (index : Option Nat) :
    Bool × Option Nat :=
  match index with
  | none => (false, none)
  | some old =>
    match chunkIndex.fullMatch fileName with
    | none => (false, some old)
    | some results =>
      match cv.toUInt64 (str results 1) with
      | some t => (true, some t)
      | none => (false, some old)

end IptvCloud.Streams
