import Mathlib.Algebra.Ring.Nat
import IptvCloud.Stream.StatisticInfo

/-!
# What the daemon receives of a stream's statistics

`doDeSerialize_serialize` is what the daemon decodes from the statistics that a stream has encoded:
the channels come in the reverse order, with the previous total for the total and the time of the
decoding for their update, and `rss` as an `int`. `doDeSerialize_serialize_iff` says which
statistics survive this.
-/

namespace IptvCloud.Stream

open JsonC Server

variable {δ : Type} {co : Coercions} {lib : DesireLib δ} {clock : Nat → Int64}

/-! ## Numbers -/

section
variable {n : Int64}

theorem getInt_int (h : -2147483648 ≤ n.toInt) (h' : n.toInt ≤ 2147483647) :
    (Json.int n).getInt co = n := by
  simp only [Json.getInt, Json.getInt64, Int64.le_iff_toInt_le]
  split
  · apply Int64.toInt_inj.1
    simp at *
    omega
  · split
    · apply Int64.toInt_inj.1
      simp at *
      omega
    · rfl

theorem toInt_toInt64 {x : UInt64} (h : x.toNat < 2 ^ 63) : x.toInt64.toInt = x.toNat := by
  rw [← Int64.toInt_toBitVec, UInt64.toBitVec_toInt64, BitVec.toInt_eq_toNat_of_lt]
  · rfl
  · rw [UInt64.toNat_toBitVec]
    omega

theorem getInt_type (type : UInt8) :
    ((Json.int type.toUInt64.toInt64).getInt co).toUInt64.toUInt8 = type := by
  have hlt : type.toUInt64.toNat < 2 ^ 8 := type.toNat_lt
  have hn : type.toUInt64.toInt64.toInt = type.toUInt64.toNat := toInt_toInt64 (by omega)
  rw [getInt_int (by omega) (by omega), UInt64.toUInt64_toInt64, UInt8.toUInt8_toUInt64]

theorem getInt_status (status : Int32) :
    ((Json.int status.toInt64).getInt co).toInt32 = status := by
  have hle := status.le_toInt
  have hlt := status.toInt_lt
  have hn := Int32.toInt_toInt64 status
  rw [getInt_int (by omega) (by omega), Int32.toInt32_toInt64]

/-- A value that does not fit an `int` becomes the largest one. -/
theorem getInt_rss {rss : UInt64} (h : rss.toNat < 2 ^ 63) :
    ((Json.int rss.toInt64).getInt co).toUInt64 = rss ↔ rss.toNat < 2 ^ 31 := by
  have hn := toInt_toInt64 h
  constructor
  · intro heq
    by_contra hge
    have hclamp : (Json.int rss.toInt64).getInt co = 2147483647 := by
      simp only [Json.getInt, Json.getInt64, Int64.le_iff_toInt_le, hn]
      rw [if_neg (by simp; omega), if_pos (by simp; omega)]
    rw [hclamp] at heq
    subst heq
    exact hge (by decide)
  · intro hlt
    rw [getInt_int (by omega) (by omega), UInt64.toUInt64_toInt64]

end

/-! ## Channels -/

/-- A channel as it is decoded at the time `now`. -/
def ChannelStats.received (stats : ChannelStats δ) (now : Int64) : ChannelStats δ :=
  { stats with totalBytes := stats.prevTotalBytes, lastUpdateTime := now }

/-- A channel apart from its last update. -/
def ChannelStats.timeless (stats : ChannelStats δ) : ChannelStats δ :=
  { stats with lastUpdateTime := 0 }

/-- The channels survive: their totals are the previous ones, they were updated at the times at
which they are decoded, and but for these times they are the same from both ends. -/
structure ChannelsKept (clock : Nat → Int64) (start : Nat) (l : List (ChannelStats δ)) : Prop where
  total : ∀ c ∈ l, c.totalBytes = c.prevTotalBytes
  times : ∀ i c, l[i]? = some c → c.lastUpdateTime = clock (start + i)
  order : l.reverse.map ChannelStats.timeless = l.map ChannelStats.timeless

theorem toStdString_newString {s : String} (h : cstring s = s) :
    ((Json.newString s).toStdString co : Decoded String) = .ok s := by
  simp [Json.newString, Json.toStdString, Json.getString, h]

theorem channel_doDeSerialize_serialize (hlib : lib.Lawful) (now : Int64) (c : ChannelStats δ) :
    ChannelStats.doDeSerialize co lib now (c.serialize lib) = .ok (c.received now) := by
  rw [ChannelStats.doDeSerialize, optionalField_of_getEx
      (v := .newString (lib.convertToString c.desireBytesPerSecond)) rfl,
    toStdString_newString (hlib.not_nul _)]
  simp only [Except.map, hlib.read]
  rfl

/-- The channels as they are decoded. -/
def receivedChannels (clock : Nat → Int64) (start : Nat) (l : List (ChannelStats δ)) :
    List (ChannelStats δ) :=
  (l.reverse.zipIdx start).map fun p => p.1.received (clock p.2)

theorem readChannelStats_serialize (hlib : lib.Lawful) (start : Nat) (l : List (ChannelStats δ)) :
    readChannelStats co lib clock start (.array (l.map (ChannelStats.serialize lib))) =
      .ok (receivedChannels clock start l) := by
  have hidx : (l.map (ChannelStats.serialize lib)).reverse.zipIdx start =
      (l.reverse.zipIdx start).map (Prod.map (ChannelStats.serialize lib) id) := by
    rw [← List.map_reverse, List.zipIdx_map]
  simp only [readChannelStats, Json.elements, bind, Except.bind, hidx]
  exact collect_map fun p _ => channel_doDeSerialize_serialize hlib (clock p.2) p.1

@[simp] theorem length_receivedChannels (start : Nat) (l : List (ChannelStats δ)) :
    (receivedChannels clock start l).length = l.length := by
  simp [receivedChannels]

theorem getElem?_receivedChannels (start : Nat) (l : List (ChannelStats δ)) (i : Nat) :
    (receivedChannels clock start l)[i]? =
      l.reverse[i]?.map fun c => c.received (clock (start + i)) := by
  simp [receivedChannels, List.getElem?_zipIdx, Function.comp_def]

theorem received_eq_iff {c d : ChannelStats δ} {now : Int64}
    (hd : d.totalBytes = d.prevTotalBytes) :
    d.received now = c ↔ d.timeless = c.timeless ∧ c.lastUpdateTime = now := by
  cases c
  cases d
  simp only [ChannelStats.received, ChannelStats.timeless, ChannelStats.mk.injEq] at hd ⊢
  grind

theorem receivedChannels_eq_iff (start : Nat) (l : List (ChannelStats δ)) :
    receivedChannels clock start l = l ↔ ChannelsKept clock start l := by
  constructor
  · intro h
    have hget (i : Nat) : (l.reverse[i]?.map fun c => c.received (clock (start + i))) = l[i]? := by
      rw [← getElem?_receivedChannels, h]
    have htotal : ∀ c ∈ l, c.totalBytes = c.prevTotalBytes := by
      intro c hc
      obtain ⟨i, hi⟩ := List.mem_iff_getElem?.1 hc
      rw [← hget i] at hi
      obtain ⟨d, -, rfl⟩ := Option.map_eq_some_iff.1 hi
      rfl
    refine ⟨htotal, fun i c hc => ?_, List.ext_getElem? fun i => ?_⟩
    · rw [← hget i] at hc
      obtain ⟨d, -, rfl⟩ := Option.map_eq_some_iff.1 hc
      rfl
    · rw [List.getElem?_map, List.getElem?_map, ← hget i]
      cases hd : l.reverse[i]? with
      | none => rfl
      | some d =>
        have hmem : d ∈ l := List.mem_reverse.1 (List.mem_of_getElem? hd)
        simp [ChannelStats.timeless, ChannelStats.received, htotal d hmem]
  · intro h
    refine List.ext_getElem? fun i => ?_
    have horder : l.reverse[i]?.map ChannelStats.timeless = l[i]?.map ChannelStats.timeless := by
      rw [← List.getElem?_map, h.order, List.getElem?_map]
    rw [getElem?_receivedChannels]
    cases hd : l.reverse[i]? with
    | none =>
      rw [hd] at horder
      exact (Option.map_eq_none_iff.1 horder.symm).symm
    | some d =>
      rw [hd, Option.map_some, eq_comm, Option.map_eq_some_iff] at horder
      obtain ⟨c, hc, heq⟩ := horder
      have hmem : d ∈ l := List.mem_reverse.1 (List.mem_of_getElem? hd)
      rw [hc, Option.map_some, (received_eq_iff (h.total d hmem)).2 ⟨heq.symm, h.times i c hc⟩]

/-! ## Statistics -/

/-- The statistics as they are decoded. -/
def StatisticInfo.received (co : Coercions) (clock : Nat → Int64) (s : StatisticInfo δ) :
    StatisticInfo δ :=
  { s with
    id := cstring s.id
    input := receivedChannels clock 0 s.input
    output := receivedChannels clock s.input.length s.output
    rssBytes := ((Json.int s.rssBytes.toInt64).getInt co).toUInt64 }

/-- The statistics survive: the id has no NUL, `rss` fits an `int`, and both lists of channels are
kept. -/
structure StatisticKept (clock : Nat → Int64) (s : StatisticInfo δ) : Prop where
  id : Char.ofNat 0 ∉ s.id.toList
  rss : s.rssBytes.toNat < 2 ^ 31
  input : ChannelsKept clock 0 s.input
  output : ChannelsKept clock s.input.length s.output

theorem cstring_cstring (s : String) : cstring (cstring s) = cstring s := by
  simp only [cstring, Stdio.cstr, String.toList_ofList, List.takeWhile_idem]

theorem cstring_eq_self_iff (s : String) : cstring s = s ↔ Char.ofNat 0 ∉ s.toList := by
  constructor
  · intro h hmem
    rw [← h, cstring, String.toList_ofList] at hmem
    simpa using List.mem_takeWhile_imp hmem
  · intro h
    rw [cstring, Stdio.cstr_self h, String.ofList_toList]

/-- The fields of encoded statistics. -/
theorem getEx_serialize {s : StatisticInfo δ} {j : Json} (hj : s.serialize lib = .ok j) :
    j.getEx "id" = some (.newString s.id) ∧ j.getEx "type" = some (.int s.type.toUInt64.toInt64) ∧
    j.getEx "input_streams" = some (.array (s.input.map (ChannelStats.serialize lib))) ∧
    j.getEx "output_streams" = some (.array (s.output.map (ChannelStats.serialize lib))) ∧
    j.getEx "loop_start_time" = some (.int s.loopStartTime) ∧
    j.getEx "rss" = some (.int s.rssBytes.toInt64) ∧ j.getEx "cpu" = some (.double s.cpuLoad) ∧
    j.getEx "status" = some (.int s.status.toInt64) ∧
    j.getEx "restarts" = some (.int s.restarts.toInt64) ∧
    j.getEx "start_time" = some (.int s.startTime) ∧
    j.getEx "timestamp" = some (.int s.timestamp) := by
  unfold StatisticInfo.serialize at hj
  split at hj
  · cases hj
  · cases hj
    exact ⟨rfl, rfl, rfl, rfl, rfl, rfl, rfl, rfl, rfl, rfl, rfl⟩

theorem doDeSerialize_serialize (hlib : lib.Lawful) {s : StatisticInfo δ} {j : Json}
    (hj : s.serialize lib = .ok j) :
    StatisticInfo.doDeSerialize co lib clock j = .ok (s.received co clock) := by
  obtain ⟨hid, htype, hinput, houtput, hloop, hrss, hcpu, hstatus, hrestarts, hstart, htime⟩ :=
    getEx_serialize hj
  have hstring : ((Json.newString s.id).toStdString co : Decoded String) = .ok (cstring s.id) := by
    simp [Json.newString, Json.toStdString, Json.getString, cstring_cstring]
  simp only [StatisticInfo.doDeSerialize, requiredField_of_getEx hid, requiredField_of_getEx htype,
    optionalField_of_getEx hinput, optionalField_of_getEx houtput, optionalField_of_getEx hloop,
    optionalField_of_getEx hrss, optionalField_of_getEx hcpu, optionalField_of_getEx hstatus,
    optionalField_of_getEx hrestarts, optionalField_of_getEx hstart, optionalField_of_getEx htime,
    readChannelStats_serialize hlib, length_receivedChannels, bind, Except.bind, hstring,
    getInt_type, getInt_status, Json.getInt64, Json.getDouble, UInt64.toUInt64_toInt64]
  rfl

theorem received_eq_self_iff {s : StatisticInfo δ} (hrss : s.rssBytes.toNat < 2 ^ 63) :
    s.received co clock = s ↔ StatisticKept clock s := by
  constructor
  · intro h
    have hid : cstring s.id = s.id := congrArg StatisticInfo.id h
    have hinput : receivedChannels clock 0 s.input = s.input := congrArg StatisticInfo.input h
    have houtput : receivedChannels clock s.input.length s.output = s.output :=
      congrArg StatisticInfo.output h
    have hint : ((Json.int s.rssBytes.toInt64).getInt co).toUInt64 = s.rssBytes :=
      congrArg StatisticInfo.rssBytes h
    exact ⟨(cstring_eq_self_iff s.id).1 hid, (getInt_rss hrss).1 hint,
      (receivedChannels_eq_iff 0 s.input).1 hinput, (receivedChannels_eq_iff _ s.output).1 houtput⟩
  · intro h
    rw [StatisticInfo.received, (cstring_eq_self_iff s.id).2 h.id, (getInt_rss hrss).2 h.rss,
      (receivedChannels_eq_iff 0 s.input).2 h.input,
      (receivedChannels_eq_iff _ s.output).2 h.output]

/-- **Statistics over the pipe**: statistics with an id are decoded as they were encoded, and so
broadcast as they were sent, exactly when they are kept. -/
theorem doDeSerialize_serialize_iff (hlib : lib.Lawful) (s : StatisticInfo δ)
    (hid : s.id.isEmpty = false) (hrss : s.rssBytes.toNat < 2 ^ 63) :
    (∃ j, s.serialize lib = .ok j ∧ StatisticInfo.doDeSerialize co lib clock j = .ok s ∧
        handleRequestStatisticStream co lib clock j = .ok j) ↔ StatisticKept clock s := by
  obtain ⟨j, hj⟩ : ∃ j, s.serialize lib = .ok j := by
    simp [StatisticInfo.serialize, hid]
  have hdec : StatisticInfo.doDeSerialize co lib clock j = .ok (s.received co clock) :=
    doDeSerialize_serialize hlib hj
  have hreceived : s.received co clock = s ↔ StatisticKept clock s := received_eq_self_iff hrss
  constructor
  · rintro ⟨j', hj', hs, -⟩
    rw [hj] at hj'
    cases hj'
    rw [hdec] at hs
    exact hreceived.1 (Except.ok.inj hs)
  · intro h
    rw [hreceived.2 h] at hdec
    refine ⟨j, hj, hdec, ?_⟩
    simp only [handleRequestStatisticStream, hdec, bind, Except.bind, hj]

/-- A desired rate that is one of two texts. -/
def sampleDesire : DesireLib Bool where
  default := false
  convertToString desire := if desire then "1" else "0"
  convertFromString text := some (text == "1")

theorem sampleDesire_lawful : sampleDesire.Lawful :=
  ⟨by decide, by decide⟩

/-- The statistics of a stream that has not received anything. -/
def startedStatistic (input : List (ChannelStats Bool)) (rssBytes : UInt64) :
    StatisticInfo Bool where
  id := "stream"
  type := 1
  input := input
  output := []
  loopStartTime := 0
  rssBytes := rssBytes
  cpuLoad := 0
  status := 0
  restarts := 0
  startTime := 0
  timestamp := 0

/-- A channel that was updated at the time `time`. -/
def sampleChannel (id : UInt64) (time : Int64) (total : UInt64) : ChannelStats Bool :=
  { id, lastUpdateTime := time, totalBytes := total, desireBytesPerSecond := false }

/-- One channel that is decoded in the millisecond of its update. -/
theorem doDeSerialize_serialize_started :
    ∃ j, (startedStatistic [sampleChannel 7 5 0] 4096).serialize sampleDesire = .ok j ∧
      StatisticInfo.doDeSerialize Common.blank.co sampleDesire (fun _ => 5) j =
        .ok (startedStatistic [sampleChannel 7 5 0] 4096) ∧
      handleRequestStatisticStream Common.blank.co sampleDesire (fun _ => 5) j = .ok j := by
  refine (doDeSerialize_serialize_iff sampleDesire_lawful _ rfl (by decide)).2
    ⟨by decide, by decide, ⟨by decide, ?_, rfl⟩, ⟨by decide, nofun, rfl⟩⟩
  intro i c h
  cases i with
  | zero => cases h; rfl
  | succ i => cases h

/-- Two channels change their places, a total becomes the previous one, the update gets the time of
the decoding, and an `rss` of 2 GiB loses a byte. -/
theorem doDeSerialize_serialize_differs :
    ((startedStatistic [sampleChannel 1 5 0, sampleChannel 2 5 0] 0).serialize sampleDesire).bind
      (StatisticInfo.doDeSerialize Common.blank.co sampleDesire fun _ => 5) =
        .ok (startedStatistic [sampleChannel 2 5 0, sampleChannel 1 5 0] 0) ∧
    startedStatistic [sampleChannel 2 5 0, sampleChannel 1 5 0] 0 ≠
      startedStatistic [sampleChannel 1 5 0, sampleChannel 2 5 0] 0 ∧
    ((startedStatistic [sampleChannel 1 4 9] 2147483648).serialize sampleDesire).bind
      (StatisticInfo.doDeSerialize Common.blank.co sampleDesire fun _ => 5) =
        .ok (startedStatistic [sampleChannel 1 5 0] 2147483647) ∧
    startedStatistic [sampleChannel 1 5 0] 2147483647 ≠
      startedStatistic [sampleChannel 1 4 9] 2147483648 :=
  ⟨rfl, by decide, rfl, by decide⟩

end IptvCloud.Stream
