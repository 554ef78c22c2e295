import IptvCloud.Stream.Proof.Factory

/-!
# Indices of the inputs and of their probes

A stream indexes its inputs while it is created, built and entered, and one probe for each `http`
input at every change of the duration. `IndexSafe` says what this asks of a stream; over all orders
of messages it is exactly what keeps the indices in range (`inRange_exec_iff`), since a message
changes neither the inputs nor the probes. The builders link one probe for a single source, none
for a timeshift player and one for each cell of a mosaic.
-/

namespace IptvCloud.Streams

open Checked JsonC

variable {cm : Common} {hasSrcPad : Source → Bool} {args : ArgsMap} {object : ConfigObject}
  {input : List InputUri} {probeIn : Probes}

/-! ## Messages -/

/-- There is a probe at the index of each `http` input. -/
def Covered (probeIn : Probes) (input : List InputUri) : Prop :=
  ∀ i uri, input[i]? = some uri → uri.input.scheme = .http → i < probeIn.length

theorem inRange_updateDurations_iff {duration : UInt64} {i : Nat} {totalBytes : List UInt64} :
    InRange (updateDurations probeIn duration input i totalBytes) ↔
      ∀ k uri, input[k]? = some uri → uri.input.scheme = .http → i + k < probeIn.length := by
  induction input generalizing i totalBytes with
  | nil => simp [updateDurations]
  | cons uri input ih =>
    have htail : (∀ k uri', input[k]? = some uri' → uri'.input.scheme = .http →
        i + 1 + k < probeIn.length) ↔ ∀ k uri', (uri :: input)[k + 1]? = some uri' →
        uri'.input.scheme = .http → i + (k + 1) < probeIn.length := by
      simp only [List.getElem?_cons_succ]
      simp only [show ∀ k, i + 1 + k = i + (k + 1) from fun k => by omega]
    unfold updateDurations
    split
    · rename_i hhttp
      rw [inRange_bind, inRange_elemAt]
      refine ⟨fun h k uri' hk hs => ?_, fun h => ?_⟩
      · obtain ⟨hi, hrest⟩ := h
        cases k with
        | zero => exact hi
        | succ k =>
          have hnext := hrest _ (elemAt_eq_ok_iff.2 (List.getElem?_eq_getElem hi))
          exact htail.1 (ih.1 hnext) k uri' hk hs
      · exact ⟨h 0 uri rfl hhttp, fun id _ => ih.2 (htail.2 fun k => h (k + 1))⟩
    · rename_i hhttp
      rw [ih, htail]
      refine ⟨fun h k uri' hk hs => ?_, fun h k => ?_⟩
      · cases k with
        | zero =>
          cases hk
          exact absurd hs hhttp
        | succ k => exact h k uri' hk hs
      · exact h (k + 1)

/-- A message keeps the probes. -/
theorem probeIn_handle {config : AudioVideoConfig} {s s' : Session} {message : BusMessage}
    (h : handleAsyncBusMessageReceived config s message = .ok s') : s'.probeIn = s.probeIn := by
  unfold handleAsyncBusMessageReceived at h
  split at h
  · obtain ⟨totalBytes, -, h⟩ := bind_eq_ok_iff.1 h
    cases h
    rfl
  all_goals
    cases h
    rfl

theorem inRange_handle {config : AudioVideoConfig} {s : Session} {message : BusMessage}
    (h : Covered s.probeIn config.input) :
    InRange (handleAsyncBusMessageReceived config s message) := by
  unfold handleAsyncBusMessageReceived
  split
  · rw [inRange_bind]
    refine ⟨inRange_updateDurations_iff.2 fun k uri hk hs => ?_, fun _ _ => trivial⟩
    rw [Nat.zero_add]
    exact h k uri hk hs
  all_goals trivial

/-- Over all orders of messages. -/
theorem inRange_messages_iff (config : AudioVideoConfig) :
    (∀ totalBytes messages, InRange (List.foldlM (handleAsyncBusMessageReceived config)
      ⟨probeIn, .init, totalBytes⟩ messages)) ↔ Covered probeIn config.input := by
  refine ⟨fun h i uri hi hs => ?_, fun h totalBytes messages => ?_⟩
  · have hone := h [] [.durationChanged 0]
    rw [List.foldlM_cons, inRange_bind] at hone
    have hupdate := (inRange_bind _ _).1 hone.1
    simpa using inRange_updateDurations_iff.1 hupdate.1 i uri hi hs
  · refine InRange.foldlM (I := fun s => s.probeIn = probeIn) (fun s message _ hs => ?_)
      (fun s message s' _ hs hstep => (probeIn_handle hstep).trans hs) rfl
    exact inRange_handle (hs ▸ h)

/-! ## `Exec` -/

/-- The inputs and the probes that a stream indexes. -/
def IndexSafe (cm : Common) (hasSrcPad : Source → Bool) (stream : BaseStream) : Prop :=
  InRange (stream.initPipeLine cm hasSrcPad) ∧
    ∀ probeIn, stream.initPipeLine cm hasSrcPad = .ok (some probeIn) →
      InRange stream.preLoop ∧ Covered probeIn stream.config.input

/-- `PreLoop` fails with its index only. -/
theorem exists_preLoop {stream : BaseStream} (h : InRange stream.preLoop) :
    ∃ told, stream.preLoop = .ok told := by
  unfold BaseStream.preLoop at h ⊢
  split at h
  · exact ⟨none, rfl⟩
  · exact ⟨none, rfl⟩
  · rw [inRange_map, inRange_elemAt] at h
    exact ⟨_, map_eq_ok_iff.2 ⟨_, elemAt_eq_ok_iff.2 (List.getElem?_eq_getElem h), rfl⟩⟩

theorem inRange_exec_iff (stream : BaseStream) :
    (∀ assembled totalBytes messages,
      InRange (stream.exec cm hasSrcPad assembled totalBytes messages)) ↔
        IndexSafe cm hasSrcPad stream := by
  simp only [BaseStream.exec, inRange_bind]
  refine ⟨fun h => ?_, fun h assembled totalBytes messages => ?_⟩
  · refine ⟨(h true [] []).1, fun probeIn hprobe => ?_⟩
    have hloop : ∀ totalBytes messages, InRange stream.preLoop ∧ ∀ told, stream.preLoop = .ok told →
        InRange (List.foldlM (handleAsyncBusMessageReceived stream.config)
          ⟨probeIn, .init, totalBytes⟩ messages) := by
      intro totalBytes messages
      have hrun := (h true totalBytes messages).2 _ hprobe
      simp only [if_true, inRange_bind] at hrun
      exact ⟨hrun.1, fun told htold => (hrun.2 told htold).1⟩
    have hpre := (hloop [] []).1
    obtain ⟨told, htold⟩ := exists_preLoop hpre
    exact ⟨hpre, (inRange_messages_iff _).1 fun totalBytes messages =>
      (hloop totalBytes messages).2 told htold⟩
  · obtain ⟨hinit, hrest⟩ := h
    refine ⟨hinit, fun built hbuilt => ?_⟩
    cases built with
    | none => trivial
    | some probeIn =>
      obtain ⟨hpre, hcovered⟩ := hrest probeIn hbuilt
      cases assembled with
      | false => trivial
      | true =>
        simp only [if_true, inRange_bind]
        refine ⟨hpre, fun told _ => ⟨?_, fun _ _ => trivial⟩⟩
        exact (inRange_messages_iff _).2 hcovered totalBytes messages

/-- No index of the life of a stream is out of range, whatever messages arrive. -/
def IndexesInRange (cm : Common) (hasSrcPad : Source → Bool) (object : ConfigObject) : Prop :=
  ∀ startChunkIndex assembled totalBytes messages,
    InRange (runStream cm hasSrcPad startChunkIndex assembled totalBytes messages object)

theorem indexesInRange_iff_indexSafe :
    IndexesInRange cm hasSrcPad object ↔
      ∀ startChunkIndex, InRange (createStream cm object startChunkIndex) ∧
        ∀ stream, createStream cm object startChunkIndex = .ok stream →
          IndexSafe cm hasSrcPad stream := by
  simp only [IndexesInRange, runStream, inRange_bind, ← inRange_exec_iff]
  refine ⟨fun h i => ?_, fun h i assembled totalBytes messages => ?_⟩
  · exact ⟨(h i true [] []).1, fun stream hs assembled totalBytes messages =>
      (h i assembled totalBytes messages).2 stream hs⟩
  · exact ⟨(h i).1, fun stream hs => (h i).2 stream hs assembled totalBytes messages⟩

theorem indexesInRange_of_created {stream : Nat → BaseStream}
    (h : ∀ startChunkIndex, createStream cm object startChunkIndex = .ok (stream startChunkIndex)) :
    IndexesInRange cm hasSrcPad object ↔ ∀ i, IndexSafe cm hasSrcPad (stream i) := by
  rw [indexesInRange_iff_indexSafe]
  refine ⟨fun hsafe i => ?_, fun hsafe i => ?_⟩
  · exact (hsafe i).2 _ (h i)
  · rw [h i]
    refine ⟨trivial, fun stream hs => ?_⟩
    cases hs
    exact hsafe i

theorem indexesInRange_of_notReached
    (h : ∀ startChunkIndex, createStream cm object startChunkIndex = notReached) :
    IndexesInRange cm hasSrcPad object := by
  rw [indexesInRange_iff_indexSafe]
  intro i
  rw [h i]
  exact ⟨trivial, fun stream hs => absurd hs (notReached_ne_ok stream)⟩

/-! ## Builders -/

theorem inRange_makeSrc (uri : InputUri) : InRange (makeSrc cm uri) := by
  unfold makeSrc
  split
  case h_4 => split <;> trivial
  case h_6 => split <;> trivial
  all_goals trivial

/-- The inputs of a stream with a single source: one input, and none after it that needs a probe
once there is a source for the first. -/
def SourceSafe (cm : Common) (input : List InputUri) : Prop :=
  ∃ first rest, input = first :: rest ∧
    ((∃ src, makeSrc cm first = .ok src) → ∀ uri ∈ rest, uri.input.scheme ≠ .http)

theorem covered_singleton_iff {id : Nat} {first : InputUri} {rest : List InputUri} :
    Covered [id] (first :: rest) ↔ ∀ uri ∈ rest, uri.input.scheme ≠ .http := by
  refine ⟨fun h uri huri hs => ?_, fun h i uri hi hs => ?_⟩
  · obtain ⟨i, hi⟩ := List.mem_iff_getElem?.1 huri
    have hlt := h (i + 1) uri hi hs
    simp at hlt
  · cases i with
    | zero => exact Nat.one_pos
    | succ i => exact absurd hs (h uri (List.mem_of_getElem? hi))

theorem covered_nil_iff : Covered [] input ↔ ∀ uri ∈ input, uri.input.scheme ≠ .http := by
  refine ⟨fun h uri huri hs => ?_, fun h i uri hi hs => ?_⟩
  · obtain ⟨i, hi⟩ := List.mem_iff_getElem?.1 huri
    exact absurd (h i uri hi hs) (Nat.not_lt_zero i)
  · exact absurd hs (h uri (List.mem_of_getElem? hi))

theorem inRange_buildMosaic {cells : Nat} (h : cells ≤ input.length) :
    InRange (buildMosaic cm hasSrcPad input cells) := by
  unfold buildMosaic
  refine InRange.foldlM (I := fun _ => True) (fun probeIn i hi _ => ?_) (fun _ _ _ _ _ _ => trivial)
    trivial
  rw [inRange_bind, inRange_elemAt]
  refine ⟨Nat.lt_of_lt_of_le (List.mem_range.1 hi) h, fun uri _ => ?_⟩
  rw [inRange_bind]
  exact ⟨inRange_makeSrc uri, fun _ _ => trivial⟩

/-- A grid has a cell for each input. -/
theorem mosaicGrid_mul {size rows columns : Nat} (h : mosaicGrid size = some (rows, columns)) :
    rows * columns = size := by
  unfold mosaicGrid at h
  split_ifs at h
  all_goals
    cases h
    omega

section
variable (hpads : ∀ src, hasSrcPad src = true)
include hpads

theorem linkInputPad_eq (src : Source) (id : Nat) :
    linkInputPad hasSrcPad probeIn src id = probeIn ++ [id] := by
  rw [linkInputPad, if_pos (hpads src)]

theorem buildInputSrc_cons (first : InputUri) (rest : List InputUri) :
    buildInputSrc cm hasSrcPad (first :: rest) = (fun _ => [0]) <$> makeSrc cm first := by
  unfold buildInputSrc
  simp only [linkInputPad_eq hpads]
  rfl

theorem indexSafe_source_iff {stream : BaseStream}
    (hinit : stream.initPipeLine cm hasSrcPad =
      some <$> buildInputSrc cm hasSrcPad stream.config.input)
    (hpre : stream.preLoop = some <$> elemAt .preLoop stream.config.input 0) :
    IndexSafe cm hasSrcPad stream ↔ SourceSafe cm stream.config.input := by
  unfold IndexSafe SourceSafe
  rw [hinit, hpre, inRange_map, inRange_map, inRange_elemAt]
  cases stream.config.input with
  | nil => simp [buildInputSrc, inRange_bind]
  | cons first rest =>
    rw [buildInputSrc_cons hpads, inRange_map]
    refine ⟨fun h => ?_, fun h => ?_⟩
    · obtain ⟨_, h⟩ := h
      refine ⟨first, rest, rfl, fun ⟨src, hsrc⟩ => ?_⟩
      exact covered_singleton_iff.1 (h [0] (by rw [hsrc]; rfl)).2
    · obtain ⟨first', rest', heq, h⟩ := h
      cases heq
      refine ⟨inRange_makeSrc first, fun probeIn hprobe => ⟨Nat.succ_pos _, ?_⟩⟩
      obtain ⟨_, hmap, hsome⟩ := map_eq_ok_iff.1 hprobe
      obtain ⟨src, hsrc, rfl⟩ := map_eq_ok_iff.1 hmap
      cases hsome
      exact covered_singleton_iff.2 (h ⟨src, hsrc⟩)

/-- One probe for each cell. -/
theorem length_buildMosaic {cells : Nat} {probeIn : Probes}
    (h : buildMosaic cm hasSrcPad input cells = .ok probeIn) : probeIn.length = cells := by
  unfold buildMosaic at h
  induction cells generalizing probeIn with
  | zero =>
    cases h
    rfl
  | succ n ih =>
    rw [List.range_succ, List.foldlM_append] at h
    obtain ⟨probes, hprobes, h⟩ := bind_eq_ok_iff.1 h
    rw [List.foldlM_cons] at h
    obtain ⟨probes', hstep, h⟩ := bind_eq_ok_iff.1 h
    obtain ⟨uri, -, hstep⟩ := bind_eq_ok_iff.1 hstep
    obtain ⟨src, -, hstep⟩ := bind_eq_ok_iff.1 hstep
    cases hstep
    cases h
    rw [linkInputPad_eq hpads, List.length_append, ih hprobes]
    rfl

theorem indexSafe_mosaic {config : EncodingConfig} (h : config.input ≠ []) :
    IndexSafe cm hasSrcPad (.mosaic config) := by
  have hpos : 0 < config.input.length := List.length_pos_iff.2 h
  have hpre : InRange (BaseStream.mosaic config).preLoop := by
    unfold BaseStream.preLoop
    rw [inRange_map, inRange_elemAt]
    exact hpos
  unfold IndexSafe
  simp only [BaseStream.initPipeLine]
  split
  · rename_i rows columns hgrid
    have hcells := mosaicGrid_mul hgrid
    refine ⟨(inRange_bind _ _).2 ⟨inRange_buildMosaic hcells.le, fun _ _ => trivial⟩, ?_⟩
    intro probeIn hprobe
    obtain ⟨probes, hbuilt, hsome⟩ := bind_eq_ok_iff.1 hprobe
    cases hsome
    refine ⟨hpre, fun i uri hi _ => ?_⟩
    rw [length_buildMosaic hpads hbuilt, hcells]
    exact (List.getElem?_eq_some_iff.1 hi).1
  · refine ⟨trivial, fun probeIn hprobe => ?_⟩
    cases hprobe

end

theorem Covered.of_not_http (h : ∀ uri ∈ input, uri.input.scheme ≠ .http) :
    Covered probeIn input :=
  fun _ uri hi hs => absurd hs (h uri (List.mem_of_getElem? hi))

theorem not_http_of_isPlaylist (h : isPlaylist input = true) :
    ∀ uri ∈ input, uri.input.scheme ≠ .http := by
  intro uri huri hhttp
  have hfile : uri.input.scheme = .file := by simpa using List.all_eq_true.1 h uri huri
  rw [hfile] at hhttp
  cases hhttp

theorem indexSafe_playlistRelay {config : RelayConfig} (h : isPlaylist config.input = true) :
    IndexSafe cm hasSrcPad (.playlistRelay config) :=
  ⟨trivial, fun _ _ => ⟨trivial, .of_not_http (not_http_of_isPlaylist h)⟩⟩

theorem indexSafe_playlistEncoding {config : EncodingConfig} (h : isPlaylist config.input = true) :
    IndexSafe cm hasSrcPad (.playlistEncoding config) :=
  ⟨trivial, fun _ _ => ⟨trivial, .of_not_http (not_http_of_isPlaylist h)⟩⟩

theorem indexSafe_timeShiftPlayer_iff {config : RelayConfig} {startChunkIndex : Nat} :
    IndexSafe cm hasSrcPad (.timeShiftPlayer config startChunkIndex) ↔
      config.input ≠ [] ∧ ∀ uri ∈ config.input, uri.input.scheme ≠ .http := by
  have hpre : InRange (BaseStream.timeShiftPlayer config startChunkIndex).preLoop ↔
      config.input ≠ [] := by
    unfold BaseStream.preLoop
    rw [inRange_map, inRange_elemAt, List.length_pos_iff]
    rfl
  refine ⟨fun h => ?_, fun h => ?_⟩
  · obtain ⟨_, h⟩ := h
    obtain ⟨htold, hcovered⟩ := h [] rfl
    exact ⟨hpre.1 htold, covered_nil_iff.1 hcovered⟩
  · obtain ⟨hne, hhttp⟩ := h
    exact ⟨trivial, fun _ _ => ⟨hpre.2 hne, .of_not_http hhttp⟩⟩

/-! ## Configurations -/

/-- The inputs whose indices and probes are in range for a type. -/
def Indexable (cm : Common) (type : StreamType) (input : List InputUri) : Prop :=
  match type with
  | .relay | .encode => input ≠ []
  | .timeshiftPlayer => input ≠ [] ∧ ∀ uri ∈ input, uri.input.scheme ≠ .http
  | .timeshiftRecorder | .catchup | .testLife => SourceSafe cm input
  | .vodRelay | .vodEncode | .screen | .proxy | .other _ => True

/-- The same of the argument map. -/
def ArgsIndexable (cm : Common) (args : ArgsMap) : Prop :=
  ∃ code input, argsGetValue args "type" cm.toUInt8 = some code ∧ readInput cm args = .ok input ∧
    Indexable cm (.ofUInt8 code) input

theorem sourceSafe_singleton (uri : InputUri) : SourceSafe cm [uri] :=
  ⟨uri, [], rfl, fun _ _ h => absurd h List.not_mem_nil⟩

theorem not_sourceSafe_nil : ¬ SourceSafe cm [] := by
  intro ⟨_, _, h, _⟩
  cases h

theorem exists_singleton (hlen : input.length ≤ 1) (hne : input ≠ []) : ∃ uri, input = [uri] := by
  have hpos := List.length_pos_iff.2 hne
  exact List.length_eq_one_iff.1 (by omega)

theorem sourceSafe_iff_ne_nil (hlen : input.length ≤ 1) : SourceSafe cm input ↔ input ≠ [] := by
  refine ⟨fun h hnil => ?_, fun hne => ?_⟩
  · exact not_sourceSafe_nil (hnil ▸ h)
  · obtain ⟨uri, rfl⟩ := exists_singleton hlen hne
    exact sourceSafe_singleton uri

/-- A VOD stream has one input, a file. -/
theorem sourceSafe_of_isVod {config : AudioVideoConfig} (h : config.isVod = true) :
    SourceSafe cm config.input := by
  obtain ⟨-, uri, hinput, -⟩ := (isVod_iff config).1 h
  exact hinput ▸ sourceSafe_singleton uri

theorem indexesInRange_of_vod {config : AudioVideoConfig} {stream : BaseStream}
    (hcreate : ∀ startChunkIndex, createStream cm object startChunkIndex =
      if config.isVod then .ok stream else notReached)
    (hsafe : SourceSafe cm config.input → IndexSafe cm hasSrcPad stream) :
    IndexesInRange cm hasSrcPad object := by
  by_cases hvod : config.isVod = true
  · have hstream (i : Nat) : createStream cm object i = .ok stream := by
      rw [hcreate, if_pos hvod]
    exact (indexesInRange_of_created hstream).2 fun _ => hsafe (sourceSafe_of_isVod hvod)
  · refine indexesInRange_of_notReached fun i => ?_
    rw [hcreate, if_neg hvod]

theorem inRange_buildUdbConnections (conn : Connector) : InRange (buildUdbConnections conn) := by
  unfold buildUdbConnections
  split <;> trivial

section
variable (hpads : ∀ src, hasSrcPad src = true)
include hpads

theorem indexSafe_createEncodingStream (htest : (cm.parseUrl "test").scheme ≠ .http)
    {config : EncodingConfig} {uri : InputUri} (hinput : config.input = [uri]) :
    IndexSafe cm hasSrcPad (createEncodingStream cm config uri) := by
  have hsource : SourceSafe cm config.input := hinput ▸ sourceSafe_singleton uri
  have hzero : InRange (some <$> elemAt .preLoop config.input 0 : Outcome (Option InputUri)) := by
    rw [inRange_map, inRange_elemAt, hinput]
    exact Nat.one_pos
  have hhttp : uri.input.scheme ≠ .http → ∀ uri' ∈ config.input, uri'.input.scheme ≠ .http := by
    intro h uri' huri
    rw [hinput, List.mem_singleton] at huri
    exact huri ▸ h
  unfold createEncodingStream
  split
  · rename_i htestUrl
    have hne : uri.input.scheme ≠ .http := by
      rw [show uri.input = cm.parseUrl "test" from beq_iff_eq.1 htestUrl]
      exact htest
    exact ⟨trivial, fun _ _ => ⟨hzero, .of_not_http (hhttp hne)⟩⟩
  split
  · rename_i hdev
    have hne : uri.input.scheme ≠ .http := by
      rw [hdev]
      decide
    refine ⟨?_, fun _ _ => ⟨hzero, .of_not_http (hhttp hne)⟩⟩
    simp only [BaseStream.initPipeLine, inRange_bind, inRange_elemAt, hinput]
    exact ⟨Nat.one_pos, fun _ _ => ⟨inRange_buildUdbConnections _, fun _ _ => trivial⟩⟩
  split
  · exact (indexSafe_source_iff hpads rfl rfl).2 hsource
  split
  · exact (indexSafe_source_iff hpads rfl rfl).2 hsource
  · exact (indexSafe_source_iff hpads rfl rfl).2 hsource

theorem indexesInRange_relay_iff {config : RelayConfig} (htype : config.type = .relay) :
    IndexesInRange cm hasSrcPad (.relay config) ↔ config.input ≠ [] := by
  by_cases hlen : config.input.length > 1
  · have hne : config.input ≠ [] := List.ne_nil_of_length_pos (by omega)
    refine iff_of_true ?_ hne
    by_cases hlist : isPlaylist config.input = true
    · have hcreate (i : Nat) : createStream cm (.relay config) i = .ok (.playlistRelay config) := by
        rw [createStream_relay htype, if_pos hlen, if_pos hlist]
      exact (indexesInRange_of_created hcreate).2 fun _ => indexSafe_playlistRelay hlist
    · refine indexesInRange_of_notReached fun i => ?_
      rw [createStream_relay htype, if_pos hlen, if_neg hlist]
  · have hcreate (i : Nat) : createStream cm (.relay config) i = .ok (.relay config) := by
      rw [createStream_relay htype, if_neg hlen]
    rw [indexesInRange_of_created hcreate, forall_const, indexSafe_source_iff hpads rfl rfl]
    exact sourceSafe_iff_ne_nil (Nat.le_of_not_lt hlen)

theorem indexesInRange_encode_iff (htest : (cm.parseUrl "test").scheme ≠ .http)
    {config : EncodingConfig} (htype : config.type = .encode) :
    IndexesInRange cm hasSrcPad (.encoding config) ↔ config.input ≠ [] := by
  by_cases hlen : config.input.length > 1
  · have hne : config.input ≠ [] := List.ne_nil_of_length_pos (by omega)
    refine iff_of_true ?_ hne
    by_cases hlist : isPlaylist config.input = true
    · have hcreate (i : Nat) :
          createStream cm (.encoding config) i = .ok (.playlistEncoding config) := by
        rw [createStream_encode htype, if_pos hlen, if_pos hlist]
      exact (indexesInRange_of_created hcreate).2 fun _ => indexSafe_playlistEncoding hlist
    · have hcreate (i : Nat) : createStream cm (.encoding config) i = .ok (.mosaic config) := by
        rw [createStream_encode htype, if_pos hlen, if_neg hlist]
      exact (indexesInRange_of_created hcreate).2 fun _ => indexSafe_mosaic hpads hne
  · have hcreate (i : Nat) : createStream cm (.encoding config) i =
        (elemAt .createStream config.input 0).map (createEncodingStream cm config) := by
      rw [createStream_encode htype, if_neg hlen]
    refine ⟨fun h hnil => ?_, fun hne => ?_⟩
    · have hzero := (indexesInRange_iff_indexSafe.1 h 0).1
      rw [hcreate, hnil] at hzero
      exact hzero
    · obtain ⟨uri, huri⟩ := exists_singleton (Nat.le_of_not_lt hlen) hne
      refine (indexesInRange_of_created fun i => ?_).2 fun _ =>
        indexSafe_createEncodingStream hpads htest huri
      rw [hcreate, huri]
      rfl

theorem indexesInRange_iff_indexable (htest : (cm.parseUrl "test").scheme ≠ .http)
    {type : StreamType} (hclass : ClassOf type object) (htype : object.base.type = type) :
    IndexesInRange cm hasSrcPad object ↔ Indexable cm type object.base.input := by
  cases hclass with
  | screen config =>
    refine iff_of_true (indexesInRange_of_notReached fun _ => ?_) trivial
    exact createStream_screen config htype
  | relay config => exact indexesInRange_relay_iff hpads htype
  | encode config => exact indexesInRange_encode_iff hpads htest htype
  | vodRelay config =>
    refine iff_of_true (indexesInRange_of_vod (fun _ => createStream_vodRelay htype) ?_) trivial
    exact fun hsource => (indexSafe_source_iff hpads rfl rfl).2 hsource
  | vodEncode config =>
    refine iff_of_true (indexesInRange_of_vod (fun _ => createStream_vodEncode htype) ?_) trivial
    exact fun hsource => (indexSafe_source_iff hpads rfl rfl).2 hsource
  | timeshiftPlayer config =>
    rw [indexesInRange_of_created fun _ => createStream_timeshiftPlayer htype]
    simp only [indexSafe_timeShiftPlayer_iff, forall_const]
    rfl
  | testLife config =>
    rw [indexesInRange_of_created fun _ => createStream_testLife htype, forall_const]
    exact indexSafe_source_iff hpads rfl rfl
  | timeshiftRecorder config =>
    rw [indexesInRange_of_created fun _ => createStream_timeshiftRecorder htype, forall_const]
    exact indexSafe_source_iff hpads rfl rfl
  | catchup config =>
    rw [indexesInRange_of_created fun _ => createStream_catchup htype, forall_const]
    exact indexSafe_source_iff hpads rfl rfl

/-- With the two facts about the libraries: a source element has a static pad `src`, and the url
`test` is no `http` url. -/
theorem indexesInRange_iff (htest : (cm.parseUrl "test").scheme ≠ .http)
    (h : makeConfig cm args = .ok object) :
    IndexesInRange cm hasSrcPad object ↔ ArgsIndexable cm args := by
  have haccepted := accepted_of_makeConfig h
  rw [indexesInRange_iff_indexable hpads htest haccepted.classOf rfl]
  exact (haccepted.exists_args_iff (P := Indexable cm)).symm

end

theorem indexesInRange_relay :
    ∃ object, makeConfig sampleCommon (sampleArgs "1" httpUrls) = .ok object ∧
      IndexesInRange sampleCommon (fun _ => true) object := by
  obtain ⟨object, h⟩ : ∃ object, makeConfig sampleCommon (sampleArgs "1" httpUrls) = .ok object :=
    ⟨_, rfl⟩
  refine ⟨object, h, (indexesInRange_iff (fun _ => rfl) (by decide) h).2 ?_⟩
  exact ⟨1, _, rfl, rfl, List.cons_ne_nil _ _⟩

/-- A relay without inputs, when its source is built; and a recorder of a file and a url, when the
duration changes. -/
theorem indexesInRange_fails :
    (∃ object, makeConfig sampleCommon (sampleArgs "1" noUrls) = .ok object ∧
      ¬ IndexesInRange sampleCommon (fun _ => true) object) ∧
    ∃ object, makeConfig sampleCommon (sampleArgs "4" mixedUrls) = .ok object ∧
      ¬ IndexesInRange sampleCommon (fun _ => true) object := by
  constructor
  · exact ⟨_, rfl, fun h => h 0 true [] []⟩
  · exact ⟨_, rfl, fun h => h 0 true [0, 0] [.durationChanged 5]⟩

end IptvCloud.Streams
