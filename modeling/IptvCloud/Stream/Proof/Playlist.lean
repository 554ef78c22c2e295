import IptvCloud.Stream.Playlist

/-!
# What a playlist stream plays

* `plays_iff_playable`: in every run of need-data calls what was pushed is a prefix of the files in
  their order, over and over again when `loop` is set (`PlayInv`), and the end of the stream is sent
  only after the last file, exactly for a `Playable` playlist. `OpenNextFile` gives no file both
  after the last one and for a file that cannot be opened, and `HandleNeedData` takes either for the
  end.
* `handleNeedData_returns_iff`: the loop of a call is never left exactly when `loop` is set and
  there is not a byte to read in the files nor a file that cannot be opened.
-/

namespace IptvCloud.Streams

open Checked While

/-! ## What a log says -/

def PlaylistEffect.buffer : PlaylistEffect → List UInt8
  | .pushBuffer buffer => buffer
  | _ => []

def PlaylistEffect.file : PlaylistEffect → Option InputUri
  | .fopen uri _ => some uri
  | _ => none

/-- The bytes pushed. -/
def pushed (log : List PlaylistEffect) : List UInt8 := log.flatMap PlaylistEffect.buffer

/-- The files that were tried. -/
def tried (log : List PlaylistEffect) : List InputUri := log.filterMap PlaylistEffect.file

@[simp] theorem pushed_append (log log' : List PlaylistEffect) :
    pushed (log ++ log') = pushed log ++ pushed log' := List.flatMap_append

@[simp] theorem tried_append (log log' : List PlaylistEffect) :
    tried (log ++ log') = tried log ++ tried log' := List.filterMap_append

namespace Playlist

variable (pl : Playlist)

/-- What there is to read in some files: nothing in those that cannot be opened. -/
def contents (files : List InputUri) : List UInt8 :=
  files.flatMap fun uri => (pl.fopen uri.input.path).getD []

/-- The playlist from its start, over and over again when `loop` is set, up to some byte. -/
def Plays (bytes : List UInt8) : Prop :=
  ∃ n, (pl.config.loop = false → n = 1) ∧
    bytes <+: (List.replicate n (pl.contents pl.config.input)).flatten

/-- The end of the stream is sent after every file was tried, and never when `loop` is set. -/
def EosRight (log : List PlaylistEffect) : Prop :=
  ∀ before, before ++ [.sendEos] <+: log →
    pl.config.loop = false ∧ tried before = pl.config.input

/-- Every file can be opened, except perhaps for the last one of a playlist played once. -/
def Playable : Prop :=
  (pl.config.loop = false ∧ ∀ uri ∈ pl.config.input.dropLast, pl.fopen uri.input.path ≠ none) ∨
  (pl.config.loop = true ∧ pl.config.input ≠ [] ∧
    ∀ uri ∈ pl.config.input, pl.fopen uri.input.path ≠ none)

variable {pl}

@[simp] theorem contents_append (files files' : List InputUri) :
    pl.contents (files ++ files') = pl.contents files ++ pl.contents files' := List.flatMap_append

theorem contents_singleton (uri : InputUri) :
    pl.contents [uri] = (pl.fopen uri.input.path).getD [] := by
  simp [contents]

theorem eosRight_concat (log : List PlaylistEffect) (e : PlaylistEffect) :
    pl.EosRight (log ++ [e]) ↔
      pl.EosRight log ∧ (e = .sendEos → pl.config.loop = false ∧ tried log = pl.config.input) := by
  constructor
  · intro h
    refine ⟨fun before hb => h before (hb.trans (List.prefix_append _ _)), ?_⟩
    rintro rfl
    exact h log (List.prefix_refl _)
  · rintro ⟨h, he⟩ before hb
    rcases List.prefix_concat_iff.1 hb with hb | hb
    · obtain ⟨rfl, hlast⟩ := List.append_inj' hb rfl
      exact he (List.singleton_inj.1 hlast).symm
    · exact h before hb

/-- Other effects do not matter. -/
theorem EosRight.append {log es : List PlaylistEffect} (h : pl.EosRight log)
    (hes : .sendEos ∉ es) : pl.EosRight (log ++ es) := by
  induction es generalizing log with
  | nil => simpa using h
  | cons e es ih =>
    rw [List.mem_cons, not_or] at hes
    rw [List.append_cons]
    exact ih ((eosRight_concat log e).2 ⟨h, fun he => absurd he.symm hes.1⟩) hes.2

/-! ## A turn of the loop -/

/-- The log after a call of `fopen`. -/
def logOpened (pl : Playlist) (s : PlaylistStream) (uri : InputUri) : List PlaylistEffect :=
  let file := pl.fopen uri.input.path
  s.log ++ .fopen uri file.isSome :: if file.isSome && pl.hasClient then [.inputChanged uri] else []

@[simp] theorem tried_logOpened (s : PlaylistStream) (uri : InputUri) :
    tried (pl.logOpened s uri) = tried s.log ++ [uri] := by
  unfold logOpened
  rw [tried_append]
  split <;> rfl

@[simp] theorem pushed_logOpened (s : PlaylistStream) (uri : InputUri) :
    pushed (pl.logOpened s uri) = pushed s.log := by
  unfold logOpened
  rw [pushed_append]
  split <;> exact List.append_nil _

theorem EosRight.logOpened {s : PlaylistStream} (h : pl.EosRight s.log) (uri : InputUri) :
    pl.EosRight (pl.logOpened s uri) := by
  refine h.append ?_
  split <;> simp

/-- The position of the next file: back to the first one after the last. -/
def next (pl : Playlist) (s : PlaylistStream) : Nat :=
  if pl.config.input.length ≤ s.currentPos then 0 else s.currentPos

/-- What the loop goes on from: a file being read, the end of a playlist played once, no file at all
to start again with, a file that cannot be opened, or the next file. -/
inductive Turns (pl : Playlist) (s : PlaylistStream) : Prop
  | reading (file : List UInt8) (hf : s.currentFile = some file) (ht : pl.turn s = readTurn s file)
  | ended (hf : s.currentFile = none) (hl : pl.config.loop = false)
    (hp : pl.config.input.length ≤ s.currentPos)
    (ht : pl.turn s = .done (.ok (.eos, { s with log := s.log ++ [.sendEos] })))
  | noInput (fault : Fault PlaylistSite Empty) (hf : s.currentFile = none)
    (hl : pl.config.loop = true) (hi : pl.config.input = []) (ht : pl.turn s = .done (.error fault))
  | unopened (uri : InputUri) (hf : s.currentFile = none)
    (hn : pl.config.input[pl.next s]? = some uri)
    (hp : pl.config.loop = true ∨ pl.next s = s.currentPos)
    (ho : pl.fopen uri.input.path = none)
    (ht : pl.turn s = .done (.ok (.eos,
      ⟨none, pl.next s + 1, pl.logOpened s uri ++ [.sendEos]⟩)))
  | opened (uri : InputUri) (file : List UInt8) (hf : s.currentFile = none)
    (hn : pl.config.input[pl.next s]? = some uri)
    (hp : pl.config.loop = true ∨ pl.next s = s.currentPos)
    (ho : pl.fopen uri.input.path = some file)
    (ht : pl.turn s = readTurn ⟨some file, pl.next s + 1, pl.logOpened s uri⟩ file)

theorem turns (pl : Playlist) (s : PlaylistStream) : pl.Turns s := by
  cases hf : s.currentFile with
  | some file => exact .reading file hf (by rw [turn, hf])
  | none =>
    by_cases hend : pl.config.loop = false ∧ pl.config.input.length ≤ s.currentPos
    · refine .ended hf hend.1 hend.2 ?_
      rw [turn, hf, openNextFile, if_pos hend]
    · have hp : pl.config.loop = true ∨ pl.next s = s.currentPos := by
        by_cases hlen : pl.config.input.length ≤ s.currentPos
        · exact .inl (by simpa using fun hl => hend ⟨hl, hlen⟩)
        · exact .inr (if_neg hlen)
      have hopen : pl.openNextFile s = (do
          let iuri ← elemAt .openNextFile pl.config.input (pl.next s)
          return ⟨pl.fopen iuri.input.path, pl.next s + 1, pl.logOpened s iuri⟩) := by
        rw [openNextFile, if_neg hend]
        rfl
      cases hn : pl.config.input[pl.next s]? with
      | none =>
        have hlen := List.getElem?_eq_none_iff.1 hn
        have hi : pl.config.input = [] := by
          unfold next at hlen
          split at hlen
          · exact List.length_eq_zero_iff.1 (by omega)
          · omega
        refine .noInput (.outOfRange .openNextFile (pl.next s) 0) hf ?_ hi ?_
        · exact by simpa using fun hl => hend ⟨hl, by simp [hi]⟩
        · rw [turn, hf, hopen]
          simp [elemAt, hi, bind, Except.bind]
      | some uri =>
        have hopen' : pl.openNextFile s =
            .ok ⟨pl.fopen uri.input.path, pl.next s + 1, pl.logOpened s uri⟩ := by
          rw [hopen, elemAt, hn]
          rfl
        cases ho : pl.fopen uri.input.path with
        | none => exact .unopened uri hf hn hp ho (by rw [turn, hf, hopen']; simp [ho])
        | some file => exact .opened uri file hf hn hp ho (by rw [turn, hf, hopen']; simp [ho])

/-- Reading a file: an empty one is closed, else a buffer is filled. -/
theorem readTurn_cases (s : PlaylistStream) (file : List UInt8) :
    (file = [] ∧ readTurn s file = .again { s with currentFile := none }) ∨
    (file ≠ [] ∧ readTurn s file = .done (.ok (.filled (file.take bufferSize),
      { s with currentFile := some (file.drop bufferSize) }))) := by
  have htake : file.take bufferSize = [] ↔ file = [] := by simp [List.take_eq_nil_iff, bufferSize]
  by_cases hf : file = []
  · exact .inl ⟨hf, if_pos (htake.2 hf)⟩
  · exact .inr ⟨hf, if_neg (mt htake.1 hf)⟩

/-- The loop goes on after an empty file only. -/
theorem turn_again_cases {s s' : PlaylistStream} (h : pl.turn s = .again s') :
    (s.currentFile = some [] ∧ s' = { s with currentFile := none }) ∨
    ∃ uri, s.currentFile = none ∧ pl.config.input[pl.next s]? = some uri ∧
      (pl.config.loop = true ∨ pl.next s = s.currentPos) ∧ pl.fopen uri.input.path = some [] ∧
      s' = ⟨none, pl.next s + 1, pl.logOpened s uri⟩ := by
  cases turns pl s with
  | reading file hf ht =>
    rcases readTurn_cases s file with ⟨rfl, hr⟩ | ⟨-, hr⟩ <;> rw [ht, hr] at h <;> cases h
    exact .inl ⟨hf, rfl⟩
  | ended _ _ _ ht | noInput _ _ _ _ ht | unopened _ _ _ _ _ ht => rw [ht] at h; cases h
  | opened uri file hf hn hp ho ht =>
    rcases readTurn_cases ⟨some file, pl.next s + 1, pl.logOpened s uri⟩ file with
      ⟨rfl, hr⟩ | ⟨-, hr⟩ <;> rw [ht, hr] at h <;> cases h
    exact .inr ⟨uri, hf, hn, hp, ho, rfl⟩

/-! ## Up to the current position -/

/-- What was pushed and what is left of the current file is the playlist up to the current
position. -/
structure PlayInv (pl : Playlist) (s : PlaylistStream) : Prop where
  tried : pl.config.loop = false → tried s.log = pl.config.input.take s.currentPos
  played : ∃ n, (pl.config.loop = false → n = 0) ∧ pushed s.log ++ s.currentFile.getD [] =
    (List.replicate n (pl.contents pl.config.input)).flatten ++
      pl.contents (pl.config.input.take s.currentPos)

theorem playInv_init : pl.PlayInv {} := ⟨fun _ => rfl, 0, fun _ => rfl, rfl⟩

/-- Back at the first file, the playlist has been played once more. -/
theorem PlayInv.next {s : PlaylistStream} (h : pl.PlayInv s)
    (hp : pl.config.loop = true ∨ pl.next s = s.currentPos) :
    pl.PlayInv { s with currentPos := pl.next s } := by
  by_cases hlen : pl.config.input.length ≤ s.currentPos
  · have hnext : pl.next s = 0 := if_pos hlen
    rcases hp with hl | hp
    · obtain ⟨n, -, hn⟩ := h.played
      refine ⟨by simp [hl], n + 1, by simp [hl], ?_⟩
      rw [List.take_of_length_le hlen] at hn
      simpa [hnext, List.replicate_succ', List.flatten_append, contents] using hn
    · rwa [hp]
  · rwa [show pl.next s = s.currentPos from if_neg hlen]

/-- Opening the next file. -/
theorem PlayInv.opened {s : PlaylistStream} (h : pl.PlayInv s) (hf : s.currentFile = none)
    {uri : InputUri} (hn : pl.config.input[pl.next s]? = some uri)
    (hp : pl.config.loop = true ∨ pl.next s = s.currentPos) :
    pl.PlayInv ⟨pl.fopen uri.input.path, pl.next s + 1, pl.logOpened s uri⟩ := by
  have hs := h.next hp
  have htake : pl.config.input.take (pl.next s + 1) =
      pl.config.input.take (pl.next s) ++ [uri] := by
    rw [List.take_add_one, hn]
    rfl
  refine ⟨fun hl => ?_, ?_⟩
  · rw [tried_logOpened, htake, hs.tried hl]
  · obtain ⟨n, hn0, hplayed⟩ := hs.played
    refine ⟨n, hn0, ?_⟩
    simp only [hf, Option.getD_none, List.append_nil] at hplayed
    rw [pushed_logOpened, htake, contents_append, contents_singleton, hplayed, List.append_assoc]

theorem PlayInv.sendEos {s : PlaylistStream} (h : pl.PlayInv s) :
    pl.PlayInv { s with log := s.log ++ [.sendEos] } := by
  refine ⟨fun hl => ?_, ?_⟩
  · rw [tried_append, h.tried hl]
    exact List.append_nil _
  · simpa [pushed, PlaylistEffect.buffer] using h.played

/-- A state that the loop is left in, with the buffer pushed that it was left with. -/
def afterLoop (left : Left) (s : PlaylistStream) : PlaylistStream :=
  match left with
  | .eos => s
  | .filled buffer => { s with log := s.log ++ [.pushBuffer buffer] }

theorem PlayInv.closed {s : PlaylistStream} (h : pl.PlayInv s) (hf : s.currentFile = some []) :
    pl.PlayInv { s with currentFile := none } :=
  ⟨h.tried, by simpa [hf] using h.played⟩

theorem PlayInv.filled {s : PlaylistStream} (h : pl.PlayInv s) {file : List UInt8}
    (hf : s.currentFile = some file) :
    pl.PlayInv (afterLoop (.filled (file.take bufferSize))
      { s with currentFile := some (file.drop bufferSize) }) := by
  refine ⟨fun hl => ?_, ?_⟩
  · rw [afterLoop, tried_append, h.tried hl]
    exact List.append_nil _
  · simpa [afterLoop, pushed, PlaylistEffect.buffer, hf] using h.played

/-! ## Calls -/

/-- The rule for the loop of a call: `I` holds before every turn, `Q` where the loop is left. -/
structure LoopRule (pl : Playlist) (I : PlaylistStream → Prop)
    (Q : Left → PlaylistStream → Prop) : Prop where
  closed : ∀ s, I s → s.currentFile = some [] → I { s with currentFile := none }
  filled : ∀ s file, I s → s.currentFile = some file → file ≠ [] →
    Q (.filled (file.take bufferSize)) { s with currentFile := some (file.drop bufferSize) }
  ended : ∀ s, I s → s.currentFile = none → pl.config.loop = false →
    pl.config.input.length ≤ s.currentPos → Q .eos { s with log := s.log ++ [.sendEos] }
  opened : ∀ s uri file, I s → s.currentFile = none → pl.config.input[pl.next s]? = some uri →
    (pl.config.loop = true ∨ pl.next s = s.currentPos) → pl.fopen uri.input.path = some file →
    I ⟨some file, pl.next s + 1, pl.logOpened s uri⟩
  unopened : ∀ s uri, I s → s.currentFile = none → pl.config.input[pl.next s]? = some uri →
    (pl.config.loop = true ∨ pl.next s = s.currentPos) → pl.fopen uri.input.path = none →
    Q .eos ⟨none, pl.next s + 1, pl.logOpened s uri ++ [.sendEos]⟩

section
variable {I : PlaylistStream → Prop} {Q : Left → PlaylistStream → Prop} {s s' : PlaylistStream}

theorem LoopRule.turn_again (h : LoopRule pl I Q) (hs : I s) (ht' : pl.turn s = .again s') :
    I s' := by
  rcases turn_again_cases ht' with ⟨hf, rfl⟩ | ⟨uri, hf, hn, hp, ho, rfl⟩
  · exact h.closed s hs hf
  · exact h.closed _ (h.opened s uri [] hs hf hn hp ho) rfl

theorem LoopRule.turn_done (h : LoopRule pl I Q) {left : Left} (hs : I s)
    (ht' : pl.turn s = .done (.ok (left, s'))) : Q left s' := by
  cases turns pl s with
  | reading file hf ht =>
    rcases readTurn_cases s file with ⟨-, hr⟩ | ⟨hne, hr⟩ <;> rw [ht, hr] at ht' <;> cases ht'
    exact h.filled s file hs hf hne
  | ended hf hl hp ht => rw [ht] at ht'; cases ht'; exact h.ended s hs hf hl hp
  | noInput _ _ _ _ ht => rw [ht] at ht'; cases ht'
  | unopened uri hf hn hp ho ht => rw [ht] at ht'; cases ht'; exact h.unopened s uri hs hf hn hp ho
  | opened uri file hf hn hp ho ht =>
    rcases readTurn_cases ⟨some file, pl.next s + 1, pl.logOpened s uri⟩ file with
      ⟨-, hr⟩ | ⟨hne, hr⟩ <;> rw [ht, hr] at ht' <;> cases ht'
    exact h.filled _ file (h.opened s uri _ hs hf hn hp ho) rfl hne

theorem LoopRule.loop (h : LoopRule pl I Q) {left : Left} {fuel : Nat} (hs : I s)
    (hr : loop pl.turn fuel s = some (.ok (left, s'))) : Q left s' :=
  loop_inv (Q := fun outcome => ∀ left s', outcome = .ok (left, s') → Q left s')
    (fun _ _ => h.turn_again) (fun _ _ ht hd _ _ ho => h.turn_done ht (ho ▸ hd)) hs hr _ _ rfl

end

/-- The log of a call whose loop was left in `s`. -/
def afterCall (call : NeedData) (left : Left) (s : PlaylistStream) : PlaylistStream :=
  match left with
  | .eos => s
  | .filled buffer =>
    { s with log := s.log ++ .pushBuffer buffer :: if call.flowOk then [] else [.quit] }

theorem handleNeedData_cases {call : NeedData} {fuel : Nat} {s s' : PlaylistStream}
    (h : pl.handleNeedData fuel call s = some (.ok s')) :
    (call.allocated = false ∧ s' = { s with log := s.log ++ [.sendEos] }) ∨
    ∃ left s₁, loop pl.turn fuel s = some (.ok (left, s₁)) ∧ s' = afterCall call left s₁ := by
  unfold handleNeedData at h
  split at h
  · obtain ⟨outcome, ho, h⟩ := Option.map_eq_some_iff.1 h
    obtain ⟨⟨left, s₁⟩, rfl, h⟩ := bind_eq_ok_iff.1 h
    refine .inr ⟨left, s₁, ho, ?_⟩
    cases left <;> exact (Except.ok.inj h).symm
  · rename_i ha
    exact .inl ⟨by simpa using ha, (Except.ok.inj (Option.some.inj h)).symm⟩

/-- A property that the loop and `Quit` keep is kept by every run whose calls get their buffer. -/
theorem run_inv {P : PlaylistStream → Prop}
    (hloop : LoopRule pl P fun left s => P (afterLoop left s))
    (hquit : ∀ s, P s → P { s with log := s.log ++ [.quit] }) {calls : List NeedData}
    (hcalls : ∀ call ∈ calls, call.allocated = true)
    {fuel : Nat} {s s' : PlaylistStream} (hs : P s) (h : pl.run fuel calls s = some (.ok s')) :
    P s' := by
  induction calls generalizing s with
  | nil => cases h; exact hs
  | cons call calls ih =>
    simp only [run] at h
    split at h
    · rename_i s₁ hcall
      refine ih (fun c hc => hcalls c (List.mem_cons_of_mem _ hc)) ?_ h
      rcases handleNeedData_cases hcall with ⟨ha, rfl⟩ | ⟨left, s₂, hleft, rfl⟩
      · rw [hcalls call List.mem_cons_self] at ha
        cases ha
      · have hP := hloop.loop hs hleft
        cases left with
        | eos => exact hP
        | filled buffer =>
          rw [afterCall]
          split
          · exact hP
          · have := hquit _ hP
            rwa [afterLoop, List.append_assoc] at this
    · rename_i hstop
      exact absurd h (hstop s')

/-! ## What was pushed -/

theorem PlayInv.quit {s : PlaylistStream} (h : pl.PlayInv s) :
    pl.PlayInv { s with log := s.log ++ [.quit] } := by
  refine ⟨fun hl => ?_, ?_⟩
  · rw [tried_append, h.tried hl]
    exact List.append_nil _
  · simpa [pushed, PlaylistEffect.buffer] using h.played

theorem PlayInv.plays {s : PlaylistStream} (h : pl.PlayInv s) : pl.Plays (pushed s.log) := by
  obtain ⟨n, hn, hplayed⟩ := h.played
  refine ⟨n + 1, fun hl => by rw [hn hl], s.currentFile.getD [] ++
    pl.contents (pl.config.input.drop s.currentPos), ?_⟩
  rw [← List.append_assoc, hplayed, List.append_assoc, ← contents_append, List.take_append_drop,
    List.replicate_succ', List.flatten_append]
  simp

/-! ## The end of the stream -/

theorem Playable.unopened_last (h : pl.Playable) {uri : InputUri} {i : Nat}
    (hn : pl.config.input[i]? = some uri) (ho : pl.fopen uri.input.path = none) :
    pl.config.loop = false ∧ i + 1 = pl.config.input.length := by
  rcases h with ⟨hl, hopen⟩ | ⟨-, -, hopen⟩
  · refine ⟨hl, ?_⟩
    by_contra hi
    have hlt := (List.getElem?_eq_some_iff.1 hn).1
    refine hopen uri (List.mem_iff_getElem?.2 ⟨i, ?_⟩) ho
    rw [List.getElem?_dropLast, if_pos (by omega), hn]
  · exact absurd ho (hopen uri (List.mem_of_getElem? hn))

theorem eosRight_loop (h : pl.Playable) :
    LoopRule pl (fun s => pl.PlayInv s ∧ pl.EosRight s.log)
      fun left s => pl.PlayInv (afterLoop left s) ∧ pl.EosRight (afterLoop left s).log where
  closed _ hs hf := ⟨hs.1.closed hf, hs.2⟩
  filled _ _ hs hf _ := ⟨hs.1.filled hf, hs.2.append (by simp)⟩
  ended s hs _ hl hp := by
    refine ⟨hs.1.sendEos, (eosRight_concat _ _).2 ⟨hs.2, fun _ => ⟨hl, ?_⟩⟩⟩
    rw [hs.1.tried hl, List.take_of_length_le hp]
  opened _ uri _ hs hf hn hp ho := ⟨ho ▸ hs.1.opened hf hn hp, hs.2.logOpened uri⟩
  unopened s uri hs hf hn hp ho := by
    have hopened := hs.1.opened hf hn hp
    rw [ho] at hopened
    obtain ⟨hl, hlast⟩ := h.unopened_last hn ho
    refine ⟨hopened.sendEos, (eosRight_concat _ _).2 ⟨hs.2.logOpened uri, fun _ => ⟨hl, ?_⟩⟩⟩
    rw [hopened.tried hl, hlast, List.take_length]

/-- There is a file to take after every other, or the end. -/
theorem turn_error {s : PlaylistStream} {fault : Fault PlaylistSite Empty}
    (h : pl.turn s = .done (.error fault)) : pl.config.loop = true ∧ pl.config.input = [] := by
  cases turns pl s with
  | reading file hf ht =>
    rcases readTurn_cases s file with ⟨-, hr⟩ | ⟨-, hr⟩ <;> rw [ht, hr] at h <;> cases h
  | ended _ _ _ ht | unopened _ _ _ _ _ ht => rw [ht] at h; cases h
  | noInput _ _ hl hi _ => exact ⟨hl, hi⟩
  | opened uri file hf hn hp ho ht =>
    rcases readTurn_cases ⟨some file, pl.next s + 1, pl.logOpened s uri⟩ file with
      ⟨-, hr⟩ | ⟨-, hr⟩ <;> rw [ht, hr] at h <;> cases h

theorem handleNeedData_ok (h : pl.config.loop = true → pl.config.input ≠ []) {call : NeedData}
    {fuel : Nat} {s : PlaylistStream} {r : PlaylistOutcome PlaylistStream}
    (hr : pl.handleNeedData fuel call s = some r) : ∃ s', r = .ok s' := by
  unfold handleNeedData at hr
  split at hr
  · obtain ⟨outcome, ho, rfl⟩ := Option.map_eq_some_iff.1 hr
    have hok : ∃ x, outcome = .ok x := by
      refine loop_inv (I := fun _ => True) (Q := fun o => ∃ x, o = .ok x)
        (fun _ _ _ _ => trivial) (fun s o _ ht => ?_) trivial ho
      cases o with
      | ok x => exact ⟨x, rfl⟩
      | error fault => exact absurd (turn_error ht).2 (h (turn_error ht).1)
    obtain ⟨⟨left, s₁⟩, rfl⟩ := hok
    cases left <;> exact ⟨_, rfl⟩
  · exact ⟨_, (Option.some.inj hr).symm⟩

theorem run_ok (h : pl.config.loop = true → pl.config.input ≠ []) {calls : List NeedData}
    {fuel : Nat} {s : PlaylistStream} {r : PlaylistOutcome PlaylistStream}
    (hr : pl.run fuel calls s = some r) : ∃ s', r = .ok s' := by
  induction calls generalizing s with
  | nil => exact ⟨s, (Option.some.inj hr).symm⟩
  | cons call calls ih =>
    simp only [run] at hr
    split at hr
    · exact ih hr
    · exact handleNeedData_ok h hr

/-! ## Leaving the loop -/

/-- There is something to stop at: the end, a byte to read or a file that cannot be opened. -/
def Stops (pl : Playlist) (s : PlaylistStream) : Prop :=
  pl.config.loop = false ∨ (∃ file, s.currentFile = some file ∧ file ≠ []) ∨
    ∃ uri ∈ pl.config.input, pl.fopen uri.input.path ≠ some []

/-- The files to open before position `j`, once around when it is behind. -/
def distance (pl : Playlist) (j pos : Nat) : Nat :=
  if pos ≤ j then j - pos else pl.config.input.length - pos + pl.config.input.length + 1

theorem distance_next {j : Nat} {s : PlaylistStream} (hj : j < pl.config.input.length)
    (hne : pl.next s ≠ j) : pl.distance j (pl.next s + 1) < pl.distance j s.currentPos := by
  unfold next at hne ⊢
  unfold distance
  split_ifs at hne ⊢ <;> omega

/-- A turn for every file to open, and one more to close the current one. -/
def turnsLeft (files : Nat) (s : PlaylistStream) : Nat :=
  2 * files + if s.currentFile.isSome then 1 else 0

theorem turnsLeft_lt {files files' : Nat} {s s' : PlaylistStream} (hf : s'.currentFile = none)
    (h : files' < files ∨ (s.currentFile.isSome ∧ files' = files)) :
    turnsLeft files' s' < turnsLeft files s := by
  simp only [turnsLeft, hf, Option.isSome_none]
  rcases h with h | ⟨hs, rfl⟩
  · simp
    omega
  · simp [hs]

theorem returns_of_stops {s : PlaylistStream} (h : pl.Stops s) : While.Returns pl.turn s := by
  rcases h with hl | ⟨file, hf, hne⟩ | ⟨uri, huri, ho⟩
  · refine While.Returns.of_measure (I := fun _ => True)
      (fun s => turnsLeft (pl.config.input.length - s.currentPos) s) ?_ trivial
    rintro s s' - ht
    refine ⟨trivial, ?_⟩
    rcases turn_again_cases ht with ⟨hf, rfl⟩ | ⟨uri, -, hn, hp, -, rfl⟩
    · exact turnsLeft_lt rfl (.inr ⟨by simp [hf], rfl⟩)
    · have hlt := (List.getElem?_eq_some_iff.1 hn).1
      have hpos := hp.resolve_left (by simp [hl])
      exact turnsLeft_lt rfl (.inl (by dsimp only; omega))
  · cases turns pl s with
    | reading file' hf' ht =>
      rcases readTurn_cases s file' with ⟨rfl, -⟩ | ⟨-, hr⟩
      · rw [hf] at hf'
        exact absurd (Option.some.inj hf') hne
      · exact .done (ht.trans hr)
    | ended hf' | noInput _ hf' | unopened _ hf' | opened _ _ hf' => rw [hf] at hf'; cases hf'
  · obtain ⟨j, hj⟩ := List.mem_iff_getElem?.1 huri
    have hlen := (List.getElem?_eq_some_iff.1 hj).1
    refine While.Returns.of_measure (I := fun _ => True)
      (fun s => turnsLeft (pl.distance j s.currentPos) s) ?_ trivial
    rintro s s' - ht
    refine ⟨trivial, ?_⟩
    rcases turn_again_cases ht with ⟨hf, rfl⟩ | ⟨uri', -, hn, -, ho', rfl⟩
    · exact turnsLeft_lt rfl (.inr ⟨by simp [hf], rfl⟩)
    · -- the file at `j` is not passed
      have hne : pl.next s ≠ j := by
        rintro rfl
        rw [hn] at hj
        cases hj
        exact ho ho'
      exact turnsLeft_lt rfl (.inl (distance_next hlen hne))

/-- No turn leaves the loop when there is nothing to stop at. -/
theorem not_returns_of_not_stops (hi : pl.config.input ≠ []) {s : PlaylistStream}
    (h : ¬ pl.Stops s) : ¬ While.Returns pl.turn s := by
  simp only [Stops, not_or, not_exists, not_and, Bool.not_eq_false, not_not] at h
  obtain ⟨hl, hcur, hopen⟩ := h
  refine not_returns_of_inv (I := fun s => ∀ file, s.currentFile = some file → file = []) ?_ hcur
  intro s hs
  cases turns pl s with
  | reading file hf ht =>
    obtain rfl := hs file hf
    exact ⟨_, ht, nofun⟩
  | ended _ hl' => rw [hl] at hl'; cases hl'
  | noInput _ _ _ hi' => exact absurd hi' hi
  | unopened uri _ hn _ ho =>
    have := hopen uri (List.mem_of_getElem? hn)
    rw [ho] at this
    cases this
  | opened uri file _ hn _ ho ht =>
    have := hopen uri (List.mem_of_getElem? hn)
    rw [ho] at this
    cases this
    exact ⟨_, ht, nofun⟩

theorem handleNeedData_isSome_iff (fuel : Nat) (call : NeedData) (s : PlaylistStream) :
    (pl.handleNeedData fuel call s).isSome ↔
      (call.allocated = true → (loop pl.turn fuel s).isSome) := by
  unfold handleNeedData
  split <;> simp_all

/-- **Leaving the loop** of a call: exactly when the call gets no buffer or there is something to
stop at. -/
theorem handleNeedData_returns_iff (pl : Playlist) (hi : pl.config.input ≠ []) (call : NeedData)
    (s : PlaylistStream) :
    (∃ fuel, (pl.handleNeedData fuel call s).isSome) ↔ call.allocated = false ∨ pl.Stops s := by
  simp only [handleNeedData_isSome_iff]
  constructor
  · rintro ⟨fuel, hf⟩
    by_cases ha : call.allocated = true
    · by_contra hs
      rw [not_or] at hs
      exact not_returns_of_not_stops hi hs.2 ⟨fuel, hf ha⟩
    · exact .inl (by simpa using ha)
  · rintro (ha | hs)
    · exact ⟨0, by simp [ha]⟩
    · obtain ⟨fuel, hf⟩ := returns_of_stops hs
      exact ⟨fuel, fun _ => hf⟩

/-- A playlist of files, given by their paths and their contents. -/
def ofFiles (loop : Bool) (files : List (String × Option (List UInt8))) : Playlist where
  config :=
    { type := .relay, maxRestartAttempts := 10, ttlSec := none, output := [], haveVideo := true,
      haveAudio := true, audioSelect := none, avformat := false, loop
      input := files.map fun file => { input := { scheme := .file, path := file.1 } } }
  hasClient := true
  fopen path := (files.lookup path).join

/-- A single empty file in a loop. -/
theorem empty_file_never_returns :
    ¬ ∃ fuel, ((ofFiles true [("/a.ts", some [])]).handleNeedData fuel ⟨true, true⟩ {}).isSome := by
  rintro ⟨fuel, hf⟩
  have hstops : ¬ (ofFiles true [("/a.ts", some [])]).Stops {} := by
    simp [Stops, ofFiles]
  exact not_returns_of_not_stops (by simp [ofFiles]) hstops
    ⟨fuel, (handleNeedData_isSome_iff fuel _ _).1 hf rfl⟩

theorem handleNeedData_returns_iff_sample :
    (ofFiles false [("/a.ts", some [])]).config.input ≠ [] ∧
      ∃ fuel, ((ofFiles false [("/a.ts", some [])]).handleNeedData fuel ⟨true, true⟩ {}).isSome :=
  ⟨by simp [ofFiles], (handleNeedData_returns_iff (ofFiles false [("/a.ts", some [])])
    (by simp [ofFiles]) ⟨true, true⟩ {}).2 (.inr (.inl rfl))⟩

/-! ## A file that cannot be opened -/

/-- The end was sent right after `bad`, the files before it being `files`. -/
def EndedAt (files : List InputUri) (bad : InputUri) (log : List PlaylistEffect) : Prop :=
  ∃ before, before ++ [.sendEos] <+: log ∧ tried before = files ++ [bad]

/-- The files up to `bad` are being played, `total` bytes in all; nothing but `rest` follows it. -/
def Approaches (pl : Playlist) (files rest : List InputUri) (bad : InputUri) (total : Nat)
    (s : PlaylistStream) : Prop :=
  ∃ ahead, pl.config.input.drop s.currentPos = ahead ++ bad :: rest ∧
    (∀ uri ∈ ahead, pl.fopen uri.input.path ≠ none) ∧ tried s.log ++ ahead = files ∧
    (pushed s.log).length + (s.currentFile.getD []).length + (pl.contents ahead).length = total

section
variable {files rest : List InputUri} {bad : InputUri} {total : Nat} {s : PlaylistStream}

/-- The next file of a playlist that is not over. -/
theorem next_of_drop {ahead : List InputUri} {uri uri' : InputUri}
    (h : pl.config.input.drop s.currentPos = uri :: ahead)
    (hn : pl.config.input[pl.next s]? = some uri') :
    pl.next s = s.currentPos ∧ uri' = uri ∧ pl.config.input.drop (s.currentPos + 1) = ahead := by
  have hlt : s.currentPos < pl.config.input.length := by
    by_contra hge
    rw [List.drop_eq_nil_of_le (by omega)] at h
    cases h
  have hnext : pl.next s = s.currentPos := if_neg (by omega)
  have hhead := congrArg List.head? h
  rw [List.head?_drop, ← hnext, hn] at hhead
  refine ⟨hnext, Option.some.inj hhead, ?_⟩
  rw [← List.tail_drop, h]
  rfl

/-- A call on the way to `bad` ends the stream there or pushes some bytes. -/
theorem approaches_loop (ho : pl.fopen bad.input.path = none) (sent : Nat) :
    LoopRule pl
      (fun s => pl.Approaches files rest bad total s ∧ (pushed s.log).length = sent)
      fun left s => match left with
        | .eos => EndedAt files bad s.log
        | .filled _ => pl.Approaches files rest bad total (afterLoop left s) ∧
            sent < (pushed (afterLoop left s).log).length where
  closed s h hf := by
    obtain ⟨⟨ahead, hd, hopen, htried, htotal⟩, hsent⟩ := h
    exact ⟨⟨ahead, hd, hopen, htried, by simpa [hf] using htotal⟩, hsent⟩
  filled s file h hf hne := by
    obtain ⟨⟨ahead, hd, hopen, htried, htotal⟩, hsent⟩ := h
    have hlen : 0 < (file.take bufferSize).length := by
      have := List.length_pos_iff.2 hne
      simp only [List.length_take, bufferSize]
      omega
    have hpush : (pushed (s.log ++ [.pushBuffer (file.take bufferSize)])).length =
        sent + (file.take bufferSize).length := by
      rw [pushed_append, List.length_append, hsent]
      simp [pushed, PlaylistEffect.buffer]
    refine ⟨⟨ahead, hd, hopen, ?_, ?_⟩, by rw [afterLoop, hpush]; omega⟩
    · rw [afterLoop, tried_append, ← htried]
      exact congrArg (· ++ ahead) (List.append_nil _)
    · have hsum := congrArg List.length (List.take_append_drop bufferSize file)
      rw [List.length_append] at hsum
      rw [hf, Option.getD_some] at htotal
      rw [afterLoop, hpush, Option.getD_some]
      omega
  ended s h _ _ hp := by
    obtain ⟨⟨ahead, hd, -⟩, -⟩ := h
    rw [List.drop_eq_nil_of_le hp] at hd
    simp at hd
  opened s uri file h hf hn _ hopened := by
    obtain ⟨⟨ahead, hd, hopen, htried, htotal⟩, hsent⟩ := h
    cases ahead with
    | nil =>
      obtain ⟨-, rfl, -⟩ := next_of_drop hd hn
      rw [ho] at hopened
      cases hopened
    | cons uri' ahead =>
      obtain ⟨hnext, rfl, hrest⟩ := next_of_drop hd hn
      refine ⟨⟨ahead, hnext ▸ hrest, fun u hu => hopen u (List.mem_cons_of_mem _ hu), ?_, ?_⟩,
        by rw [pushed_logOpened, hsent]⟩
      · rw [tried_logOpened, List.append_assoc]
        exact htried
      · rw [← List.singleton_append, contents_append, contents_singleton, hopened,
          List.length_append, hf] at htotal
        rw [pushed_logOpened]
        simp only [Option.getD_none, Option.getD_some, List.length_nil] at htotal ⊢
        omega
  unopened s uri h _ hn _ hunopened := by
    obtain ⟨⟨ahead, hd, hopen, htried, -⟩, -⟩ := h
    cases ahead with
    | nil =>
      obtain ⟨-, rfl, -⟩ := next_of_drop hd hn
      rw [List.append_nil] at htried
      exact ⟨_, List.prefix_refl _, by rw [tried_logOpened, htried]⟩
    | cons uri' ahead =>
      obtain ⟨-, rfl, -⟩ := next_of_drop hd hn
      exact absurd hunopened (hopen _ List.mem_cons_self)

theorem Approaches.pushed_le (h : pl.Approaches files rest bad total s) :
    (pushed s.log).length ≤ total := by
  obtain ⟨ahead, -, -, -, htotal⟩ := h
  omega

theorem Approaches.bad_mem (h : pl.Approaches files rest bad total s) : bad ∈ pl.config.input := by
  obtain ⟨ahead, hd, -⟩ := h
  exact List.mem_of_mem_drop (hd ▸ List.mem_append_right _ List.mem_cons_self)

theorem handleNeedData_mono {fuel fuel' : Nat} (hle : fuel ≤ fuel') {call : NeedData}
    {r : PlaylistOutcome PlaylistStream} (h : pl.handleNeedData fuel call s = some r) :
    pl.handleNeedData fuel' call s = some r := by
  unfold handleNeedData at h ⊢
  split at h
  · rename_i ha
    obtain ⟨outcome, ho, hr⟩ := Option.map_eq_some_iff.1 h
    rw [if_pos ha, loop_mono hle ho]
    exact congrArg some hr
  · rename_i ha
    rwa [if_neg ha]

theorem run_mono {fuel fuel' : Nat} (hle : fuel ≤ fuel') {calls : List NeedData}
    {s s' : PlaylistStream} (h : pl.run fuel calls s = some (.ok s')) :
    pl.run fuel' calls s = some (.ok s') := by
  induction calls generalizing s with
  | nil => exact h
  | cons call calls ih =>
    simp only [run] at h ⊢
    split at h
    · rename_i s₁ hcall
      rw [handleNeedData_mono hle hcall]
      exact ih h
    · rename_i hstop
      exact absurd h (hstop s')

/-- The calls that go on until the stream ends at `bad`. -/
theorem Approaches.exists_run (ho : pl.fopen bad.input.path = none)
    (h : pl.Approaches files rest bad total s) :
    ∃ fuel calls s', (∀ call ∈ calls, call.allocated = true) ∧
      pl.run fuel calls s = some (.ok s') ∧ EndedAt files bad s'.log := by
  induction hk : total - (pushed s.log).length using Nat.strongRecOn generalizing s with
  | ind k ih =>
    have hstops : pl.Stops s := .inr (.inr ⟨bad, h.bad_mem, by rw [ho]; nofun⟩)
    obtain ⟨fuel, hfuel⟩ := returns_of_stops hstops
    obtain ⟨r, hr⟩ := Option.isSome_iff_exists.1
      ((handleNeedData_isSome_iff fuel ⟨true, true⟩ s).2 fun _ => hfuel)
    obtain ⟨s₁, rfl⟩ := handleNeedData_ok (fun _ => List.ne_nil_of_mem h.bad_mem) hr
    rcases handleNeedData_cases hr with ⟨ha, -⟩ | ⟨left, s₂, hleft, rfl⟩
    · cases ha
    · have hQ := (approaches_loop ho _).loop ⟨h, rfl⟩ hleft
      cases left with
      | eos =>
        exact ⟨fuel, [⟨true, true⟩], _, by simp, by rw [run, hr]; rfl, hQ⟩
      | filled buffer =>
        obtain ⟨hnext, hlt⟩ := hQ
        have hle := hnext.pushed_le
        obtain ⟨fuel', calls, s', hcalls, hrun, hend⟩ := ih _ (by omega) hnext rfl
        refine ⟨max fuel fuel', ⟨true, true⟩ :: calls, s', by simpa using hcalls, ?_, hend⟩
        rw [run, handleNeedData_mono (Nat.le_max_left ..) hr]
        exact run_mono (Nat.le_max_right ..) hrun

end

/-! ## Playlists played to their end -/

/-- Every run of calls that get their buffer indexes in range, pushes the playlist and sends the end
of the stream only after the last file. -/
def PlaysWhole (pl : Playlist) : Prop :=
  ∀ fuel calls r, (∀ call ∈ calls, call.allocated = true) → pl.run fuel calls {} = some r →
    ∃ s, r = .ok s ∧ pl.Plays (pushed s.log) ∧ pl.EosRight s.log

theorem Playable.plays (h : pl.Playable) : pl.PlaysWhole := by
  intro fuel calls r hcalls hr
  have hinput : pl.config.loop = true → pl.config.input ≠ [] := by
    rcases h with ⟨hl, -⟩ | ⟨-, hi, -⟩
    · simp [hl]
    · exact fun _ => hi
  obtain ⟨s, rfl⟩ := run_ok hinput hr
  have hinit : pl.PlayInv {} ∧ pl.EosRight [] := ⟨playInv_init, fun before hb => by simp at hb⟩
  have hs := run_inv (eosRight_loop h) (fun _ hs => ⟨hs.1.quit, hs.2.append (by simp)⟩)
    hcalls hinit hr
  exact ⟨s, rfl, hs.1.plays, hs.2⟩

/-- The end is sent at the first file that cannot be opened, so this is the last one. -/
theorem PlaysWhole.unopened_last (h : pl.PlaysWhole) {files rest : List InputUri} {bad : InputUri}
    (hi : pl.config.input = files ++ bad :: rest)
    (hopen : ∀ uri ∈ files, pl.fopen uri.input.path ≠ none)
    (ho : pl.fopen bad.input.path = none) : pl.config.loop = false ∧ rest = [] := by
  have hinit : pl.Approaches files rest bad (pl.contents files).length {} :=
    ⟨files, hi, hopen, rfl, by simp [pushed]⟩
  obtain ⟨fuel, calls, s, hcalls, hrun, before, hbefore, htried⟩ := hinit.exists_run ho
  obtain ⟨s', hs', -, heos⟩ := h fuel calls _ hcalls hrun
  cases hs'
  obtain ⟨hl, hall⟩ := heos before hbefore
  rw [htried, hi] at hall
  exact ⟨hl, by simpa using hall⟩

theorem PlaysWhole.input_ne_nil (h : pl.PlaysWhole) (hl : pl.config.loop = true) :
    pl.config.input ≠ [] := by
  intro hi
  have hrun : pl.run 1 [⟨true, true⟩] {} =
      some (.error (.outOfRange .openNextFile 0 0)) := by
    simp [run, handleNeedData, loop, turn, openNextFile, hl, hi, elemAt, bind, Except.bind]
  obtain ⟨s, hs, -⟩ := h _ _ _ (by simp) hrun
  cases hs

/-- **Playing to the end**: in every run, exactly for a playlist that is `Playable`. -/
theorem plays_iff_playable (pl : Playlist) : pl.PlaysWhole ↔ pl.Playable := by
  refine ⟨fun h => ?_, Playable.plays⟩
  let opens : InputUri → Bool := fun uri => (pl.fopen uri.input.path).isSome
  have opens_iff : ∀ uri, opens uri = true ↔ pl.fopen uri.input.path ≠ none :=
    fun uri => Option.isSome_iff_ne_none
  have hsplit := List.takeWhile_append_dropWhile (p := opens) (l := pl.config.input)
  have htake : ∀ uri ∈ pl.config.input.takeWhile opens, pl.fopen uri.input.path ≠ none :=
    fun uri huri => (opens_iff uri).1 (List.mem_takeWhile_imp huri)
  cases hd : pl.config.input.dropWhile opens with
  | nil =>
    have hall : ∀ uri ∈ pl.config.input, pl.fopen uri.input.path ≠ none := by
      rw [hd, List.append_nil] at hsplit
      rwa [hsplit] at htake
    cases hl : pl.config.loop with
    | false => exact .inl ⟨hl, fun uri huri => hall uri (List.dropLast_subset _ huri)⟩
    | true => exact .inr ⟨hl, h.input_ne_nil hl, hall⟩
  | cons bad rest =>
    have hbad : ¬ opens bad = true := by
      have := List.head?_dropWhile_not opens pl.config.input
      rw [hd] at this
      simpa using this
    rw [hd] at hsplit
    obtain ⟨hl, rfl⟩ := h.unopened_last hsplit.symm htake (by simpa [opens_iff] using hbad)
    refine .inl ⟨hl, ?_⟩
    rwa [← hsplit, List.dropLast_concat]

/-- The end is sent for a first file that is missing, with the second one not played. -/
theorem missing_file_ends_stream :
    ¬ (ofFiles false [("/a.ts", none), ("/b.ts", some [0x47])]).PlaysWhole := by
  intro h
  have hlast := @PlaysWhole.unopened_last _ h [] _ _ rfl nofun rfl
  exact absurd hlast.2 (by simp)

end Playlist

end IptvCloud.Streams
