import OneXBts.Packet.Rlp3Transmit

/-!
The stream of new data that a session sends: `Stream` says that what a peer finds in the frames and blocks of a run
(`sentNew`) has consecutive numbers, payloads that together with the queue make up what was given to the session, and a
buffer that holds the last of them.
-/

namespace OneXBts.Packet.Rlp3

open Lib List Function Option

def Op.given : Op → Bytes
  | sendData data => data
  | _ => []

namespace Rlp3Session

variable {s s' : Rlp3Session}

/-! ### The configuration stays -/

lemma ticked_config (s : Rlp3Session) : s.ticked.config = s.config := by
  change s.ensureInitialized.config = _
  unfold ensureInitialized
  split <;> rfl

lemma processDataTransfer_config (s : Rlp3Session) (frame : Rlp3Frame) :
    (s.processDataTransfer frame).1.config = s.config := by
  have data : ∀ frame, ((s.frameSdu frame).1.receiveSdu (s.frameSdu frame).2).1.config = s.config := by
    intro frame
    have hf : (s.frameSdu frame).1.config = s.config := by
      unfold frameSdu
      split
      · split <;> rfl
      all_goals rfl
    rw [← hf]
    unfold receiveSdu
    split <;> rfl
  unfold processDataTransfer
  split
  · rfl
  grind

lemma processFrame_config (s : Rlp3Session) (frame : Rlp3Frame) :
    (s.processFrame frame).1.config = s.config := by
  have he : (s.enterAndProcess frame).1.config = s.config := processDataTransfer_config s.enterDataTransfer frame
  unfold processFrame
  split
  · rfl
  · unfold processSyncState
    split <;> rfl
  · unfold processSyncAckState
    split
    · rfl
    · rfl
    · rfl
    · split
      · exact he
      · rfl
  · unfold processAckState
    split
    · rfl
    · rfl
    · split
      · exact he
      · rfl
  · exact processDataTransfer_config s frame

lemma receiveFrame_config
    (h : s.receiveFrame bits rate = some (s', events)) : s'.config = s.config := by
  rw [receiveFrame_eq] at h
  rw [← ticked_config s]
  split at h
  · cases h
    rfl
  split at h
  · cases h
  · cases h
    rfl
  cases h
  rw [processFrame_config]
  unfold reinitialize
  split <;> rfl

lemma buildDataFrame_config
    (h : s.buildDataFrame rate allow = some (s', bits)) : s'.config = s.config := by
  rcases buildDataFrame_cases h with ⟨-, rfl⟩ | ⟨-, f, hf, -⟩
  · rfl
  · exact hf.config

lemma nextFrameWithPayload_config
    (h : s.nextFrameWithPayload rate allow = some (s', bits)) : s'.config = s.config := by
  rw [← show s.ensureInitialized.config = s.config from ticked_config s]
  unfold nextFrameWithPayload at h
  dsimp only at h
  split at h
  any_goals
    obtain ⟨rfl, -⟩ := encodeOrEmpty_some h
    rfl
  · cases h
  · split at h
    · have hc := buildDataFrame_config h
      exact hc
    · obtain ⟨rfl, -⟩ := encodeOrEmpty_some h
      rfl
  · exact buildDataFrame_config h

lemma nextSupplementalFrame_config
    (h : s.nextSupplementalFrame size = some (s', block)) : s'.config = s.config := by
  unfold nextSupplementalFrame at h
  split at h
  · split at h
    · cases h; rfl
    split at h <;> grind [supplementalRexmit, supplementalNew]
  · cases h; rfl

lemma step_config (h : s.step op = some (s', out)) : s'.config = s.config := by
  cases op with
  | initializeSession => cases h; rfl
  | sendData => cases h; rfl
  | receiveData =>
    cases h
    unfold receiveData
    split <;> rfl
  | receiveFrame =>
    obtain ⟨⟨t, events⟩, hf, h⟩ := map_eq_some_iff.1 h
    cases h
    exact receiveFrame_config hf
  | nextFrame | nextFrameControlOnly =>
    obtain ⟨⟨t, bits⟩, hf, h⟩ := map_eq_some_iff.1 h
    cases h
    exact nextFrameWithPayload_config hf
  | nextSupplementalFrame =>
    obtain ⟨⟨t, block⟩, hf, h⟩ := map_eq_some_iff.1 h
    cases h
    exact nextSupplementalFrame_config hf

/-! ### What a call sends -/

/-- The octets taken off the queue for a new frame. -/
structure TakesNew (s s' : Rlp3Session) (len : ℕ) : Prop where
  pos : 0 < len
  le_block : len ≤ 42
  le_queue : len ≤ s.txQueue.length
  eq : s'.toTransmitter = s.toTransmitter.takeNew len

lemma TakesNew.saved (h : TakesNew s s' len) (hs : s.toTransmitter.Saved) :
    s'.toTransmitter.Saved := by
  have hne : s.txQueue ≠ [] := by grind [cases Rlp3Session.TakesNew]
  rw [h.eq]
  exact hs.takeNew h.pos h.le_block hne

/-- The new data with the number `L_V(S)`, as the peer sees it. -/
def IsNext (s : Rlp3Session) (len : ℕ) (new : Option NewData) : Prop :=
  ∃ seqHi, new = some ⟨vR8 s.lVS, seqHi, s.txQueue.take len⟩ ∧ ∀ hi ∈ seqHi, hi = s.lVS / 256

lemma buildDataFrame_new (hs : s.toTransmitter.Saved) (hq : s.toReceiver.Queues Rlp3Frame.GapNak)
    (h : s.buildDataFrame rate allow = some (s', bits)) :
    (s'.toTransmitter.Saved ∧ KeepsNew s s' ∧ frameNewData s.config.muxOption rate bits = none) ∨
    ∃ len, TakesNew s s' len ∧ IsNext s len (frameNewData s.config.muxOption rate bits) := by
  rcases buildDataFrame_cases h with ⟨hr, -⟩ | ⟨rfl, f, hf, hb⟩
  · obtain ⟨rfl, hnew⟩ := buildDataFrame_subRate hr h
    exact .inl ⟨hs, .of_eq rfl, hnew⟩
  have hhi : s.lVN / 256 < 16 := by
    have := hq.lVN_lt
    simp only [seqModulus] at this
    omega
  cases hf with
  | control hf =>
    have hnak := hq.pending _ (mem_of_getLast? hf)
    exact .inl ⟨hs, .of_eq rfl, frameNewData_nak hnak hb⟩
  | fill | idle => exact .inl ⟨hs, .of_eq rfl, frameNewData_encode hb (fun _ => hhi) rfl⟩
  | @rexmit e rest _ _ hqu =>
    have hrest : ∀ e ∈ rest, e.Valid := fun e he => hs.rexmit e (by rw [hqu]; simp [he])
    obtain ⟨hnew, -, -, hwf⟩ := rexmitFrame_spec s.config.muxOption e
    exact .inl ⟨hs.withRexmitQueue hrest, ⟨rfl, rfl, rfl⟩, frameNewData_encode hb (hwf bits) hnew⟩
  | new _ _ hne =>
    obtain ⟨hwf, hfit, h1, h2, h3, seqHi, hnew, hhi⟩ := newDataFrame_spec hs.lVS_lt hne
    obtain ⟨bits', henc, -, hdec⟩ := encode_of_fits hwf hfit
    rw [henc] at hb
    cases hb
    refine .inr ⟨_, ⟨h1, h2, h3, rfl⟩, seqHi, ?_, hhi⟩
    rw [frameNewData_full hdec, hnew]

/-- What a call can do to the transmitter. What is said of the new data holds in data transfer. -/
inductive TransmitStep (s : Rlp3Session) (op : Op) (s' : Rlp3Session) (out : Out) : Prop
  /-- Nothing that concerns new data. -/
  | other (hs : s'.toTransmitter.Saved) (hg : op.given = [])
    (hdt : s.state = .dataTransfer → s'.state = .dataTransfer →
      KeepsNew s s' ∧ sentNew s.config.muxOption op out = none)
  /-- Octets from the upper layer. -/
  | queue (ht : s'.toTransmitter = { s.toTransmitter with txQueue := s.txQueue ++ op.given })
    (hnew : sentNew s.config.muxOption op out = none)
  /-- New data is sent. -/
  | new {len : ℕ} (htake : TakesNew s s' len) (hg : op.given = [])
    (hdt : s.state = .dataTransfer → IsNext s len (sentNew s.config.muxOption op out))

lemma nextFrameWithPayload_transmit (hs : s.toTransmitter.Saved)
    (hq : s.toReceiver.Queues Rlp3Frame.GapNak)
    (hop : op = .nextFrame rate ∨ op = .nextFrameControlOnly rate)
    (h : s.nextFrameWithPayload rate allow = some (s', bits)) :
    TransmitStep s op s' (.frame bits) := by
  have hg : op.given = [] := by rcases hop with rfl | rfl <;> rfl
  have hse : sentNew s.config.muxOption op (.frame bits) =
      frameNewData s.config.muxOption rate bits := by rcases hop with rfl | rfl <;> rfl
  -- a frame built in data transfer, or on the way into it
  have hb : ∀ s₁ : Rlp3Session, s₁.toTransmitter = s.toTransmitter →
      s₁.toReceiver = s.toReceiver → s₁.config = s.config →
      s₁.buildDataFrame rate allow = some (s', bits) →
      TransmitStep s op s' (.frame bits) := by
    intro s₁ ht hr hc h
    rcases buildDataFrame_new (ht ▸ hs) (hr ▸ hq) h with ⟨hs', hk, hnew⟩ | ⟨len, hta, hn⟩
    · refine .other hs' hg fun _ _ => ⟨⟨?_, ?_, ?_⟩, ?_⟩ <;> grind [cases Rlp3Session.KeepsNew]
    have hta' : TakesNew s s' len := by grind [cases Rlp3Session.TakesNew, intro Rlp3Session.TakesNew]
    refine .new hta' hg fun _ => ?_
    grind [IsNext]
  -- the frames of the SYNC exchange
  have hh : ∀ {s₁ : Rlp3Session}, s' = s₁ → s₁.toTransmitter.Saved → s.state ≠ .dataTransfer →
      TransmitStep s op s' (.frame bits) :=
    fun heq hs₁ hst => .other (heq ▸ hs₁) hg fun hdt => absurd hdt hst
  by_cases hun : s.state = .uninitialized
  · rw [nextFrameWithPayload, ensureInitialized, if_pos hun] at h
    exact hh (encodeOrEmpty_some h).1 Transmitter.saved_new (by rw [hun]; simp)
  rw [nextFrameWithPayload, ensureInitialized, if_neg hun] at h
  dsimp only at h
  split at h
  any_goals
    rename_i hst
    exact hh (encodeOrEmpty_some h).1 hs (by rw [hst]; simp)
  · cases h
  · rename_i hst
    split at h
    · refine hb _ ?_ ?_ ?_ h <;> rfl
    · exact hh (encodeOrEmpty_some h).1 hs (by rw [hst]; simp)
  · exact hb s rfl rfl rfl h

lemma nextSupplementalFrame_transmit (hs : s.toTransmitter.Saved)
    (h : s.nextSupplementalFrame size = some (s', block)) :
    TransmitStep s (.nextSupplementalFrame size) s' (.block block) := by
  obtain ⟨s₁, out, heq, hc⟩ := nextSupplementalFrame_spec hs size
  rw [h] at heq
  cases heq
  have her : ∀ i, ∀ e ∈ s.rexmitQueue.eraseIdx i, e.Valid := fun i e he => hs.rexmit e (mem_of_mem_eraseIdx he)
  have hre : ∀ {queue bits block'}, s'.toTransmitter = { s.toTransmitter with rexmitQueue := queue } →
      (∀ e ∈ queue, e.Valid) → block = some bits → readBlock bits = .ok block' →
      block'.newData = none → TransmitStep s (.nextSupplementalFrame size) s' (.block block) := by
    intro queue bits block' ht hv hout hr hnew
    refine .other (ht ▸ hs.withRexmitQueue hv) rfl fun _ _ => ⟨⟨?_, ?_, ?_⟩, ?_⟩
    · rw [ht]
    · rw [ht]
    · rw [ht]
    rw [hout]
    change blockNewData bits = none
    unfold blockNewData
    rw [hr]
    exact hnew
  cases hc with
  | nothing ht hout =>
    refine .other (ht ▸ hs) rfl fun _ _ => ⟨.of_eq ht, ?_⟩
    rw [hout]
    rfl
  | rexmit hi hout _ hr hcar ht =>
    refine hre ht (her _) hout hr ?_
    rcases hcar with rfl | ⟨_, -, rfl⟩ <;> rfl
  | segment hi hout _ hr hcar ht =>
    refine hre ht ?_ hout hr (by rw [hcar.2.2]; rfl)
    intro e he
    rcases mem_append.1 he with he | he
    · exact hcar.remainder (hs.rexmit _ (mem_of_getElem? hi)) e he
    · exact her _ e he
  | new h1 h2 h3 hout ht hnew hhi =>
    refine .new ⟨h1, h2, h3, ht⟩ rfl fun _ => ⟨_, ?_, hhi⟩
    rw [hout]
    exact hnew

/-- **What a call can do to the transmitter.** -/
theorem step_transmit (hs : s.toTransmitter.Saved) (hq : s.toReceiver.Queues Rlp3Frame.GapNak)
     (h : s.step op = some (s', out)) : TransmitStep s op s' out := by
  cases op with
  | initializeSession =>
    cases h
    exact .other Transmitter.saved_new rfl fun _ hst => by cases hst
  | sendData =>
    cases h
    exact .queue rfl rfl
  | receiveData =>
    cases h
    have ht : s.receiveData.1.toTransmitter = s.toTransmitter := by
      unfold receiveData
      split <;> rfl
    exact .other (ht ▸ hs) rfl fun _ _ => ⟨.of_eq ht, rfl⟩
  | receiveFrame =>
    obtain ⟨⟨t, events⟩, hf, h⟩ := map_eq_some_iff.1 h
    cases h
    cases receiveFrame_transmitter hs hf with
    | keep hs' =>
      refine .other hs' rfl fun hst _ => ⟨?_, rfl⟩
      have hti : s.ticked.toTransmitter = s.toTransmitter := by
        change s.ensureInitialized.toTransmitter = _
        unfold ensureInitialized
        rw [if_neg (by rw [hst]; simp)]
      refine ⟨?_, ?_, ?_⟩ <;> grind [cases Rlp3Session.KeepsNew]
    | reset ht hst => exact .other (ht ▸ Transmitter.saved_new) rfl fun _ hst' => absurd hst' hst
  | nextFrame =>
    obtain ⟨⟨t, bits⟩, hf, h⟩ := map_eq_some_iff.1 h
    cases h
    exact nextFrameWithPayload_transmit hs hq (.inl rfl) hf
  | nextFrameControlOnly =>
    obtain ⟨⟨t, bits⟩, hf, h⟩ := map_eq_some_iff.1 h
    cases h
    exact nextFrameWithPayload_transmit hs hq (.inr rfl) hf
  | nextSupplementalFrame =>
    obtain ⟨⟨t, block⟩, hf, h⟩ := map_eq_some_iff.1 h
    cases h
    exact nextSupplementalFrame_transmit hs hf

lemma saved_run {config : Rlp3Config} {log : List (Op × Out)}
    (hrun : Run (steps step) (new config) s log) :
    s.toTransmitter.Saved ∧ s.toReceiver.Queues Rlp3Frame.GapNak := by
  refine hrun.inv (fun s _ => s.toTransmitter.Saved ∧ s.toReceiver.Queues Rlp3Frame.GapNak)
    ⟨Transmitter.saved_new, Receiver.queues_new⟩ ?_
  rintro s op s' out log ⟨hs, hq⟩ ⟨-, hst⟩
  refine ⟨?_, ?_⟩
  · cases step_transmit hs hq hst with
    | other hs' => exact hs'
    | queue ht => rw [ht]; exact ⟨hs.lVS_lt, hs.sent, hs.rexmit⟩
    | new hta => exact hta.saved hs
  · exact step_queues (fun f hf => hf.1) hq
      (fun a _ _ hq' _ _ f hf f' hf' => Receiver.withoutSeq_gapNak (hq'.pending f hf) hf') hst

/-! ### The stream -/

def newsOf (mux : MuxOption) (log : List (Op × Out)) : List NewData := log.filterMap fun x => sentNew mux x.1 x.2

def givenIn (log : List (Op × Out)) : Bytes := log.flatMap fun x => x.1.given

/-- From `s₀` on the session has sent `news` and was given `given`. -/
structure Stream (s₀ s : Rlp3Session) (news : List NewData) (given : Bytes) : Prop where
  /-- The numbers are consecutive, from `L_V(S)` on. -/
  numbers : ∀ i n, news[i]? = some n → n.seq = vR8 ((s₀.lVS + i) % seqModulus) ∧
    ∀ hi ∈ n.seqHi, hi = (s₀.lVS + i) % seqModulus / 256
  next : s.lVS = (s₀.lVS + news.length) % seqModulus
  /-- The last 4096 payloads are saved under their numbers. -/
  saved : ∀ i n, news[i]? = some n → news.length ≤ i + seqModulus →
    s.sentBuffer ((s₀.lVS + i) % seqModulus) = some n.data
  /-- Numbers not used since keep what was saved before. -/
  older : ∀ l, (∀ i < news.length, (s₀.lVS + i) % seqModulus ≠ l) → s.sentBuffer l = s₀.sentBuffer l
  /-- Nothing is lost, duplicated or reordered. -/
  bytes : news.flatMap NewData.data ++ s.txQueue = s₀.txQueue ++ given

variable {s₀ : Rlp3Session} {news : List NewData} {given : Bytes}

lemma stream_start (h : s₀.lVS < seqModulus) : Stream s₀ s₀ [] [] where
  numbers := by simp
  next := (Nat.mod_eq_of_lt h).symm
  saved := by simp
  older := fun _ _ => rfl
  bytes := by simp

section

variable (h : Stream s₀ s news given)
include h

lemma Stream.keep (hk : KeepsNew s s') : Stream s₀ s' news given where
  numbers := h.numbers
  next := hk.lVS.trans h.next
  saved := by rw [hk.sentBuffer]; exact h.saved
  older := by rw [hk.sentBuffer]; exact h.older
  bytes := by rw [hk.txQueue]; exact h.bytes

lemma Stream.queue
    (ht : s'.toTransmitter = { s.toTransmitter with txQueue := s.txQueue ++ data }) :
    Stream s₀ s' news (given ++ data) where
  numbers := h.numbers
  next := by rw [ht]; exact h.next
  saved := by rw [ht]; exact h.saved
  older := by rw [ht]; exact h.older
  bytes := by rw [ht, ← append_assoc, h.bytes, append_assoc]

lemma Stream.snoc (ht : TakesNew s s' len)
    (hne : IsNext s len (some n)) : Stream s₀ s' (news ++ [n]) given := by
  obtain ⟨seqHi, hn, hhi⟩ := hne
  cases hn
  have hla : ∀ {i n'}, (news ++ [(⟨vR8 s.lVS, seqHi, s.txQueue.take len⟩ : NewData)])[i]? = some n' →
      i < news.length ∧ news[i]? = some n' ∨ i = news.length ∧ n' = ⟨vR8 s.lVS, seqHi, s.txQueue.take len⟩ := by
    grind
  have hs : s'.sentBuffer = update s.sentBuffer s.lVS (some (s.txQueue.take len)) := by
    rw [ht.eq]
    rfl
  refine ⟨?_, ?_, ?_, ?_, ?_⟩
  · intro i n' hi
    rcases hla hi with ⟨-, hi⟩ | ⟨rfl, rfl⟩
    · exact h.numbers i n' hi
    · rw [← h.next]
      exact ⟨rfl, hhi⟩
  · rw [ht.eq, length_append]
    change (s.lVS + 1) % seqModulus = _
    rw [h.next, mod_succ]
    rfl
  · intro i n' hi hr
    rw [length_append, length_singleton] at hr
    rw [hs]
    rcases hla hi with ⟨hlt, hi⟩ | ⟨rfl, rfl⟩
    · rw [update_of_ne, h.saved i n' hi (by omega)]
      -- the slot just written belongs to a number less than 4096 away
      rw [h.next]
      grind
    · rw [← h.next, update_self]
  · intro l hl
    rw [length_append, length_singleton] at hl
    rw [hs, update_of_ne, h.older l fun i hi => hl i (by omega)]
    have := hl news.length (by omega)
    rw [← h.next] at this
    exact this.symm
  · have htx : s'.txQueue = s.txQueue.drop len := by rw [ht.eq]; rfl
    rw [flatMap_append, flatMap_singleton, htx, append_assoc, take_append_drop, h.bytes]

end

/-- The call keeps the session in data transfer. -/
def Stays (s : Rlp3Session) (op : Op) : Prop := ∀ x ∈ s.step op, x.1.state = .dataTransfer

instance (s : Rlp3Session) (op : Op) : Decidable (s.Stays op) :=
  inferInstanceAs (Decidable (∀ x ∈ s.step op, x.1.state = .dataTransfer))

/-- **The transmit stream is intact.** From any session in data transfer on, as long as it is not
reset: the new data that a peer finds in the frames and blocks sent has consecutive numbers, the last
4096 payloads are saved, and together with the queue they are what was given to the session. -/
theorem transmit_stream (config : Rlp3Config) {s₀ s : Rlp3Session} {log₀ log : List (Op × Out)}
    (hreach : Run (steps step) (new config) s₀ log₀) (hst : s₀.state = .dataTransfer)
    (hrun : Run (guarded step Stays) s₀ s log) :
    Stream s₀ s (newsOf s₀.config.muxOption log) (givenIn log) := by
  obtain ⟨hs₀, hq₀⟩ := saved_run hreach
  have hinv := hrun.inv (fun s log => s.state = .dataTransfer ∧ s.config = s₀.config ∧
      s.toTransmitter.Saved ∧ s.toReceiver.Queues Rlp3Frame.GapNak ∧
      Stream s₀ s (newsOf s₀.config.muxOption log) (givenIn log))
    ⟨hst, rfl, hs₀, hq₀, stream_start hs₀.lVS_lt⟩ ?_
  · exact hinv.2.2.2.2
  rintro s op s' out log ⟨hst, hc, hs, hq, hstr⟩ ⟨hstay, hstep⟩
  have hst' : s'.state = .dataTransfer := hstay _ hstep
  have hq' := step_queues (fun f hf => hf.1) hq
    (fun a _ _ hq' _ _ f hf f' hf' => Receiver.withoutSeq_gapNak (hq'.pending f hf) hf') hstep
  have hne : newsOf s₀.config.muxOption (log ++ [(op, out)]) = newsOf s₀.config.muxOption log ++
      (sentNew s.config.muxOption op out).toList := by grind [newsOf]
  have hgi : givenIn (log ++ [(op, out)]) = givenIn log ++ op.given := by
    simp only [givenIn, flatMap_append, flatMap_singleton]
  rw [hne, hgi]
  refine ⟨hst', (step_config hstep).trans hc, ?_⟩
  cases step_transmit hs hq hstep with
  | other hs' hg hdt =>
    obtain ⟨hk, hnew⟩ := hdt hst hst'
    rw [hg, hnew]
    exact ⟨hs', hq', by simpa using hstr.keep hk⟩
  | queue ht hnew =>
    rw [hnew]
    refine ⟨?_, hq', by simpa using hstr.queue ht⟩
    rw [ht]
    exact ⟨hs.lVS_lt, hs.sent, hs.rexmit⟩
  | new hta hg hdt =>
    have hnext := hdt hst
    rw [hg, append_nil]
    refine ⟨hta.saved hs, hq', ?_⟩
    obtain ⟨seqHi, hn, hhi⟩ := hnext
    rw [hn]
    exact hstr.snoc hta ⟨seqHi, rfl, hhi⟩

/-- 22 octets and one more leave in a block of 170 bits and a full frame. -/
def streamRun : List Op :=
  [.sendData (List.replicate 22 7), .nextSupplementalFrame 170, .sendData [1], .nextFrame .full]

theorem transmit_stream_mixed : ∃ s₀ log₀ s log, Run (steps step) (new {}) s₀ log₀ ∧
    s₀.state = .dataTransfer ∧ Run (guarded step Stays) s₀ s log ∧
    (newsOf s₀.config.muxOption log).map (fun n => n.data.length) = [20, 3] ∧
    Stream s₀ s (newsOf s₀.config.muxOption log) (List.replicate 22 7 ++ [1]) := by
  obtain ⟨s₀, log₀, hr, hst, he⟩ := exists_run step (fun _ _ => True) (new {})
    [.received .odd (.control 0 .sync true false), .received .odd (.data 0 false [0])]
    (fun s₀ _ => s₀.state = .dataTransfer ∧ (exec step Stays s₀ streamRun).any (fun x => decide
      ((newsOf s₀.config.muxOption x.2).map (fun n => n.data.length) = [20, 3] ∧
        givenIn x.2 = replicate 22 7 ++ [1])) = true)
    (by decide +kernel)
  obtain ⟨s, log, hrun, hlen, hg⟩ := exists_run step Stays s₀ streamRun (fun _ log =>
    (newsOf s₀.config.muxOption log).map (fun n => n.data.length) = [20, 3] ∧
      givenIn log = replicate 22 7 ++ [1]) he
  have h := transmit_stream {} hr hst hrun
  rw [hg] at h
  exact ⟨s₀, log₀, s, log, hr, hst, hrun, hlen, h⟩

end Rlp3Session

end OneXBts.Packet.Rlp3
