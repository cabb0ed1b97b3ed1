import OneXBts.Packet.Rlp3Session

/-!
What one call can do to the receiving half of a session.

`step_receiver` says it once: the receiver is kept, reset, has its last control frame popped or its buffer taken, or it goes
through a frame period, which may end in a reset or in a data frame. `arrival` names that data frame and the receiver it
meets.
-/

namespace OneXBts.Packet.Rlp3

open Lib Option

/-! ### Observations -/

def RlpEvent.delivered : RlpEvent → Bytes
  | dataDelivered data => data
  | _ => []

def RlpEvent.abandoned : RlpEvent → List ℕ
  | nakAbandoned first _ => [first]
  | _ => []

def deliveredBy (events : List RlpEvent) : Bytes := events.flatMap RlpEvent.delivered

def abandonedBy (events : List RlpEvent) : List ℕ := events.flatMap RlpEvent.abandoned

@[simp] lemma deliveredBy_nil : deliveredBy [] = [] := rfl
@[simp] lemma abandonedBy_nil : abandonedBy [] = [] := rfl

@[simp] lemma deliveredBy_append (a b : List RlpEvent) :
    deliveredBy (a ++ b) = deliveredBy a ++ deliveredBy b := List.flatMap_append

@[simp] lemma abandonedBy_append (a b : List RlpEvent) :
    abandonedBy (a ++ b) = abandonedBy a ++ abandonedBy b := List.flatMap_append

def Out.delivered : Out → Bytes
  | data d => d.getD []
  | events es => deliveredBy es
  | _ => []

def Out.abandoned : Out → List ℕ
  | events es => abandonedBy es
  | _ => []

def Out.Quiet (out : Out) : Prop := out.delivered = [] ∧ out.abandoned = []

/-! ### Arrivals -/

namespace Rlp3Session

def ticked (s : Rlp3Session) : Rlp3Session := s.ensureInitialized.tickNakTimers.1

/-- The data frame that a call hands to the receiver, with the receiver as it is then. -/
def arrival (s : Rlp3Session) : Op → Option (Receiver × Sdu)
  | .receiveFrame bits rate =>
    if rate = .blank ∨ bits = [] ∨ s.ticked.state = .sync then none
    else
      match decodeReceived s.ticked.config.muxOption bits rate with
      | .ok frame => (s.ticked.frameSdu frame).2.map fun sdu => (s.ticked.toReceiver, sdu)
      | _ => none
  | _ => none

def receiveSduOn (policy : NakPolicy) (r : Receiver) (sdu : Sdu) : Receiver × List RlpEvent :=
  if sdu.rexmit then r.receiveRexmitData sdu.seq8 sdu.data
  else r.receiveNewData policy sdu.seq8 sdu.data

/-! ### What a decoded frame does -/

/-- What a decoded frame can do to the receiver. -/
inductive FrameEffect (s : Rlp3Session) (frame : Rlp3Frame) (s' : Rlp3Session)
    (events : List RlpEvent) : Prop
  | reset (hr : s'.toReceiver = {}) (hst : s'.state ≠ .dataTransfer) (hd : deliveredBy events = [])
    (hb : abandonedBy events = []) (hsdu : (s.frameSdu frame).2 = none)
  | keep (hst : s.state = .dataTransfer → s'.state = .dataTransfer)
    (hr : s'.toReceiver = s.toReceiver) (hd : deliveredBy events = [])
    (hb : abandonedBy events = []) (hsdu : s.state = .sync ∨ (s.frameSdu frame).2 = none)
  | sdu {sdu : Sdu} (hst : s.state ≠ .sync) (hst' : s'.state = .dataTransfer)
    (hsdu : (s.frameSdu frame).2 = some sdu)
    (hr : s'.toReceiver = (receiveSduOn s.policy s.toReceiver sdu).1)
    (hd : deliveredBy events = deliveredBy (receiveSduOn s.policy s.toReceiver sdu).2)
    (hb : abandonedBy events = abandonedBy (receiveSduOn s.policy s.toReceiver sdu).2)

section

variable (s : Rlp3Session)

lemma frameSdu_frame (frame : Rlp3Frame) :
    (s.frameSdu frame).1.toReceiver = s.toReceiver ∧ (s.frameSdu frame).1.policy = s.policy ∧
      (s.frameSdu frame).1.state = s.state := by
  unfold frameSdu
  split
  · split <;> exact ⟨rfl, rfl, rfl⟩
  all_goals exact ⟨rfl, rfl, rfl⟩

lemma receiveSdu_effect (hst : s.state = .dataTransfer) (frame : Rlp3Frame) :
    FrameEffect s frame ((s.frameSdu frame).1.receiveSdu (s.frameSdu frame).2).1
      ((s.frameSdu frame).1.receiveSdu (s.frameSdu frame).2).2 := by
  obtain ⟨hr, hp, hs⟩ := frameSdu_frame s frame
  cases hsdu : (s.frameSdu frame).2 with
  | none => exact .keep (fun h => hs.trans h) hr rfl rfl (.inr hsdu)
  | some sdu =>
    obtain ⟨rexmit, seq8, data⟩ := sdu
    refine .sdu (by simp [hst]) ?_ hsdu ?_ ?_ ?_
    · cases rexmit <;> exact hs.trans hst
    all_goals cases rexmit <;> simp only [receiveSdu, hr, hp] <;> rfl

lemma processDataTransfer_effect (hst : s.state = .dataTransfer)
    (frame : Rlp3Frame) :
    FrameEffect s frame (s.processDataTransfer frame).1 (s.processDataTransfer frame).2 := by
  unfold processDataTransfer
  split
  · rename_i hs
    refine .reset rfl (by simp [initializeSession]) rfl rfl ?_
    cases frame with
    | control => rfl
    | _ => cases hs
  · cases frame with
    | nak | fill => exact .keep id rfl rfl rfl (.inr rfl)
    | control | data | segmented | dataFormatB | idle1 | idle2 => exact receiveSdu_effect s hst _

lemma enterAndProcess_effect (hst : s.state ≠ .sync) (frame : Rlp3Frame) :
    FrameEffect s frame (s.enterAndProcess frame).1 (s.enterAndProcess frame).2 := by
  have hsdu : (s.enterDataTransfer.frameSdu frame).2 = (s.frameSdu frame).2 := by
    cases frame <;> simp only [frameSdu, enterDataTransfer]
    split <;> rfl
  have heff := processDataTransfer_effect s.enterDataTransfer rfl frame
  cases heff with
  | reset hr hs hd hb h => exact .reset hr hs hd hb (hsdu ▸ h)
  | keep hs hr hd hb h =>
    exact .keep (fun _ => hs rfl) hr hd hb
      (.inr (hsdu ▸ (h.resolve_left (by simp [enterDataTransfer]))))
  | sdu _ hs' h hr hd hb => exact .sdu hst hs' (hsdu ▸ h) hr hd hb

lemma processFrame_effect (hst : s.state ≠ .uninitialized) (frame : Rlp3Frame) :
    FrameEffect s frame (s.processFrame frame).1 (s.processFrame frame).2 := by
  unfold processFrame
  split
  · contradiction
  · rename_i hs
    unfold processSyncState
    split <;> exact .keep (fun h => by simp [hs] at h) rfl rfl rfl (.inl hs)
  · rename_i hs
    unfold processSyncAckState
    split
    · exact .keep (fun h => by simp [hs] at h) rfl rfl rfl (.inr rfl)
    · exact .keep (fun h => by simp [hs] at h) rfl rfl rfl (.inr rfl)
    · exact .keep (fun h => by simp [hs] at h) rfl rfl rfl (.inr rfl)
    split
    · exact enterAndProcess_effect s (by simp [hs]) frame
    · rename_i hf
      refine .keep id rfl rfl rfl (.inr ?_)
      cases frame <;> simp_all [isSync, isFill, frameSdu]
  · rename_i hs
    unfold processAckState
    split
    · exact .keep (fun h => by simp [hs] at h) rfl rfl rfl (.inr rfl)
    · exact .reset rfl (by simp [initializeSession]) rfl rfl rfl
    split
    · exact enterAndProcess_effect s (by simp [hs]) frame
    · rename_i hf
      refine .keep id rfl rfl rfl (.inr ?_)
      cases frame <;> simp_all [isSyncAck, isFill, frameSdu]
  · rename_i hs
    exact processDataTransfer_effect s hs frame

end

lemma shouldReinitialize_cases (h : shouldReinitializeFromControl frame = true) :
    ∃ seq ct nakParamIncl, (ct = .sync ∨ ct = .syncAck) ∧ frame = .control seq ct true nakParamIncl := by
  unfold shouldReinitializeFromControl at h
  grind

lemma reinitialize_effect (s : Rlp3Session) (hst : s.state ≠ .uninitialized) (frame : Rlp3Frame) :
    FrameEffect s frame ((s.reinitialize frame).1.processFrame frame).1
      ((s.reinitialize frame).2 ++ ((s.reinitialize frame).1.processFrame frame).2) := by
  unfold reinitialize
  split
  · rename_i hre
    obtain ⟨seq, ct, nakParamIncl, hct, rfl⟩ := shouldReinitialize_cases hre
    -- the state change, reported or not, delivers nothing
    have hq : ∀ p : Prop, [Decidable p] → deliveredBy (if p then [RlpEvent.stateChanged .sync] else []) = [] ∧
        abandonedBy (if p then [RlpEvent.stateChanged .sync] else []) = [] := by
      intro p _
      split <;> exact ⟨rfl, rfl⟩
    obtain ⟨hd, hb⟩ := hq (s.state ≠ .sync)
    rcases hct with rfl | rfl
    · refine .reset rfl (by simp [processFrame, processSyncState, initializeSession]) ?_ ?_ rfl
      · rw [deliveredBy_append, hd]; rfl
      · rw [abandonedBy_append, hb]; rfl
    refine .reset rfl (by simp [processFrame, processSyncState, initializeSession])
      ?_ ?_ rfl
    · rw [deliveredBy_append, hd]; rfl
    · rw [abandonedBy_append, hb]; rfl
  · exact processFrame_effect s hst frame

/-! ### What a call does -/

/-- What a call can do to the receiver. Only a reset leaves the data transfer. -/
inductive ReceiverStep (s : Rlp3Session) (op : Op) (s' : Rlp3Session) (out : Out) : Prop
  /-- Nothing. -/
  | keep (ha : s.arrival op = none) (hst : s.state = .dataTransfer → s'.state = .dataTransfer)
    (hq : out.Quiet) (hr : s'.toReceiver = s.toReceiver)
  /-- A reset, maybe at the end of a frame period. -/
  | reset (ha : s.arrival op = none) (hst : s'.state ≠ .dataTransfer) (hr : s'.toReceiver = {})
    (hout : out.Quiet ∨ out.delivered = deliveredBy s.ensureInitialized.tickNakTimers.2 ∧
      out.abandoned = abandonedBy s.ensureInitialized.tickNakTimers.2)
  /-- The last control frame is sent. -/
  | pop (ha : s.arrival op = none) (hst : s.state = .dataTransfer → s'.state = .dataTransfer)
    (hq : out.Quiet)
    (hr : s'.toReceiver = { s.toReceiver with pendingControls := s.pendingControls.dropLast })
  /-- The buffer is taken. -/
  | take (ha : s.arrival op = none) (hst : s.state = .dataTransfer → s'.state = .dataTransfer)
    (hd : out.delivered = s.rxBuffer) (hb : out.abandoned = [])
    (hr : s'.toReceiver = { s.toReceiver with rxBuffer := [] })
  /-- A frame period. -/
  | tick (ha : s.arrival op = none) (hst : s.state = .dataTransfer → s'.state = .dataTransfer)
    (hr : s'.toReceiver = s.ticked.toReceiver)
    (hd : out.delivered = deliveredBy s.ensureInitialized.tickNakTimers.2)
    (hb : out.abandoned = abandonedBy s.ensureInitialized.tickNakTimers.2)
  /-- A frame period and a data frame. -/
  | sdu {sdu : Sdu} (ha : s.arrival op = some (s.ticked.toReceiver, sdu))
    (hst : s'.state = .dataTransfer)
    (hr : s'.toReceiver = (receiveSduOn s.ticked.policy s.ticked.toReceiver sdu).1)
    (hd : out.delivered = deliveredBy s.ensureInitialized.tickNakTimers.2 ++
      deliveredBy (receiveSduOn s.ticked.policy s.ticked.toReceiver sdu).2)
    (hb : out.abandoned = abandonedBy s.ensureInitialized.tickNakTimers.2 ++
      abandonedBy (receiveSduOn s.ticked.policy s.ticked.toReceiver sdu).2)

lemma ensureInitialized_state (s : Rlp3Session) : s.ensureInitialized.state ≠ .uninitialized := by
  unfold ensureInitialized
  split
  · simp [initializeSession]
  · assumption

lemma ticked_state {s : Rlp3Session} (h : s.state = .dataTransfer) :
    s.ticked.state = .dataTransfer := by
  unfold ticked ensureInitialized
  rw [if_neg (by simp [h])]
  exact h

lemma receiveFrame_eq (s : Rlp3Session) (bits : Bits) (rate : FrameRate) :
    s.receiveFrame bits rate =
      if rate = .blank ∨ bits = [] then some (s.ticked, s.ensureInitialized.tickNakTimers.2)
      else match decodeReceived s.ticked.config.muxOption bits rate with
        | .panic => none
        | .err _ => some (s.ticked, s.ensureInitialized.tickNakTimers.2)
        | .ok frame => some (((s.ticked.reinitialize frame).1.processFrame frame).1,
            s.ensureInitialized.tickNakTimers.2 ++ (s.ticked.reinitialize frame).2 ++
              ((s.ticked.reinitialize frame).1.processFrame frame).2) := rfl

/-- A frame that carries something up is handed to the receiver as it is after the timers. -/
lemma receiveFrame_sdu {s : Rlp3Session} (hst : s.state = .dataTransfer) (hb : bits ≠ [])
    (hdec : decodeRlp3Frame bits s.config.muxOption = .ok frame) (hsdu : (s.ticked.frameSdu frame).2 = some sdu) :
    s.arrival (.receiveFrame bits .full) = some (s.ticked.toReceiver, sdu) ∧
    s.receiveFrame bits .full = some (((s.ticked.frameSdu frame).1.receiveSdu (some sdu)).1,
      s.ensureInitialized.tickNakTimers.2 ++ ((s.ticked.frameSdu frame).1.receiveSdu (some sdu)).2) := by
  have hs := ticked_state hst
  have hc : s.ticked.config = s.config := by
    unfold ticked ensureInitialized
    rw [hst]
    rfl
  have hrec : decodeReceived s.ticked.config.muxOption bits .full = .ok frame := by
    unfold decodeReceived
    rw [if_pos rfl, hc, hdec]
  have hp : s.ticked.processFrame frame = (s.ticked.frameSdu frame).1.receiveSdu (some sdu) ∧
      shouldReinitializeFromControl frame = false := by
    unfold processFrame
    rw [hs, ← hsdu]
    cases frame with
    | data | segmented | dataFormatB => exact ⟨rfl, rfl⟩
    | _ => cases hsdu
  have hre : s.ticked.reinitialize frame = (s.ticked, []) := by
    unfold reinitialize
    rw [hp.2]
    rfl
  constructor
  · simp only [arrival, hrec, hsdu]
    rw [if_neg (by simp [hb, hs])]
    rfl
  · rw [receiveFrame_eq, if_neg (by simp [hb]), hrec]
    dsimp only
    rw [hre, hp.1, List.append_nil]

lemma receiveFrame_receiver {rate : FrameRate}
    {events : List RlpEvent} (h : s.receiveFrame bits rate = some (s', events)) :
    ReceiverStep s (.receiveFrame bits rate) s' (.events events) := by
  rw [receiveFrame_eq] at h
  have hst : s.ticked.state ≠ .uninitialized := ensureInitialized_state s
  split at h
  · rename_i hbl
    cases h
    exact .tick (by simp only [arrival]; rw [if_pos (by tauto)]) ticked_state rfl rfl rfl
  rename_i hbl
  split at h
  · cases h
  · rename_i e hdec
    cases h
    refine .tick ?_ ticked_state rfl rfl rfl
    simp only [arrival, hdec]
    split <;> rfl
  · rename_i frame hdec
    have heff := reinitialize_effect s.ticked hst frame
    cases h
    have harr : s.arrival (.receiveFrame bits rate) = if s.ticked.state = .sync then none
        else (s.ticked.frameSdu frame).2.map fun sdu => (s.ticked.toReceiver, sdu) := by grind [arrival]
    cases heff with
    | reset hr hs =>
      refine .reset ?_ hs hr (.inr ⟨?_, ?_⟩) <;> grind [Out.delivered, deliveredBy_append,
        Out.abandoned, abandonedBy_append]
    | keep hs hr =>
      refine .tick ?_ (fun h => hs (ticked_state h)) hr ?_ ?_ <;> grind [Out.delivered,
        deliveredBy_append, Out.abandoned, abandonedBy_append]
    | sdu hs hs' hsdu hr =>
      refine .sdu ?_ hs' hr ?_ ?_ <;> grind [Out.delivered, deliveredBy_append, Out.abandoned, abandonedBy_append]

lemma encodeOrEmpty_some {s s' : Rlp3Session} {frame : Rlp3Frame} {bits : Bits}
    (h : s.encodeOrEmpty frame = some (s', bits)) :
    s' = s ∧ (frame.encode s.config.muxOption).unwrapOr [] = some bits := by
  obtain ⟨bits', hb, h⟩ := map_eq_some_iff.1 h
  cases h
  exact ⟨rfl, hb⟩

inductive FchFrame (s : Rlp3Session) (allowPayload : Bool) : Rlp3Session → Rlp3Frame → Prop
  /-- The last control frame of the queue. -/
  | control {f : Rlp3Frame} (hf : s.pendingControls.getLast? = some f) : FchFrame s allowPayload
      { s with toReceiver := { s.toReceiver with pendingControls := s.pendingControls.dropLast } } f
  | fill (hp : s.pendingControls = []) (hq : allowPayload = true → s.rexmitQueue = []) :
    FchFrame s allowPayload { s with idleTimer := s.idleTimer + 1 } (.fill (vR8 s.lVN) (s.lVN / 256))
  | idle (hp : s.pendingControls = []) (hq : allowPayload = true → s.rexmitQueue = []) :
    FchFrame s allowPayload { s with idleTimer := 0 } (.idle1 (vR8 s.lVN) (s.lVN / 256))
  /-- The first retransmission of the queue. -/
  | rexmit {e : RexmitEntry} {rest : List RexmitEntry} (hp : s.pendingControls = [])
    (ha : allowPayload = true) (hq : s.rexmitQueue = e :: rest) : FchFrame s allowPayload
      { s with idleTimer := 0, toTransmitter := { s.toTransmitter with rexmitQueue := rest } }
      (rexmitFrame s.config.muxOption e)
  | new (hp : s.pendingControls = []) (hq : s.rexmitQueue = []) (hne : s.txQueue ≠ []) :
    FchFrame s allowPayload
      { s with idleTimer := 0, toTransmitter := s.toTransmitter.takeNew s.newDataFrame.2 }
      s.newDataFrame.1

lemma buildIdleOrFillFrame_eq (hp : s.pendingControls = [])
    (hq : allow = true → s.rexmitQueue = []) :
    ∃ s' f, FchFrame s allow s' f ∧ s.buildIdleOrFillFrame = s'.encodeOrEmpty f := by
  unfold buildIdleOrFillFrame
  dsimp only
  split
  · exact ⟨_, _, .idle hp hq, rfl⟩
  · exact ⟨_, _, .fill hp hq, rfl⟩

lemma buildDataFrame_full (s : Rlp3Session) (allow : Bool) :
    ∃ s' f, FchFrame s allow s' f ∧ s.buildDataFrame .full allow = s'.encodeOrEmpty f := by
  unfold buildDataFrame
  rw [if_neg (by simp)]
  split
  · rename_i ctrl hc
    exact ⟨_, _, .control hc, rfl⟩
  rename_i hp
  rw [List.getLast?_eq_none_iff] at hp
  split
  · rename_i hal
    exact buildIdleOrFillFrame_eq hp fun ha => absurd (hal.symm.trans ha) (by simp)
  rename_i hal
  split
  · rename_i e rest hq
    exact ⟨_, _, .rexmit hp (by simpa using hal) hq, rfl⟩
  rename_i hq
  split
  · rename_i hne
    exact ⟨_, _, .new hp hq hne, rfl⟩
  · exact buildIdleOrFillFrame_eq hp fun _ => hq

lemma FchFrame.config (h : FchFrame s allow s' f) : s'.config = s.config := by cases h <;> rfl

lemma buildDataFrame_cases {s s' : Rlp3Session} {allow : Bool}
    {bits : Bits} (h : s.buildDataFrame rate allow = some (s', bits)) :
    rate ≠ .full ∧ s' = s ∨ rate = .full ∧ ∃ f, FchFrame s allow s' f ∧
      (f.encode s.config.muxOption).unwrapOr [] = some bits := by
  by_cases hr : rate = .full
  · subst hr
    obtain ⟨s₁, f, hf, heq⟩ := buildDataFrame_full s allow
    rw [heq] at h
    obtain ⟨rfl, hb⟩ := encodeOrEmpty_some h
    rw [hf.config] at hb
    exact .inr ⟨rfl, f, hf, hb⟩
  grind [buildDataFrame, map_eq_some_iff]

lemma buildDataFrame_receiver {s s' : Rlp3Session} {allow : Bool}
    {bits : Bits} (h : s.buildDataFrame rate allow = some (s', bits)) :
    s'.state = s.state ∧ (s'.toReceiver = s.toReceiver ∨
      s'.toReceiver = { s.toReceiver with pendingControls := s.pendingControls.dropLast }) := by
  rcases buildDataFrame_cases h with ⟨-, rfl⟩ | ⟨-, f, hf, -⟩
  · exact ⟨rfl, .inl rfl⟩
  cases hf with
  | control => exact ⟨rfl, .inr rfl⟩
  | fill | idle | rexmit | new => exact ⟨rfl, .inl rfl⟩

lemma nextFrameWithPayload_receiver {s s' : Rlp3Session} {allow : Bool}
    {bits : Bits} (h : s.nextFrameWithPayload rate allow = some (s', bits)) :
    (s.state = .dataTransfer → s'.state = .dataTransfer) ∧ (s'.toReceiver = s.toReceiver ∨
      s'.toReceiver = { s.toReceiver with pendingControls := s.pendingControls.dropLast }) ∨
    s'.state ≠ .dataTransfer ∧ s'.toReceiver = {} := by
  by_cases hun : s.state = .uninitialized
  · -- the first call of a session
    rw [nextFrameWithPayload, ensureInitialized, if_pos hun] at h
    obtain ⟨rfl, -⟩ := encodeOrEmpty_some h
    exact .inr ⟨by simp [initializeSession], rfl⟩
  rw [nextFrameWithPayload, ensureInitialized, if_neg hun] at h
  dsimp only at h
  refine .inl ?_
  split at h
  any_goals
    obtain ⟨rfl, -⟩ := encodeOrEmpty_some h
    exact ⟨id, .inl rfl⟩
  · cases h
  · split at h
    · obtain ⟨hs, hr⟩ := buildDataFrame_receiver h
      exact ⟨fun _ => hs, hr⟩
    · obtain ⟨rfl, -⟩ := encodeOrEmpty_some h
      exact ⟨id, .inl rfl⟩
  · grind [buildDataFrame_receiver]

lemma supplementalNew_receiver {s s' : Rlp3Session} {b c d : ℕ} {block : Option Bits}
    (h : s.supplementalNew b c d = some (s', block)) :
    s'.toReceiver = s.toReceiver ∧ s'.state = s.state := by grind [supplementalNew]

lemma supplementalRexmit_receiver {s s' : Rlp3Session} {e : RexmitEntry}
    {block : Option Bits} (h : s.supplementalRexmit b c d e = some (s', block)) :
    s'.toReceiver = s.toReceiver ∧ s'.state = s.state := by
  unfold supplementalRexmit at h
  split at h <;> grind

lemma nextSupplementalFrame_receiver {s s' : Rlp3Session} {size : ℕ} {block : Option Bits}
    (h : s.nextSupplementalFrame size = some (s', block)) :
    s'.toReceiver = s.toReceiver ∧ s'.state = s.state := by
  unfold nextSupplementalFrame at h
  split at h
  · split at h
    · cases h; exact ⟨rfl, rfl⟩
    split at h
    · split at h
      · cases h; exact ⟨rfl, rfl⟩
      · have hr := supplementalRexmit_receiver h
        exact hr
    · exact supplementalNew_receiver h
  · cases h; exact ⟨rfl, rfl⟩

/-- **What a call can do to the receiver.** -/
theorem step_receiver {s s' : Rlp3Session} {op : Op} {out : Out} (h : s.step op = some (s', out)) :
    ReceiverStep s op s' out := by
  have hn : ∀ {rate allow bits op}, s.arrival op = none → s.nextFrameWithPayload rate allow = some (s', bits) →
      ReceiverStep s op s' (.frame bits) := by
    intro rate allow bits op ha h
    rcases nextFrameWithPayload_receiver h with ⟨hst, hr | hr⟩ | ⟨hst, hr⟩
    · exact .keep ha hst ⟨rfl, rfl⟩ hr
    · exact .pop ha hst ⟨rfl, rfl⟩ hr
    · exact .reset ha hst hr (.inl ⟨rfl, rfl⟩)
  cases op with
  | initializeSession =>
    cases h
    exact .reset rfl (by simp [initializeSession]) rfl (.inl ⟨rfl, rfl⟩)
  | sendData =>
    cases h
    exact .keep rfl id ⟨rfl, rfl⟩ rfl
  | receiveData =>
    cases h
    unfold receiveData
    split
    · exact .keep rfl id ⟨rfl, rfl⟩ rfl
    · exact .take rfl id rfl rfl rfl
  | receiveFrame =>
    obtain ⟨⟨t, events⟩, hf, h⟩ := map_eq_some_iff.1 h
    cases h
    exact receiveFrame_receiver hf
  | nextFrame | nextFrameControlOnly =>
    obtain ⟨⟨t, bits⟩, hf, h⟩ := map_eq_some_iff.1 h
    cases h
    exact hn rfl hf
  | nextSupplementalFrame =>
    obtain ⟨⟨t, block⟩, hf, h⟩ := map_eq_some_iff.1 h
    cases h
    obtain ⟨hr, hs⟩ := nextSupplementalFrame_receiver hf
    exact .keep rfl (fun hst => hs.trans hst) ⟨rfl, rfl⟩ hr

end Rlp3Session

end OneXBts.Packet.Rlp3
