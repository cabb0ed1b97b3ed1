import OneXBts.Bts.DedicatedSar
import OneXBts.Lib.Runs

/-!
ARQ on the forward traffic channel (`traffic_lac.rs`).

An SDU to be acknowledged is numbered modulo 8, sent, and kept until its number is acknowledged or it has been sent too often;
while four are kept, further ones wait. Times are in nanoseconds, and each send reads the clock.
-/

namespace OneXBts.Bts.TrafficLac

open Lib Common Bts.Lac List

def fdschMaxOutstanding : ℕ := 4

def t3mCooldown : ℕ := 320000000

inductive TrafficLacEvent where
  | framesReady (frames : List Bits)
  | delivered (correlationId : UInt32)
  | failed (correlationId : UInt32)
  deriving DecidableEq

structure PendingRetry where
  correlationId : UInt32
  msgSeq : Fin 8
  wireMsgType : UInt8
  sduBody : Bits
  firstTxAt : ℕ
  lastTxAt : ℕ
  retryCount : ℕ
  deriving DecidableEq

structure DeferredSend where
  correlationId : UInt32
  wireMsgType : UInt8
  sduBody : Bits
  ackSeq : UInt8
  ackReq : Bool
  deriving DecidableEq

structure TrafficArqConfig where
  /-- 3000 ms -/
  ackTimeout : ℕ := 3000000000
  maxRetries : ℕ := 5

structure TrafficChannelArqState where
  forwardMsgSeqAck : Fin 8
  forwardMsgSeqNoack : Fin 8
  noackSeqLastUsed : Fin 8 → Option ℕ
  pendingRetries : List PendingRetry
  deferredSends : List DeferredSend
  ackTimeout : ℕ
  maxRetries : ℕ
  currentReverseAckSeq : UInt8

def PendingRetry.acked (ackSeq : UInt8) (entry : PendingRetry) : Bool := entry.msgSeq.val = ackSeq.toNat

namespace TrafficChannelArqState

def new (config : TrafficArqConfig) : TrafficChannelArqState where
  forwardMsgSeqAck := ⟨0, Nat.succ_pos 7⟩
  forwardMsgSeqNoack := ⟨0, Nat.succ_pos 7⟩
  noackSeqLastUsed := fun _ => none
  pendingRetries := []
  deferredSends := []
  ackTimeout := config.ackTimeout
  maxRetries := config.maxRetries
  currentReverseAckSeq := 0

def nextSeq (seq : Fin 8) : Fin 8 := ⟨(seq.val + 1) % 8, Nat.mod_lt _ (Nat.succ_pos 7)⟩

def skipCooling (lastUsed : Fin 8 → Option ℕ) (now : ℕ) : ℕ → Fin 8 → Fin 8
  | 0, seq => seq
  | tries + 1, seq =>
    match lastUsed seq with
    | some last => if now - last < t3mCooldown then skipCooling lastUsed now tries (nextSeq seq) else seq
    | none => seq

def nextForwardMsgSeq (state : TrafficChannelArqState) (now : ℕ) (ackReq : Bool) : Fin 8 × TrafficChannelArqState :=
  if ackReq then (state.forwardMsgSeqAck, { state with forwardMsgSeqAck := nextSeq state.forwardMsgSeqAck })
  else
    let seq := skipCooling state.noackSeqLastUsed now 8 state.forwardMsgSeqNoack
    (seq, { state with
      noackSeqLastUsed := Function.update state.noackSeqLastUsed seq (some now)
      forwardMsgSeqNoack := nextSeq seq })

def framesOf (wireMsgType : UInt8) (sduBody : Bits) (ackSeq : UInt8) (msgSeq : Fin 8) (ackReq : Bool) : List Bits :=
  sarFragmentFtchPduDsch (assembleFDschPdu wireMsgType sduBody ackSeq (UInt8.ofNat msgSeq.val) ackReq)

def sendSdu (state : TrafficChannelArqState) (now : ℕ) (wireMsgType : UInt8) (sduBody : Bits) (ackSeq : UInt8)
    (ackReq : Bool) (correlationId : UInt32) : TrafficChannelArqState × List TrafficLacEvent :=
  let (msgSeq, state) := state.nextForwardMsgSeq now ackReq
  let frames := framesOf wireMsgType sduBody ackSeq msgSeq ackReq
  let state :=
    if ackReq then
      { state with pendingRetries := state.pendingRetries ++
          [{ correlationId, msgSeq, wireMsgType, sduBody, firstTxAt := now, lastTxAt := now, retryCount := 0 }] }
    else state
  (state, [.framesReady frames])

def submitL3Sdu (state : TrafficChannelArqState) (now : ℕ) (wireMsgType : UInt8) (sduBody : Bits) (ackSeq : UInt8)
    (ackReq : Bool) (correlationId : UInt32) : TrafficChannelArqState × List TrafficLacEvent :=
  if ackReq ∧ state.pendingRetries.length ≥ fdschMaxOutstanding then
    ({ state with deferredSends := state.deferredSends ++
        [{ correlationId, wireMsgType, sduBody, ackSeq, ackReq }] }, [])
  else state.sendSdu now wireMsgType sduBody ackSeq ackReq correlationId

/-- `flush_deferred` with the queue as it is: send from its front while there is room. -/
def flushQueue (clock : ℕ → ℕ) : List DeferredSend → TrafficChannelArqState → TrafficChannelArqState × List TrafficLacEvent
  | [], state => ({ state with deferredSends := [] }, [])
  | deferred :: queue, state =>
    if state.pendingRetries.length < fdschMaxOutstanding then
      let sent := state.sendSdu (clock queue.length) deferred.wireMsgType deferred.sduBody deferred.ackSeq deferred.ackReq
        deferred.correlationId
      let flushed := flushQueue clock queue sent.1
      (flushed.1, sent.2 ++ flushed.2)
    else ({ state with deferredSends := deferred :: queue }, [])

def flushDeferred (state : TrafficChannelArqState) (clock : ℕ → ℕ) : TrafficChannelArqState × List TrafficLacEvent :=
  flushQueue clock state.deferredSends state

def onReverseAckSeq (state : TrafficChannelArqState) (clock : ℕ → ℕ) (ackSeq : UInt8) :
    TrafficChannelArqState × List TrafficLacEvent :=
  let events := (state.pendingRetries.filter (PendingRetry.acked ackSeq)).map fun entry =>
    TrafficLacEvent.delivered entry.correlationId
  let state := { state with
    currentReverseAckSeq := ackSeq
    pendingRetries := state.pendingRetries.filter fun entry => !PendingRetry.acked ackSeq entry }
  if events.isEmpty then (state, events)
  else
    let flushed := state.flushDeferred clock
    (flushed.1, events ++ flushed.2)

def tickEntry (state : TrafficChannelArqState) (now : ℕ) (entry : PendingRetry) :
    Option PendingRetry × Option TrafficLacEvent :=
  if now - entry.lastTxAt < state.ackTimeout then (some entry, none)
  else if entry.retryCount ≥ state.maxRetries then (none, some (.failed entry.correlationId))
  else
    (some { entry with retryCount := entry.retryCount + 1, lastTxAt := now },
      some (.framesReady (framesOf entry.wireMsgType entry.sduBody state.currentReverseAckSeq entry.msgSeq true)))

def tickRetries (state : TrafficChannelArqState) (now : ℕ) : TrafficChannelArqState × List TrafficLacEvent :=
  ({ state with pendingRetries := state.pendingRetries.filterMap fun entry => (state.tickEntry now entry).1 },
    state.pendingRetries.filterMap fun entry => (state.tickEntry now entry).2)

end TrafficChannelArqState

/-! ### Calls -/

/-- The calls, with the times that are read in them. -/
inductive Call where
  | submitL3Sdu (now : ℕ) (wireMsgType : UInt8) (sduBody : Bits) (ackSeq : UInt8) (ackReq : Bool) (correlationId : UInt32)
  | onReverseAckSeq (clock : ℕ → ℕ) (ackSeq : UInt8)
  | tickRetries (now : ℕ)

def call (state : TrafficChannelArqState) : Call → Option (TrafficChannelArqState × List TrafficLacEvent)
  | .submitL3Sdu now wireMsgType sduBody ackSeq ackReq correlationId =>
    some (state.submitL3Sdu now wireMsgType sduBody ackSeq ackReq correlationId)
  | .onReverseAckSeq clock ackSeq => some (state.onReverseAckSeq clock ackSeq)
  | .tickRetries now => some (state.tickRetries now)

def TrafficLacEvent.frames? : TrafficLacEvent → Option (List Bits)
  | .framesReady frames => some frames
  | _ => none

namespace Call

def submitted : Call → List DeferredSend
  | submitL3Sdu _ wireMsgType sduBody ackSeq true correlationId => [⟨correlationId, wireMsgType, sduBody, ackSeq, true⟩]
  | _ => []

def reverse : Call → Option UInt8
  | onReverseAckSeq _ ackSeq => some ackSeq
  | _ => none

def kept (state : TrafficChannelArqState) : Call → List PendingRetry
  | submitL3Sdu .. => state.pendingRetries
  | onReverseAckSeq _ ackSeq => state.pendingRetries.filter fun entry => !entry.acked ackSeq
  | tickRetries now => state.pendingRetries.filterMap fun entry => (state.tickEntry now entry).1

def started (state : TrafficChannelArqState) (c : Call) : List DeferredSend :=
  match c with
  | submitL3Sdu .. => if state.pendingRetries.length < fdschMaxOutstanding then c.submitted else []
  | onReverseAckSeq _ ackSeq =>
    if state.pendingRetries.any (PendingRetry.acked ackSeq) then
      state.deferredSends.take (fdschMaxOutstanding - (c.kept state).length)
    else []
  | tickRetries _ => []

def firstFrames (c : Call) (events : List TrafficLacEvent) : List (List Bits) :=
  match c with
  | submitL3Sdu _ _ _ _ true _ | onReverseAckSeq .. => events.filterMap TrafficLacEvent.frames?
  | _ => []

end Call

/-! ### What a call does -/

section Steps

open TrafficChannelArqState

variable {state state' : TrafficChannelArqState} {events : List TrafficLacEvent}

def numbered : Fin 8 → List DeferredSend → List (DeferredSend × Fin 8)
  | _, [] => []
  | seq, sdu :: sdus => (sdu, seq) :: numbered (nextSeq seq) sdus

def assuredFrames (sdu : DeferredSend × Fin 8) : List Bits :=
  framesOf sdu.1.wireMsgType sdu.1.sduBody sdu.1.ackSeq sdu.2 true

def entryOf (now : ℕ) (sdu : DeferredSend × Fin 8) : PendingRetry where
  correlationId := sdu.1.correlationId
  msgSeq := sdu.2
  wireMsgType := sdu.1.wireMsgType
  sduBody := sdu.1.sduBody
  firstTxAt := now
  lastTxAt := now
  retryCount := 0

def IsEntryOf (sdu : DeferredSend × Fin 8) (entry : PendingRetry) : Prop := ∃ now, entry = entryOf now sdu

/-- What numbering and transmitting some SDUs leads to. -/
structure Starts (state : TrafficChannelArqState) (kept : List PendingRetry) (sdus : List DeferredSend)
    (state' : TrafficChannelArqState) : Prop where
  counter : state'.forwardMsgSeqAck = nextSeq^[sdus.length] state.forwardMsgSeqAck
  pending : ∃ entries, List.Forall₂ IsEntryOf (numbered state.forwardMsgSeqAck sdus) entries ∧
    state'.pendingRetries = kept ++ entries

lemma sendSdu_assured (state : TrafficChannelArqState) (now : ℕ) (sdu : DeferredSend) :
    state.sendSdu now sdu.wireMsgType sdu.sduBody sdu.ackSeq true sdu.correlationId = ({ state with
          forwardMsgSeqAck := nextSeq state.forwardMsgSeqAck
          pendingRetries := state.pendingRetries ++ [entryOf now (sdu, state.forwardMsgSeqAck)] },
        [.framesReady (assuredFrames (sdu, state.forwardMsgSeqAck))]) := rfl

lemma flushQueue_spec (clock : ℕ → ℕ) (queue : List DeferredSend) (hq : ∀ sdu ∈ queue, sdu.ackReq = true)
    (state : TrafficChannelArqState) :
    Starts state state.pendingRetries (queue.take (fdschMaxOutstanding - state.pendingRetries.length))
      (flushQueue clock queue state).1 ∧
    (flushQueue clock queue state).1.deferredSends = queue.drop (fdschMaxOutstanding - state.pendingRetries.length) ∧
    (flushQueue clock queue state).1.currentReverseAckSeq = state.currentReverseAckSeq ∧
    (flushQueue clock queue state).2 =
      (numbered state.forwardMsgSeqAck (queue.take (fdschMaxOutstanding - state.pendingRetries.length))).map
        fun sdu => .framesReady (assuredFrames sdu) := by
  induction queue generalizing state with
  | nil =>
    simp only [take_nil, drop_nil]
    exact ⟨⟨rfl, [], .nil, (append_nil _).symm⟩, rfl, rfl, rfl⟩
  | cons sdu queue ih =>
    rw [flushQueue]
    by_cases hr : state.pendingRetries.length < fdschMaxOutstanding
    · have hack : sdu.ackReq = true := hq sdu mem_cons_self
      obtain ⟨⟨hc, es, he, hp⟩, hde, hre, hev⟩ :=
        ih (fun d hd => hq d (mem_cons_of_mem _ hd))
          (state.sendSdu (clock queue.length) sdu.wireMsgType sdu.sduBody sdu.ackSeq true sdu.correlationId).1
      rw [if_pos hr, hack]
      rw [sendSdu_assured] at hc he hp hde hre hev ⊢
      dsimp only at hc he hp hde hre hev ⊢
      rw [length_append, length_singleton] at hc he hde hev
      obtain ⟨room, hr'⟩ : ∃ room, fdschMaxOutstanding - state.pendingRetries.length = room + 1 :=
        ⟨fdschMaxOutstanding - state.pendingRetries.length - 1, by omega⟩
      rw [show fdschMaxOutstanding - (state.pendingRetries.length + 1) = room by omega] at hc he hde hev
      rw [hr', take_succ_cons]
      refine ⟨⟨?_, _, .cons ⟨clock queue.length, rfl⟩ he, ?_⟩, hde, hre, ?_⟩
      · rw [hc, length_cons, Function.iterate_succ_apply]
      · rw [hp, append_assoc, singleton_append]
      · rw [hev, numbered, map_cons, singleton_append]
    · rw [if_neg hr, Nat.sub_eq_zero_of_le (not_lt.1 hr)]
      exact ⟨⟨rfl, [], .nil, (append_nil _).symm⟩, rfl, rfl, rfl⟩

lemma filterMap_frames_framesReady (sdus : List (DeferredSend × Fin 8)) :
    (sdus.map fun sdu => TrafficLacEvent.framesReady (assuredFrames sdu)).filterMap TrafficLacEvent.frames? =
      sdus.map assuredFrames := by
  induction sdus with
  | nil => rfl
  | cons sdu sdus ih => rw [map_cons, filterMap_cons, ih]; rfl

lemma filterMap_frames_delivered (es : List PendingRetry) :
    (es.map fun entry => TrafficLacEvent.delivered entry.correlationId).filterMap TrafficLacEvent.frames? = [] := by
  simp [TrafficLacEvent.frames?]

/-- **What a call starts.** -/
theorem call_starts (hde : ∀ sdu ∈ state.deferredSends, sdu.ackReq = true) (h : call state c = some (state', events)) :
    Starts state (c.kept state) (c.started state) state' ∧
    c.firstFrames events = (numbered state.forwardMsgSeqAck (c.started state)).map assuredFrames ∧
    (c.started state ++ state'.deferredSends = state.deferredSends ++ c.submitted ∨
      (c.submitted ≠ [] ∧ state.pendingRetries.length < fdschMaxOutstanding ∧ c.started state = c.submitted ∧
        state'.deferredSends = state.deferredSends)) := by
  cases c with
  | submitL3Sdu now wireMsgType sduBody ackSeq ackReq correlationId =>
    cases ackReq with
    | false =>
      -- numbered on their own, and not kept
      cases h
      have hn : Call.started state (.submitL3Sdu now wireMsgType sduBody ackSeq false correlationId) = [] := by
        unfold Call.started
        split_ifs <;> rfl
      rw [hn]
      exact ⟨⟨rfl, [], .nil, (append_nil _).symm⟩, rfl, .inl (append_nil _).symm⟩
    | true =>
      by_cases hr : state.pendingRetries.length < fdschMaxOutstanding
      · have hs : Call.started state (.submitL3Sdu now wireMsgType sduBody ackSeq true correlationId) =
            [⟨correlationId, wireMsgType, sduBody, ackSeq, true⟩] := if_pos hr
        rw [call, submitL3Sdu, if_neg (by simpa using hr)] at h
        cases h
        rw [hs]
        exact ⟨⟨rfl, _, .cons ⟨now, rfl⟩ .nil, rfl⟩, rfl, .inr ⟨cons_ne_nil _ _, hr, rfl, rfl⟩⟩
      · have hs : Call.started state (.submitL3Sdu now wireMsgType sduBody ackSeq true correlationId) = [] :=
          if_neg hr
        rw [call, submitL3Sdu, if_pos (by simpa using hr)] at h
        cases h
        rw [hs]
        exact ⟨⟨rfl, [], .nil, (append_nil _).symm⟩, rfl, .inl rfl⟩
  | onReverseAckSeq clock ackSeq =>
    rw [call, Option.some_inj, onReverseAckSeq] at h
    dsimp only at h
    have hem : ((state.pendingRetries.filter (PendingRetry.acked ackSeq)).map fun entry =>
        TrafficLacEvent.delivered entry.correlationId).isEmpty = true ↔
        ¬state.pendingRetries.any (PendingRetry.acked ackSeq) = true := by simp
    by_cases hany : state.pendingRetries.any (PendingRetry.acked ackSeq) = true
    · rw [if_neg (fun he => hem.1 he hany)] at h
      have hsp := flushQueue_spec clock state.deferredSends hde { state with
        currentReverseAckSeq := ackSeq
        pendingRetries := state.pendingRetries.filter fun entry => !entry.acked ackSeq }
      obtain ⟨⟨hc, hp⟩, hq, -, hev⟩ := hsp
      have hs : Call.started state (.onReverseAckSeq clock ackSeq) = state.deferredSends.take
          (fdschMaxOutstanding - (Call.kept state (.onReverseAckSeq clock ackSeq)).length) := if_pos hany
      obtain ⟨rfl, rfl⟩ := Prod.mk.inj h
      rw [hs]
      refine ⟨⟨hc, hp⟩, ?_, .inl ?_⟩
      · rw [Call.firstFrames, filterMap_append, flushDeferred, hev, filterMap_frames_framesReady,
          filterMap_frames_delivered]
        rfl
      · rw [flushDeferred, hq]
        exact (take_append_drop _ _).trans (append_nil _).symm
    · rw [if_pos (hem.2 hany)] at h
      obtain ⟨rfl, rfl⟩ := Prod.mk.inj h
      have hs : Call.started state (.onReverseAckSeq clock ackSeq) = [] := if_neg hany
      rw [hs]
      exact ⟨⟨rfl, [], .nil, (append_nil _).symm⟩, filterMap_frames_delivered _, .inl (append_nil _).symm⟩
  | tickRetries now =>
    cases h
    exact ⟨⟨rfl, [], .nil, (append_nil _).symm⟩, rfl, .inl (append_nil _).symm⟩

def PendingRetry.identity (entry : PendingRetry) : UInt32 × Fin 8 × UInt8 × Bits :=
  (entry.correlationId, entry.msgSeq, entry.wireMsgType, entry.sduBody)

lemma identity_kept_sublist (state : TrafficChannelArqState) (c : Call) :
    ((c.kept state).map PendingRetry.identity).Sublist (state.pendingRetries.map PendingRetry.identity) := by
  cases c with
  | submitL3Sdu => exact List.Sublist.refl _
  | onReverseAckSeq => exact filter_sublist.map _
  | tickRetries now =>
    have hs : ∀ entry kept, (state.tickEntry now entry).1 = some kept → kept.identity = entry.identity := by
      intro entry kept h
      unfold tickEntry at h
      split_ifs at h <;> cases h <;> rfl
    rw [Call.kept]
    induction state.pendingRetries with
    | nil => exact .slnil
    | cons =>
      rw [filterMap_cons, map_cons]
      split <;> grind

lemma call_reverse (h : call state c = some (state', events)) (hde : ∀ sdu ∈ state.deferredSends, sdu.ackReq = true) :
    state'.currentReverseAckSeq = c.reverse.getD state.currentReverseAckSeq := by
  cases c with
  | submitL3Sdu now wireMsgType sduBody ackSeq ackReq =>
    rw [call, submitL3Sdu] at h
    split_ifs at h
    · cases h
      rfl
    · cases ackReq <;> cases h <;> rfl
  | onReverseAckSeq clock =>
    rw [call, Option.some_inj, onReverseAckSeq] at h
    split_ifs at h
    · cases h
      rfl
    · obtain ⟨rfl, -⟩ := Prod.mk.inj h
      exact (flushQueue_spec clock state.deferredSends hde _).2.2.1
  | tickRetries =>
    cases h
    rfl

end Steps

end OneXBts.Bts.TrafficLac
