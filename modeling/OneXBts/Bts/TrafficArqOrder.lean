import OneXBts.Bts.TrafficArqWindow

/-!
What the traffic ARQ transmits: deferred SDUs in order, and retransmissions.

An acknowledgement that makes room sends from the front of the queue; a tick that gives up a PDU makes room too, but sends
nothing, so that the next SDU overtakes the queue. A retransmission repeats the type, the number and the body; the
acknowledgement in it is the last number that the mobile has acknowledged.
-/

namespace OneXBts.Bts.TrafficLac

open Lib Common Bts.Lac TrafficChannelArqState List

variable {state state' : TrafficChannelArqState} {events : List TrafficLacEvent} {c : Call}
  {config : TrafficArqConfig} {log : List (Call × List TrafficLacEvent)}

/-! ### The history of a run -/

def submissions (log : List (Call × List TrafficLacEvent)) : List DeferredSend := log.flatMap fun entry => entry.1.submitted

def firstTransmissions (log : List (Call × List TrafficLacEvent)) : List (List Bits) :=
  log.flatMap fun entry => entry.1.firstFrames entry.2

lemma submissions_snoc (log : List (Call × List TrafficLacEvent)) (c : Call) (events : List TrafficLacEvent) :
    submissions (log ++ [(c, events)]) = submissions log ++ c.submitted := by simp [submissions]

lemma firstTransmissions_snoc (log : List (Call × List TrafficLacEvent)) (c : Call) (events : List TrafficLacEvent) :
    firstTransmissions (log ++ [(c, events)]) = firstTransmissions log ++ c.firstFrames events := by
  simp [firstTransmissions]

def firstSeq : Fin 8 := (new {}).forwardMsgSeqAck

lemma numbered_append (seq : Fin 8) (sdus sdus' : List DeferredSend) :
    numbered seq (sdus ++ sdus') = numbered seq sdus ++ numbered (nextSeq^[sdus.length] seq) sdus' := by
  induction sdus generalizing seq with
  | nil => rfl
  | cons sdu sdus ih =>
    rw [cons_append, numbered, ih, numbered, cons_append, length_cons, Function.iterate_succ_apply]

/-! ### Deferred SDUs -/

def NotStranded (state : TrafficChannelArqState) : Prop :=
  state.deferredSends ≠ [] → state.pendingRetries.length = fdschMaxOutstanding

def GivesUpNone (state : TrafficChannelArqState) : Call → Prop
  | .tickRetries now => state.deferredSends ≠ [] → ∀ entry ∈ state.pendingRetries, (state.tickEntry now entry).1 ≠ none
  | _ => True

/-- The assured SDUs are transmitted in the order in which they were submitted, with consecutive numbers; those that are
not yet transmitted wait. -/
def InOrder (state : TrafficChannelArqState) (log : List (Call × List TrafficLacEvent)) : Prop :=
  ∃ sent, sent ++ state.deferredSends = submissions log ∧
    firstTransmissions log = (numbered firstSeq sent).map assuredFrames

/-- **One call.** SDUs are stranded exactly by a tick that gives up a PDU while they wait. -/
theorem notStranded_call_iff (hs : Sound state) (hnot : NotStranded state) (h : call state c = some (state', events)) :
    NotStranded state' ↔ GivesUpNone state c := by
  obtain ⟨hst, -, hde⟩ := call_starts hs.assured h
  have hl := hst.length
  have hb := (hs.call h).bounded
  unfold NotStranded at hnot ⊢
  cases c with
  | submitL3Sdu =>
    refine ⟨fun _ => trivial, fun _ hw => ?_⟩
    rcases hde with hq | ⟨-, hr, -, hq⟩
    · -- what is submitted is deferred if the window is full
      rw [Call.kept] at hl
      by_cases hf : state.pendingRetries.length < fdschMaxOutstanding
      · grind [Call.started, length_append, length_eq_zero_iff]
      · omega
    · exact absurd (hnot (hq ▸ hw)) (by omega)
  | onReverseAckSeq clock ackSeq =>
    refine ⟨fun _ => trivial, fun _ hw => ?_⟩
    rcases hde with hq | ⟨hne, -⟩
    · rw [Call.started] at hl hq
      split_ifs at hl hq with hany
      · -- more wait than there was room for
        have hlen := congrArg List.length hq
        have hpos := length_pos_iff.2 hw
        simp only [length_append, length_take, Call.submitted, length_nil] at hlen hl
        omega
      · have hk : Call.kept state (.onReverseAckSeq clock ackSeq) = state.pendingRetries := by
          rw [Call.kept, filter_eq_self]
          grind
        grind [Call.submitted]
    · exact absurd rfl hne
  | tickRetries =>
    grind [Option.ne_none_iff_isSome, filterMap_length_eq_length, GivesUpNone, Call.kept,
      Call.started, Call.submitted]

structure Ordered (state : TrafficChannelArqState) (log : List (Call × List TrafficLacEvent)) : Prop where
  sound : Sound state
  notStranded : NotStranded state
  sent : ∃ sent, sent ++ state.deferredSends = submissions log ∧
    firstTransmissions log = (numbered firstSeq sent).map assuredFrames ∧
    state.forwardMsgSeqAck = nextSeq^[sent.length] firstSeq

lemma Ordered.call (ho : Ordered state log) (hg : GivesUpNone state c)
    (h : call state c = some (state', events)) : Ordered state' (log ++ [(c, events)]) := by
  obtain ⟨hs, hnot, sent, hse, hf, hc⟩ := ho
  obtain ⟨hst, hfr, hde⟩ := call_starts hs.assured h
  refine ⟨hs.call h, (notStranded_call_iff hs hnot h).2 hg, sent ++ c.started state, ?_, ?_, ?_⟩
  · rw [submissions_snoc, ← hse, append_assoc, append_assoc]
    rcases hde with hq | ⟨-, hr, hsta, hq⟩
    · rw [hq]
    -- an SDU that is sent at once has nothing to overtake
    have he : state.deferredSends = [] := by
      by_contra hne
      have := hnot hne
      omega
    rw [hq, he, hsta, append_nil, nil_append]
  · rw [firstTransmissions_snoc, hf, hfr, numbered_append, map_append, hc]
  · rw [hst.counter, hc, length_append, Nat.add_comm, Function.iterate_add_apply]

lemma ordered_of_run (hrun : Run (guarded call GivesUpNone) (new config) state log) : Ordered state log :=
  hrun.inv Ordered
    ⟨⟨Nat.zero_le _, fun _ h => absurd h not_mem_nil⟩, fun h => absurd rfl h, [], rfl, rfl, rfl⟩
    fun _ _ _ _ _ ho hs => ho.call hs.1 hs.2

/-- **Deferred SDUs.** In all states of a run SDUs wait only while four PDUs are outstanding, and the assured SDUs are
transmitted in the order in which they were submitted, exactly if no tick of the run gives up a PDU while SDUs wait. -/
theorem deferred_in_order_iff (config : TrafficArqConfig) (state : TrafficChannelArqState)
    (log : List (Call × List TrafficLacEvent)) :
    (Run (keeping (steps call) NotStranded) (new config) state log ∧ InOrder state log) ↔
      Run (guarded call GivesUpNone) (new config) state log := by
  have hiff : Run (keeping (steps call) NotStranded) (new config) state log ↔
      Run (guarded call GivesUpNone) (new config) state log :=
    Run.keeping_iff (fun h => absurd rfl h) fun _ _ _ _ _ hrun hnot h => notStranded_call_iff (sound_of_run hrun) hnot h
  refine ⟨fun h => hiff.1 h.1, fun h => ⟨hiff.2 h, ?_⟩⟩
  obtain ⟨sent, hs, hf, -⟩ := (ordered_of_run h).sent
  exact ⟨sent, hs, hf⟩

def tickAt (seconds : ℕ) : Call := .tickRetries (seconds * 1000000000)

/-- The four PDUs of the window are given up after six timeouts: the fifth SDU stays deferred with no PDU outstanding, and
the sixth, when it is submitted, is transmitted before it. -/
theorem deferred_overtaken :
    (∃ state log, Run (steps call) (new {}) state log ∧ state.deferredSends.map (·.correlationId) = [4] ∧
      state.pendingRetries = []) ∧
    ∃ state log, Run (steps call) (new {}) state log ∧ state.deferredSends.map (·.correlationId) = [4] ∧
      state.pendingRetries.map (·.correlationId) = [5] :=
  ⟨exists_run call (fun _ _ => True) (new {}) ([0, 1, 2, 3, 4].map submitOrder ++ [3, 6, 9, 12, 15, 18].map tickAt)
      (fun state _ => state.deferredSends.map (·.correlationId) = [4] ∧ state.pendingRetries = []) (by decide +kernel),
    exists_run call (fun _ _ => True) (new {})
      ([0, 1, 2, 3, 4].map submitOrder ++ [3, 6, 9, 12, 15, 18].map tickAt ++ [submitOrder 5])
      (fun state _ => state.deferredSends.map (·.correlationId) = [4] ∧
        state.pendingRetries.map (·.correlationId) = [5]) (by decide +kernel)⟩

/-! ### Retransmissions -/

def identityOf (sdu : DeferredSend × Fin 8) : UInt32 × Fin 8 × UInt8 × Bits :=
  (sdu.1.correlationId, sdu.2, sdu.1.wireMsgType, sdu.1.sduBody)

def lastReverse (log : List (Call × List TrafficLacEvent)) : UInt8 :=
  log.foldl (fun last entry => entry.1.reverse.getD last) 0

def Call.ackSeq? : Call → Option UInt8
  | submitL3Sdu _ _ _ ackSeq _ _ => some ackSeq
  | _ => none

def ackSeqs (log : List (Call × List TrafficLacEvent)) : List UInt8 := log.filterMap fun entry => entry.1.ackSeq?

structure Traced (state : TrafficChannelArqState) (log : List (Call × List TrafficLacEvent)) : Prop where
  sound : Sound state
  queue : ∀ sdu ∈ state.deferredSends, sdu ∈ submissions log
  sent : ∃ sent : List (DeferredSend × Fin 8), firstTransmissions log = sent.map assuredFrames ∧ (∀ sdu ∈ sent, sdu.1 ∈ submissions log) ∧
    (state.pendingRetries.map PendingRetry.identity).Sublist (sent.map identityOf)
  reverse : state.currentReverseAckSeq = lastReverse log

lemma mem_numbered (h : sdu ∈ numbered seq sdus) :
    sdu.1 ∈ sdus := by induction sdus generalizing seq <;> grind [numbered]

lemma identity_of_isEntryOf
    (h : List.Forall₂ IsEntryOf sdus es) : es.map PendingRetry.identity = sdus.map identityOf := by
  induction h with
  | nil => rfl
  | cons he _ ih =>
    obtain ⟨now, rfl⟩ := he
    rw [map_cons, ih]
    rfl

lemma Traced.call (ht : Traced state log) (h : call state c = some (state', events)) :
    Traced state' (log ++ [(c, events)]) := by
  obtain ⟨hs, hq, ⟨sent, hf, hsu, hp⟩, hr⟩ := ht
  obtain ⟨⟨-, es, he, hp'⟩, hfr, hde⟩ := call_starts hs.assured h
  -- what is started or deferred was waiting or has just been submitted
  have hso : ∀ sdu, sdu ∈ c.started state ∨ sdu ∈ state'.deferredSends → sdu ∈ submissions (log ++ [(c, events)]) := by
    intro sdu hsdu
    rw [submissions_snoc]
    grind
  refine ⟨hs.call h, fun sdu hsdu => hso sdu (.inr hsdu), ⟨sent ++ numbered state.forwardMsgSeqAck (c.started state),
    ?_, ?_, ?_⟩, ?_⟩
  · rw [firstTransmissions_snoc, hf, hfr, map_append]
  · intro sdu hsdu
    grind [submissions_snoc, mem_numbered]
  · rw [hp', map_append, map_append, identity_of_isEntryOf he]
    exact ((identity_kept_sublist state c).trans hp).append (List.Sublist.refl _)
  · rw [call_reverse h hs.assured, hr, lastReverse, lastReverse, foldl_append]
    rfl

lemma traced_of_run (hrun : Run (steps call) (new config) state log) : Traced state log :=
  hrun.inv Traced
    ⟨⟨Nat.zero_le _, fun _ h => absurd h not_mem_nil⟩, fun _ h => absurd h not_mem_nil,
      ⟨[], rfl, fun _ h => absurd h not_mem_nil, .slnil⟩, rfl⟩
    fun _ _ _ _ _ ht hs => ht.call hs.2

def retransmittedPdu (reverseAckSeq : UInt8) (sdu : DeferredSend × Fin 8) : Bits :=
  assembleFDschPdu sdu.1.wireMsgType sdu.1.sduBody reverseAckSeq (UInt8.ofNat sdu.2.val) true

def ackSeqField (pdu : Bits) : Bits := (pdu.drop 8).take 3

lemma frames_tickRetries (state : TrafficChannelArqState) (now : ℕ) :
    ∃ es : List PendingRetry, es.Sublist state.pendingRetries ∧
      (state.tickRetries now).2.filterMap TrafficLacEvent.frames? = es.map fun entry =>
        framesOf entry.wireMsgType entry.sduBody state.currentReverseAckSeq entry.msgSeq true := by
  unfold tickRetries
  dsimp only
  induction state.pendingRetries with
  | nil => exact ⟨[], .slnil, rfl⟩
  | cons entry es ih =>
    obtain ⟨rest, hrest, hf⟩ := ih
    rw [filterMap_cons]
    by_cases he : now - entry.lastTxAt < state.ackTimeout
    · rw [tickEntry, if_pos he]
      exact ⟨rest, hrest.cons _, hf⟩
    by_cases hl : entry.retryCount ≥ state.maxRetries
    · rw [tickEntry, if_neg he, if_pos hl]
      exact ⟨rest, hrest.cons _, hf⟩
    · rw [tickEntry, if_neg he, if_neg hl]
      exact ⟨entry :: rest, hrest.cons_cons _, by rw [map_cons, ← hf]; rfl⟩

lemma ackSeqField_assembleFDschPdu (wireMsgType : UInt8) (sduBody : Bits) (ackSeq msgSeq : UInt8) (ackReq : Bool) :
    ackSeqField (assembleFDschPdu wireMsgType sduBody ackSeq msgSeq ackReq) = writeU64 ackSeq.toNat 3 := by
  have hf : ∀ rest : Bits, ackSeqField (writeU64 wireMsgType.toNat 8 ++ (writeU64 ackSeq.toNat 3 ++ rest)) =
      writeU64 ackSeq.toNat 3 := by simp [ackSeqField, writeU64_of_le]
  unfold assembleFDschPdu
  dsimp only
  split_ifs <;> simp only [append_assoc] <;> exact hf _

/-- **Retransmissions.** In every run, the PDUs that a tick retransmits are those of some of the assured SDUs that were
transmitted before, each with the type, number, ACK_REQ and body of its first transmission. The ACK_SEQ field is one that
was submitted with an SDU exactly if the last number that the mobile acknowledged happens to agree with one. -/
theorem retransmission_repeats (hrun : Run (steps call) (new config) state log) (now : ℕ) :
    ∃ sent retransmitted : List (DeferredSend × Fin 8),
      firstTransmissions log = sent.map assuredFrames ∧ (∀ sdu ∈ sent, sdu.1 ∈ submissions log) ∧
      retransmitted.Sublist sent ∧
      (state.tickRetries now).2.filterMap TrafficLacEvent.frames? =
        retransmitted.map (fun sdu => sarFragmentFtchPduDsch (retransmittedPdu (lastReverse log) sdu)) ∧
      ∀ sdu ∈ retransmitted,
        (∃ ackSeq ∈ ackSeqs log, ackSeqField (retransmittedPdu (lastReverse log) sdu) = writeU64 ackSeq.toNat 3) ↔
          ∃ ackSeq ∈ ackSeqs log, ackSeq.toNat % 8 = (lastReverse log).toNat % 8 := by
  obtain ⟨-, -, ⟨sent, hf, hs, hp⟩, hr⟩ := traced_of_run hrun
  obtain ⟨entries, he, hfr⟩ := frames_tickRetries state now
  obtain ⟨retransmitted, hsub, hid⟩ := sublist_map_iff.1 ((he.map PendingRetry.identity).trans hp)
  refine ⟨sent, retransmitted, hf, hs, hsub, ?_, fun sdu _ => ?_⟩
  · -- the frames are made of what does not change, and the acknowledgement
    have hen : entries.map (fun entry =>
          framesOf entry.wireMsgType entry.sduBody state.currentReverseAckSeq entry.msgSeq true) =
        (entries.map PendingRetry.identity).map fun identity =>
          framesOf identity.2.2.1 identity.2.2.2 state.currentReverseAckSeq identity.2.1 true := by
      rw [map_map]
      rfl
    rw [hfr, hen, hid, map_map, hr]
    rfl
  · rw [retransmittedPdu, ackSeqField_assembleFDschPdu]
    refine exists_congr fun ackSeq => and_congr_right fun _ => ?_
    rw [writeU64_of_le (by decide), writeU64_of_le (by decide), msb_eq_msb_iff]
    exact eq_comm

/-- The order is submitted with the acknowledgement of message 7, and the mobile then acknowledges number 15. -/
theorem retransmission_repeats_order :
    ∃ state log, Run (steps call) (new {}) state log ∧ ∃ sdu : DeferredSend × Fin 8, sdu.1 ∈ submissions log ∧
      (state.tickRetries 3000000000).2.filterMap TrafficLacEvent.frames? =
        [sarFragmentFtchPduDsch (retransmittedPdu (lastReverse log) sdu)] ∧
      ∃ ackSeq ∈ ackSeqs log, ackSeqField (retransmittedPdu (lastReverse log) sdu) = writeU64 ackSeq.toNat 3 := by
  obtain ⟨state, log, hrun, ha, hl, hone⟩ := exists_run call (fun _ _ => True) (new {})
    [submitOrder 0, acknowledge 15]
    (fun state log => ackSeqs log = [7] ∧ lastReverse log = 15 ∧
      ((state.tickRetries 3000000000).2.filterMap TrafficLacEvent.frames?).length = 1) (by decide +kernel)
  obtain ⟨sent, retransmitted, -, hs, hsub, hf, hfi⟩ := retransmission_repeats hrun 3000000000
  rw [hf, length_map] at hone
  obtain ⟨sdu, rfl⟩ := length_eq_one_iff.1 hone
  refine ⟨state, log, hrun, sdu, hs sdu (hsub.subset (mem_singleton_self _)), hf, ?_⟩
  refine (hfi sdu (mem_singleton_self _)).2 ⟨7, ?_, ?_⟩
  · rw [ha]
    exact mem_singleton_self _
  · rw [hl]
    rfl

/-- After the mobile has acknowledged number 3, the order is retransmitted with the acknowledgement of message 3, where only
that of message 7 was submitted. -/
theorem retransmission_acknowledges :
    ∃ state log, Run (steps call) (new {}) state log ∧ ackSeqs log = [7] ∧ (state.tickRetries 3000000000).2 =
        [.framesReady (sarFragmentFtchPduDsch (assembleFDschPdu 0x01 [1, 0, 1] 3 0 true))] ∧
      ackSeqField (assembleFDschPdu 0x01 [1, 0, 1] 3 0 true) = [0, 1, 1] :=
  exists_run call (fun _ _ => True) (new {}) [submitOrder 0, acknowledge 3]
    (fun state log => ackSeqs log = [7] ∧ (state.tickRetries 3000000000).2 =
        [.framesReady (sarFragmentFtchPduDsch (assembleFDschPdu 0x01 [1, 0, 1] 3 0 true))] ∧
      ackSeqField (assembleFDschPdu 0x01 [1, 0, 1] 3 0 true) = [0, 1, 1]) (by decide +kernel)

end OneXBts.Bts.TrafficLac
