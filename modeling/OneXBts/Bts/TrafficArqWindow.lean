import OneXBts.Bts.TrafficLac

/-!
The outstanding numbers of the traffic ARQ.

At most four PDUs are outstanding, with numbers among the last four as long as no number is assigned while the PDU four before
it is outstanding. Nothing in the code prevents that: acknowledgements out of order free places while the oldest PDU stays,
and after eight numbers two PDUs have the same one.
-/

namespace OneXBts.Bts.TrafficLac

open Lib TrafficChannelArqState List TrafficLacEvent PendingRetry

variable {state state' : TrafficChannelArqState} {events : List TrafficLacEvent} {c : Call}

/-! ### Every run -/

lemma length_kept_le (state : TrafficChannelArqState) (c : Call) :
    (c.kept state).length ≤ state.pendingRetries.length := by cases c <;> grind [Call.kept]

lemma length_started_le (state : TrafficChannelArqState) (c : Call) :
    c.started state = [] ∨ (c.kept state).length + (c.started state).length ≤ fdschMaxOutstanding := by
  cases c with
  | submitL3Sdu now _ _ ackSeq ackReq =>
    unfold Call.started
    split_ifs with hr
    · cases ackReq <;> simp [Call.submitted, Call.kept] <;> omega
    · exact .inl rfl
  | onReverseAckSeq clock ackSeq =>
    unfold Call.started
    dsimp only
    split_ifs with hany
    · by_cases hr : (Call.kept state (.onReverseAckSeq clock ackSeq)).length ≤ fdschMaxOutstanding
      · rw [length_take]
        omega
      · left
        rw [Nat.sub_eq_zero_of_le (by omega), take_zero]
    · exact .inl rfl
  | tickRetries => exact .inl rfl

structure Sound (state : TrafficChannelArqState) : Prop where
  bounded : state.pendingRetries.length ≤ fdschMaxOutstanding
  assured : ∀ sdu ∈ state.deferredSends, sdu.ackReq = true

lemma submitted_assured (c : Call) : ∀ sdu ∈ c.submitted, sdu.ackReq = true := by
  intro sdu hsdu
  unfold Call.submitted at hsdu
  grind

lemma Starts.length (h : Starts state kept sdus state') :
    state'.pendingRetries.length = kept.length + sdus.length := by
  have hn : ∀ (sdus : List DeferredSend) seq, (numbered seq sdus).length = sdus.length := by
    intro sdus
    induction sdus <;> grind [numbered]
  obtain ⟨es, he, hp⟩ := h.pending
  rw [hp, length_append, ← he.length_eq, hn]

lemma Sound.call (hs : Sound state) (h : call state c = some (state', events)) : Sound state' := by
  obtain ⟨hst, -, hde⟩ := call_starts hs.assured h
  have hb := hs.bounded
  have hk := length_kept_le state c
  constructor
  · rw [hst.length]
    rcases length_started_le state c with hnil | hle <;> grind
  intro sdu hsdu
  rcases hde with hq | ⟨-, -, -, hq⟩
  · have hmem : sdu ∈ state.deferredSends ++ c.submitted := by
      rw [← hq]
      exact mem_append_right _ hsdu
    grind [submitted_assured, cases Sound]
  · exact hs.assured sdu (hq ▸ hsdu)

lemma sound_of_run (hrun : Run (steps call) (new config) state log) : Sound state :=
  hrun.inv (fun state _ => Sound state) ⟨Nat.zero_le _, fun _ h => absurd h not_mem_nil⟩
    fun _ _ _ _ _ hso hs => hso.call hs.2

/-! ### Numbers -/

/-- How many numbers were assigned after this one, if it is one of the last eight. -/
def age (next seq : Fin 8) : ℕ := (next.val + 7 - seq.val) % 8

def outstanding (entries : List PendingRetry) : List (Fin 8) := entries.map (·.msgSeq)

/-- The outstanding numbers are different, and among the last four that were assigned. -/
def Windowed (state : TrafficChannelArqState) : Prop :=
  state.pendingRetries.length ≤ fdschMaxOutstanding ∧ (outstanding state.pendingRetries).Nodup ∧
    ∀ seq ∈ outstanding state.pendingRetries, age state.forwardMsgSeqAck seq < 4

instance : Decidable (Windowed state) := by unfold Windowed; infer_instance

/-- Whenever the call assigns a number, the PDU four before it is not outstanding. -/
def NumberFree (state : TrafficChannelArqState) (c : Call) : Prop :=
  ∀ k < (c.started state).length, ∀ seq ∈ outstanding (c.kept state),
    (seq.val + 4) % 8 ≠ (state.forwardMsgSeqAck.val + k) % 8

instance : Decidable (NumberFree state c) := by unfold NumberFree; infer_instance

lemma iterate_nextSeq (k : ℕ) (seq : Fin 8) : (nextSeq^[k] seq).val = (seq.val + k) % 8 := by
  induction k generalizing seq with
  | zero => exact (Nat.mod_eq_of_lt seq.isLt).symm
  | succ k ih =>
    rw [Function.iterate_succ_apply, ih, nextSeq]
    dsimp only
    omega

lemma Starts.outstanding (h : Starts state kept sdus state') :
    outstanding state'.pendingRetries =
      outstanding kept ++ (List.range sdus.length).map fun k => nextSeq^[k] state.forwardMsgSeqAck := by
  have hn : ∀ (sdus : List DeferredSend) seq (es : List PendingRetry),
      List.Forall₂ IsEntryOf (numbered seq sdus) es →
      TrafficLac.outstanding es = (List.range sdus.length).map fun k => nextSeq^[k] seq := by
    intro sdus
    induction sdus with
    | nil =>
      intro seq es he
      cases he
      rfl
    | cons _ sdus ih =>
      rintro seq (_ | ⟨entry, es⟩) (_ | ⟨⟨now, rfl⟩, he⟩)
      rw [length_cons, range_succ_eq_map, map_cons, map_map]
      exact congrArg (seq :: ·) (ih _ _ he)
  obtain ⟨es, he, hp⟩ := h.pending
  grind [TrafficLac.outstanding]

lemma outstanding_kept_sublist (state : TrafficChannelArqState) (c : Call) :
    (outstanding (c.kept state)).Sublist (outstanding state.pendingRetries) := by
  have h := (identity_kept_sublist state c).map fun identity => identity.2.1
  rwa [map_map, map_map] at h

/-! ### When the numbers stay in the window -/

lemma numberFree_iff (ha : ∀ seq ∈ outstanding (c.kept state), age state.forwardMsgSeqAck seq < 4) :
    NumberFree state c ↔ ∀ seq ∈ outstanding (c.kept state),
      age state.forwardMsgSeqAck seq + (c.started state).length < 4 := by
  constructor
  · intro hf seq hseq
    by_contra hp
    have hage := ha seq hseq
    refine hf (3 - age state.forwardMsgSeqAck seq) (by omega) seq hseq ?_
    unfold age at hage ⊢
    omega
  · intro ha' k hk seq hseq
    have hage := ha' seq hseq
    unfold age at hage
    omega

/-- **One call.** The numbers stay in the window exactly if each number is assigned after the PDU four before it is gone. -/
theorem windowed_call_iff (hso : Sound state) (hw : Windowed state) (h : call state c = some (state', events)) :
    Windowed state' ↔ NumberFree state c := by
  obtain ⟨-, hn, ha⟩ := hw
  have hb := (hso.call h).bounded
  have hs := (call_starts hso.assured h).1
  have hsub := outstanding_kept_sublist state c
  have hke : ∀ seq ∈ outstanding (c.kept state), age state.forwardMsgSeqAck seq < 4 := fun seq hseq =>
    ha seq (hsub.subset hseq)
  have hl := hs.length
  have hc : state'.forwardMsgSeqAck.val = (state.forwardMsgSeqAck.val + (c.started state).length) % 8 := by
    rw [hs.counter, iterate_nextSeq]
  rw [numberFree_iff hke]
  unfold fdschMaxOutstanding at hb
  constructor
  · rintro ⟨-, -, ha'⟩ seq hseq
    -- one PDU stays, so at most three numbers were assigned
    have hage := ha' seq (by rw [hs.outstanding]; exact mem_append_left _ hseq)
    have hag := hke seq hseq
    unfold age at hage hag ⊢
    omega
  · intro hf
    refine ⟨hb, ?_, ?_⟩
    · rw [hs.outstanding, nodup_append]
      refine ⟨hn.sublist hsub, ?_, ?_⟩
      · -- the new numbers are consecutive
        refine List.Nodup.map_on ?_ nodup_range
        intro j hj k hk heq
        have hval := congrArg Fin.val heq
        rw [iterate_nextSeq, iterate_nextSeq] at hval
        have := mem_range.1 hj
        have := mem_range.1 hk
        omega
      · intro seq hseq new hnew heq
        obtain ⟨k, hk, rfl⟩ := mem_map.1 hnew
        have hval := congrArg Fin.val heq
        rw [iterate_nextSeq] at hval
        have hage := hf seq hseq
        have := mem_range.1 hk
        unfold age at hage
        omega
    · intro seq hseq
      rw [hs.outstanding] at hseq
      rcases mem_append.1 hseq with hseq | hseq
      · have hage := hf seq hseq
        have hag := hke seq hseq
        unfold age at hage hag ⊢
        omega
      · obtain ⟨k, hk, rfl⟩ := mem_map.1 hseq
        have := mem_range.1 hk
        unfold age
        rw [iterate_nextSeq]
        omega

/-! ### Acknowledgements -/

def TrafficLacEvent.delivered? : TrafficLacEvent → Option UInt32
  | .delivered correlationId => some correlationId
  | _ => none

lemma filterMap_delivered_framesReady (sdus : List (DeferredSend × Fin 8)) :
    (sdus.map fun sdu => framesReady (assuredFrames sdu)).filterMap delivered? = [] := by simp [delivered?]

lemma filterMap_delivered_delivered (es : List PendingRetry) :
    (es.map fun entry => delivered entry.correlationId).filterMap delivered? =
      es.map (·.correlationId) := by
  induction es with
  | nil => rfl
  | cons entry es ih => rw [map_cons, filterMap_cons, ih]; rfl

lemma delivered_onReverseAckSeq (hs : Sound state) (clock : ℕ → ℕ) (ackSeq : UInt8) :
    (state.onReverseAckSeq clock ackSeq).2.filterMap delivered? =
      (state.pendingRetries.filter (acked ackSeq)).map (·.correlationId) := by
  unfold onReverseAckSeq
  dsimp only
  split_ifs
  · exact filterMap_delivered_delivered _
  · rw [filterMap_append, filterMap_delivered_delivered, flushDeferred,
      (flushQueue_spec clock state.deferredSends hs.assured _).2.2.2, filterMap_delivered_framesReady, append_nil]

lemma Windowed.length_acked_le (h : Windowed state) (ackSeq : UInt8) :
    (state.pendingRetries.filter (acked ackSeq)).length ≤ 1 := by
  have hn : (outstanding (state.pendingRetries.filter (acked ackSeq))).Nodup := h.2.1.sublist (filter_sublist.map _)
  have hs : ∀ entry ∈ state.pendingRetries.filter (acked ackSeq), entry.msgSeq.val = ackSeq.toNat :=
    fun entry he => of_decide_eq_true (mem_filter.1 he).2
  revert hn hs
  generalize state.pendingRetries.filter (acked ackSeq) = acked
  intro hn hs
  rcases acked with _ | ⟨first, _ | ⟨second, rest⟩⟩ <;> grind [cases TrafficChannelArqState, outstanding]

/-- **The outstanding numbers.** In every run at most four PDUs are outstanding. Their numbers are different and among the
last four assigned in all states of a run exactly if no number is assigned in it while the PDU four before it is
outstanding. In such a state an acknowledgement retires at most one PDU, and reports at most one as delivered. -/
theorem outstanding_window {config : TrafficArqConfig} {log : List (Call × List TrafficLacEvent)}
    (hrun : Run (steps call) (new config) state log) :
    state.pendingRetries.length ≤ fdschMaxOutstanding ∧
    (Run (keeping (steps call) Windowed) (new config) state log ↔ Run (guarded call NumberFree) (new config) state log) ∧
    (Windowed state → ∀ clock ackSeq,
      state.pendingRetries.length ≤ (Call.kept state (.onReverseAckSeq clock ackSeq)).length + 1 ∧
      ((state.onReverseAckSeq clock ackSeq).2.filterMap TrafficLacEvent.delivered?).length ≤ 1) := by
  have hnew : Windowed (new config) := ⟨Nat.zero_le _, nodup_nil, fun _ h => absurd h not_mem_nil⟩
  have hs := sound_of_run hrun
  refine ⟨hs.bounded, ?_, fun hw clock ackSeq => ⟨?_, ?_⟩⟩
  · grind [Run.keeping_iff, windowed_call_iff, sound_of_run]
  · have hsp := length_eq_length_filter_add (l := state.pendingRetries) (acked ackSeq)
    have hle := hw.length_acked_le ackSeq
    rw [Call.kept]
    omega
  · rw [delivered_onReverseAckSeq hs, length_map]
    exact hw.length_acked_le ackSeq

def submitOrder (correlationId : UInt32) : Call := .submitL3Sdu 0 0x01 [1, 0, 1] 7 true correlationId

def acknowledge (ackSeq : UInt8) : Call := .onReverseAckSeq (fun _ => 0) ackSeq

/-- Acknowledged in order, the window moves on past the eighth number. -/
theorem outstanding_window_in_order :
    ∃ state log, Run (keeping (steps call) Windowed) (new {}) state log ∧
      (outstanding state.pendingRetries).map Fin.val = [5, 6, 7, 0] := by
  obtain ⟨state, log, hrun, hs⟩ := exists_run call NumberFree (new {})
    ((List.range 9).map (fun i => submitOrder (UInt32.ofNat i)) ++ (List.range 5).map fun i => acknowledge (UInt8.ofNat i))
    (fun state _ => (outstanding state.pendingRetries).map Fin.val = [5, 6, 7, 0]) (by decide +kernel)
  exact ⟨state, log, (outstanding_window (hrun.mono fun _ _ _ _ h => ⟨trivial, h.2⟩)).2.1.2 hrun, hs⟩

/-- The first PDU is not acknowledged while eight more are sent: it and the last one have number 0, and the
acknowledgement of the last one reports both as delivered. -/
theorem outstanding_twice :
    ∃ state log, Run (steps call) (new {}) state log ∧ (outstanding state.pendingRetries).map Fin.val = [0, 7, 0] ∧
      ((state.onReverseAckSeq (fun _ => 0) 0).2.filterMap TrafficLacEvent.delivered?) = [0, 8] :=
  exists_run call (fun _ _ => True) (new {})
    ([0, 1, 2, 3].map submitOrder ++ [1, 2, 3].map acknowledge ++ [4, 5, 6].map submitOrder ++ [4, 5, 6].map acknowledge ++
      [7, 8].map submitOrder)
    (fun state _ => (outstanding state.pendingRetries).map Fin.val = [0, 7, 0] ∧
      ((state.onReverseAckSeq (fun _ => 0) 0).2.filterMap TrafficLacEvent.delivered?) = [0, 8]) (by decide +kernel)

end OneXBts.Bts.TrafficLac
